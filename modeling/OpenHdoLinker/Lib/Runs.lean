import Mathlib.Data.List.Basic

/-!
# Runs of a labelled machine

A machine is a function `step : σ → α → Option σ`: the state after an event, or
`none` when the event cannot happen there.  Nondeterminism (the network, the
scheduler, a device) is the choice of the events, so a run is a list of events.

* `run step s as`: the state after the events `as`.
* `Always step P s as`: `P` holds in every state the run visits.
* `Meets step C s as`: every step the run takes meets the condition `C`.

`always_of_inv` and `always_of_inv_meets` are the induction rules for invariants;
`always_iff_meets` is the rule for a property that fails exactly at the steps that miss a
condition.  `Path.simulate` is the rule for a machine that is followed by a simpler one.
-/

namespace Runs

variable {σ α : Type*} (step : σ → α → Option σ)

def run : σ → List α → Option σ
  | s, [] => some s
  | s, a :: as =>
    match step s a with
    | none => none
    | some s' => run s' as

/-- `P` holds in every state visited, the first one included. -/
def Always (P : σ → Prop) : σ → List α → Prop
  | s, [] => P s
  | s, a :: as => P s ∧ ∀ s', step s a = some s' → Always P s' as

/-- Every step taken meets `C`, a condition on the state before it and its event. -/
def Meets (C : σ → α → Prop) : σ → List α → Prop
  | _, [] => True
  | s, a :: as => ∀ s', step s a = some s' → C s a ∧ Meets C s' as

variable {step}

@[simp] theorem run_nil (s : σ) : run step s [] = some s := rfl

theorem run_cons (s : σ) (a : α) (as : List α) :
    run step s (a :: as) = (step s a).bind fun s' => run step s' as := by
  rw [run]
  cases step s a <;> rfl

theorem run_cons_some {s s' : σ} {a : α} {as : List α} (h : run step s (a :: as) = some s') :
    ∃ t, step s a = some t ∧ run step t as = some s' := by
  rw [run_cons] at h
  exact Option.bind_eq_some_iff.mp h

theorem run_append {s s' : σ} {as bs : List α} (h : run step s as = some s') :
    run step s (as ++ bs) = run step s' bs := by
  induction as generalizing s with
  | nil => cases h; rfl
  | cons a as ih =>
    obtain ⟨t, ht, hr⟩ := run_cons_some h
    rw [List.cons_append, run_cons, ht]
    exact ih hr

/-- A run in two parts has a state between them. -/
theorem run_append_some {s s' : σ} {as bs : List α} (h : run step s (as ++ bs) = some s') :
    ∃ t, run step s as = some t ∧ run step t bs = some s' := by
  induction as generalizing s with
  | nil => exact ⟨s, rfl, h⟩
  | cons a as ih =>
    obtain ⟨u, hu, hr⟩ := run_cons_some h
    obtain ⟨t, ht, hbs⟩ := ih hr
    exact ⟨t, by rw [run_cons, hu]; exact ht, hbs⟩

theorem meets_cons {C : σ → α → Prop} {s t : σ} {a : α} {as : List α} (hs : step s a = some t)
    (hc : C s a) (h : Meets step C t as) : Meets step C s (a :: as) := by
  intro u hu
  cases hs.symm.trans hu
  exact ⟨hc, h⟩

/-- A condition that another one gives at the events of the run. -/
theorem Meets.imp {C D : σ → α → Prop} {as : List α} {s : σ} (h : Meets step C s as)
    (himp : ∀ a ∈ as, ∀ s, C s a → D s a) : Meets step D s as := by
  induction as generalizing s with
  | nil => trivial
  | cons a as ih =>
    intro t ht
    obtain ⟨hc, hrest⟩ := h t ht
    exact ⟨himp a List.mem_cons_self s hc, ih hrest fun b hb => himp b (List.mem_cons_of_mem _ hb)⟩

theorem meets_true (as : List α) (s : σ) : Meets step (fun _ _ => True) s as := by
  induction as generalizing s with
  | nil => trivial
  | cons a as ih => exact fun t _ => ⟨trivial, ih t⟩

/-- A condition on the events alone. -/
theorem meets_of_forall {C : σ → α → Prop} {as : List α} (h : ∀ a ∈ as, ∀ s, C s a) (s : σ) :
    Meets step C s as :=
  (meets_true as s).imp fun a ha s _ => h a ha s

theorem meets_cons_iff {C : σ → α → Prop} {s t : σ} {a : α} {as : List α} (hs : step s a = some t) :
    C s a ∧ Meets step C t as ↔ Meets step C s (a :: as) :=
  ⟨fun h => meets_cons hs h.1 h.2, fun h => h t hs⟩

theorem meets_cons_none {C : σ → α → Prop} {s : σ} {a : α} {as : List α} (hs : step s a = none) :
    Meets step C s (a :: as) := by
  intro t ht
  cases hs.symm.trans ht

/-- Whether a run meets a condition can be computed where the condition can. -/
instance decidableMeets {C : σ → α → Prop} [∀ s a, Decidable (C s a)] :
    ∀ s as, Decidable (Meets step C s as)
  | _, [] => isTrue trivial
  | s, a :: as =>
    match hs : step s a with
    | none => isTrue (meets_cons_none hs)
    | some t => @decidable_of_iff _ _ (meets_cons_iff hs) (@instDecidableAnd _ _ _ (decidableMeets t as))

/-- An invariant that gives `P` gives it along every run. -/
theorem always_of_inv {I P : σ → Prop} (hI : ∀ s a s', I s → step s a = some s' → I s')
    (hP : ∀ s, I s → P s) {s : σ} (as : List α) (h0 : I s) : Always step P s as := by
  induction as generalizing s with
  | nil => exact hP s h0
  | cons a as ih => exact ⟨hP s h0, fun s' hs => ih (hI s a s' h0 hs)⟩

/-- What the steps that meet `C` preserve, and gives `P`, gives it along every run that meets `C`. -/
theorem always_of_inv_meets {I P : σ → Prop} {C : σ → α → Prop}
    (hI : ∀ s a s', I s → C s a → step s a = some s' → I s') (hP : ∀ s, I s → P s) {s : σ}
    (as : List α) (h0 : I s) (hC : Meets step C s as) : Always step P s as := by
  induction as generalizing s with
  | nil => exact hP s h0
  | cons a as ih =>
    refine ⟨hP s h0, fun t ht => ?_⟩
    obtain ⟨hc, hrest⟩ := hC t ht
    exact ih (hI s a t h0 hc ht) hrest

/-- A run ends in a state it visits. -/
theorem always_run {P : σ → Prop} {s s' : σ} {as : List α} (h : Always step P s as)
    (hr : run step s as = some s') : P s' := by
  induction as generalizing s with
  | nil => cases hr; exact h
  | cons a as ih =>
    obtain ⟨t, ht, hr'⟩ := run_cons_some hr
    exact ih (h.2 t ht) hr'

/-- **Exactness rule.**  Along the events of `E`, `I` is kept by the steps that meet `C` and gives
`P`; a step that misses `C` leads to a state without `P`.  Then `P` holds along a run of such
events exactly when all its steps meet `C`. -/
theorem always_iff_meets_of {I P : σ → Prop} {C : σ → α → Prop} {E : α → Prop}
    (hI : ∀ s a s', I s → E a → C s a → step s a = some s' → I s') (hP : ∀ s, I s → P s)
    (hbad : ∀ s a s', I s → E a → step s a = some s' → P s' → C s a)
    {s : σ} (as : List α) (hE : ∀ a ∈ as, E a) (h0 : I s) :
    Always step P s as ↔ Meets step C s as := by
  induction as generalizing s with
  | nil => exact ⟨fun _ => trivial, fun _ => hP s h0⟩
  | cons a as ih =>
    obtain ⟨hEa, hEas⟩ := List.forall_mem_cons.mp hE
    constructor
    · rintro ⟨-, h⟩ t ht
      have hPt : P t := by
        cases as with
        | nil => exact h t ht
        | cons b bs => exact (h t ht).1
      have hc := hbad s a t h0 hEa ht hPt
      exact ⟨hc, (ih hEas (hI s a t h0 hEa hc ht)).mp (h t ht)⟩
    · intro h
      refine ⟨hP s h0, fun t ht => ?_⟩
      obtain ⟨hc, hrest⟩ := h t ht
      exact (ih hEas (hI s a t h0 hEa hc ht)).mpr hrest

/-- The exactness rule for all events. -/
theorem always_iff_meets {I P : σ → Prop} {C : σ → α → Prop}
    (hI : ∀ s a s', I s → C s a → step s a = some s' → I s') (hP : ∀ s, I s → P s)
    (hbad : ∀ s a s', I s → step s a = some s' → P s' → C s a)
    {s : σ} (as : List α) (h0 : I s) : Always step P s as ↔ Meets step C s as :=
  always_iff_meets_of (E := fun _ => True) (fun s a s' h _ => hI s a s' h) hP
    (fun s a s' h _ => hbad s a s' h) as (fun _ _ => trivial) h0

/-! ## Simulation -/

section Simulation

variable {σ τ ι : Type*}

/-- A run of a labelled relation: the labels of its steps. -/
inductive Path (step : σ → ι → σ → Prop) : σ → List ι → σ → Prop
  | nil (s : σ) : Path step s [] s
  | cons {s t u : σ} {e : ι} {es : List ι} (h : step s e t) (hrest : Path step t es u) :
      Path step s (e :: es) u

/-- From related states every step is followed by one with the same label, to related states. -/
def Simulates (R : σ → τ → Prop) (step : σ → ι → σ → Prop) (spec : τ → ι → τ → Prop) : Prop :=
  ∀ s x e t, R s x → step s e t → ∃ y, spec x e y ∧ R t y

/-- What is simulated step by step is simulated over whole runs. -/
theorem Path.simulate {R : σ → τ → Prop} {step : σ → ι → σ → Prop} {spec : τ → ι → τ → Prop}
    (hsim : Simulates R step spec) {s t : σ} {es : List ι} (h : Path step s es t) {x : τ}
    (hR : R s x) : ∃ y, Path spec x es y ∧ R t y := by
  induction h generalizing x with
  | nil s => exact ⟨x, .nil x, hR⟩
  | cons hstep _ ih =>
    obtain ⟨y, hspec, hy⟩ := hsim _ x _ _ hR hstep
    obtain ⟨z, hrest, hz⟩ := ih hy
    exact ⟨z, .cons hspec hrest, hz⟩

end Simulation

end Runs
