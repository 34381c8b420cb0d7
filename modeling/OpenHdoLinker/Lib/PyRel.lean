import Mathlib.Data.List.Forall2
import OpenHdoLinker.Lib.PyExc

/-!
# Two computations side by side

A property of two runs (that a secret does not show, that two versions answer alike)
relates two computations on states of their own.

* `Alike V E r q`: both outcomes are values related by `V`, or both raise, related by `E`.
* `MatchAt S V E m n s t`: from `s` and `t`, `m` and `n` end alike and in states related by `S`.
* `Match S V E m n`: so from any two states related by `S`.

There is one rule for each combinator.  The rules that start from `MatchAt` serve an
operation that is only known to behave alike at the two states at hand
(MatchAt.bind, MatchAt.tryExcept).
-/

namespace Py

variable {σ τ α β α' β' : Type}

/-! ## Definitions -/

inductive Alike (V : α → β → Prop) (E : PyErr → PyErr → Prop) :
    Except PyErr α → Except PyErr β → Prop
  | ok {a : α} {b : β} (h : V a b) : Alike V E (.ok a) (.ok b)
  | error {e f : PyErr} (h : E e f) : Alike V E (.error e) (.error f)

def MatchAt (S : σ → τ → Prop) (V : α → β → Prop) (E : PyErr → PyErr → Prop) (m : PyM σ α)
    (n : PyM τ β) (s : σ) (t : τ) : Prop :=
  Alike V E (m s).1 (n t).1 ∧ S (m s).2 (n t).2

def Match (S : σ → τ → Prop) (V : α → β → Prop) (E : PyErr → PyErr → Prop) (m : PyM σ α)
    (n : PyM τ β) : Prop :=
  ∀ s t, S s t → MatchAt S V E m n s t

/-! ## Rules -/

variable {S : σ → τ → Prop} {V : α → β → Prop} {W : α' → β' → Prop} {E F : PyErr → PyErr → Prop}
variable {m : PyM σ α} {n : PyM τ β} {s : σ} {t : τ}

/-- One outcome is like itself where the relations are reflexive. -/
theorem alike_refl {V : α → α → Prop} (r : Except PyErr α) (hV : ∀ a, r = .ok a → V a a)
    (hE : ∀ e, r = .error e → E e e) : Alike V E r r := by
  cases r with
  | ok a => exact .ok (hV a rfl)
  | error e => exact .error (hE e rfl)

theorem Alike.eq {r q : Except PyErr α} (h : Alike Eq Eq r q) : r = q := by
  cases h with
  | ok h => rw [h]
  | error h => rw [h]

/-- Equal outcomes. -/
theorem alike_of_eq {r q : Except PyErr α} (h : r = q) : Alike Eq Eq r q :=
  h ▸ alike_refl r (fun _ _ => rfl) fun _ _ => rfl

theorem match_get : Match S S E PyM.get PyM.get := fun _ _ hs => ⟨.ok hs, hs⟩

theorem match_pure {a : α} {b : β} (h : V a b) : Match S V E (pure a) (pure b) :=
  fun _ _ hs => ⟨.ok h, hs⟩

theorem match_raise {e f : PyErr} (h : E e f) :
    Match S V E (PyM.raise e : PyM σ α) (PyM.raise f : PyM τ β) :=
  fun _ _ hs => ⟨.error h, hs⟩

theorem match_outcome {r : Except PyErr α} {q : Except PyErr β} (h : Alike V E r q) :
    Match S V E (PyM.outcome r : PyM σ α) (PyM.outcome q : PyM τ β) :=
  fun _ _ hs => ⟨h, hs⟩

theorem match_modify {f : σ → σ} {g : τ → τ} (h : ∀ s t, S s t → S (f s) (g t)) :
    Match S (fun _ _ => True) E (PyM.modify f) (PyM.modify g) :=
  fun s t hs => ⟨.ok trivial, h s t hs⟩

theorem MatchAt.bind {f : α → PyM σ α'} {g : β → PyM τ β'} (h : MatchAt S V E m n s t)
    (hfg : ∀ a b, V a b → Match S W E (f a) (g b)) : MatchAt S W E (m >>= f) (n >>= g) s t := by
  obtain ⟨halike, hstate⟩ := h
  unfold MatchAt
  rw [PyM.bind_apply, PyM.bind_apply]
  cases hm : m s with
  | mk r s' =>
    cases hn : n t with
    | mk q t' =>
      rw [hm, hn] at halike hstate
      cases halike with
      | ok hv => exact hfg _ _ hv s' t' hstate
      | error he => exact ⟨.error he, hstate⟩

theorem match_bind {f : α → PyM σ α'} {g : β → PyM τ β'} (h : Match S V E m n)
    (hfg : ∀ a b, V a b → Match S W E (f a) (g b)) : Match S W E (m >>= f) (n >>= g) :=
  fun s t hs => (h s t hs).bind hfg

theorem MatchAt.map {f : α → α'} {g : β → β'} (h : MatchAt S V E m n s t)
    (hfg : ∀ a b, V a b → W (f a) (g b)) : MatchAt S W E (f <$> m) (g <$> n) s t :=
  h.bind fun a b hv => match_pure (hfg a b hv)

theorem match_map {f : α → α'} {g : β → β'} (h : Match S V E m n)
    (hfg : ∀ a b, V a b → W (f a) (g b)) : Match S W E (f <$> m) (g <$> n) :=
  fun s t hs => (h s t hs).map hfg

theorem MatchAt.tryExcept {hm : PyErr → PyM σ α} {hn : PyErr → PyM τ β} (h : MatchAt S V F m n s t)
    (hh : ∀ e f, F e f → Match S V E (hm e) (hn f)) :
    MatchAt S V E (PyM.tryExcept m hm) (PyM.tryExcept n hn) s t := by
  obtain ⟨halike, hstate⟩ := h
  unfold MatchAt PyM.tryExcept
  cases hms : m s with
  | mk r s' =>
    cases hnt : n t with
    | mk q t' =>
      rw [hms, hnt] at halike hstate
      cases halike with
      | ok hv => exact ⟨.ok hv, hstate⟩
      | error he => exact hh _ _ he s' t' hstate

theorem match_tryExcept {hm : PyErr → PyM σ α} {hn : PyErr → PyM τ β} (h : Match S V F m n)
    (hh : ∀ e f, F e f → Match S V E (hm e) (hn f)) :
    Match S V E (PyM.tryExcept m hm) (PyM.tryExcept n hn) :=
  fun s t hs => (h s t hs).tryExcept hh

/-- The same list gone through twice. -/
theorem match_mapM {γ : Type} (l : List γ) {f : γ → PyM σ α} {g : γ → PyM τ β}
    (h : ∀ c ∈ l, Match S V E (f c) (g c)) :
    Match S (List.Forall₂ V) E (l.mapM f) (l.mapM g) := by
  induction l with
  | nil => exact match_pure .nil
  | cons c l ih =>
    rw [List.mapM_cons, List.mapM_cons]
    refine match_bind (h c List.mem_cons_self) fun a b hv => ?_
    refine match_bind (ih fun d hd => h d (List.mem_cons_of_mem _ hd)) fun as bs hvs => ?_
    exact match_pure (.cons hv hvs)

/-- A computation on a part of each state. -/
theorem matchAt_zoom {κ lam : Type} {part : σ → κ} {put : κ → σ → σ} {part' : τ → lam}
    {put' : lam → τ → τ} {m : PyM κ α} {n : PyM lam β}
    (h : Alike V E (m (part s)).1 (n (part' t)).1)
    (hput : S (put (m (part s)).2 s) (put' (n (part' t)).2 t)) :
    MatchAt S V E (PyM.zoom part put m) (PyM.zoom part' put' n) s t :=
  ⟨h, hput⟩

end Py
