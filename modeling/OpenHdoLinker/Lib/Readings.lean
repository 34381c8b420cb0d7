import OpenHdoLinker.Lib.PyExc

/-!
# Readings in order

A function that reads its inputs one after another stops at the first that fails.
Which kind of exception it raises then depends on what comes first: an input that
makes a reader raise outside the expected exceptions does no harm behind one that
fails as expected.  `Follows P m l` says that `m` makes the readings of `l` in
their order.

    Follows P m l → (Raises P m ↔ Orderly l)             (Follows.raises)
    Follows P m l₁ → (∀ a, m = .ok a → Follows P (f a) l₂) →
      Follows P (m >>= f) (l₁ ++ l₂)                     (Follows.bind)
-/

namespace Py

/-- One reading or check: its input raises outside the expected exceptions, or gives a value. -/
structure Reading where
  hostile : Prop
  passes : Prop

/-- A check that fails only as expected. -/
def Reading.check (p : Prop) : Reading := ⟨False, p⟩

/-- No reading is hostile up to and including the first that does not pass. -/
def Orderly : List Reading → Prop
  | [] => True
  | r :: l => ¬ r.hostile ∧ (r.passes → Orderly l)

/-- `m` makes the readings of `l` in order, and raises outside `P` at a hostile one. -/
structure Follows {α : Type} (P : PyErr → Prop) (m : Except PyErr α) (l : List Reading) : Prop where
  raises : Raises P m ↔ Orderly l
  ok : (∃ a, m = .ok a) ↔ ∀ r ∈ l, r.passes

theorem orderly_append (l₁ l₂ : List Reading) :
    Orderly (l₁ ++ l₂) ↔ Orderly l₁ ∧ ((∀ r ∈ l₁, r.passes) → Orderly l₂) := by
  induction l₁ with
  | nil => simp [Orderly]
  | cons r l ih =>
    simp only [List.cons_append, Orderly, ih, List.forall_mem_cons, imp_and, and_imp, and_assoc]

section Follows

variable {α β : Type} {P : PyErr → Prop} {m : Except PyErr α} {f : α → Except PyErr β}
  {r : Reading} {l l₁ l₂ : List Reading}

theorem follows_ok (a : α) : Follows P (.ok a) [] :=
  ⟨iff_of_true (raises_ok a) trivial, iff_of_true ⟨a, rfl⟩ nofun⟩

theorem follows_one (hraises : Raises P m ↔ ¬ r.hostile) (hok : (∃ a, m = .ok a) ↔ r.passes) :
    Follows P m [r] := by
  refine ⟨?_, by simpa using hok⟩
  simpa [Orderly] using hraises

/-- A call that raises only as expected is a check. -/
theorem follows_check {p : Prop} (hraises : Raises P m) (hok : (∃ a, m = .ok a) ↔ p) :
    Follows P m [.check p] := follows_one (iff_of_true hraises not_false) hok

/-- The exceptions and the success of a call that is mapped are its own. -/
theorem Follows.map {g : α → β} (hm : Follows P m l) : Follows P (g <$> m) l := by
  refine ⟨(raises_map_iff g m).trans hm.raises, ?_⟩
  rw [← hm.ok]
  cases m with
  | ok a => exact iff_of_true ⟨g a, rfl⟩ ⟨a, rfl⟩
  | error e => exact iff_of_false nofun nofun

/-- What raises after `m`, and when. -/
theorem Follows.raises_bind (hm : Follows P m l₁)
    (hf : ∀ a, m = .ok a → (Raises P (f a) ↔ Orderly l₂)) :
    Raises P (m >>= f) ↔ Orderly (l₁ ++ l₂) := by
  rw [orderly_append, ← hm.raises, ← hm.ok]
  constructor
  · intro h
    refine ⟨h.of_bind, ?_⟩
    rintro ⟨a, ha⟩
    exact (hf a ha).mp (h.of_bind_ok ha)
  · rintro ⟨hraises, hrest⟩
    exact Py.raises_bind hraises fun a ha => (hf a ha).mpr (hrest ⟨a, ha⟩)

/-- Nothing is read after `m`. -/
theorem Follows.raises_then (hm : Follows P m l) (hf : ∀ a, Raises P (f a)) :
    Raises P (m >>= f) ↔ Orderly l := by
  have hend : ∀ a, m = .ok a → (Raises P (f a) ↔ Orderly []) := fun a _ => iff_of_true (hf a) trivial
  have h := hm.raises_bind hend
  rwa [List.append_nil] at h

theorem Follows.bind (hm : Follows P m l₁) (hf : ∀ a, m = .ok a → Follows P (f a) l₂) :
    Follows P (m >>= f) (l₁ ++ l₂) := by
  refine ⟨hm.raises_bind fun a ha => (hf a ha).raises, ?_⟩
  rw [List.forall_mem_append, ← hm.ok]
  constructor
  · rintro ⟨b, hb⟩
    obtain ⟨a, ha, hfa⟩ := bind_eq_ok hb
    exact ⟨⟨a, ha⟩, (hf a ha).ok.mp ⟨b, hfa⟩⟩
  · rintro ⟨⟨a, ha⟩, hrest⟩
    obtain ⟨b, hb⟩ := (hf a ha).ok.mpr hrest
    refine ⟨b, ?_⟩
    rw [ha]
    exact hb

theorem Follows.cons (hm : Follows P m [r]) (hf : ∀ a, m = .ok a → Follows P (f a) l) :
    Follows P (m >>= f) (r :: l) := hm.bind hf

/-- A last step that gives its value is no reading. -/
theorem Follows.last (hm : Follows P m l) (g : α → β) :
    Follows P (m >>= fun a => .ok (g a)) l := by
  have h := hm.bind fun a _ => follows_ok (P := P) (g a)
  rwa [List.append_nil] at h

/-- A check that passes leaves the rest. -/
theorem Follows.pass {p : Prop} (hp : p) (hm : Follows P m l) : Follows P m (.check p :: l) := by
  refine ⟨?_, ?_⟩
  · rw [hm.raises]
    exact ⟨fun h => ⟨not_false, fun _ => h⟩, fun h => h.2 hp⟩
  · rw [hm.ok, List.forall_mem_cons]
    exact ⟨fun h => ⟨hp, h⟩, fun h => h.2⟩

/-- A check that does not pass ends the call. -/
theorem follows_stop {p : Prop} {e : PyErr} (hp : ¬ p) (he : P e) :
    Follows P (.error e : Except PyErr α) (.check p :: l) := by
  refine ⟨iff_of_true (raises_error he) ⟨not_false, fun h => absurd h hp⟩, ?_⟩
  refine iff_of_false nofun ?_
  intro h
  exact hp (h _ List.mem_cons_self)

/-- A check and what follows it. -/
theorem follows_dite {p q : Prop} [Decidable p] {next : p → Except PyErr α} {e : PyErr} (hq : q ↔ p)
    (he : P e) (hnext : ∀ h, Follows P (next h) l) :
    Follows P (if h : p then next h else .error e) (.check q :: l) := by
  by_cases h : p
  · rw [dif_pos h]
    exact (hnext h).pass (hq.mpr h)
  · rw [dif_neg h]
    exact follows_stop (fun hp => h (hq.mp hp)) he

end Follows

end Py
