import Mathlib.Data.List.Nodup
import Mathlib.Data.List.Induction
import Mathlib.Order.Lattice

/-!
# Python dictionaries

`Dict κ ν`: items in insertion order, each key once.  Assignment to a present key
keeps its place and replaces its value, to an absent one appends.  `foldl_set` is
the rule for a dictionary filled in a loop: a key's value is the last one
assigned to it.
-/

namespace Py

structure Dict (κ ν : Type) where
  items : List (κ × ν)
  nodup : (items.map Prod.fst).Nodup

namespace Dict

variable {κ ν : Type} [DecidableEq κ]

def empty : Dict κ ν := ⟨[], List.nodup_nil⟩

/-- `d.get(k)`. -/
def get? (d : Dict κ ν) (k : κ) : Option ν := d.items.lookup k

def setItems (k : κ) (v : ν) : List (κ × ν) → List (κ × ν)
  | [] => [(k, v)]
  | (k', v') :: l => if k' = k then (k, v) :: l else (k', v') :: setItems k v l

theorem mem_keys_setItems (k : κ) (v : ν) (l : List (κ × ν)) (x : κ) :
    x ∈ (setItems k v l).map Prod.fst ↔ x = k ∨ x ∈ l.map Prod.fst := by
  induction l with
  | nil => simp [setItems]
  | cons p l ih =>
    obtain ⟨k', v'⟩ := p
    unfold setItems
    split
    · next h => subst h; simp
    · next h =>
      simp only [List.map_cons, List.mem_cons, ih]
      constructor
      · rintro (h1 | h1 | h1)
        · exact Or.inr (Or.inl h1)
        · exact Or.inl h1
        · exact Or.inr (Or.inr h1)
      · rintro (h1 | h1 | h1)
        · exact Or.inr (Or.inl h1)
        · exact Or.inl h1
        · exact Or.inr (Or.inr h1)

theorem nodup_setItems (k : κ) (v : ν) (l : List (κ × ν)) (h : (l.map Prod.fst).Nodup) :
    ((setItems k v l).map Prod.fst).Nodup := by
  induction l with
  | nil => simp [setItems]
  | cons p l ih =>
    obtain ⟨k', v'⟩ := p
    rw [List.map_cons, List.nodup_cons] at h
    unfold setItems
    split
    · next hk => subst hk; simpa using h
    · next hk =>
      rw [List.map_cons, List.nodup_cons]
      refine ⟨?_, ih h.2⟩
      rw [mem_keys_setItems]
      rintro (h1 | h1)
      · exact hk h1
      · exact h.1 h1

/-- `d[k] = v`. -/
def set (d : Dict κ ν) (k : κ) (v : ν) : Dict κ ν := ⟨setItems k v d.items, nodup_setItems k v _ d.nodup⟩

/-- `d.pop(k, None)`, without the value. -/
def erase (d : Dict κ ν) (k : κ) : Dict κ ν :=
  ⟨d.items.filter (fun p => p.1 ≠ k), (List.filter_sublist.map Prod.fst).nodup d.nodup⟩

/-- `d.setdefault(k, v)`. -/
def setDefault (d : Dict κ ν) (k : κ) (v : ν) : Dict κ ν := if (d.get? k).isSome then d else d.set k v

@[simp] theorem get?_empty (k : κ) : (empty : Dict κ ν).get? k = none := rfl

theorem lookup_setItems (k k' : κ) (v : ν) (l : List (κ × ν)) :
    (setItems k v l).lookup k' = if k' = k then some v else l.lookup k' := by
  induction l with
  | nil =>
    by_cases h : k' = k
    · simp [setItems, h]
    · simp [setItems, List.lookup_cons, beq_false_of_ne h, h]
  | cons p l ih =>
    obtain ⟨a, b⟩ := p
    unfold setItems
    by_cases ha : a = k
    · subst ha
      by_cases h : k' = a
      · simp [h]
      · simp [List.lookup_cons, beq_false_of_ne h, h]
    · rw [if_neg ha, List.lookup_cons, ih, List.lookup_cons]
      by_cases h : k' = a
      · subst h; simp [ha]
      · simp [beq_false_of_ne h]

theorem get?_set (d : Dict κ ν) (k k' : κ) (v : ν) :
    (d.set k v).get? k' = if k' = k then some v else d.get? k' := lookup_setItems k k' v d.items

@[simp] theorem get?_set_self (d : Dict κ ν) (k : κ) (v : ν) : (d.set k v).get? k = some v := by
  rw [get?_set, if_pos rfl]

/-- Of the items whose keys are kept, a kept key has the value it had. -/
theorem lookup_filter (keep : κ → Bool) (k : κ) (l : List (κ × ν)) :
    (l.filter fun p => keep p.1).lookup k = if keep k then l.lookup k else none := by
  induction l with
  | nil => exact (ite_self none).symm
  | cons p l ih =>
    obtain ⟨a, b⟩ := p
    by_cases ha : keep a = true
    · rw [List.filter_cons_of_pos (p := fun p : κ × ν => keep p.1) ha, List.lookup_cons,
        List.lookup_cons, ih]
      by_cases h : k = a
      · subst h; simp [ha]
      · simp [beq_false_of_ne h]
    · rw [List.filter_cons_of_neg (p := fun p : κ × ν => keep p.1) ha, List.lookup_cons, ih]
      by_cases h : k = a
      · subst h; simp [ha]
      · simp [beq_false_of_ne h]

theorem get?_erase (d : Dict κ ν) (k k' : κ) :
    (d.erase k).get? k' = if k' = k then none else d.get? k' := by
  refine (lookup_filter (fun x => decide (x ≠ k)) k' d.items).trans ?_
  by_cases h : k' = k
  · rw [if_neg (by simp [h]), if_pos h]
  · rw [if_pos (decide_eq_true h), if_neg h]
    rfl

theorem get?_setDefault (d : Dict κ ν) (k k' : κ) (v : ν) :
    (d.setDefault k v).get? k' = if k' = k then some ((d.get? k).getD v) else d.get? k' := by
  unfold setDefault
  cases h : d.get? k with
  | none => simp [get?_set]
  | some w =>
    simp only [Option.isSome_some, if_true, Option.getD_some]
    by_cases hk : k' = k
    · subst hk; simp [h]
    · simp [hk]

/-- `setdefault` keeps what is stored. -/
theorem get?_setDefault_of_some {d : Dict κ ν} {k k' : κ} {v w : ν} (h : d.get? k' = some w) :
    (d.setDefault k v).get? k' = some w := by
  rw [get?_setDefault]
  by_cases hk : k' = k
  · rw [if_pos hk, ← hk, h]
    rfl
  · rw [if_neg hk]
    exact h

/-! ## Filling a dictionary in a loop -/

/-- The last value assigned to `k` by a list of assignments. -/
def lastOf (k : κ) (l : List (κ × ν)) : Option ν := (l.filter (fun p => p.1 = k)).getLast?.map Prod.snd

theorem lastOf_append_single (k : κ) (l : List (κ × ν)) (p : κ × ν) :
    lastOf k (l ++ [p]) = if p.1 = k then some p.2 else lastOf k l := by
  unfold lastOf
  by_cases h : p.1 = k <;> simp [List.filter_append, h]

def setAll (d : Dict κ ν) (l : List (κ × ν)) : Dict κ ν := l.foldl (fun d p => d.set p.1 p.2) d

/-- **Last assignment wins.** -/
theorem get?_setAll (l : List (κ × ν)) (k : κ) :
    (setAll (empty : Dict κ ν) l).get? k = lastOf k l := by
  induction l using List.reverseRecOn with
  | nil => rfl
  | append_singleton l p ih =>
    rw [lastOf_append_single]
    unfold setAll at ih ⊢
    rw [List.foldl_append, List.foldl_cons, List.foldl_nil, get?_set, ih]
    by_cases h : p.1 = k
    · rw [if_pos h.symm, if_pos h]
    · rw [if_neg (fun e => h e.symm), if_neg h]

theorem setAll_cons (d : Dict κ ν) (p : κ × ν) (l : List (κ × ν)) :
    d.setAll (p :: l) = (d.set p.1 p.2).setAll l := rfl

theorem lookup_none_of_not_mem {l : List (κ × ν)} {k : κ} (h : k ∉ l.map Prod.fst) :
    l.lookup k = none := by
  rw [List.lookup_eq_none_iff]
  intro p hp
  have hne : k ≠ p.1 := fun he => h (List.mem_map.mpr ⟨p, hp, he.symm⟩)
  simpa using hne

theorem lookup_isSome_iff (l : List (κ × ν)) (k : κ) :
    (l.lookup k).isSome = true ↔ k ∈ l.map Prod.fst := by
  constructor
  · intro h
    by_contra hk
    rw [lookup_none_of_not_mem hk] at h
    cases h
  · intro h
    obtain ⟨p, hp, rfl⟩ := List.mem_map.mp h
    rw [← Option.not_isNone, Bool.not_eq_true', Option.isNone_eq_false_iff, ← Option.ne_none_iff_isSome]
    intro hnone
    have hne := List.lookup_eq_none_iff.mp hnone p hp
    simp at hne

/-- Assignments to different keys replace the values of these keys and no others. -/
theorem get?_setAll_nodup (d : Dict κ ν) {l : List (κ × ν)} (hl : (l.map Prod.fst).Nodup) (k : κ) :
    (d.setAll l).get? k = (l.lookup k).or (d.get? k) := by
  induction l generalizing d with
  | nil => rfl
  | cons p l ih =>
    obtain ⟨a, b⟩ := p
    rw [List.map_cons, List.nodup_cons] at hl
    rw [setAll_cons, ih _ hl.2, get?_set, List.lookup_cons]
    by_cases h : k = a
    · subst h
      rw [lookup_none_of_not_mem hl.1, if_pos rfl, beq_self_eq_true]
      rfl
    · rw [if_neg h, beq_false_of_ne h]

/-- What is found after a series of assignments was assigned or there before. -/
theorem mem_of_get?_setAll {l : List (κ × ν)} {d : Dict κ ν} {k : κ} {v : ν}
    (h : (d.setAll l).get? k = some v) : (k, v) ∈ l ∨ d.get? k = some v := by
  induction l generalizing d with
  | nil => exact .inr h
  | cons p l ih =>
    rw [setAll_cons] at h
    rcases ih h with hmem | hset
    · exact .inl (List.mem_cons_of_mem _ hmem)
    · rw [get?_set] at hset
      split at hset
      · next hk =>
        cases hset
        exact .inl (hk ▸ List.mem_cons_self)
      · exact .inr hset

theorem mem_items_iff (d : Dict κ ν) (k : κ) (v : ν) : (k, v) ∈ d.items ↔ d.get? k = some v := by
  obtain ⟨l, hn⟩ := d
  show (k, v) ∈ l ↔ l.lookup k = some v
  induction l with
  | nil => simp
  | cons p l ih =>
    obtain ⟨a, b⟩ := p
    rw [List.map_cons, List.nodup_cons] at hn
    rw [List.mem_cons, ih hn.2, List.lookup_cons]
    by_cases h : k = a
    · subst h
      have hnone : l.lookup k ≠ some v := by
        intro hx
        have := (ih hn.2).mpr hx
        exact hn.1 (List.mem_map.mpr ⟨(k, v), this, rfl⟩)
      simp only [beq_self_eq_true, Option.some.injEq, Prod.mk.injEq, true_and]
      constructor
      · rintro (h1 | h1)
        · exact h1.symm
        · exact absurd h1 hnone
      · intro h1; exact Or.inl h1.symm
    · simp [beq_false_of_ne h, h]

/-! ## The items -/

/-- Dictionaries with the same entries differ in the order of their items only. -/
theorem items_perm {d e : Dict κ ν} (h : ∀ k, d.get? k = e.get? k) : d.items.Perm e.items := by
  refine (List.perm_ext_iff_of_nodup (List.Nodup.of_map _ d.nodup)
    (List.Nodup.of_map _ e.nodup)).mpr fun p => ?_
  rw [show p = (p.1, p.2) from rfl, mem_items_iff, mem_items_iff, h]

/-- `sorted(d.items())` depends on the entries only. -/
theorem sorted_congr {κ : Type} [LinearOrder κ] {d e : Dict κ ν} (h : ∀ k, d.get? k = e.get? k) :
    (d.items.mergeSort fun p q => p.1 ≤ q.1) = e.items.mergeSort fun p q => p.1 ≤ q.1 := by
  have htrans : ∀ a b c : κ × ν, decide (a.1 ≤ b.1) = true → decide (b.1 ≤ c.1) = true →
      decide (a.1 ≤ c.1) = true := by
    intro a b c hab hbc
    exact decide_eq_true (le_trans (of_decide_eq_true hab) (of_decide_eq_true hbc))
  have htotal : ∀ a b : κ × ν, (decide (a.1 ≤ b.1) || decide (b.1 ≤ a.1)) = true := by
    intro a b
    rcases le_total a.1 b.1 with hab | hba
    · rw [decide_eq_true hab, Bool.true_or]
    · rw [decide_eq_true hba, Bool.or_true]
  have hsorted := fun l : List (κ × ν) => List.pairwise_mergeSort htrans htotal l
  have hperm := ((List.mergeSort_perm d.items fun p q => p.1 ≤ q.1).trans (items_perm h)).trans
    (List.mergeSort_perm e.items fun p q => p.1 ≤ q.1).symm
  -- a key has one value, so the order of the keys is antisymmetric on the items
  refine List.Perm.eq_of_pairwise (fun p q hp hq hpq hqp => ?_) (hsorted _) (hsorted _) hperm
  have hkey : p.1 = q.1 := le_antisymm (of_decide_eq_true hpq) (of_decide_eq_true hqp)
  have hp' := (mem_items_iff e p.1 p.2).mp (List.mem_mergeSort.mp (hperm.mem_iff.mp hp))
  rw [hkey, (mem_items_iff e q.1 q.2).mp (List.mem_mergeSort.mp hq)] at hp'
  exact Prod.ext hkey (Option.some.inj hp').symm

/-- The values of the items replaced, each by what its key and itself give. -/
theorem lookup_map {ξ : Type} (f : κ → ν → ξ) (l : List (κ × ν)) (k : κ) :
    (l.map fun p => (p.1, f p.1 p.2)).lookup k = (l.lookup k).map (f k) := by
  induction l with
  | nil => rfl
  | cons p l ih =>
    obtain ⟨a, b⟩ := p
    rw [List.map_cons, List.lookup_cons, List.lookup_cons, ih]
    by_cases h : k = a
    · subst h
      rw [beq_self_eq_true]
      rfl
    · rw [beq_false_of_ne h]

/-- Dictionaries with the same keys have them in the same places of `sorted(d.items())`. -/
theorem sorted_eq_map {κ : Type} [LinearOrder κ] {d e : Dict κ ν}
    (h : ∀ k, (d.get? k).isSome = (e.get? k).isSome) :
    (e.items.mergeSort fun p q => p.1 ≤ q.1) =
      (d.items.mergeSort fun p q => p.1 ≤ q.1).map fun p => (p.1, (e.get? p.1).getD p.2) := by
  let replaced : Dict κ ν := ⟨d.items.map fun p => (p.1, (e.get? p.1).getD p.2), by
    rw [List.map_map]; exact d.nodup⟩
  have hget : ∀ k, e.get? k = replaced.get? k := by
    intro k
    have hk := h k
    have hlookup : replaced.get? k = (d.get? k).map fun v => (e.get? k).getD v :=
      lookup_map (fun k v => (e.get? k).getD v) d.items k
    rw [hlookup]
    cases hd : d.get? k with
    | none =>
      rw [hd] at hk
      exact Option.not_isSome_iff_eq_none.mp (by rw [← hk]; simp)
    | some v =>
      rw [hd] at hk
      obtain ⟨w, hw⟩ := Option.isSome_iff_exists.mp hk.symm
      rw [hw]
      rfl
  have hmap : (d.items.mergeSort fun p q => p.1 ≤ q.1).map
      (fun p => (p.1, (e.get? p.1).getD p.2)) = replaced.items.mergeSort fun p q => p.1 ≤ q.1 :=
    List.map_mergeSort fun _ _ _ _ => rfl
  rw [sorted_congr hget, hmap]

/-! ## The values -/

omit [DecidableEq κ] in
theorem ext_items {d e : Dict κ ν} (h : d.items = e.items) : d = e := by
  cases d
  cases e
  cases h
  rfl

/-- `d.values()`. -/
def vals (d : Dict κ ν) : List ν := d.items.map Prod.snd

theorem mem_vals_of_get? {d : Dict κ ν} {k : κ} {v : ν} (h : d.get? k = some v) : v ∈ d.vals :=
  List.mem_map.mpr ⟨(k, v), (d.mem_items_iff k v).mpr h, rfl⟩

theorem mem_vals_setItems {k : κ} {v : ν} {l : List (κ × ν)} {x : ν}
    (h : x ∈ (setItems k v l).map Prod.snd) : x = v ∨ x ∈ l.map Prod.snd := by
  induction l with
  | nil => exact Or.inl (List.mem_singleton.mp h)
  | cons p l ih =>
    obtain ⟨a, b⟩ := p
    unfold setItems at h
    split at h
    · rcases List.mem_cons.mp h with h | h
      · exact Or.inl h
      · exact Or.inr (List.mem_cons_of_mem _ h)
    · rcases List.mem_cons.mp h with h | h
      · exact Or.inr (h ▸ List.mem_cons_self)
      · exact (ih h).imp_right (List.mem_cons_of_mem _)

theorem mem_vals_set {d : Dict κ ν} {k : κ} {v x : ν} (h : x ∈ (d.set k v).vals) :
    x = v ∨ x ∈ d.vals := mem_vals_setItems h

theorem vals_erase_sublist (d : Dict κ ν) (k : κ) : (d.erase k).vals.Sublist d.vals :=
  List.filter_sublist.map Prod.snd

theorem nodup_vals_setItems (k : κ) {v : ν} {l : List (κ × ν)} (h : (l.map Prod.snd).Nodup)
    (hv : v ∉ l.map Prod.snd) : ((setItems k v l).map Prod.snd).Nodup := by
  induction l with
  | nil => exact List.nodup_singleton v
  | cons p l ih =>
    obtain ⟨a, b⟩ := p
    rw [List.map_cons, List.nodup_cons] at h
    rw [List.map_cons, List.mem_cons, not_or] at hv
    unfold setItems
    split
    · exact List.nodup_cons.mpr ⟨hv.2, h.2⟩
    · refine List.nodup_cons.mpr ⟨fun hmem => ?_, ih h.2 hv.2⟩
      rcases mem_vals_setItems hmem with hb | hb
      · exact hv.1 hb.symm
      · exact h.1 hb

/-- A value that is new to the dictionary keeps its values apart. -/
theorem nodup_vals_set {d : Dict κ ν} (k : κ) {v : ν} (h : d.vals.Nodup) (hv : v ∉ d.vals) :
    (d.set k v).vals.Nodup := nodup_vals_setItems k h hv

/-- A value that no other key has is gone with its key. -/
theorem not_mem_vals_erase {d : Dict κ ν} {k : κ} {v : ν} (h : d.vals.Nodup)
    (hk : d.get? k = some v) : v ∉ (d.erase k).vals := by
  intro hmem
  obtain ⟨p, hp, hv⟩ := List.mem_map.mp hmem
  obtain ⟨hp, hne⟩ := List.mem_filter.mp hp
  have heq : p = (k, v) := List.inj_on_of_nodup_map h hp ((d.mem_items_iff k v).mpr hk) hv
  exact of_decide_eq_true hne (congrArg Prod.fst heq)

section MapVal

variable {ξ : Type} (f : ν → ξ)

/-- The dictionary of what `f` makes of the values. -/
def mapVal (d : Dict κ ν) : Dict κ ξ :=
  ⟨d.items.map fun p => (p.1, f p.2), by rw [List.map_map]; exact d.nodup⟩

theorem get?_mapVal (d : Dict κ ν) (k : κ) : (d.mapVal f).get? k = (d.get? k).map f :=
  lookup_map (fun _ => f) d.items k

theorem mapVal_erase (d : Dict κ ν) (k : κ) : (d.erase k).mapVal f = (d.mapVal f).erase k := by
  refine ext_items ?_
  show (d.items.filter _).map _ = (d.items.map _).filter _
  rw [List.filter_map]
  rfl

theorem mapVal_set (d : Dict κ ν) (k : κ) (v : ν) :
    (d.set k v).mapVal f = (d.mapVal f).set k (f v) := by
  refine ext_items ?_
  show (setItems k v d.items).map _ = setItems k (f v) (d.items.map _)
  induction d.items with
  | nil => rfl
  | cons p l ih =>
    obtain ⟨a, b⟩ := p
    rw [List.map_cons]
    unfold setItems
    by_cases h : a = k
    · rw [if_pos h, if_pos h]
      rfl
    · rw [if_neg h, if_neg h, List.map_cons, ih]

end MapVal

end Dict

end Py
