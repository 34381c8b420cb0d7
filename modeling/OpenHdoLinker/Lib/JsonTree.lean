import OpenHdoLinker.Lib.PyJson
import Mathlib.Data.List.Basic

/-!
# Strings in a JSON value

The strings of a JSON value at any depth: those that are values, and those that are
the keys of objects.

    s ∈ (.obj d).texts ↔ s ∈ p.2.texts for an item p of d              (mem_texts_obj)
    k ∈ (.obj d).keys ↔ k = p.1 or k ∈ p.2.keys for an item p of d      (mem_keys_obj)

`tree_induction` is the induction over arrays and objects.
-/

namespace Py.Json

/-! ## Algorithm -/

mutual

/-- The strings among the values, at any depth. -/
def texts : Json → List String
  | .str s => [s]
  | .arr l => textsList l
  | .obj d => textsItems d
  | _ => []

def textsList : List Json → List String
  | [] => []
  | v :: l => texts v ++ textsList l

def textsItems : List (String × Json) → List String
  | [] => []
  | (_, v) :: d => texts v ++ textsItems d

end

mutual

/-- The keys of the objects, at any depth. -/
def keys : Json → List String
  | .arr l => keysList l
  | .obj d => keysItems d
  | _ => []

def keysList : List Json → List String
  | [] => []
  | v :: l => keys v ++ keysList l

def keysItems : List (String × Json) → List String
  | [] => []
  | (k, v) :: d => k :: keys v ++ keysItems d

end

/-! ## Lemmas -/

/-- What holds of an array when it holds of its items, and of an object when it holds of its
values, holds of every value. -/
@[elab_as_elim]
theorem tree_induction {motive : Json → Prop} (null : motive .null) (bool : ∀ b, motive (.bool b))
    (int : ∀ i, motive (.int i)) (float : ∀ x, motive (.float x)) (str : ∀ s, motive (.str s))
    (arr : ∀ l, (∀ v ∈ l, motive v) → motive (.arr l))
    (obj : ∀ d : JsonObj, (∀ p ∈ d, motive p.2) → motive (.obj d)) (v : Json) : motive v := by
  refine @Json.rec motive (fun l => ∀ v ∈ l, motive v) (fun d => ∀ p ∈ d, motive p.2)
    (fun p => motive p.2) null bool int float str arr obj ?_ ?_ ?_ ?_ ?_ v
  · exact List.forall_mem_nil _
  · intro v l hv hl
    exact List.forall_mem_cons.mpr ⟨hv, hl⟩
  · exact List.forall_mem_nil _
  · intro p d hp hd
    exact List.forall_mem_cons.mpr ⟨hp, hd⟩
  · intro k v hv
    exact hv

theorem textsList_eq (l : List Json) : textsList l = l.flatMap texts := by
  induction l with
  | nil => rfl
  | cons v l ih => rw [textsList, ih, List.flatMap_cons]

theorem textsItems_eq (d : JsonObj) : textsItems d = d.flatMap fun p => p.2.texts := by
  induction d with
  | nil => rfl
  | cons p d ih => rw [textsItems, ih, List.flatMap_cons]

theorem keysList_eq (l : List Json) : keysList l = l.flatMap keys := by
  induction l with
  | nil => rfl
  | cons v l ih => rw [keysList, ih, List.flatMap_cons]

theorem keysItems_eq (d : JsonObj) : keysItems d = d.flatMap fun p => p.1 :: p.2.keys := by
  induction d with
  | nil => rfl
  | cons p d ih => rw [keysItems, ih, List.flatMap_cons]

theorem mem_texts_arr {l : List Json} {s : String} : s ∈ (arr l).texts ↔ ∃ v ∈ l, s ∈ v.texts := by
  rw [texts, textsList_eq, List.mem_flatMap]

theorem mem_texts_obj {d : JsonObj} {s : String} :
    s ∈ (obj d).texts ↔ ∃ p ∈ d, s ∈ p.2.texts := by
  rw [texts, textsItems_eq, List.mem_flatMap]

theorem mem_keys_arr {l : List Json} {k : String} : k ∈ (arr l).keys ↔ ∃ v ∈ l, k ∈ v.keys := by
  rw [keys, keysList_eq, List.mem_flatMap]

theorem mem_keys_obj {d : JsonObj} {k : String} :
    k ∈ (obj d).keys ↔ ∃ p ∈ d, k = p.1 ∨ k ∈ p.2.keys := by
  rw [keys, keysItems_eq, List.mem_flatMap]
  simp only [List.mem_cons]

end Py.Json
