import OpenHdoLinker.Lib.PyDict
import OpenHdoLinker.Lib.PyJson
import Mathlib.Data.List.Sort
import Mathlib.Data.String.Basic

/-!
# JSON text

`json.dumps(value, separators=(",", ":"), sort_keys=True)`, with `ensure_ascii` as
it is by default; how a finite float is written is a parameter.  Reading the text
back gives the value up to the order of object keys, which a Python dictionary
does not compare (`Json.Same`), and the order does not show in the text either:

    v.Same w → v.KeysOnce → dumps floatRepr v = dumps floatRepr w        (dumps_eq)
-/

namespace Py

/-! ## Algorithm -/

/-- `text.encode("utf-8")`, of the characters of a text. -/
def encodeUtf8 (text : List Char) : Bytes := text.flatMap String.utf8EncodeChar

/-- The four lower-case hexadecimal digits of a `\uXXXX` escape. -/
def unicodeEscape (n : Nat) : List Char :=
  ['\\', 'u', Nat.digitChar (n / 4096 % 16), Nat.digitChar (n / 256 % 16),
    Nat.digitChar (n / 16 % 16), Nat.digitChar (n % 16)]

/-- A character in an ASCII string literal; one beyond the BMP is a surrogate pair. -/
def escapeChar (c : Char) : List Char :=
  let n := c.toNat
  if c = '"' then ['\\', '"']
  else if c = '\\' then ['\\', '\\']
  else if n = 0x0a then ['\\', 'n']
  else if n = 0x0d then ['\\', 'r']
  else if n = 0x09 then ['\\', 't']
  else if n = 0x0c then ['\\', 'f']
  else if n = 0x08 then ['\\', 'b']
  else if 0x20 ≤ n ∧ n ≤ 0x7e then [c]
  else if n < 0x10000 then unicodeEscape n
  else unicodeEscape (0xd800 + (n - 0x10000) / 0x400) ++ unicodeEscape (0xdc00 + (n - 0x10000) % 0x400)

def quoted (s : String) : List Char := '"' :: (s.toList.flatMap escapeChar ++ ['"'])

/-- `",".join(parts)`. -/
def commaJoin : List (List Char) → List Char
  | [] => []
  | [x] => x
  | x :: y :: xs => x ++ ',' :: commaJoin (y :: xs)

/-- The items of an object in the order `sort_keys` writes them. -/
def sortedItems (items : List (String × List Char)) : List (String × List Char) :=
  items.insertionSort fun p q => p.1 ≤ q.1

section Dumps

variable (floatRepr : ℚ → List Char)

def dumpsFloat : PyFloat → List Char
  | .finite q => floatRepr q
  | .inf => "Infinity".toList
  | .negInf => "-Infinity".toList
  | .nan => "NaN".toList

mutual

def dumps : Json → List Char
  | .null => "null".toList
  | .bool true => "true".toList
  | .bool false => "false".toList
  | .int i => (toString i).toList
  | .float x => dumpsFloat floatRepr x
  | .str s => quoted s
  | .arr l => '[' :: (commaJoin (dumpsList l) ++ [']'])
  | .obj d =>
    '\x7b' :: (commaJoin ((sortedItems (dumpsItems d)).map fun p => quoted p.1 ++ ':' :: p.2) ++
      ['\x7d'])

def dumpsList : List Json → List (List Char)
  | [] => []
  | v :: l => dumps v :: dumpsList l

def dumpsItems : List (String × Json) → List (String × List Char)
  | [] => []
  | (k, v) :: d => (k, dumps v) :: dumpsItems d

end

/-- `json.dumps(value, separators=(",", ":"), sort_keys=True).encode("utf-8")`. -/
def dumpsBytes (value : Json) : Bytes := encodeUtf8 (dumps floatRepr value)

/-- The text of an object begins with its brace. -/
theorem dumpsBytes_obj (d : JsonObj) : ∃ t, dumpsBytes floatRepr (.obj d) = 0x7b :: t := by
  unfold dumpsBytes
  rw [dumps]
  exact ⟨_, rfl⟩

end Dumps

/-! ## Statement -/

/-- `w` is the Python value `v`, read back: the same scalars, arrays item by item, and dictionaries
with the same values under the same keys. -/
inductive Json.Same : Json → Json → Prop
  | null : Same .null .null
  | bool (b : Bool) : Same (.bool b) (.bool b)
  | int (i : Int) : Same (.int i) (.int i)
  | float (x : PyFloat) : Same (.float x) (.float x)
  | str (s : String) : Same (.str s) (.str s)
  | arr {l m : List Json} (hlen : l.length = m.length)
      (h : ∀ (i : Nat) v w, l[i]? = some v → m[i]? = some w → Same v w) : Same (.arr l) (.arr m)
  | obj {d e : JsonObj} (hdict : (e.map Prod.fst).Nodup)
      (hkeys : ∀ k, (d.lookup k).isSome = (e.lookup k).isSome)
      (h : ∀ k v w, d.lookup k = some v → e.lookup k = some w → Same v w) : Same (.obj d) (.obj e)

/-- `json.loads` inverts `json.dumps` at this value. -/
def JsonLib.ReadsBack (J : JsonLib) (floatRepr : ℚ → List Char) (v : Json) : Prop :=
  ∃ w, J.decode (dumpsBytes floatRepr v) = .ok w ∧ v.Same w

/-- `json.loads` inverts `json.dumps` at this value, as text. -/
def JsonLib.ReadsTextBack (J : JsonLib) (floatRepr : ℚ → List Char) (v : Json) : Prop :=
  ∃ w, J.decodeStr (String.ofList (dumps floatRepr v)) = .ok w ∧ v.Same w

/-- Every dictionary in the value has each of its keys once. -/
inductive Json.KeysOnce : Json → Prop
  | null : KeysOnce .null
  | bool (b : Bool) : KeysOnce (.bool b)
  | int (i : Int) : KeysOnce (.int i)
  | float (x : PyFloat) : KeysOnce (.float x)
  | str (s : String) : KeysOnce (.str s)
  | arr {l : List Json} (h : ∀ (i : Nat) v, l[i]? = some v → KeysOnce v) : KeysOnce (.arr l)
  | obj {d : JsonObj} (hdict : (d.map Prod.fst).Nodup)
      (h : ∀ k v, d.lookup k = some v → KeysOnce v) : KeysOnce (.obj d)

/-! ## Lemmas -/

namespace Json.Same

/-- What is under a key of a dictionary is under it in the dictionary read back. -/
theorem lookup {d e : JsonObj} (h : Json.Same (.obj d) (.obj e)) {k : String} {v : Json}
    (hv : d.lookup k = some v) : ∃ w, e.lookup k = some w ∧ v.Same w := by
  cases h with
  | obj hdict hkeys h =>
    have hsome := hkeys k
    rw [hv] at hsome
    obtain ⟨w, hw⟩ := Option.isSome_iff_exists.mp hsome.symm
    exact ⟨w, hw, h k v w hv hw⟩

theorem lookup_none {d e : JsonObj} (h : Json.Same (.obj d) (.obj e)) {k : String}
    (hv : d.lookup k = none) : e.lookup k = none := by
  cases h with
  | obj hdict hkeys h =>
    have hnone := hkeys k
    rw [hv] at hnone
    exact Option.not_isSome_iff_eq_none.mp (by rw [← hnone]; simp)

theorem obj_left {d : JsonObj} {w : Json} (h : Json.Same (.obj d) w) :
    ∃ e, w = .obj e ∧ (e.map Prod.fst).Nodup := by
  cases h with
  | obj hdict _ _ => exact ⟨_, rfl, hdict⟩

/-- Arrays made of the same items. -/
theorem arr_map {α : Type} {f g : α → Json} {l : List α} (h : ∀ x ∈ l, (f x).Same (g x)) :
    Json.Same (.arr (l.map f)) (.arr (l.map g)) := by
  refine .arr (by rw [List.length_map, List.length_map]) fun i v w hv hw => ?_
  rw [List.getElem?_map, Option.map_eq_some_iff] at hv hw
  obtain ⟨x, hx, rfl⟩ := hv
  obtain ⟨y, hy, rfl⟩ := hw
  cases hx.symm.trans hy
  exact h x (List.mem_of_getElem? hx)

/-- Dictionaries with the same keys in the same places. -/
theorem of_items {d e : JsonObj} (hdict : (e.map Prod.fst).Nodup)
    (h : List.Forall₂ (fun p q => p.1 = q.1 ∧ p.2.Same q.2) d e) : Json.Same (.obj d) (.obj e) := by
  have hrel : ∀ k, Option.Rel Json.Same (d.lookup k) (e.lookup k) := by
    intro k
    clear hdict
    induction h with
    | nil => exact .none
    | @cons p q d e hpq _ ih =>
      obtain ⟨a, v⟩ := p
      obtain ⟨b, w⟩ := q
      obtain ⟨rfl, hvw⟩ := hpq
      rw [List.lookup_cons, List.lookup_cons]
      cases k == a
      · exact ih
      · exact .some hvw
  refine .obj hdict (fun k => ?_) fun k v w hv hw => ?_
  · have hk := hrel k
    generalize d.lookup k = v, e.lookup k = w at hk
    cases hk <;> rfl
  · have hk := hrel k
    rw [hv, hw] at hk
    cases hk with
    | some hvw => exact hvw

/-- A dictionary with one item. -/
theorem singleton {v w : Json} (k : String) (h : v.Same w) :
    Json.Same (.obj [(k, v)]) (.obj [(k, w)]) :=
  of_items (List.nodup_singleton k) (.cons ⟨rfl, h⟩ .nil)

/-- A Python value is the same as itself. -/
theorem of_keysOnce {v : Json} (h : v.KeysOnce) : v.Same v := by
  induction h with
  | null => exact .null
  | bool b => exact .bool b
  | int i => exact .int i
  | float x => exact .float x
  | str s => exact .str s
  | arr h ih =>
    refine .arr rfl fun i v w hv hw => ?_
    cases hv.symm.trans hw
    exact ih i v hv
  | obj hdict h ih =>
    refine .obj hdict (fun _ => rfl) fun k v w hv hw => ?_
    cases hv.symm.trans hw
    exact ih k v hv

end Json.Same

/-- A dictionary with the items `d`, all of them values with each key once. -/
theorem Json.KeysOnce.of_items {d : JsonObj} (hdict : (d.map Prod.fst).Nodup)
    (h : ∀ p ∈ d, KeysOnce p.2) : KeysOnce (.obj d) :=
  .obj hdict fun k v hv => h (k, v) ((Dict.mem_items_iff ⟨d, hdict⟩ k v).mpr hv)

section Text

variable (floatRepr : ℚ → List Char)

theorem dumpsList_eq_map (l : List Json) : dumpsList floatRepr l = l.map (dumps floatRepr) := by
  induction l with
  | nil => rfl
  | cons v l ih => rw [dumpsList, ih, List.map_cons]

theorem dumpsItems_eq_map (d : JsonObj) :
    dumpsItems floatRepr d = d.map fun p => (p.1, dumps floatRepr p.2) := by
  induction d with
  | nil => rfl
  | cons p d ih =>
    obtain ⟨k, v⟩ := p
    rw [dumpsItems, ih, List.map_cons]

/-- Items with different keys have one order. -/
theorem sortedItems_perm {items items' : List (String × List Char)} (h : items.Perm items')
    (hkeys : (items.map Prod.fst).Nodup) : sortedItems items = sortedItems items' := by
  have htotal : Std.Total fun p q : String × List Char => p.1 ≤ q.1 := ⟨fun p q => le_total p.1 q.1⟩
  have htrans : IsTrans (String × List Char) fun p q => p.1 ≤ q.1 := ⟨fun _ _ _ => le_trans⟩
  have hsorted : ∀ l : List (String × List Char), (sortedItems l).Pairwise fun p q => p.1 ≤ q.1 :=
    List.pairwise_insertionSort _
  have hperm : (sortedItems items).Perm (sortedItems items') :=
    (List.perm_insertionSort _ items).trans (h.trans (List.perm_insertionSort _ items').symm)
  refine List.Perm.eq_of_pairwise ?_ (hsorted items) (hsorted items') hperm
  intro p q hp hq hpq hqp
  have hp' : p ∈ items := (List.mem_insertionSort _).mp hp
  have hq' : q ∈ items := h.mem_iff.mpr ((List.mem_insertionSort _).mp hq)
  exact List.inj_on_of_nodup_map hkeys hp' hq' (le_antisymm hpq hqp)

/-- A dictionary read back has the same text. -/
theorem dumps_obj_eq {d e : JsonObj} (hd : (d.map Prod.fst).Nodup) (he : (e.map Prod.fst).Nodup)
    (hkeys : ∀ k, (d.lookup k).isSome = (e.lookup k).isSome)
    (h : ∀ k v w, d.lookup k = some v → e.lookup k = some w → dumps floatRepr v = dumps floatRepr w) :
    dumps floatRepr (.obj d) = dumps floatRepr (.obj e) := by
  have hfst : ∀ l : JsonObj, (l.map fun p => (p.1, dumps floatRepr p.2)).map Prod.fst =
      l.map Prod.fst := fun l => List.map_map
  have hperm : (dumpsItems floatRepr d).Perm (dumpsItems floatRepr e) := by
    rw [dumpsItems_eq_map, dumpsItems_eq_map]
    refine (List.perm_ext_iff_of_nodup (.of_map Prod.fst (hfst d ▸ hd))
      (.of_map Prod.fst (hfst e ▸ he))).mpr ?_
    intro x
    constructor
    · intro hmem
      obtain ⟨⟨k, v⟩, hv, rfl⟩ := List.mem_map.mp hmem
      have hlook : d.lookup k = some v := (Dict.mem_items_iff ⟨d, hd⟩ k v).mp hv
      obtain ⟨w, hw⟩ := Option.isSome_iff_exists.mp
        ((hkeys k).symm.trans (Option.isSome_of_eq_some hlook))
      refine List.mem_map.mpr ⟨(k, w), (Dict.mem_items_iff ⟨e, he⟩ k w).mpr hw, ?_⟩
      rw [h k v w hlook hw]
    · intro hmem
      obtain ⟨⟨k, w⟩, hw, rfl⟩ := List.mem_map.mp hmem
      have hlook : e.lookup k = some w := (Dict.mem_items_iff ⟨e, he⟩ k w).mp hw
      obtain ⟨v, hv⟩ := Option.isSome_iff_exists.mp
        ((hkeys k).trans (Option.isSome_of_eq_some hlook))
      refine List.mem_map.mpr ⟨(k, v), (Dict.mem_items_iff ⟨d, hd⟩ k v).mpr hv, ?_⟩
      rw [h k v w hv hlook]
  rw [dumps, dumps, sortedItems_perm hperm (by rw [dumpsItems_eq_map, hfst]; exact hd)]

/-- **A value read back has the same text.** -/
theorem Json.Same.dumps_eq {v w : Json} (h : v.Same w) (hv : v.KeysOnce) :
    dumps floatRepr v = dumps floatRepr w := by
  induction h with
  | null | bool | int | float | str => rfl
  | @arr l m hlen h ih =>
    cases hv with
    | arr hv =>
      rw [dumps, dumps, dumpsList_eq_map, dumpsList_eq_map]
      have hmap : l.map (dumps floatRepr) = m.map (dumps floatRepr) := by
        refine List.ext_getElem? fun i => ?_
        rw [List.getElem?_map, List.getElem?_map]
        cases hl : l[i]? with
        | none =>
          have hm : m[i]? = none := by
            rw [List.getElem?_eq_none_iff] at hl ⊢
            omega
          rw [hm]
        | some v =>
          have hi : i < m.length := hlen ▸ (List.getElem?_eq_some_iff.mp hl).1
          have hm : m[i]? = some m[i] := List.getElem?_eq_getElem hi
          rw [hm, Option.map_some, Option.map_some, ih i v m[i] hl hm (hv i v hl)]
      rw [hmap]
  | @obj d e hdict hkeys h ih =>
    cases hv with
    | obj hd hv =>
      exact dumps_obj_eq floatRepr hd hdict hkeys fun k v w hl hr => ih k v w hl hr (hv k v hl)

end Text

end Py
