import OpenHdoLinker.Lib.JsonText
import OpenHdoLinker.Lib.JsonTree
import OpenHdoLinker.Lib.PyDict
import OpenHdoLinker.Lib.PyText

/-!
# What `inspect` prints

`_inspection_payload` reports the data points of a device without the local key.
`_sanitize_value` replaces the key in every string and drops the items whose keys
name a credential, but it prints the keys of the other items as they are.  So the
key shows where such a key contains it, and, being short, in the labels of the
report itself.

    Hides key (inspectionPayload …) ↔ no kept key and no label contains the key   (hides_iff)
-/

namespace Linker.Cli

open Py

/-! ## Algorithm -/

/-- `_value_type(value)`; of its answers, JSON values have all but `unknown`. -/
def valueType : Json → String
  | .null => "null"
  | .bool _ => "bool"
  | .int _ => "int"
  | .float _ => "float"
  | .str _ => "str"
  | .obj _ => "object"
  | .arr _ => "array"

/-- `str(key).lower()` is the name of a credential. -/
def isCredential (key : String) : Bool :=
  ["local_key", "server_token", "api_token", "token"].contains (lower key)

def marker : String := "[REDACTED]"

/-- `value.replace(secret, "[REDACTED]")`, for each secret in turn. -/
def redact (sensitive : List String) (value : String) : String :=
  sensitive.foldl (fun value secret =>
    if secret ≠ "" then String.ofList (replaceAll secret.toList marker.toList value.toList)
    else value) value

section Algorithm

variable (sensitive : List String)

mutual

/-- `_sanitize_value(value, sensitive)`. -/
def sanitizeValue : Json → Json
  | .obj d => .obj (sanitizeItems d)
  | .arr l => .arr (sanitizeList l)
  | .str s => .str (redact sensitive s)
  | v => v

def sanitizeList : List Json → List Json
  | [] => []
  | v :: l => sanitizeValue v :: sanitizeList l

def sanitizeItems : List (String × Json) → List (String × Json)
  | [] => []
  | (k, v) :: d => if isCredential k then sanitizeItems d else (k, sanitizeValue v) :: sanitizeItems d

end

/-- The entry of a data point. -/
def dpEntry (p : Int × Json) : Json :=
  .obj [("index", .int p.1), ("type", .str (valueType p.2)), ("value", sanitizeValue sensitive p.2)]

/-- `_inspection_payload(ip, device_id, protocol_version, dps, sensitive=…)`. -/
def inspectionPayload (ip deviceId protocolVersion : String) (dps : Dict Int Json) : JsonObj :=
  [("device_id", sanitizeValue sensitive (.str deviceId)), ("ip", sanitizeValue sensitive (.str ip)),
    ("protocol_version", sanitizeValue sensitive (.str protocolVersion)),
    ("dps", .arr ((dps.items.mergeSort fun p q => p.1 ≤ q.1).map (dpEntry sensitive)))]

end Algorithm

/-! ## Statement -/

/-- `key in text`. -/
def Contains (text key : String) : Prop := key.toList <:+: text.toList

instance (text key : String) : Decidable (Contains text key) :=
  inferInstanceAs (Decidable (_ <:+: _))

/-- A local key that shares no character with the marker. -/
structure IsKey (key : String) : Prop where
  nonempty : key ≠ ""
  foreign : ∀ c ∈ key.toList, c ∉ marker.toList

/-- No string of the report has the key in it, and no key of an object among its data points. -/
structure Hides (key : String) (payload : JsonObj) : Prop where
  texts : ∀ s ∈ (Json.obj payload).texts, ¬ Contains s key
  keys : ∀ k ∈ (getItem payload "dps").keys, ¬ Contains k key

mutual

/-- The keys of the objects in a value, at any depth, that name no credential and are under no key
that does. -/
def keptKeys : Json → List String
  | .arr l => keptKeysList l
  | .obj d => keptKeysItems d
  | _ => []

def keptKeysList : List Json → List String
  | [] => []
  | v :: l => keptKeys v ++ keptKeysList l

def keptKeysItems : List (String × Json) → List String
  | [] => []
  | (k, v) :: d => if isCredential k then keptKeysItems d else k :: keptKeys v ++ keptKeysItems d

end

/-- The labels of the entry of a data point. -/
def labels (value : Json) : List String := ["index", "type", "value", valueType value]

/-- Neither a kept key nor a label of a data point has the key in it. -/
def Clean (key : String) (dps : Dict Int Json) : Prop :=
  ∀ p ∈ dps.items, ∀ k ∈ keptKeys p.2 ++ labels p.2, ¬ Contains k key

/-! ## Lemmas -/

section Sanitize

variable {sensitive : List String}

theorem sanitizeList_eq (l : List Json) :
    sanitizeList sensitive l = l.map (sanitizeValue sensitive) := by
  induction l with
  | nil => rfl
  | cons v l ih => rw [sanitizeList, ih, List.map_cons]

theorem sanitizeItems_eq (d : JsonObj) : sanitizeItems sensitive d =
    (d.filter fun p => !isCredential p.1).map fun p => (p.1, sanitizeValue sensitive p.2) := by
  induction d with
  | nil => rfl
  | cons p d ih =>
    rw [sanitizeItems, ih]
    cases hc : isCredential p.1 with
    | true => rw [if_pos rfl, List.filter_cons_of_neg (by rw [hc]; simp)]
    | false => rw [if_neg (by simp), List.filter_cons_of_pos (by rw [hc]; rfl), List.map_cons]

theorem keptKeysList_eq (l : List Json) : keptKeysList l = l.flatMap keptKeys := by
  induction l with
  | nil => rfl
  | cons v l ih => rw [keptKeysList, ih, List.flatMap_cons]

theorem keptKeysItems_eq (d : JsonObj) : keptKeysItems d =
    (d.filter fun p => !isCredential p.1).flatMap fun p => p.1 :: keptKeys p.2 := by
  induction d with
  | nil => rfl
  | cons p d ih =>
    rw [keptKeysItems, ih]
    cases hc : isCredential p.1 with
    | true => rw [if_pos rfl, List.filter_cons_of_neg (by rw [hc]; simp)]
    | false => rw [if_neg (by simp), List.filter_cons_of_pos (by rw [hc]; rfl), List.flatMap_cons]

/-- The keys of a sanitised value are the kept keys, unchanged. -/
theorem keys_sanitizeValue (v : Json) : (sanitizeValue sensitive v).keys = keptKeys v := by
  induction v using Json.tree_induction with
  | arr l ih =>
    rw [sanitizeValue, Json.keys, keptKeys, sanitizeList_eq, Json.keysList_eq, keptKeysList_eq,
      List.flatMap_map]
    exact List.flatMap_congr ih
  | obj d ih =>
    rw [sanitizeValue, Json.keys, keptKeys, sanitizeItems_eq, Json.keysItems_eq, keptKeysItems_eq,
      List.flatMap_map]
    refine List.flatMap_congr fun p hp => ?_
    rw [ih p (List.mem_of_mem_filter hp)]
  | _ => rfl

/-- The strings of a sanitised value are redacted. -/
theorem texts_sanitizeValue (v : Json) :
    ∀ s ∈ (sanitizeValue sensitive v).texts, ∃ t, s = redact sensitive t := by
  induction v using Json.tree_induction with
  | str t =>
    intro s hs
    exact ⟨t, List.mem_singleton.mp hs⟩
  | arr l ih =>
    intro s hs
    rw [sanitizeValue, sanitizeList_eq, Json.mem_texts_arr] at hs
    obtain ⟨w, hw, hs⟩ := hs
    obtain ⟨v, hv, rfl⟩ := List.mem_map.mp hw
    exact ih v hv s hs
  | obj d ih =>
    intro s hs
    rw [sanitizeValue, sanitizeItems_eq, Json.mem_texts_obj] at hs
    obtain ⟨q, hq, hs⟩ := hs
    obtain ⟨p, hp, rfl⟩ := List.mem_map.mp hq
    exact ih p (List.mem_of_mem_filter hp) s hs
  | _ => exact List.forall_mem_nil _

end Sanitize

/-! ### A value read back -/

section ReadBack

variable {sensitive : List String}

theorem lookup_sanitizeItems (d : JsonObj) (k : String) : (sanitizeItems sensitive d).lookup k =
    if isCredential k then none else (d.lookup k).map (sanitizeValue sensitive) := by
  have hkept := Dict.lookup_filter (fun k => !isCredential k) k d
  rw [sanitizeItems_eq, Dict.lookup_map fun _ => sanitizeValue sensitive, hkept]
  cases isCredential k <;> rfl

theorem nodup_sanitizeItems {d : JsonObj} (h : (d.map Prod.fst).Nodup) :
    ((sanitizeItems sensitive d).map Prod.fst).Nodup := by
  rw [sanitizeItems_eq, List.map_map]
  exact (List.filter_sublist.map Prod.fst).nodup h

/-- A value read back is sanitised to the same value. -/
theorem same_sanitizeValue {v w : Json} (h : v.Same w) :
    (sanitizeValue sensitive v).Same (sanitizeValue sensitive w) := by
  induction h with
  | null => exact .null
  | bool b => exact .bool b
  | int i => exact .int i
  | float x => exact .float x
  | str s => exact .str _
  | @arr l m hlen h ih =>
    rw [sanitizeValue, sanitizeValue, sanitizeList_eq, sanitizeList_eq]
    refine .arr (by rw [List.length_map, List.length_map, hlen]) fun i v w hv hw => ?_
    rw [List.getElem?_map, Option.map_eq_some_iff] at hv hw
    obtain ⟨v, hv, rfl⟩ := hv
    obtain ⟨w, hw, rfl⟩ := hw
    exact ih i v w hv hw
  | @obj d e hdict hkeys h ih =>
    rw [sanitizeValue, sanitizeValue]
    refine .obj (nodup_sanitizeItems hdict) (fun k => ?_) fun k v w hv hw => ?_
    · rw [lookup_sanitizeItems, lookup_sanitizeItems]
      split
      · rfl
      · rw [Option.isSome_map, Option.isSome_map, hkeys]
    · rw [lookup_sanitizeItems] at hv hw
      split at hv
      · cases hv
      · next hk =>
        rw [if_neg hk] at hw
        obtain ⟨v', hv', rfl⟩ := Option.map_eq_some_iff.mp hv
        obtain ⟨w', hw', rfl⟩ := Option.map_eq_some_iff.mp hw
        exact ih k v' w' hv' hw'

theorem valueType_same {v w : Json} (h : v.Same w) : valueType v = valueType w := by
  cases h <;> rfl

theorem dpEntry_same (i : Int) {v w : Json} (h : v.Same w) :
    (dpEntry sensitive (i, v)).Same (dpEntry sensitive (i, w)) := by
  refine .of_items (show ["index", "type", "value"].Nodup by decide) ?_
  refine .cons ⟨rfl, .int i⟩ (.cons ⟨rfl, ?_⟩ (.cons ⟨rfl, same_sanitizeValue h⟩ .nil))
  rw [valueType_same h]
  exact .str _

/-- Data points read back give the same report. -/
theorem inspectionPayload_same {ip deviceId protocolVersion : String} {dps dps' : Dict Int Json}
    (h : ∀ i, Option.Rel Json.Same (dps.get? i) (dps'.get? i)) :
    (Json.obj (inspectionPayload sensitive ip deviceId protocolVersion dps)).Same
      (.obj (inspectionPayload sensitive ip deviceId protocolVersion dps')) := by
  have hkeys : ∀ i, (dps.get? i).isSome = (dps'.get? i).isSome := by
    intro i
    have hi := h i
    generalize dps.get? i = v, dps'.get? i = w at hi
    cases hi <;> rfl
  have hentries : (Json.arr ((dps.items.mergeSort fun p q => p.1 ≤ q.1).map
      (dpEntry sensitive))).Same
        (.arr ((dps'.items.mergeSort fun p q => p.1 ≤ q.1).map (dpEntry sensitive))) := by
    rw [Dict.sorted_eq_map hkeys, List.map_map]
    refine .arr_map fun p hp => ?_
    have hrel := h p.1
    rw [(dps.mem_items_iff p.1 p.2).mp (List.mem_mergeSort.mp hp)] at hrel
    generalize hw : dps'.get? p.1 = w at hrel
    cases hrel with
    | some hsame =>
      rw [Function.comp_apply, hw]
      exact dpEntry_same p.1 hsame
  refine .of_items (show ["device_id", "ip", "protocol_version", "dps"].Nodup by decide) ?_
  exact .cons ⟨rfl, .str _⟩ (.cons ⟨rfl, .str _⟩ (.cons ⟨rfl, .str _⟩ (.cons ⟨rfl, hentries⟩ .nil)))

theorem mem_keptKeys_arr {l : List Json} {k : String} :
    k ∈ keptKeys (.arr l) ↔ ∃ (i : Nat) (v : Json), l[i]? = some v ∧ k ∈ keptKeys v := by
  rw [keptKeys, keptKeysList_eq, List.mem_flatMap]
  constructor
  · rintro ⟨v, hv, hk⟩
    obtain ⟨i, hi⟩ := List.mem_iff_getElem?.mp hv
    exact ⟨i, v, hi, hk⟩
  · rintro ⟨i, v, hi, hk⟩
    exact ⟨v, List.mem_of_getElem? hi, hk⟩

theorem mem_keptKeys_obj {d : JsonObj} (hdict : (d.map Prod.fst).Nodup) {k : String} :
    k ∈ keptKeys (.obj d) ↔
      ∃ j v, d.lookup j = some v ∧ isCredential j = false ∧ (k = j ∨ k ∈ keptKeys v) := by
  rw [keptKeys, keptKeysItems_eq, List.mem_flatMap]
  constructor
  · rintro ⟨p, hp, hk⟩
    obtain ⟨hp, hname⟩ := List.mem_filter.mp hp
    exact ⟨p.1, p.2, (Dict.mem_items_iff ⟨d, hdict⟩ p.1 p.2).mp hp, by simpa using hname,
      List.mem_cons.mp hk⟩
  · rintro ⟨j, v, hv, hname, hk⟩
    exact ⟨(j, v), List.mem_filter.mpr ⟨(Dict.mem_items_iff ⟨d, hdict⟩ j v).mpr hv, by simp [hname]⟩,
      List.mem_cons.mpr hk⟩

/-- A value read back has the same kept keys. -/
theorem mem_keptKeys_same {v w : Json} (h : v.Same w) (hv : v.KeysOnce) (k : String) :
    k ∈ keptKeys v ↔ k ∈ keptKeys w := by
  induction h with
  | null | bool | int | float | str => exact Iff.rfl
  | @arr l m hlen h ih =>
    cases hv with
    | arr hl =>
      rw [mem_keptKeys_arr, mem_keptKeys_arr]
      have hboth : ∀ i : Nat, l[i]?.isSome = m[i]?.isSome := by
        intro i
        rw [Bool.eq_iff_iff, isSome_getElem?, isSome_getElem?, hlen]
      constructor
      · rintro ⟨i, v, hv, hk⟩
        obtain ⟨w, hw⟩ := Option.isSome_iff_exists.mp ((hboth i).symm.trans (by rw [hv]; rfl))
        exact ⟨i, w, hw, (ih i v w hv hw (hl i v hv)).mp hk⟩
      · rintro ⟨i, w, hw, hk⟩
        obtain ⟨v, hv⟩ := Option.isSome_iff_exists.mp ((hboth i).trans (by rw [hw]; rfl))
        exact ⟨i, v, hv, (ih i v w hv hw (hl i v hv)).mpr hk⟩
  | @obj d e hdict hkeys h ih =>
    cases hv with
    | obj hd hvalues =>
      rw [mem_keptKeys_obj hd, mem_keptKeys_obj hdict]
      constructor
      · rintro ⟨j, v, hv, hname, hk⟩
        obtain ⟨w, hw⟩ := Option.isSome_iff_exists.mp ((hkeys j).symm.trans (by rw [hv]; rfl))
        exact ⟨j, w, hw, hname, hk.imp_right (ih j v w hv hw (hvalues j v hv)).mp⟩
      · rintro ⟨j, w, hw, hname, hk⟩
        obtain ⟨v, hv⟩ := Option.isSome_iff_exists.mp ((hkeys j).trans (by rw [hw]; rfl))
        exact ⟨j, v, hv, hname, hk.imp_right (ih j v w hv hw (hvalues j v hv)).mpr⟩

end ReadBack

section Hides

variable {key : String}

theorem toList_ne_nil {s : String} (h : s ≠ "") : s.toList ≠ [] := by
  intro hnil
  exact h (String.toList_inj.mp hnil)

/-- The key is in no redacted string. -/
theorem redact_not_contains (h : IsKey key) (t : String) : ¬ Contains (redact [key] t) key := by
  unfold Contains redact
  rw [List.foldl_cons, List.foldl_nil, if_pos h.nonempty, String.toList_ofList]
  exact not_infix_replaceAll (toList_ne_nil h.nonempty) (by decide) h.foreign t.toList

theorem sanitized_not_contains (h : IsKey key) (v : Json) :
    ∀ s ∈ (sanitizeValue [key] v).texts, ¬ Contains s key := by
  intro s hs
  obtain ⟨t, rfl⟩ := texts_sanitizeValue v s hs
  exact redact_not_contains h t

end Hides

section Report

variable {sensitive : List String} {key : String}

theorem mem_texts_dpEntry {p : Int × Json} {s : String} : s ∈ (dpEntry sensitive p).texts ↔
    s = valueType p.2 ∨ s ∈ (sanitizeValue sensitive p.2).texts := by
  unfold dpEntry
  rw [Json.mem_texts_obj]
  simp [Json.texts]

theorem mem_keys_dpEntry {p : Int × Json} {k : String} : k ∈ (dpEntry sensitive p).keys ↔
    k ∈ ["index", "type", "value"] ∨ k ∈ keptKeys p.2 := by
  unfold dpEntry
  rw [Json.mem_keys_obj]
  simp [Json.keys, keys_sanitizeValue, or_assoc]

/-- The entries of the report, in whatever order. -/
theorem mem_entries {dps : Dict Int Json} {e : Json} :
    e ∈ (dps.items.mergeSort fun p q => p.1 ≤ q.1).map (dpEntry sensitive) ↔
      ∃ p ∈ dps.items, e = dpEntry sensitive p := by
  simp only [List.mem_map, List.mem_mergeSort, eq_comm]

variable {ip deviceId protocolVersion : String} {dps : Dict Int Json}

theorem getItem_dps : getItem (inspectionPayload sensitive ip deviceId protocolVersion dps) "dps" =
    .arr ((dps.items.mergeSort fun p q => p.1 ≤ q.1).map (dpEntry sensitive)) := rfl

/-- The strings of the report: those of its head, and those of the entries. -/
theorem mem_texts_payload {s : String} :
    s ∈ (Json.obj (inspectionPayload sensitive ip deviceId protocolVersion dps)).texts ↔
      (∃ t ∈ [deviceId, ip, protocolVersion], s = redact sensitive t) ∨
        ∃ p ∈ dps.items, s ∈ (dpEntry sensitive p).texts := by
  unfold inspectionPayload
  rw [Json.mem_texts_obj]
  simp only [List.mem_cons, List.not_mem_nil, or_false, exists_eq_or_imp, exists_eq_left,
    sanitizeValue, Json.texts, Json.textsList_eq, List.mem_flatMap, mem_entries]
  constructor
  · rintro (h | h | h | ⟨e, ⟨p, hp, rfl⟩, h⟩)
    · exact Or.inl (Or.inl h)
    · exact Or.inl (Or.inr (Or.inl h))
    · exact Or.inl (Or.inr (Or.inr h))
    · exact Or.inr ⟨p, hp, h⟩
  · rintro ((h | h | h) | ⟨p, hp, h⟩)
    · exact Or.inl h
    · exact Or.inr (Or.inl h)
    · exact Or.inr (Or.inr (Or.inl h))
    · exact Or.inr (Or.inr (Or.inr ⟨_, ⟨p, hp, rfl⟩, h⟩))

theorem mem_keys_report {k : String} :
    k ∈ (getItem (inspectionPayload sensitive ip deviceId protocolVersion dps) "dps").keys ↔
      ∃ p ∈ dps.items, k ∈ (dpEntry sensitive p).keys := by
  rw [getItem_dps, Json.mem_keys_arr]
  simp only [mem_entries]
  constructor
  · rintro ⟨e, ⟨p, hp, rfl⟩, h⟩
    exact ⟨p, hp, h⟩
  · rintro ⟨p, hp, h⟩
    exact ⟨_, ⟨p, hp, rfl⟩, h⟩

/-- A clean map of data points is reported without the key. -/
theorem hides_of_clean (h : IsKey key) (hclean : Clean key dps) :
    Hides key (inspectionPayload [key] ip deviceId protocolVersion dps) := by
  refine ⟨?_, ?_⟩
  · intro s hs
    rcases mem_texts_payload.mp hs with ⟨t, -, rfl⟩ | ⟨p, hp, hs⟩
    · exact redact_not_contains h t
    · rcases mem_texts_dpEntry.mp hs with rfl | hs
      · exact hclean p hp _ (List.mem_append_right _ (by simp [labels]))
      · exact sanitized_not_contains h p.2 s hs
  · intro k hk
    obtain ⟨p, hp, hk⟩ := mem_keys_report.mp hk
    rcases mem_keys_dpEntry.mp hk with hlabel | hkept
    · refine hclean p hp k (List.mem_append_right _ ?_)
      exact List.mem_append_left [valueType p.2] hlabel
    · exact hclean p hp k (List.mem_append_left _ hkept)

/-- A report without the key is one of clean data points. -/
theorem clean_of_hides (h : Hides key (inspectionPayload sensitive ip deviceId protocolVersion dps)) :
    Clean key dps := by
  intro p hp k hk
  rcases List.mem_append.mp hk with hkept | hlabel
  · exact h.keys k (mem_keys_report.mpr ⟨p, hp, mem_keys_dpEntry.mpr (Or.inr hkept)⟩)
  · have hsplit : k ∈ ["index", "type", "value"] ++ [valueType p.2] := hlabel
    rcases List.mem_append.mp hsplit with hfixed | htype
    · exact h.keys k (mem_keys_report.mpr ⟨p, hp, mem_keys_dpEntry.mpr (Or.inl hfixed)⟩)
    · rw [List.mem_singleton] at htype
      exact h.texts k (mem_texts_payload.mpr
        (Or.inr ⟨p, hp, mem_texts_dpEntry.mpr (Or.inl htype)⟩))

theorem valueType_mem (v : Json) :
    valueType v ∈ ["null", "bool", "int", "float", "str", "object", "array"] := by
  cases v <;> simp [valueType]

theorem length_labels (v : Json) : ∀ k ∈ labels v, k.length ≤ 6 := by
  intro k hk
  have hfixed : ∀ k ∈ ["index", "type", "value"], k.length ≤ 6 := by decide
  have htypes : ∀ k ∈ ["null", "bool", "int", "float", "str", "object", "array"], k.length ≤ 6 := by
    decide
  have hsplit : k ∈ ["index", "type", "value"] ++ [valueType v] := hk
  rcases List.mem_append.mp hsplit with hk | hk
  · exact hfixed k hk
  · rw [List.mem_singleton.mp hk]
    exact htypes _ (valueType_mem v)

/-- Of a key longer than a label, as the device configuration demands it, the kept keys alone
decide. -/
theorem clean_iff_of_long (hlong : 6 < key.length) :
    Clean key dps ↔ ∀ p ∈ dps.items, ∀ k ∈ keptKeys p.2, ¬ Contains k key := by
  constructor
  · intro h p hp k hk
    exact h p hp k (List.mem_append_left _ hk)
  · intro h p hp k hk
    rcases List.mem_append.mp hk with hkept | hlabel
    · exact h p hp k hkept
    · intro hcontains
      have hle : key.length ≤ k.length := List.IsInfix.length_le hcontains
      have hshort := length_labels p.2 k hlabel
      omega

end Report

/-! ## Main result -/

/-- **`inspect` does not print the key**, if no kept key of an object and no label contains it. -/
theorem hides_iff {key : String} (h : IsKey key) (ip deviceId protocolVersion : String)
    (dps : Dict Int Json) :
    Hides key (inspectionPayload [key] ip deviceId protocolVersion dps) ↔ Clean key dps :=
  ⟨clean_of_hides, hides_of_clean h⟩

def sampleKey : String := "0123456789abcdef"

theorem sampleKey_isKey : IsKey sampleKey := ⟨by decide, by simp [sampleKey, marker]⟩

/-- The key as a credential and inside a text. -/
def credentialDps : Dict Int Json := Dict.empty.set 3
  (.obj [("local_key", .str sampleKey), ("value", .str "prefix-0123456789abcdef-suffix")])

/-- Both are kept out of the report. -/
theorem hides_iff_credential :
    Hides sampleKey (inspectionPayload [sampleKey] "192.168.1.20" "tuya-device-1" "3.3"
      credentialDps) := by
  refine (hides_iff sampleKey_isKey _ _ _ credentialDps).mpr
    ((clean_iff_of_long (by decide)).mpr ?_)
  decide

/-- The key as the key of an object. -/
def keyedDps : Dict Int Json := Dict.empty.set 3 (.obj [(sampleKey, .bool true)])

/-- It is printed. -/
theorem keyedDps_shown : IsKey sampleKey ∧
    ¬ Hides sampleKey (inspectionPayload [sampleKey] "192.168.1.20" "tuya-device-1" "3.3"
      keyedDps) := by
  refine ⟨sampleKey_isKey, fun h => ?_⟩
  exact clean_of_hides h (3, .obj [(sampleKey, .bool true)]) (List.mem_singleton_self _) sampleKey
    (by decide) List.infix_rfl

end Linker.Cli
