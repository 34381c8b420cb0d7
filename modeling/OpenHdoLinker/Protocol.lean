import OpenHdoLinker.Models
import OpenHdoLinker.Lib.PyText
import OpenHdoLinker.Lib.PyTime

/-!
# The v1 message envelope

`Envelope` carries what `__post_init__` checks; `fromDict` and `fromJson` read one
from the wire.  Every failure of `fromDict` is a `ProtocolError` but one: a
timestamp whose UTC instant lies outside the calendar (`OverflowingTimestamp`).

    Raises (fun e => e.isA protocolError) (fromDict L data) ↔ ¬ OverflowingTimestamp L data
                                                                (fromDict_raises_iff)
-/

namespace Linker

open Py

/-- The standard library the wire format is read with: `json`, and
`datetime.fromisoformat`, which raises `ValueError` (here `none`) on other text. -/
structure PyLib extends JsonLib where
  fromisoformat : String → Option DateTime

/-! ## Definitions -/

def protocolVersion : Int := 1

/-- `class ProtocolError(ValueError)`. -/
def protocolErrorClass : ExcClass := .derived "ProtocolError" .ValueError

def protocolError (text : String) : PyErr := ⟨protocolErrorClass, text⟩

/-- `_TYPE`: `^[a-z][a-z0-9._-]{0,63}$`. -/
def isMessageType (s : String) : Bool := matchesName 0 s

/-- Validated, serializable v1 message. -/
structure Envelope where
  type : String
  source : String
  payload : JsonObj
  id : Uuid
  timestamp : DateTime
  correlationId : Option Uuid
  version : Int
  version_ok : version = protocolVersion
  type_ok : isMessageType type = true
  source_ok : source ≠ "" ∧ source.length ≤ 128
  timestamp_ok : timestamp.offset.isSome = true

namespace Envelope

/-- `Envelope(...)`, with `__post_init__`. -/
def init (type source : String) (payload : JsonObj) (id : Uuid) (timestamp : DateTime)
    (correlationId : Option Uuid) (version : Int) : Except PyErr Envelope :=
  if hv : version = protocolVersion then
    if ht : isMessageType type = true then
      if hs : source ≠ "" ∧ source.length ≤ 128 then
        if hts : timestamp.offset.isSome = true then
          .ok ⟨type, source, payload, id, timestamp, correlationId, version, hv, ht, hs, hts⟩
        else .error (protocolError "timestamp must include a timezone")
      else .error (protocolError "source must contain 1 to 128 characters")
    else .error (protocolError "type must be a lowercase domain name")
  else .error (protocolError s!"unsupported protocol version: {version}")

end Envelope

/-- `_uuid(value, field_name)`. -/
def uuidField (L : PyLib) (value : Json) (fieldName : String) : Except PyErr Uuid :=
  match Uuid.parse (L.str value) with
  | some u => .ok u
  | none => .error (protocolError s!"{fieldName} must be a UUID")

/-- `value.replace("Z", "+00:00")`. -/
def replaceZ (s : String) : String :=
  String.ofList (s.toList.flatMap fun c => if c = 'Z' then "+00:00".toList else [c])

/-- An aware datetime in UTC. -/
def ofUtc (t : UtcTime) : DateTime := ⟨t.instant, some 0, t.ok, by simp [offsetBound]⟩

/-- `_timestamp(value)`. -/
def timestampField (L : PyLib) (value : Json) : Except PyErr DateTime :=
  match value.str? with
  | none => .error (protocolError "ts must be an ISO-8601 string")
  | some text =>
    match L.fromisoformat (replaceZ text) with
    | none => .error (protocolError "ts must be an ISO-8601 string")
    | some result =>
      match result.offset with
      | none => .error (protocolError "ts must include a timezone")
      | some offset => ofUtc <$> result.astimezoneUtc offset

def allowedFields : List String := ["v", "id", "type", "ts", "source", "correlation_id", "payload"]

def requiredFields : List String := ["v", "id", "type", "ts", "source", "payload"]

/-- `", ".join(sorted(names))`. -/
def joinSorted (names : List String) : String :=
  ", ".intercalate (names.mergeSort fun a b => a ≤ b)

/-- `data[key]`. -/
def item (d : JsonObj) (key : String) : Except PyErr Json :=
  match d.lookup key with
  | some v => .ok v
  | none => .error ⟨.KeyError, s!"'{key}'"⟩

/-- `_uuid(correlation, "correlation_id")` of a correlation that is not `None`. -/
def correlationField (L : PyLib) (d : JsonObj) : Except PyErr (Option Uuid) :=
  match d.lookup "correlation_id" with
  | none => .ok none
  | some .null => .ok none
  | some v => some <$> uuidField L v "correlation_id"

def fromDict (L : PyLib) (data : Json) : Except PyErr Envelope :=
  match data.obj? with
  | none => .error (protocolError "envelope must be an object")
  | some d =>
    let keys := d.map Prod.fst
    let unknown := keys.filter (· ∉ allowedFields)
    if unknown ≠ [] then .error (protocolError s!"unknown envelope fields: {joinSorted unknown}")
    else
      let missing := requiredFields.filter (· ∉ keys)
      if missing ≠ [] then .error (protocolError s!"missing envelope fields: {joinSorted missing}")
      else do
        let v ← item d "v"
        if v.eqInt protocolVersion = false then
          .error (protocolError s!"unsupported protocol version: {L.str v}")
        else
          match (← item d "payload").obj? with
          | none => .error (protocolError "payload must be an object")
          | some payload =>
            match (← item d "type").str?, (← item d "source").str? with
            | some type, some source =>
              let id ← uuidField L (← item d "id") "id"
              let timestamp ← timestampField L (← item d "ts")
              let correlationId ← correlationField L d
              Envelope.init type source payload id timestamp correlationId protocolVersion
            | _, _ => .error (protocolError "type and source must be strings")

/-- What a WebSocket delivers: a text or a binary frame. -/
inductive Frame
  | text (s : String)
  | binary (b : Bytes)

def Frame.decode (L : PyLib) : Frame → Except JsonFailure Json
  | .text s => L.decodeStr s
  | .binary b => L.decode b

/-- `json.loads(value)`. -/
def Frame.loads (L : PyLib) : Frame → Except PyErr Json
  | .text s => L.loadsStr s
  | .binary b => L.loads b

/-- The classes `from_json` turns into a `ProtocolError`. -/
def jsonErrors : List ExcClass := [.TypeError, .JSONDecodeError]

def fromJson (L : PyLib) (value : Frame) : Except PyErr Envelope :=
  match value.loads L with
  | .ok data => fromDict L data
  | .error e =>
    if e.isAny jsonErrors then .error (protocolError "envelope must contain valid JSON")
    else .error e

/-! ## Which timestamps overflow -/

/-- `data` passes every check made before its timestamp is read. -/
def ReachesTimestamp (L : PyLib) (data ts : Json) : Prop :=
  ∃ d, data = .obj d ∧ (∀ k ∈ d.map Prod.fst, k ∈ allowedFields) ∧
    (∀ k ∈ requiredFields, k ∈ d.map Prod.fst) ∧
    (∃ v, d.lookup "v" = some v ∧ v.eqInt protocolVersion = true) ∧
    (∃ payload, d.lookup "payload" = some (.obj payload)) ∧
    (∃ type, d.lookup "type" = some (.str type)) ∧
    (∃ source, d.lookup "source" = some (.str source)) ∧
    (∃ id u, d.lookup "id" = some id ∧ Uuid.parse (L.str id) = some u) ∧
    d.lookup "ts" = some ts

/-- The timestamp is aware and its UTC instant lies outside the years 1 to 9999. -/
def Overflows (L : PyLib) (ts : Json) : Prop :=
  ∃ text t offset, ts = .str text ∧ L.fromisoformat (replaceZ text) = some t ∧
    t.offset = some offset ∧ ¬ InCalendar (t.wall - offset)

def OverflowingTimestamp (L : PyLib) (data : Json) : Prop :=
  ∃ ts, ReachesTimestamp L data ts ∧ Overflows L ts

/-! ## Lemmas -/

/-- `except ProtocolError` catches it. -/
def IsProtocolError (e : PyErr) : Prop := e.isA protocolErrorClass = true

theorem isProtocolError (text : String) : IsProtocolError (protocolError text) :=
  isA_self protocolErrorClass text

theorem overflowError_not_protocolError (text : String) :
    ¬ IsProtocolError ⟨.OverflowError, text⟩ := by
  show ¬ decide (protocolErrorClass ∈ ExcClass.mro .OverflowError) = true
  decide

theorem lookup_of_mem (d : JsonObj) (k : String) (h : k ∈ d.map Prod.fst) :
    ∃ v, d.lookup k = some v := by
  induction d with
  | nil => cases h
  | cons p d ih =>
    obtain ⟨k', v⟩ := p
    rw [List.lookup_cons]
    by_cases hk : k = k'
    · subst hk
      exact ⟨v, by simp⟩
    · rw [List.map_cons, List.mem_cons] at h
      rcases h with h | h
      · exact absurd h hk
      · simp only [beq_false_of_ne hk]
        exact ih h

theorem item_ok (d : JsonObj) (k : String) (v : Json) (h : d.lookup k = some v) :
    item d k = .ok v := by
  unfold item; rw [h]

theorem uuidField_ok (L : PyLib) (v : Json) (u : Uuid) (name : String)
    (h : Uuid.parse (L.str v) = some u) : uuidField L v name = .ok u := by
  unfold uuidField; rw [h]

theorem uuidField_raises (L : PyLib) (v : Json) (name : String) :
    Raises IsProtocolError (uuidField L v name) := by
  unfold uuidField
  split
  · exact raises_ok _
  · exact raises_error (isProtocolError _)

theorem correlationField_raises (L : PyLib) (d : JsonObj) :
    Raises IsProtocolError (correlationField L d) := by
  unfold correlationField
  split
  · exact raises_ok _
  · exact raises_ok _
  · exact raises_map _ (uuidField_raises L _ _)

theorem init_raises (type source : String) (payload : JsonObj) (id : Uuid) (ts : DateTime)
    (corr : Option Uuid) (version : Int) :
    Raises IsProtocolError (Envelope.init type source payload id ts corr version) := by
  unfold Envelope.init
  split
  · split
    · split
      · split
        · exact raises_ok _
        · exact raises_error (isProtocolError _)
      · exact raises_error (isProtocolError _)
    · exact raises_error (isProtocolError _)
  · exact raises_error (isProtocolError _)

theorem timestampField_overflow (L : PyLib) (ts : Json) (h : Overflows L ts) :
    timestampField L ts = .error ⟨.OverflowError, "date value out of range"⟩ := by
  obtain ⟨text, t, offset, rfl, ht, ho, hout⟩ := h
  unfold timestampField
  simp only [Json.str?, ht, ho, astimezoneUtc_error t offset hout]
  rfl

theorem timestampField_raises (L : PyLib) (ts : Json) (h : ¬ Overflows L ts) :
    Raises IsProtocolError (timestampField L ts) := by
  unfold timestampField
  split
  · exact raises_error (isProtocolError _)
  · next text htext =>
    split
    · exact raises_error (isProtocolError _)
    · next t ht =>
      split
      · exact raises_error (isProtocolError _)
      · next offset ho =>
        have hin : InCalendar (t.wall - offset) := by
          by_contra hout
          exact h ⟨text, t, offset, (Json.str?_eq_some ts text).mp htext, ht, ho, hout⟩
        rw [astimezoneUtc_ok t offset hin]
        exact raises_ok _

theorem filter_not_mem_nil (l m : List String) :
    l.filter (· ∉ m) = [] ↔ ∀ k ∈ l, k ∈ m := by
  rw [List.filter_eq_nil_iff]
  constructor
  · intro h k hk
    simpa using h k hk
  · intro h k hk
    simpa using h k hk

/-- The checks passed: what is left of `from_dict`. -/
theorem fromDict_run (L : PyLib) {d : JsonObj} {v id ts : Json} {payload : JsonObj}
    {type source : String} {u : Uuid} (hallowed : ∀ k ∈ d.map Prod.fst, k ∈ allowedFields)
    (hrequired : ∀ k ∈ requiredFields, k ∈ d.map Prod.fst) (hv : d.lookup "v" = some v)
    (hv1 : v.eqInt protocolVersion = true) (hpayload : d.lookup "payload" = some (.obj payload))
    (htype : d.lookup "type" = some (.str type)) (hsource : d.lookup "source" = some (.str source))
    (hid : d.lookup "id" = some id) (hu : Uuid.parse (L.str id) = some u)
    (hts : d.lookup "ts" = some ts) :
    fromDict L (.obj d) = (do
      let timestamp ← timestampField L ts
      let correlationId ← correlationField L d
      Envelope.init type source payload u timestamp correlationId protocolVersion) := by
  have hunknown := (filter_not_mem_nil _ _).mpr hallowed
  have hmissing := (filter_not_mem_nil _ _).mpr hrequired
  unfold fromDict
  simp only [Json.obj?, hunknown, hmissing, ne_eq, not_true_eq_false, if_false]
  rw [item_ok d "v" v hv]
  show (if v.eqInt protocolVersion = false then _ else _) = _
  rw [hv1, if_neg (by simp), item_ok d _ _ hpayload]
  show (item d "type" >>= _) = _
  rw [item_ok d _ _ htype]
  show (item d "source" >>= _) = _
  rw [item_ok d _ _ hsource]
  show (item d "id" >>= _) = _
  rw [item_ok d _ _ hid]
  show (uuidField L id "id" >>= _) = _
  rw [uuidField_ok L id u "id" hu]
  show (item d "ts" >>= _) = _
  rw [item_ok d _ _ hts]
  rfl

theorem fromDict_overflow (L : PyLib) (data : Json) (h : OverflowingTimestamp L data) :
    fromDict L data = .error ⟨.OverflowError, "date value out of range"⟩ := by
  obtain ⟨ts, ⟨d, rfl, hallowed, hrequired, ⟨v, hv, hv1⟩, ⟨payload, hpayload⟩, ⟨type, htype⟩,
    ⟨source, hsource⟩, ⟨id, u, hid, hu⟩, hts⟩, hover⟩ := h
  rw [fromDict_run L hallowed hrequired hv hv1 hpayload htype hsource hid hu hts,
    timestampField_overflow L ts hover]
  rfl

theorem item_raises_of_required (d : JsonObj) (hrequired : ∀ k ∈ requiredFields, k ∈ d.map Prod.fst)
    (k : String) (hk : k ∈ requiredFields) : ∃ v, d.lookup k = some v ∧ item d k = .ok v := by
  obtain ⟨v, hv⟩ := lookup_of_mem d k (hrequired k hk)
  exact ⟨v, hv, item_ok d k v hv⟩

/-- `from_dict` gets as far as the timestamp, or fails with a `ProtocolError` before. -/
theorem fromDict_reaches (L : PyLib) (data : Json) : (∃ ts, ReachesTimestamp L data ts) ∨
    ∃ text, fromDict L data = .error (protocolError text) := by
  generalize hr : fromDict L data = r
  unfold fromDict at hr
  split at hr
  · exact Or.inr ⟨_, hr.symm⟩
  · next d hd =>
    rw [Json.obj?_eq_some] at hd
    dsimp only at hr
    split at hr
    · exact Or.inr ⟨_, hr.symm⟩
    · next hunknown =>
      split at hr
      · exact Or.inr ⟨_, hr.symm⟩
      · next hmissing =>
        rw [not_not] at hunknown hmissing
        have hallowed := (filter_not_mem_nil _ _).mp hunknown
        have hrequired := (filter_not_mem_nil _ _).mp hmissing
        obtain ⟨v, hv, hvi⟩ := item_raises_of_required d hrequired "v" (by decide)
        obtain ⟨payload, hp, hpi⟩ := item_raises_of_required d hrequired "payload" (by decide)
        obtain ⟨type, ht, hti⟩ := item_raises_of_required d hrequired "type" (by decide)
        obtain ⟨source, hs, hsi⟩ := item_raises_of_required d hrequired "source" (by decide)
        obtain ⟨id, hid, hidi⟩ := item_raises_of_required d hrequired "id" (by decide)
        obtain ⟨ts, hts, htsi⟩ := item_raises_of_required d hrequired "ts" (by decide)
        rw [hvi, hpi, hti, hsi, hidi, htsi] at hr
        change (if v.eqInt protocolVersion = false then _ else _) = r at hr
        split at hr
        · exact Or.inr ⟨_, hr.symm⟩
        · next hv1 =>
          change (match payload.obj? with | none => _ | some payload => _) = r at hr
          split at hr
          · exact Or.inr ⟨_, hr.symm⟩
          · next payload' hpo =>
            change (match type.str?, source.str? with
              | some type, some source => _ | _, _ => _) = r at hr
            split at hr
            · next type' source' hto hso =>
              rw [Json.obj?_eq_some] at hpo
              rw [Json.str?_eq_some] at hto hso
              subst hpo hto hso
              change (uuidField L id "id" >>= _) = r at hr
              unfold uuidField at hr
              split at hr
              · next u hu =>
                exact Or.inl ⟨ts, d, hd, hallowed, hrequired, ⟨v, hv, Bool.of_not_eq_false hv1⟩,
                  ⟨payload', hp⟩, ⟨type', ht⟩, ⟨source', hs⟩, ⟨id, u, hid, hu⟩, hts⟩
              · exact Or.inr ⟨_, hr.symm⟩
            · exact Or.inr ⟨_, hr.symm⟩

theorem fromDict_raises (L : PyLib) (data : Json) (h : ¬ OverflowingTimestamp L data) :
    Raises IsProtocolError (fromDict L data) := by
  rcases fromDict_reaches L data with ⟨ts, hreach⟩ | ⟨text, herror⟩
  · have hno : ¬ Overflows L ts := fun hover => h ⟨ts, hreach, hover⟩
    obtain ⟨d, rfl, hallowed, hrequired, ⟨v, hv, hv1⟩, ⟨payload, hpayload⟩, ⟨type, htype⟩,
      ⟨source, hsource⟩, ⟨id, u, hid, hu⟩, hts⟩ := hreach
    rw [fromDict_run L hallowed hrequired hv hv1 hpayload htype hsource hid hu hts]
    refine raises_bind (timestampField_raises L ts hno) ?_
    intro t _
    refine raises_bind (correlationField_raises L d) ?_
    intro c _
    exact init_raises _ _ _ _ _ _ _
  · rw [herror]
    exact raises_error (isProtocolError text)

theorem Frame.decode_text (L : PyLib) (text : String) :
    (Frame.text text).decode L = L.decodeStr text := rfl

theorem Frame.loads_ok (L : PyLib) (value : Frame) (v : Json) (h : value.decode L = .ok v) :
    value.loads L = .ok v := by
  cases value with
  | text s => exact L.loadsStr_ok s v h
  | binary b => exact L.loads_ok b v h

theorem Frame.loads_error (L : PyLib) (value : Frame) (f : JsonFailure)
    (h : value.decode L = .error f) : value.loads L = .error f.err := by
  cases value with
  | text s => exact L.loadsStr_error s f h
  | binary b => exact L.loads_error b f h

theorem fromJson_ok (L : PyLib) {value : Frame} {data : Json} (h : value.decode L = .ok data) :
    fromJson L value = fromDict L data := by
  unfold fromJson
  rw [value.loads_ok L data h]

theorem fromJson_error (L : PyLib) {value : Frame} {f : JsonFailure}
    (h : value.decode L = .error f) : fromJson L value =
      if f.err.isAny jsonErrors then .error (protocolError "envelope must contain valid JSON")
      else .error f.err := by
  unfold fromJson
  rw [value.loads_error L f h]

/-- Of the failures of `json.loads`, `from_json` catches malformed text only. -/
theorem jsonErrors_iff (f : JsonFailure) : f.err.isAny jsonErrors = true ↔ f = .malformed := by
  cases f <;> decide

theorem protocolError_not_jsonFailure (f : JsonFailure) : ¬ IsProtocolError f.err := by
  cases f <;> (unfold IsProtocolError protocolErrorClass; decide)

/-! ## Main results -/

/-- **`from_dict` fails with `ProtocolError` only**, unless the timestamp of an otherwise
valid envelope overflows. -/
theorem fromDict_raises_iff (L : PyLib) (data : Json) :
    Raises IsProtocolError (fromDict L data) ↔ ¬ OverflowingTimestamp L data := by
  constructor
  · intro h hover
    exact overflowError_not_protocolError _ (h _ (fromDict_overflow L data hover))
  · intro h
    exact fromDict_raises L data h

/-- The frames whose failure `from_json` reports as a `ProtocolError`: decoding fails, if it
does, with malformed text, and the timestamp does not overflow. -/
def Frame.Reported (L : PyLib) (value : Frame) : Prop :=
  (∀ f, value.decode L = .error f → f = .malformed) ∧
    ∀ data, value.decode L = .ok data → ¬ OverflowingTimestamp L data

/-- **`from_json` fails with `ProtocolError` only**, exactly on those frames. -/
theorem fromJson_raises_iff (L : PyLib) (value : Frame) :
    Raises IsProtocolError (fromJson L value) ↔ value.Reported L := by
  cases hd : value.decode L with
  | ok data =>
    rw [fromJson_ok L hd, fromDict_raises_iff]
    constructor
    · intro h
      refine ⟨?_, ?_⟩
      · intro f hf
        rw [hd] at hf
        cases hf
      · intro data' hdata
        rw [hd] at hdata
        cases hdata
        exact h
    · intro h
      exact h.2 data hd
  | error f =>
    by_cases hm : f = .malformed
    · rw [fromJson_error L hd, if_pos ((jsonErrors_iff f).mpr hm)]
      refine iff_of_true (raises_error (isProtocolError _)) ⟨?_, ?_⟩
      · intro f' hf'
        rw [hd] at hf'
        cases hf'
        exact hm
      · intro data hdata
        rw [hd] at hdata
        cases hdata
    · rw [fromJson_error L hd, if_neg (fun h => hm ((jsonErrors_iff f).mp h))]
      refine iff_of_false ?_ ?_
      · intro h
        exact protocolError_not_jsonFailure f (h _ rfl)
      · intro h
        exact hm (h.1 f hd)

end Linker
