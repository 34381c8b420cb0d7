import OpenHdoLinker.Lib.JsonText
import OpenHdoLinker.Protocol

/-!
# Envelopes on the wire

`Envelope.toJson` beside `fromJson`: what an envelope writes is read back as the same
envelope, and what was read is written and read without change.  The timestamp goes out in
UTC with a `Z` for its offset, and comes in with the `Z` replaced.

`json` and `datetime.fromisoformat` are taken to invert `dumps` and `isoformat` on what the
envelope writes (`Inverted`).

    InCalendar e.instant → Inverted L floatRepr e → ReadsAsWritten L floatRepr e
    fromJson L t = .ok e → Inverted L floatRepr e → WritesAsRead L floatRepr e
                                                                (envelopes_round_trip)
-/

namespace Linker

open Py

/-! ## Algorithm -/

/-- `t.isoformat().replace("+00:00", "Z")`. -/
def wireTime (t : UtcTime) : String :=
  String.ofList (replaceAll "+00:00".toList ['Z'] t.isoformat.toList)

/-- The dictionary of an envelope. -/
def wireFields (version : Int) (id : Uuid) (type : String) (t : UtcTime) (source : String)
    (payload : JsonObj) (correlationId : Option Uuid) : JsonObj :=
  [("v", .int version), ("id", .str id.str), ("type", .str type), ("ts", .str (wireTime t)),
    ("source", .str source), ("payload", .obj payload)] ++
    (correlationId.map fun c => ("correlation_id", Json.str c.str)).toList

namespace Envelope

/-- The instant of the timestamp. -/
def instant (e : Envelope) : Int := e.timestamp.wall - e.timestamp.offset.get e.timestamp_ok

/-- `self.timestamp.astimezone(timezone.utc)`. -/
def utcTimestamp (e : Envelope) : Except PyErr UtcTime :=
  e.timestamp.astimezoneUtc (e.timestamp.offset.get e.timestamp_ok)

def toDict (e : Envelope) : Except PyErr JsonObj := do
  let t ← e.utcTimestamp
  .ok (wireFields e.version e.id e.type t e.source e.payload e.correlationId)

def toJson (floatRepr : ℚ → List Char) (e : Envelope) : Except PyErr String := do
  let d ← e.toDict
  .ok (String.ofList (dumps floatRepr (.obj d)))

end Envelope

/-! ## Statement -/

section Statement

variable (L : PyLib) (floatRepr : ℚ → List Char)

/-- `json.loads` inverts `json.dumps`, and `fromisoformat` inverts `isoformat`, on what the envelope
writes. -/
structure Inverted (e : Envelope) : Prop where
  json : ∀ d, e.toDict = .ok d → L.ReadsTextBack floatRepr (.obj d)
  time : ∀ t, e.utcTimestamp = .ok t → L.fromisoformat t.isoformat = some (ofUtc t)

/-- The same envelope; its payload is the same Python value. -/
structure SameEnvelope (a b : Envelope) : Prop where
  version : b.version = a.version
  id : b.id = a.id
  type : b.type = a.type
  source : b.source = a.source
  payload : Json.Same (.obj a.payload) (.obj b.payload)
  correlationId : b.correlationId = a.correlationId
  instant : b.instant = a.instant

/-- The envelope is written, and its text read as the same envelope. -/
def ReadsAsWritten (e : Envelope) : Prop :=
  ∃ text e', e.toJson floatRepr = .ok text ∧ fromJson L (.text text) = .ok e' ∧ SameEnvelope e e'

/-- The envelope is written, its text is accepted, and written the same again. -/
def WritesAsRead (e : Envelope) : Prop :=
  ∃ text e', e.toJson floatRepr = .ok text ∧ fromJson L (.text text) = .ok e' ∧
    e'.toJson floatRepr = .ok text

end Statement

/-! ## Lemmas -/

/-! ### The timestamp -/

theorem isoChar_ne {c : Char} (h : IsIsoChar c) : c ≠ 'Z' ∧ c ≠ '+' := by
  rcases h with h | h
  · constructor
    · rintro rfl
      exact absurd h (by decide)
    · rintro rfl
      exact absurd h (by decide)
  · simp only [List.mem_cons, List.not_mem_nil, or_false] at h
    rcases h with rfl | rfl | rfl | rfl <;> decide

def utcOffset : List Char := ['+', '0', '0', ':', '0', '0']

theorem utcOffset_eq : "+00:00".toList = utcOffset := by decide

/-- The offset of a UTC time is written as `Z`. -/
theorem wireTime_eq (t : UtcTime) : (wireTime t).toList = t.isoLocal ++ ['Z'] := by
  have hplus : '+' ∉ t.isoLocal := fun h => (isoChar_ne (t.isoLocal_isoChar _ h)).2 rfl
  have htext : t.isoformat.toList = t.isoLocal ++ utcOffset := by
    unfold UtcTime.isoformat
    rw [utcOffset_eq, String.toList_ofList]
  unfold wireTime
  rw [String.toList_ofList, htext, utcOffset_eq]
  refine (replaceAll_append ['0', '0', ':', '0', '0'] ['Z'] hplus utcOffset).trans ?_
  exact congrArg (t.isoLocal ++ ·) (replaceAll_self (show utcOffset ≠ [] by decide) ['Z'])

/-- Replacing the `Z` gives the text of `isoformat` back. -/
theorem replaceZ_wireTime (t : UtcTime) : replaceZ (wireTime t) = t.isoformat := by
  have hlocal : t.isoLocal.flatMap (fun c => if c = 'Z' then utcOffset else [c]) = t.isoLocal := by
    rw [List.flatMap_congr fun c hc => if_neg (isoChar_ne (t.isoLocal_isoChar c hc)).1]
    exact List.flatMap_singleton' t.isoLocal
  unfold replaceZ UtcTime.isoformat
  rw [wireTime_eq, utcOffset_eq, List.flatMap_append, hlocal]
  rfl

/-! ### Reading a dictionary -/

section Reading

variable {L : PyLib} {d : JsonObj} {e : Envelope}

/-- A dictionary with the fields of an envelope is read as that envelope. -/
theorem fromDict_ok {id : Uuid} {ts : Json} {t : DateTime} {type source : String}
    {payload : JsonObj} {correlationId : Option Uuid} (hallowed : ∀ k ∈ d.map Prod.fst, k ∈ allowedFields)
    (hv : d.lookup "v" = some (.int protocolVersion)) (hid : d.lookup "id" = some (.str id.str))
    (htype : d.lookup "type" = some (.str type)) (hts : d.lookup "ts" = some ts)
    (ht : timestampField L ts = .ok t) (hsource : d.lookup "source" = some (.str source))
    (hpayload : d.lookup "payload" = some (.obj payload))
    (hcorr : correlationField L d = .ok correlationId) :
    fromDict L (.obj d) = Envelope.init type source payload id t correlationId protocolVersion := by
  have hmem : ∀ k v, d.lookup k = some v → k ∈ d.map Prod.fst := fun k v h =>
    (Dict.lookup_isSome_iff d k).mp (Option.isSome_of_eq_some h)
  have hrequired : ∀ k ∈ requiredFields, k ∈ d.map Prod.fst := by
    intro k hk
    simp only [requiredFields, List.mem_cons, List.not_mem_nil, or_false] at hk
    rcases hk with rfl | rfl | rfl | rfl | rfl | rfl
    · exact hmem _ _ hv
    · exact hmem _ _ hid
    · exact hmem _ _ htype
    · exact hmem _ _ hts
    · exact hmem _ _ hsource
    · exact hmem _ _ hpayload
  have huuid : Uuid.parse (L.str (.str id.str)) = some id := by
    rw [L.str_str]
    exact id.parse_str
  rw [fromDict_run L hallowed hrequired hv (by decide) hpayload htype hsource hid huuid hts, ht]
  show (correlationField L d >>= _) = _
  rw [hcorr]
  rfl

/-- What was built has passed the checks. -/
theorem init_eq_ok {type source : String} {payload : JsonObj} {id : Uuid} {t : DateTime}
    {correlationId : Option Uuid} {version : Int}
    (h : Envelope.init type source payload id t correlationId version = .ok e) :
    (isMessageType type = true ∧ source ≠ "" ∧ source.length ≤ 128) ∧
      e.payload = payload ∧ e.timestamp = t := by
  unfold Envelope.init at h
  split at h
  · split at h
    · next htype =>
      split at h
      · next hsource =>
        split at h
        · cases h
          exact ⟨⟨htype, hsource⟩, rfl, rfl⟩
        · cases h
      · cases h
    · cases h
  · cases h

theorem timestampField_eq_ok {ts : Json} {t : DateTime} (h : timestampField L ts = .ok t) :
    ∃ u, t = ofUtc u := by
  unfold timestampField at h
  split at h
  · cases h
  · split at h
    · cases h
    · split at h
      · cases h
      · next r _ _ offset _ =>
        cases hr : r.astimezoneUtc offset with
        | ok u =>
          rw [hr] at h
          cases h
          exact ⟨u, rfl⟩
        | error e =>
          rw [hr] at h
          cases h

/-- An envelope that was read has the payload of its text, and its timestamp is in UTC. -/
theorem fromDict_eq_ok {data : Json} (h : fromDict L data = .ok e) :
    ∃ d, data = .obj d ∧ d.lookup "payload" = some (.obj e.payload) ∧
      ∃ t : UtcTime, e.timestamp = ofUtc t := by
  rcases fromDict_reaches L data with ⟨ts, d, rfl, hallowed, hrequired, ⟨v, hv, hv1⟩,
    ⟨payload, hpayload⟩, ⟨type, htype⟩, ⟨source, hsource⟩, ⟨id, u, hid, hu⟩, hts⟩ | ⟨text, herror⟩
  · rw [fromDict_run L hallowed hrequired hv hv1 hpayload htype hsource hid hu hts] at h
    obtain ⟨t, ht, h⟩ := bind_eq_ok h
    obtain ⟨corr, -, h⟩ := bind_eq_ok h
    obtain ⟨-, hsame, htime⟩ := init_eq_ok h
    obtain ⟨w, rfl⟩ := timestampField_eq_ok ht
    refine ⟨d, rfl, ?_, w, htime⟩
    rw [hsame]
    exact hpayload
  · rw [herror] at h
    cases h

theorem init_ok {type source : String} {t : DateTime} (payload : JsonObj) (id : Uuid)
    (correlationId : Option Uuid) (htype : isMessageType type = true)
    (hsource : source ≠ "" ∧ source.length ≤ 128) (ht : t.offset.isSome = true) :
    Envelope.init type source payload id t correlationId protocolVersion =
      .ok ⟨type, source, payload, id, t, correlationId, protocolVersion, rfl, htype, hsource, ht⟩ := by
  unfold Envelope.init
  rw [dif_pos rfl, dif_pos htype, dif_pos hsource, dif_pos ht]

/-- The text of a UTC time is read as that time. -/
theorem timestampField_wireTime {t : UtcTime} (h : L.fromisoformat t.isoformat = some (ofUtc t)) :
    timestampField L (.str (wireTime t)) = .ok (ofUtc t) := by
  have hzero : t.instant - 0 = t.instant := Int.sub_zero _
  have hin : InCalendar ((ofUtc t).wall - 0) := hzero.symm ▸ t.ok
  unfold timestampField
  simp only [Json.str?]
  rw [replaceZ_wireTime, h]
  show ofUtc <$> (ofUtc t).astimezoneUtc 0 = _
  rw [astimezoneUtc_ok _ _ hin]
  exact congrArg (fun u => Except.ok (ofUtc u)) (UtcTime.ext_instant hzero)

end Reading

/-! ### Writing and reading an envelope -/

section RoundTrip

variable {L : PyLib} {floatRepr : ℚ → List Char} {e : Envelope} {t : UtcTime}

theorem toDict_eq (ht : e.utcTimestamp = .ok t) : e.toDict =
    .ok (wireFields e.version e.id e.type t e.source e.payload e.correlationId) := by
  unfold Envelope.toDict
  rw [ht]
  rfl

theorem toJson_eq (ht : e.utcTimestamp = .ok t) : e.toJson floatRepr =
    .ok (String.ofList (dumps floatRepr
      (.obj (wireFields e.version e.id e.type t e.source e.payload e.correlationId)))) := by
  unfold Envelope.toJson
  rw [toDict_eq ht]
  rfl

theorem wireFields_allowed (version : Int) (id : Uuid) (type : String) (t : UtcTime)
    (source : String) (payload : JsonObj) (correlationId : Option Uuid) :
    ∀ k ∈ (wireFields version id type t source payload correlationId).map Prod.fst,
      k ∈ allowedFields := by
  cases correlationId with
  | none => exact show ∀ k ∈ ["v", "id", "type", "ts", "source", "payload"], k ∈ allowedFields by decide
  | some c =>
    exact show ∀ k ∈ ["v", "id", "type", "ts", "source", "payload", "correlation_id"],
      k ∈ allowedFields by decide

/-- What an envelope writes is read as the same envelope. -/
theorem reads_as_written (ht : e.utcTimestamp = .ok t) (hi : Inverted L floatRepr e) :
    ReadsAsWritten L floatRepr e := by
  obtain ⟨w, hdecode, hsame⟩ := hi.json _ (toDict_eq ht)
  obtain ⟨r, rfl, -⟩ := hsame.obj_left
  have hscalar : ∀ k s, (wireFields e.version e.id e.type t e.source e.payload
      e.correlationId).lookup k = some (.str s) → r.lookup k = some (.str s) := by
    intro k s hk
    obtain ⟨w, hw, hs⟩ := hsame.lookup hk
    cases hs
    exact hw
  have hallowed : ∀ k ∈ r.map Prod.fst, k ∈ allowedFields := by
    intro k hk
    refine wireFields_allowed e.version e.id e.type t e.source e.payload e.correlationId k ?_
    by_contra hno
    have hnone := hsame.lookup_none (Dict.lookup_none_of_not_mem hno)
    exact absurd ((Dict.lookup_isSome_iff r k).mpr hk) (by rw [hnone]; decide)
  have hv : r.lookup "v" = some (.int protocolVersion) := by
    obtain ⟨w, hw, hs⟩ := hsame.lookup (k := "v") (v := .int e.version) rfl
    rw [e.version_ok] at hs
    cases hs
    exact hw
  obtain ⟨w, hw, hpayload⟩ := hsame.lookup (k := "payload") (v := .obj e.payload) rfl
  obtain ⟨payload, rfl, -⟩ := hpayload.obj_left
  have hcorr : correlationField L r = .ok e.correlationId := by
    unfold correlationField
    cases hc : e.correlationId with
    | none =>
      rw [hsame.lookup_none (show _ = none by rw [hc]; rfl)]
    | some c =>
      rw [hscalar "correlation_id" c.str (by rw [hc]; rfl)]
      show some <$> uuidField L (.str c.str) "correlation_id" = _
      rw [uuidField_ok L _ c _ (by rw [L.str_str]; exact c.parse_str)]
      rfl
  have hread := fromDict_ok hallowed hv (hscalar "id" _ rfl) (hscalar "type" _ rfl)
    (hscalar "ts" _ rfl) (timestampField_wireTime (hi.time t ht)) (hscalar "source" _ rfl) hw hcorr
  rw [init_ok payload e.id e.correlationId e.type_ok e.source_ok rfl] at hread
  refine ⟨_, ⟨e.type, e.source, payload, e.id, ofUtc t, e.correlationId, protocolVersion, rfl,
    e.type_ok, e.source_ok, rfl⟩, toJson_eq ht, ?_,
    ⟨e.version_ok.symm, rfl, rfl, rfl, hpayload, rfl, ?_⟩⟩
  · exact (fromJson_ok L ((Frame.decode_text L _).trans hdecode)).trans hread
  · have hinstant : t.instant = e.instant := by
      unfold Envelope.utcTimestamp DateTime.astimezoneUtc at ht
      split at ht
      · cases ht
        rfl
      · cases ht
    show t.instant - 0 = e.instant
    rw [hinstant]
    exact Int.sub_zero _

/-- The same envelope is written the same. -/
theorem SameEnvelope.toJson_eq {e' : Envelope} (h : SameEnvelope e e')
    (hk : Json.KeysOnce (.obj e.payload)) : e'.toJson floatRepr = e.toJson floatRepr := by
  have hutc : e'.utcTimestamp = e.utcTimestamp := by
    have hinstant := h.instant
    unfold Envelope.instant at hinstant
    unfold Envelope.utcTimestamp DateTime.astimezoneUtc
    simp only [hinstant]
  have hpayload := h.payload.dumps_eq floatRepr hk
  unfold Envelope.toJson Envelope.toDict
  rw [hutc, h.version, h.id, h.type, h.source, h.correlationId]
  cases e.utcTimestamp with
  | error err => rfl
  | ok t =>
    show Except.ok (String.ofList (dumps floatRepr (.obj _))) = Except.ok (String.ofList (dumps floatRepr (.obj _)))
    rw [dumps, dumps, dumpsItems_eq_map, dumpsItems_eq_map]
    unfold wireFields
    simp only [List.map_append, List.map_cons, hpayload]

end RoundTrip

/-! ## Main result -/

/-- **Envelopes round-trip.**  An envelope whose instant is in the calendar is written and read as
the same envelope; one that was read, from whatever text, is written, accepted again and written
the same.  The dictionaries that `json.loads` returns have each key once. -/
theorem envelopes_round_trip (L : PyLib) (floatRepr : ℚ → List Char) :
    (∀ e : Envelope, InCalendar e.instant → Inverted L floatRepr e →
      ReadsAsWritten L floatRepr e) ∧
    (∀ (raw : Frame) (e : Envelope), (∀ data, raw.decode L = .ok data → data.KeysOnce) →
      fromJson L raw = .ok e → Inverted L floatRepr e → WritesAsRead L floatRepr e) := by
  constructor
  · intro e hin hi
    exact reads_as_written (astimezoneUtc_ok _ _ hin) hi
  · intro raw e hkeys hread hi
    have hdata : ∃ data, raw.decode L = .ok data ∧ fromDict L data = .ok e := by
      cases hd : raw.decode L with
      | ok data =>
        rw [fromJson_ok L hd] at hread
        exact ⟨data, rfl, hread⟩
      | error f =>
        rw [fromJson_error L hd] at hread
        split at hread <;> cases hread
    obtain ⟨data, hdecode, hdict⟩ := hdata
    obtain ⟨d, rfl, hpayload, u, hu⟩ := fromDict_eq_ok hdict
    have hk : Json.KeysOnce (.obj e.payload) := by
      cases hkeys _ hdecode with
      | obj hd h => exact h _ _ hpayload
    have hin : InCalendar e.instant := by
      have hi : e.instant = u.instant := by
        unfold Envelope.instant
        simp only [hu]
        exact Int.sub_zero _
      rw [hi]
      exact u.ok
    obtain ⟨text, e', hwrite, hread', hsame⟩ := reads_as_written (astimezoneUtc_ok _ _ hin) hi
    exact ⟨text, e', hwrite, hread', (hsame.toJson_eq hk).trans hwrite⟩

/-! ## A heartbeat -/

theorem inCalendar_zero : InCalendar 0 := by decide

theorem one_lt_uuid : 1 < 2 ^ 128 := by omega

theorem two_lt_uuid : 2 < 2 ^ 128 := by omega

theorem first_version : (1 : Int) = protocolVersion := rfl

theorem linker_source : "linker" ≠ "" ∧ "linker".length ≤ 128 := by decide

def epoch : UtcTime := ⟨0, inCalendar_zero⟩

def heartbeat : Envelope where
  type := "link.heartbeat"
  source := "linker"
  payload := [("ok", .bool true)]
  id := ⟨1, one_lt_uuid⟩
  timestamp := ofUtc epoch
  correlationId := some ⟨2, two_lt_uuid⟩
  version := 1
  version_ok := first_version
  type_ok := rfl
  source_ok := linker_source
  timestamp_ok := rfl

def heartbeatFields : JsonObj :=
  wireFields 1 heartbeat.id heartbeat.type epoch heartbeat.source heartbeat.payload
    heartbeat.correlationId

def noFloat (_ : ℚ) : List Char := []

def heartbeatText : String := String.ofList (dumps noFloat (.obj heartbeatFields))

/-- `json.loads` and `fromisoformat` on the text of the heartbeat. -/
def heartbeatLib : PyLib where
  toJsonLib := { JsonLib.ofDecode fun _ => .error .malformed with
    decodeStr := fun text =>
      if text = heartbeatText then .ok (.obj heartbeatFields) else .error .malformed }
  fromisoformat text := if text = epoch.isoformat then some (ofUtc epoch) else none

theorem heartbeatFields_keysOnce : Json.KeysOnce (.obj heartbeatFields) := by
  have hkeys : heartbeatFields.map Prod.fst =
      ["v", "id", "type", "ts", "source", "payload", "correlation_id"] := rfl
  refine .of_items (hkeys ▸ by decide) ?_
  intro p hp
  simp only [heartbeatFields, wireFields, heartbeat, List.mem_append, List.mem_cons,
    List.not_mem_nil, or_false, Option.map_some, Option.toList_some] at hp
  rcases hp with (rfl | rfl | rfl | rfl | rfl | rfl) | rfl
  · exact .int _
  · exact .str _
  · exact .str _
  · exact .str _
  · exact .str _
  · exact .of_items (by decide) fun q hq => by
      cases List.mem_singleton.mp hq
      exact .bool _
  · exact .str _

theorem heartbeat_utc : heartbeat.utcTimestamp = .ok epoch := by decide

theorem heartbeatLib_decodes :
    heartbeatLib.decodeStr heartbeatText = .ok (.obj heartbeatFields) := by
  unfold heartbeatLib
  dsimp only
  rw [if_pos rfl]

theorem heartbeatLib_reads : heartbeatLib.fromisoformat epoch.isoformat = some (ofUtc epoch) := by
  unfold heartbeatLib
  dsimp only
  rw [if_pos rfl]

theorem heartbeat_inverted : Inverted heartbeatLib noFloat heartbeat := by
  constructor
  · intro d hd
    have hfields : d = heartbeatFields :=
      (Except.ok.inj ((toDict_eq heartbeat_utc).symm.trans hd)).symm
    rw [hfields]
    exact ⟨_, heartbeatLib_decodes, .of_keysOnce heartbeatFields_keysOnce⟩
  · intro t ht
    rw [heartbeat_utc] at ht
    cases ht
    exact heartbeatLib_reads

theorem heartbeat_correlation :
    correlationField heartbeatLib heartbeatFields = .ok heartbeat.correlationId := by
  have hlookup : heartbeatFields.lookup "correlation_id" =
      some (.str (Uuid.str ⟨2, two_lt_uuid⟩)) := rfl
  unfold correlationField
  rw [hlookup]
  dsimp only
  rw [uuidField_ok heartbeatLib _ ⟨2, two_lt_uuid⟩ _ (by
    rw [heartbeatLib.str_str]
    exact Uuid.parse_str _)]
  rfl

theorem heartbeat_read : fromJson heartbeatLib (.text heartbeatText) = .ok heartbeat := by
  have hdict : fromDict heartbeatLib (.obj heartbeatFields) = Envelope.init heartbeat.type
      heartbeat.source heartbeat.payload heartbeat.id (ofUtc epoch) heartbeat.correlationId
      protocolVersion :=
    fromDict_ok (wireFields_allowed _ _ _ _ _ _ _) rfl rfl rfl rfl
      (timestampField_wireTime heartbeatLib_reads) rfl rfl heartbeat_correlation
  rw [fromJson_ok heartbeatLib ((Frame.decode_text _ _).trans heartbeatLib_decodes)]
  exact hdict.trans (init_ok _ _ _ heartbeat.type_ok heartbeat.source_ok rfl)

/-- A heartbeat is sent and read. -/
theorem envelopes_round_trip_heartbeat : ReadsAsWritten heartbeatLib noFloat heartbeat ∧
    WritesAsRead heartbeatLib noFloat heartbeat := by
  refine ⟨(envelopes_round_trip heartbeatLib noFloat).1 heartbeat (by decide) heartbeat_inverted,
    (envelopes_round_trip heartbeatLib noFloat).2 (.text heartbeatText) heartbeat ?_ heartbeat_read
      heartbeat_inverted⟩
  intro data hdata
  rw [Frame.decode_text, heartbeatLib_decodes] at hdata
  cases hdata
  exact heartbeatFields_keysOnce

end Linker
