import OpenHdoLinker.Wire

/-!
# What is taken for an envelope

`from_dict` reads a dictionary field by field.  It compares the version before it
looks at its type, and passes `str` of an id to `UUID`, so it takes fields of other
types (`Coerced`) where the constructor would refuse them.  It refuses everything
else that is no v1 envelope with a `ProtocolError`, unless the timestamp overflows.

    AcceptsExactly L data ↔ ¬ OverflowingTimestamp L data ∧ ¬ CoercedEnvelope L data
                                                              (acceptsExactly_iff)
-/

namespace Linker.Envelopes

open Py

/-! ## Statement -/

section Statement

variable (L : PyLib)

/-- An ISO-8601 text with a timezone, whose UTC instant is in the calendar. -/
def IsTimestamp (ts : Json) : Prop :=
  ∃ text t offset, ts = .str text ∧ L.fromisoformat (replaceZ text) = some t ∧
    t.offset = some offset ∧ InCalendar (t.wall - offset)

/-- The fields of an envelope, up to what passes for its version and for an id. -/
structure Fields (IsVersion IsId : Json → Prop) (d : JsonObj) : Prop where
  allowed : ∀ k ∈ d.map Prod.fst, k ∈ allowedFields
  required : ∀ k ∈ requiredFields, k ∈ d.map Prod.fst
  version : ∃ v, d.lookup "v" = some v ∧ IsVersion v
  id : ∃ id, d.lookup "id" = some id ∧ IsId id
  correlationId : ∀ c, d.lookup "correlation_id" = some c → c ≠ .null → IsId c
  timestamp : ∃ ts, d.lookup "ts" = some ts ∧ IsTimestamp L ts
  type : ∃ type, d.lookup "type" = some (.str type) ∧ isMessageType type = true
  source : ∃ source, d.lookup "source" = some (.str source) ∧ source ≠ "" ∧ source.length ≤ 128
  payload : ∃ payload, d.lookup "payload" = some (.obj payload)

/-- `type(v) is int and v == 1`. -/
def IsOne (v : Json) : Prop := v = .int protocolVersion

/-- A string that `UUID` reads. -/
def IsUuidText (v : Json) : Prop := ∃ text u, v = .str text ∧ Uuid.parse text = some u

/-- A v1 envelope. -/
def IsV1Envelope (data : Json) : Prop := ∃ d, data = .obj d ∧ Fields L IsOne IsUuidText d

/-- `from_dict` takes v1 envelopes, and fails on all else with a `ProtocolError`. -/
def AcceptsExactly (data : Json) : Prop :=
  ((∃ e, fromDict L data = .ok e) ↔ IsV1Envelope L data) ∧
    Raises IsProtocolError (fromDict L data)

/-- `v == 1`. -/
def EqualsOne (v : Json) : Prop := v.eqInt protocolVersion = true

/-- `UUID(str(value))` does not fail. -/
def ReadsAsUuid (v : Json) : Prop := ∃ u, Uuid.parse (L.str v) = some u

/-- The version is not an integer, or an id is not a string. -/
def Coerced (d : JsonObj) : Prop :=
  (d.lookup "v" = some (.bool true) ∨ d.lookup "v" = some (.float (.finite 1))) ∨
    (∃ id, d.lookup "id" = some id ∧ id.str? = none) ∨
    ∃ c, d.lookup "correlation_id" = some c ∧ c ≠ .null ∧ c.str? = none

/-- An envelope but for the types of its version and its ids. -/
def CoercedEnvelope (data : Json) : Prop :=
  ∃ d, data = .obj d ∧ Fields L EqualsOne (ReadsAsUuid L) d ∧ Coerced d

end Statement

/-! ## Lemmas -/

section Values

variable {L : PyLib}

theorem equalsOne_iff (v : Json) :
    EqualsOne v ↔ v = .bool true ∨ IsOne v ∨ v = .float (.finite 1) := by
  unfold EqualsOne IsOne protocolVersion
  cases v with
  | bool b => cases b <;> simp [Json.eqInt]
  | int i => simp [Json.eqInt]
  | float x => cases x <;> simp [Json.eqInt]
  | _ => simp [Json.eqInt]

theorem readsAsUuid_str (text : String) : ReadsAsUuid L (.str text) ↔ IsUuidText (.str text) := by
  unfold ReadsAsUuid IsUuidText
  rw [L.str_str]
  constructor
  · rintro ⟨u, hu⟩
    exact ⟨text, u, rfl, hu⟩
  · rintro ⟨_, u, ⟨⟩, hu⟩
    exact ⟨u, hu⟩

theorem readsAsUuid_of_text {v : Json} (h : IsUuidText v) : ReadsAsUuid L v := by
  obtain ⟨text, u, rfl, hu⟩ := h
  exact (readsAsUuid_str text).mpr ⟨text, u, rfl, hu⟩

theorem isUuidText_of_reads {v : Json} (h : ReadsAsUuid L v) (hstr : v.str? ≠ none) :
    IsUuidText v := by
  obtain ⟨text, htext⟩ := Option.ne_none_iff_exists'.mp hstr
  rw [Json.str?_eq_some] at htext
  subst htext
  exact (readsAsUuid_str text).mp h

theorem str?_of_text {v : Json} (h : IsUuidText v) : v.str? ≠ none := by
  obtain ⟨text, u, rfl, -⟩ := h
  exact Option.some_ne_none text

end Values

/-! ### Strict and loose fields -/

section Loose

variable {L : PyLib} {d : JsonObj}

theorem Fields.loosen (h : Fields L IsOne IsUuidText d) :
    Fields L EqualsOne (ReadsAsUuid L) d := by
  obtain ⟨v, hv, hone⟩ := h.version
  obtain ⟨id, hid, htext⟩ := h.id
  exact { h with
    version := ⟨v, hv, (equalsOne_iff v).mpr (Or.inr (Or.inl hone))⟩
    id := ⟨id, hid, readsAsUuid_of_text htext⟩
    correlationId := fun c hc hnull => readsAsUuid_of_text (h.correlationId c hc hnull) }

theorem Fields.not_coerced (h : Fields L IsOne IsUuidText d) : ¬ Coerced d := by
  obtain ⟨v, hv, rfl⟩ := h.version
  obtain ⟨id, hid, htext⟩ := h.id
  rintro ((hbad | hbad) | ⟨id', hid', hbad⟩ | ⟨c, hc, hnull, hbad⟩)
  · rw [hv] at hbad
    cases hbad
  · rw [hv] at hbad
    cases hbad
  · rw [hid] at hid'
    cases hid'
    exact str?_of_text htext hbad
  · exact str?_of_text (h.correlationId c hc hnull) hbad

theorem Fields.strict (h : Fields L EqualsOne (ReadsAsUuid L) d) (hno : ¬ Coerced d) :
    Fields L IsOne IsUuidText d := by
  unfold Coerced at hno
  rw [not_or, not_or, not_or] at hno
  obtain ⟨⟨hbool, hfloat⟩, hids, hcorrs⟩ := hno
  obtain ⟨v, hv, hone⟩ := h.version
  obtain ⟨id, hid, hreads⟩ := h.id
  have hversion : IsOne v := by
    rcases (equalsOne_iff v).mp hone with rfl | hint | rfl
    · exact absurd hv hbool
    · exact hint
    · exact absurd hv hfloat
  exact { h with
    version := ⟨v, hv, hversion⟩
    id := ⟨id, hid, isUuidText_of_reads hreads fun hbad => hids ⟨id, hid, hbad⟩⟩
    correlationId := fun c hc hnull => isUuidText_of_reads (h.correlationId c hc hnull)
      fun hbad => hcorrs ⟨c, hc, hnull, hbad⟩ }

end Loose

/-! ### What `from_dict` reads -/

section Reading

variable {L : PyLib} {d : JsonObj}

theorem timestampField_ok_iff (ts : Json) :
    (∃ t, timestampField L ts = .ok t) ↔ IsTimestamp L ts := by
  constructor
  · rintro ⟨t, h⟩
    unfold timestampField at h
    split at h
    · cases h
    · next text htext =>
      split at h
      · cases h
      · next r hr =>
        split at h
        · cases h
        · next offset hoffset =>
          by_cases hin : InCalendar (r.wall - offset)
          · exact ⟨text, r, offset, (Json.str?_eq_some ts text).mp htext, hr, hoffset, hin⟩
          · rw [astimezoneUtc_error r offset hin] at h
            cases h
  · rintro ⟨text, r, offset, rfl, hr, hoffset, hin⟩
    refine ⟨ofUtc ⟨r.wall - offset, hin⟩, ?_⟩
    unfold timestampField
    simp only [Json.str?, hr, hoffset, astimezoneUtc_ok r offset hin]
    rfl

theorem timestampField_aware {ts : Json} {t : DateTime} (h : timestampField L ts = .ok t) :
    t.offset.isSome = true := by
  obtain ⟨u, rfl⟩ := timestampField_eq_ok h
  rfl

theorem uuidField_ok_iff (v : Json) (name : String) :
    (∃ u, uuidField L v name = .ok u) ↔ ReadsAsUuid L v := by
  constructor
  · rintro ⟨u, h⟩
    unfold uuidField at h
    split at h
    · next w hw => exact ⟨w, hw⟩
    · cases h
  · rintro ⟨u, hu⟩
    exact ⟨u, uuidField_ok L v u name hu⟩

theorem correlationField_ok_iff : (∃ c, correlationField L d = .ok c) ↔
    ∀ c, d.lookup "correlation_id" = some c → c ≠ .null → ReadsAsUuid L c := by
  unfold correlationField
  split
  · next hnone =>
    refine iff_of_true ⟨none, rfl⟩ ?_
    intro c hc
    rw [hnone] at hc
    cases hc
  · next hnull =>
    refine iff_of_true ⟨none, rfl⟩ ?_
    intro c hc hne
    rw [hnull] at hc
    cases hc
    exact absurd rfl hne
  · next v hne hv =>
    constructor
    · rintro ⟨c, hc⟩ w hw -
      rw [hv] at hw
      cases hw
      refine (uuidField_ok_iff v "correlation_id").mp ?_
      cases hu : uuidField L v "correlation_id" with
      | ok u => exact ⟨u, rfl⟩
      | error e =>
        rw [hu] at hc
        cases hc
    · intro h
      obtain ⟨u, hu⟩ := (uuidField_ok_iff v "correlation_id").mpr (h v hv hne)
      exact ⟨some u, by rw [hu]; rfl⟩

/-- What is read has passed every check. -/
theorem fields_of_fromDict {data : Json} {e : Envelope} (h : fromDict L data = .ok e) :
    ∃ d, data = .obj d ∧ Fields L EqualsOne (ReadsAsUuid L) d := by
  rcases fromDict_reaches L data with ⟨ts, d, rfl, hallowed, hrequired, ⟨v, hv, hv1⟩,
    ⟨payload, hpayload⟩, ⟨type, htype⟩, ⟨source, hsource⟩, ⟨id, u, hid, hu⟩, hts⟩ | ⟨text, herror⟩
  · rw [fromDict_run L hallowed hrequired hv hv1 hpayload htype hsource hid hu hts] at h
    obtain ⟨t, ht, h⟩ := bind_eq_ok h
    obtain ⟨c, hc, h⟩ := bind_eq_ok h
    obtain ⟨⟨hmatches, hlength⟩, -⟩ := init_eq_ok h
    exact ⟨d, rfl, {
      allowed := hallowed
      required := hrequired
      version := ⟨v, hv, hv1⟩
      id := ⟨id, hid, u, hu⟩
      correlationId := correlationField_ok_iff.mp ⟨c, hc⟩
      timestamp := ⟨ts, hts, (timestampField_ok_iff ts).mp ⟨t, ht⟩⟩
      type := ⟨type, htype, hmatches⟩
      source := ⟨source, hsource, hlength⟩
      payload := ⟨payload, hpayload⟩ }⟩
  · rw [herror] at h
    cases h

/-- What passes every check is read. -/
theorem Fields.fromDict (h : Fields L EqualsOne (ReadsAsUuid L) d) :
    ∃ e, fromDict L (.obj d) = .ok e := by
  obtain ⟨v, hv, hone⟩ := h.version
  obtain ⟨id, hid, u, hu⟩ := h.id
  obtain ⟨ts, hts, htime⟩ := h.timestamp
  obtain ⟨type, htype, hmatches⟩ := h.type
  obtain ⟨source, hsource, hlength⟩ := h.source
  obtain ⟨payload, hpayload⟩ := h.payload
  obtain ⟨t, ht⟩ := (timestampField_ok_iff ts).mpr htime
  obtain ⟨c, hc⟩ := correlationField_ok_iff.mpr h.correlationId
  have hinit := init_ok payload u c hmatches hlength (timestampField_aware ht)
  refine ⟨_, Eq.trans ?_ hinit⟩
  rw [fromDict_run L h.allowed h.required hv hone hpayload htype hsource hid hu hts, ht]
  show (correlationField L d >>= _) = _
  rw [hc]
  rfl

/-- **What `from_dict` takes.** -/
theorem fromDict_ok_iff (data : Json) : (∃ e, Linker.fromDict L data = .ok e) ↔
    ∃ d, data = .obj d ∧ Fields L EqualsOne (ReadsAsUuid L) d := by
  constructor
  · rintro ⟨e, h⟩
    exact fields_of_fromDict h
  · rintro ⟨d, rfl, h⟩
    exact h.fromDict

/-- It takes all v1 envelopes, and no more if nothing is coerced. -/
theorem takes_iff (data : Json) : ((∃ e, Linker.fromDict L data = .ok e) ↔ IsV1Envelope L data) ↔
    ¬ CoercedEnvelope L data := by
  rw [fromDict_ok_iff]
  constructor
  · rintro h ⟨d, hd, hfields, hcoerced⟩
    obtain ⟨d', hd', hstrict⟩ := h.mp ⟨d, hd, hfields⟩
    rw [hd] at hd'
    cases hd'
    exact hstrict.not_coerced hcoerced
  · intro h
    constructor
    · rintro ⟨d, hd, hfields⟩
      exact ⟨d, hd, hfields.strict fun hcoerced => h ⟨d, hd, hfields, hcoerced⟩⟩
    · rintro ⟨d, hd, hstrict⟩
      exact ⟨d, hd, hstrict.loosen⟩

end Reading

/-! ## Main result -/

/-- **`from_dict` takes exactly the v1 envelopes**, unless a field of another type is coerced or the
timestamp overflows. -/
theorem acceptsExactly_iff (L : PyLib) (data : Json) :
    AcceptsExactly L data ↔ ¬ OverflowingTimestamp L data ∧ ¬ CoercedEnvelope L data := by
  unfold AcceptsExactly
  rw [takes_iff, fromDict_raises_iff, and_comm]

/-- A heartbeat of version `true`. -/
def trueHeartbeat : JsonObj := ("v", .bool true) :: heartbeatFields.tail

theorem trueHeartbeat_fields :
    Fields heartbeatLib EqualsOne (ReadsAsUuid heartbeatLib) trueHeartbeat where
  allowed := wireFields_allowed 1 heartbeat.id heartbeat.type epoch heartbeat.source
    heartbeat.payload heartbeat.correlationId
  required := show ∀ k ∈ requiredFields,
    k ∈ ["v", "id", "type", "ts", "source", "payload", "correlation_id"] by decide
  version := ⟨.bool true, rfl, rfl⟩
  id := ⟨.str heartbeat.id.str, rfl, heartbeat.id, heartbeat.id.parse_str⟩
  correlationId := by
    rintro c ⟨⟩ -
    exact ⟨⟨2, two_lt_uuid⟩, Uuid.parse_str _⟩
  timestamp := ⟨.str (wireTime epoch), rfl, (timestampField_ok_iff _).mp
    ⟨_, timestampField_wireTime heartbeatLib_reads⟩⟩
  type := ⟨heartbeat.type, rfl, heartbeat.type_ok⟩
  source := ⟨heartbeat.source, rfl, heartbeat.source_ok⟩
  payload := ⟨heartbeat.payload, rfl⟩

/-- It is read, and it is no v1 envelope. -/
theorem trueHeartbeat_read : ¬ AcceptsExactly heartbeatLib (.obj trueHeartbeat) := by
  rintro ⟨htakes, -⟩
  obtain ⟨d, hd, hstrict⟩ := htakes.mp trueHeartbeat_fields.fromDict
  cases hd
  exact hstrict.not_coerced (Or.inl (Or.inl rfl))

end Linker.Envelopes
