import OpenHdoLinker.Boundary.RemoteLight
import OpenHdoLinker.Cli.Inspect

/-!
# The commands that read a lamp

`inspect` and the smoke command connect, query the lamp, print, and disconnect in a `finally`
block.  They differ in what they ask for and in how they print it.  Requests and replies are
lost at will.

    the lamp is as it was, the connection is closed, and what is printed
    is the report on the data points of the lamp                          (inspect_reads)
    the local key shows in it ↔ a kept key of a data point contains it    (hides_report_iff)
-/

namespace Linker.Cli

open Py Remote

/-! ## Algorithm -/

/-- `parse_dps` has the indexes as integers. -/
def indexed (dps : Dps) : Dict Int Json where
  items := dps.items.map fun p => ((p.1 : Int), p.2)
  nodup := by
    rw [List.map_map]
    have h := dps.nodup.map Int.ofNat_injective
    rwa [List.map_map] at h

section Commands

variable (C : TuyaCrypto) (J : JsonLib) (floatRepr : ℚ → List Char) (d : TuyaDeviceConfig)
variable (opening : Exchange.Attempt) (script : Nat → Exchange.Attempt)

/-- The `try` block of a command, up to `print`. -/
def readLamp (body : Json) (printed : Dps → Except PyErr JsonObj) :
    PyM Exchange.Link JsonObj := do
  Exchange.connect C d.link opening
  let payload ← Exchange.exchange C floatRepr d.link script
    (pollCommand d.link.protocolVersion) body
  let dps ← PyM.outcome (parseDps J payload)
  PyM.outcome (printed dps)

/-- What `_inspect` prints. -/
def inspectReport (dps : Dps) : JsonObj :=
  inspectionPayload [d.link.localKey] d.ip d.deviceId d.link.protocolVersion.text (indexed dps)

/-- What the smoke command prints; `health` is what `health()` returns. -/
def smokeReport (m : TuyaDpMapping) (health : Bool × Option String) (dps : Dps) :
    Except PyErr JsonObj := do
  let state ← stateFromDps d.deviceId dps m
  let payload ← (revisioned none state).toPayload none
  .ok [("status", .str "ok"), ("state", .obj payload),
    ("health", .obj [("connected", .bool health.1),
      ("last_error", (health.2.map Json.str).getD .null)])]

/-- The `try` block of `_inspect`; `now` is `int(time.time())`. -/
def inspectLamp (now : Int) : PyM Exchange.Link JsonObj :=
  readLamp C J floatRepr d opening script (Life.inspectBody d now) fun dps =>
    .ok (inspectReport d dps)

/-- The `try` block of the smoke command. -/
def smokeLamp (m : TuyaDpMapping) (health : Bool × Option String) : PyM Exchange.Link JsonObj :=
  readLamp C J floatRepr d opening script (pollBody d.link.protocolVersion m)
    (smokeReport d m health)

/-- A command, with its `finally` block; `closed` is how `wait_closed` ends. -/
def command (closed : Except PyErr Unit) (block : PyM Exchange.Link JsonObj) :
    PyM Exchange.Link JsonObj :=
  PyM.tryFinally block (Exchange.disconnect closed)

/-! ## Statement -/

/-- What a command does to the lamp: nothing without a connection, else what its exchange does. -/
inductive Queried (body : Json) (s : Exchange.Link) : Lamp → Lamp → Prop
  | unconnected {l : Lamp} {e : PyErr} {t : Exchange.Link}
      (hconnect : Exchange.connect C d.link opening s = (.error e, t)) : Queried body s l l
  | carried {l l' : Lamp} {t : Exchange.Link}
      (hconnect : Exchange.connect C d.link opening s = (.ok (), t))
      (hcarried : Carried C J floatRepr d.link (pollCommand d.link.protocolVersion) body t
        (Exchange.attempts d.link script) l l') : Queried body s l l'

/-- A command has a connection and its query is answered. -/
def Answered (body : Json) (s : Exchange.Link) : Prop :=
  ∃ t payload, Exchange.connect C d.link opening s = (.ok (), t) ∧
    (Exchange.exchange C floatRepr d.link script (pollCommand d.link.protocolVersion) body t).1 =
      .ok payload

end Commands

/-! ## Lemmas -/

/-! ### Printing -/

section Printing

variable {read dps : Dps}

theorem mem_indexed {p : Int × Json} :
    p ∈ (indexed dps).items ↔ ∃ n v, dps.get? n = some v ∧ p = ((n : Int), v) := by
  constructor
  · intro hp
    obtain ⟨q, hq, rfl⟩ := List.mem_map.mp hp
    exact ⟨q.1, q.2, (dps.mem_items_iff q.1 q.2).mp hq, rfl⟩
  · rintro ⟨n, v, hv, rfl⟩
    exact List.mem_map.mpr ⟨(n, v), (dps.mem_items_iff n v).mpr hv, rfl⟩

theorem get?_indexed {i : Int} {v : Json} :
    (indexed dps).get? i = some v ↔ ∃ n : Nat, dps.get? n = some v ∧ i = n := by
  rw [← Dict.mem_items_iff, mem_indexed]
  constructor
  · rintro ⟨n, w, hw, hp⟩
    cases hp
    exact ⟨n, hw, rfl⟩
  · rintro ⟨n, hn, rfl⟩
    exact ⟨n, v, hn, rfl⟩

theorem indexed_same (h : SameDps dps read) (i : Int) :
    Option.Rel Json.Same ((indexed dps).get? i) ((indexed read).get? i) := by
  cases hv : (indexed dps).get? i with
  | some v =>
    obtain ⟨n, hn, rfl⟩ := get?_indexed.mp hv
    obtain ⟨w, hw, hsame⟩ := h.get?_some hn
    rw [get?_indexed.mpr ⟨n, hw, rfl⟩]
    exact .some hsame
  | none =>
    cases hw : (indexed read).get? i with
    | none => exact .none
    | some w =>
      obtain ⟨n, hn, rfl⟩ := get?_indexed.mp hw
      cases hd : dps.get? n with
      | none =>
        rw [h.get?_none hd] at hn
        cases hn
      | some v =>
        rw [get?_indexed.mpr ⟨n, hd, rfl⟩] at hv
        cases hv

theorem inspectReport_same (d : TuyaDeviceConfig) (h : SameDps dps read) :
    (Json.obj (inspectReport d dps)).Same (.obj (inspectReport d read)) :=
  inspectionPayload_same (indexed_same h)

/-- The local key of a device is longer than any label, so the kept keys decide. -/
theorem hides_report_iff (d : TuyaDeviceConfig) (l : Lamp) (h : IsKey d.link.localKey)
    (hsame : SameDps l.dps read) : Hides d.link.localKey (inspectReport d read) ↔
      ∀ p ∈ l.dps.items, ∀ k ∈ keptKeys p.2, ¬ Contains k d.link.localKey := by
  have hlong : 6 < d.link.localKey.length := by
    rw [d.link.key_ok.2]
    decide
  refine (hides_iff h _ _ _ _).trans ((clean_iff_of_long hlong).trans ?_)
  constructor
  · intro hclean p hp k hk
    obtain ⟨w, hw, hvw⟩ := hsame.get?_some ((l.dps.mem_items_iff p.1 p.2).mp hp)
    exact hclean (p.1, w) (mem_indexed.mpr ⟨p.1, w, hw, rfl⟩) k
      ((mem_keptKeys_same hvw (l.dataPoints p hp).2.keysOnce k).mp hk)
  · intro hclean p hp k hk
    obtain ⟨n, w, hw, rfl⟩ := mem_indexed.mp hp
    cases hv : l.dps.get? n with
    | none =>
      rw [hsame.get?_none hv] at hw
      cases hw
    | some v =>
      have hmem := (l.dps.mem_items_iff n v).mpr hv
      obtain ⟨w', hw', hvw⟩ := hsame.get?_some hv
      cases hw.symm.trans hw'
      exact hclean (n, v) hmem k ((mem_keptKeys_same hvw (l.dataPoints _ hmem).2.keysOnce k).mpr hk)

theorem smokeReport_shows (d : TuyaDeviceConfig) {m : TuyaDpMapping} (health : Bool × Option String)
    {light : Light} (h : Shows m dps light) :
    ∃ report state, smokeReport d m health dps = .ok report ∧
      report.lookup "state" = some (.obj state) ∧ IsReport state light := by
  obtain ⟨mapped, hmapped, hlight⟩ := state_of_shows d.id_ok.1 h
  obtain ⟨payload, hpayload⟩ := revisioned_toPayload hmapped none none
  have hreport : smokeReport d m health dps = .ok [("status", .str "ok"), ("state", .obj payload),
      ("health", .obj [("connected", .bool health.1),
        ("last_error", (health.2.map Json.str).getD .null)])] := by
    unfold smokeReport
    rw [hmapped]
    show ((revisioned none mapped).toPayload none >>= _) = _
    rw [hpayload]
    rfl
  exact ⟨_, payload, hreport, rfl, _, _, hpayload, (revisioned_light _ _).trans hlight⟩

end Printing

/-! ### The exchange of a command -/

section Reading

variable {C : TuyaCrypto} {J : JsonLib} {floatRepr : ℚ → List Char} {d : TuyaDeviceConfig}
variable {opening : Exchange.Attempt} {script : Nat → Exchange.Attempt}
variable {body : Json} {s : Exchange.Link} {l l' : Lamp}

theorem pollCommand_isQuery (version : ProtocolVersion) : pollCommand version ∈ queryCommands := by
  cases version <;> decide

/-- A query leaves the lamp as it is, however often it gets there. -/
theorem Queried.lamp_eq (h : Queried C J floatRepr d opening script body s l l') : l' = l := by
  cases h with
  | unconnected => rfl
  | carried hconnect hcarried =>
    have hquery := pollCommand_isQuery d.link.protocolVersion
    obtain ⟨n, rfl, -⟩ := hcarried.served (.inr hquery) "None"
    have hserved : (fun x : Lamp => x.served J (pollCommand d.link.protocolVersion)
        (dumpsBytes floatRepr body)) = id := funext fun x => x.served_query hquery _
    rw [hserved, Function.iterate_id]
    rfl

/-- A command prints only what an answer says. -/
theorem answered_of_report {printed : Dps → Except PyErr JsonObj} {report : JsonObj}
    (h : (readLamp C J floatRepr d opening script body printed s).1 = .ok report) :
    Answered C floatRepr d opening script body s := by
  have hrun : readLamp C J floatRepr d opening script body printed s =
      (.ok report, (readLamp C J floatRepr d opening script body printed s).2) := Prod.ext h rfl
  obtain ⟨_, t, hconnect, hrest⟩ := PyM.bind_run_ok hrun
  obtain ⟨payload, u, hexchange, -⟩ := PyM.bind_run_ok hrest
  exact ⟨t, payload, hconnect, congrArg Prod.fst hexchange⟩

/-- What a command prints is made of the data points of the lamp. -/
theorem readLamp_answered (hjson : ∀ v, Json.Plain v → J.ReadsBack floatRepr v)
    (h : Queried C J floatRepr d opening script body s l l')
    (hanswered : Answered C floatRepr d opening script body s)
    (printed : Dps → Except PyErr JsonObj) :
    ∃ read, SameDps l.dps read ∧
      (readLamp C J floatRepr d opening script body printed s).1 = printed read := by
  obtain ⟨t, payload, hconnect, hanswer⟩ := hanswered
  have hlamp := h.lamp_eq
  cases h with
  | unconnected hfailed =>
    rw [hfailed] at hconnect
    cases hconnect
  | carried hconnected hcarried =>
    cases hconnected.symm.trans hconnect
    have hquery := pollCommand_isQuery d.link.protocolVersion
    obtain ⟨n, -, hpayload⟩ := hcarried.served (.inr hquery) "None"
    obtain ⟨-, hown⟩ := hpayload payload hanswer
    obtain ⟨read, hread, hsame⟩ := parseDps_report l hjson
    rw [← hlamp, ← hown hquery] at hread
    refine ⟨read, hsame, ?_⟩
    unfold readLamp
    rw [PyM.bind_ok hconnect, PyM.bind_ok (Prod.ext hanswer rfl), hread]
    rfl

/-- What a command reads is what `inspect_dps()` returns for the same answer. -/
theorem inspectDps_fst {u : TuyaState} (hd : deviceOf u = .ok d) (now : Int)
    (answer : Except PyErr Bytes) :
    (Life.inspectDps J now answer u).1 = answer >>= parseDps J := by
  unfold Life.inspectDps
  rw [PyM.get_bind, hd, PyM.outcome_ok_bind]
  cases answer with
  | error e => rfl
  | ok payload =>
    show ((PyM.outcome (parseDps J payload) >>= _) _).1 = parseDps J payload
    cases parseDps J payload with
    | error e => rfl
    | ok dps => rfl

/-- The `finally` block. -/
theorem command_disconnects (closed : Except PyErr Unit) (block : PyM Exchange.Link JsonObj)
    (s : Exchange.Link) : Exchange.Disconnected (command closed block s).2 := by
  unfold command
  rw [PyM.tryFinally_snd, Exchange.disconnect_run]
  exact Exchange.Link.dropped_disconnected _

end Reading

/-! ## Main results -/

section Main

variable (C : TuyaCrypto) (J : JsonLib) (floatRepr : ℚ → List Char) (d : TuyaDeviceConfig)
variable (opening : Exchange.Attempt) (script : Nat → Exchange.Attempt)
variable {s : Exchange.Link} {l l' : Lamp}

/-- **`inspect` only reads**: for every lamp with the device's key and whatever is lost on the way,
the lamp is as it was and the connection is closed.  A report is printed if and only if the query
is answered; it is the report on the data points of the lamp, and it hides the local key if and
only if their kept keys do. -/
theorem inspect_reads (hjson : ∀ v, Json.Plain v → J.ReadsBack floatRepr v) (now : Int)
    (closed : Except PyErr Unit)
    (h : Queried C J floatRepr d opening script (Life.inspectBody d now) s l l') :
    l' = l ∧
      Exchange.Disconnected
        (command closed (inspectLamp C J floatRepr d opening script now) s).2 ∧
      ((∃ report, (inspectLamp C J floatRepr d opening script now s).1 = .ok report) ↔
        Answered C floatRepr d opening script (Life.inspectBody d now) s) ∧
      ∀ report, (inspectLamp C J floatRepr d opening script now s).1 = .ok report →
        (Json.obj (inspectReport d l.dps)).Same (.obj report) ∧
          (IsKey d.link.localKey → (Hides d.link.localKey report ↔
            ∀ p ∈ l.dps.items, ∀ k ∈ keptKeys p.2, ¬ Contains k d.link.localKey)) := by
  have hprints := fun hanswered => readLamp_answered hjson h hanswered fun dps =>
    .ok (inspectReport d dps)
  refine ⟨h.lamp_eq, command_disconnects closed _ s, ?_, fun report hreport => ?_⟩
  · constructor
    · rintro ⟨report, hreport⟩
      exact answered_of_report hreport
    · intro hanswered
      obtain ⟨read, -, hprinted⟩ := hprints hanswered
      exact ⟨inspectReport d read, hprinted⟩
  · obtain ⟨read, hsame, hprinted⟩ := hprints (answered_of_report hreport)
    cases hprinted.symm.trans hreport
    exact ⟨inspectReport_same d hsame, fun hkey => hides_report_iff d l hkey hsame⟩

/-- **The smoke command only reads**: a query that is answered prints the state of the light the
lamp shows. -/
theorem smoke_reads (hjson : ∀ v, Json.Plain v → J.ReadsBack floatRepr v) {m : TuyaDpMapping}
    (health : Bool × Option String) (closed : Except PyErr Unit) {light : Light}
    (hshows : Shows m l.dps light)
    (h : Queried C J floatRepr d opening script (pollBody d.link.protocolVersion m) s l l') :
    l' = l ∧
      Exchange.Disconnected
        (command closed (smokeLamp C J floatRepr d opening script m health) s).2 ∧
      (Answered C floatRepr d opening script (pollBody d.link.protocolVersion m) s →
        ∃ report state, (smokeLamp C J floatRepr d opening script m health s).1 = .ok report ∧
          report.lookup "state" = some (.obj state) ∧ IsReport state light) := by
  refine ⟨h.lamp_eq, command_disconnects closed _ s, fun hanswered => ?_⟩
  obtain ⟨read, hsame, hprinted⟩ := readLamp_answered hjson h hanswered (smokeReport d m health)
  obtain ⟨report, state, hreport, hstate, hlight⟩ :=
    smokeReport_shows d health (shows_same hsame hshows)
  exact ⟨report, state, hprinted.trans hreport, hstate, hlight⟩

end Main

/-! ## A lamp that holds its key -/

/-- The key is under a credential and inside a text. -/
def heldDps : Dps := offDps.set 101
  (.obj [("local_key", .str sampleKey), ("name", .str "lamp-0123456789abcdef")])

def keyLamp : Lamp where
  dps := heldDps
  valid n v h := by
    unfold heldDps at h
    rw [Dict.get?_set] at h
    split at h
    · next hn =>
      cases h
      subst hn
      refine ⟨by decide, .obj (show ["local_key", "name"].Nodup by decide) fun p hp => ?_⟩
      rcases List.mem_cons.mp hp with rfl | hp
      · exact .str _
      · rw [List.mem_singleton.mp hp]
        exact .str _
    · exact offLamp.valid n v h

def inspected : Exchange.Link :=
  (Exchange.connect .plain lampLink (answering commandDpQuery keyLamp) Handshake.idleLink).2

theorem inspected_hold : inspected.hold = .connection none := rfl

theorem inspected_connect : Exchange.connect .plain lampLink (answering commandDpQuery keyLamp)
    Handshake.idleLink = (.ok (), inspected) := rfl

set_option maxRecDepth 4000 in
theorem inspectBody_fits : FitsFrame .plain (fun _ => []) .v33 commandDpQuery
    (Life.inspectBody Commands.lamp 0) (Exchange.keyBytes lampLink) none :=
  show (_ : Nat) ≤ _ by decide

set_option maxRecDepth 4000 in
theorem keyLamp_answered : Answered .plain (fun _ => []) Commands.lamp
    (answering commandDpQuery keyLamp) (fun _ => answering commandDpQuery keyLamp)
    (Life.inspectBody Commands.lamp 0) Handshake.idleLink :=
  ⟨inspected, keyLamp.report fun _ => [], inspected_connect, rfl⟩

set_option maxRecDepth 4000 in
/-- The query reaches the lamp and its reply comes back. -/
theorem keyLamp_queried : Queried .plain jsonReader (fun _ => []) Commands.lamp
    (answering commandDpQuery keyLamp) (fun _ => answering commandDpQuery keyLamp)
    (Life.inspectBody Commands.lamp 0) Handshake.idleLink keyLamp keyLamp := by
  refine .carried inspected_connect ?_
  have hserved := keyLamp.served_query (J := jsonReader)
    (show commandDpQuery ∈ queryCommands by decide)
    (dumpsBytes (fun _ => []) (Life.inspectBody Commands.lamp 0))
  have hcarried : Carried .plain jsonReader (fun _ => []) lampLink commandDpQuery
      (Life.inspectBody Commands.lamp 0) inspected
      (Exchange.attempts lampLink fun _ => answering commandDpQuery keyLamp) keyLamp
      (keyLamp.served jsonReader commandDpQuery
        (dumpsBytes (fun _ => []) (Life.inspectBody Commands.lamp 0))) := by
    refine Carried.answered (k := none) (p := keyLamp.report fun _ => []) ?_ ?_ (fun q hq => ?_) ?_
    · rw [inspected_hold]
      rfl
    · rw [inspected_hold]
      rfl
    · exact readRequest_sent hq (by decide) inspectBody_fits
        (decodePayload_query _ (by decide) fun _ => by decide)
    · intro reply hreply _
      cases hreply
      rfl
  rw [hserved] at hcarried
  exact hcarried

/-- The report is printed, and the key is not. -/
theorem inspect_reads_held : IsKey lampLink.localKey ∧
    ∃ report, (inspectLamp .plain jsonReader (fun _ => []) Commands.lamp
      (answering commandDpQuery keyLamp) (fun _ => answering commandDpQuery keyLamp) 0
        Handshake.idleLink).1 = .ok report ∧
      (Json.obj (inspectReport Commands.lamp heldDps)).Same (.obj report) ∧
      Hides lampLink.localKey report := by
  have hkey : IsKey lampLink.localKey := sampleKey_isKey
  obtain ⟨-, -, hanswers, hreports⟩ := inspect_reads .plain jsonReader (fun _ => []) Commands.lamp
    (answering commandDpQuery keyLamp) (fun _ => answering commandDpQuery keyLamp)
    (fun v hv => jsonReader_readsBack _ hv) 0 (.ok ()) keyLamp_queried
  obtain ⟨report, hreport⟩ := hanswers.mpr keyLamp_answered
  obtain ⟨hsame, hhides⟩ := hreports report hreport
  refine ⟨hkey, report, hreport, hsame, (hhides hkey).mpr ?_⟩
  show ∀ p ∈ heldDps.items, ∀ k ∈ keptKeys p.2, ¬ Contains k lampLink.localKey
  decide

end Linker.Cli
