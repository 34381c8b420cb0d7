import OpenHdoLinker.Boundary.Handle

/-!
# Receiving server frames

`receive` is one turn of the receive loop: it decodes a WebSocket frame, hands the
message to the boundary and sends what the boundary answers.  An exception it lets
out ends the session.

    (∃ u, (receive … raw s).1 = .ok u) ↔ raw.Reported L          (receive_returns_iff)

`raw.Reported L` leaves out the frames `json.loads` rejects with another class than
`JSONDecodeError` and the envelopes whose timestamp has no representable UTC instant.
-/

namespace Linker.ServerClient

open Py

variable {D : Type} (L : PyLib) (config : LinkerConfig) (stamps : Nat → Stamp)
variable (driver : VendorRgbDriver D)

/-! ## Algorithm -/

/-- `_send(websocket, message)`, on a socket that takes the message. -/
def send (message : Envelope) : PyM (System D) Unit :=
  PyM.modify fun s => { s with sent := s.sent ++ [message] }

/-- `_send_many(websocket, messages)`. -/
def sendMany (messages : List Envelope) : PyM (System D) Unit :=
  PyM.modify fun s => { s with sent := s.sent ++ messages }

/-- `try: … except (…) as error: warn; return`: `none` when the exception was reported. -/
def orDrop {α : Type} (reported : PyErr → Bool) (m : PyM (System D) α) :
    PyM (System D) (Option α) :=
  PyM.tryExcept (some <$> m) fun e => if reported e then pure none else PyM.raise e

/-- The state an applied result carries is reported as well. -/
def reportApplied (result : Envelope) : PyM (System D) Unit :=
  if (getItem result.payload "status").str? = some "applied" then
    match (getItem result.payload "state").obj? with
    | some state => do
      let m ← newEnvelope config stamps "light.state.reported" none state
      send m
    | none => pure ()
  else pure ()

/-- `_receive(websocket, raw)`. -/
def receive (timedOut : Bool) (raw : Frame) : PyM (System D) Unit := do
  match ← orDrop (fun e => e.isA protocolErrorClass) (PyM.outcome (fromJson L raw)) with
  | none => pure ()
  | some message =>
    if message.type = "discovery.start" then
      match ← orDrop (fun e => e.isAny requestErrors)
          (handleDiscovery L config stamps driver timedOut message) with
      | none => pure ()
      | some messages => sendMany messages
    else if message.type = "pairing.start" then
      match ← orDrop (fun e => e.isAny requestErrors)
          (handlePairing L config stamps driver timedOut message) with
      | none => pure ()
      | some messages => sendMany messages
    else if "light.command.".isPrefixOf message.type = false then pure ()
    else
      match ← orDrop (fun e => e.isAny requestErrors)
          (handle L config stamps driver timedOut message) with
      | none => pure ()
      | some (.inl result) => do
        send result
        reportApplied config stamps result
      -- `handle` returns a tuple for the two request types only, which are taken above
      | some (.inr _) => PyM.raise ⟨.AttributeError, "'tuple' object has no attribute 'to_json'"⟩

/-! ## Lemmas -/

section Raises

variable {P : PyErr → Prop}

theorem orDrop_raises {α : Type} {Q : PyErr → Prop} {reported : PyErr → Bool}
    {m : PyM (System D) α} (hm : PyM.RaisesOnly Q m) (hq : ∀ e, Q e → reported e = true) :
    PyM.RaisesOnly P (orDrop reported m) := by
  unfold orDrop
  refine PyM.raisesOnly_tryExcept (PyM.raisesOnly_map some hm) ?_
  intro e he
  rw [if_pos (hq e he)]
  exact PyM.raisesOnly_pure none

/-- What `orDrop` hands on comes from the body. -/
theorem orDrop_returns {α : Type} {R : α → Prop} {reported : PyErr → Bool}
    {m : PyM (System D) α} (hm : PyM.Returns R m) :
    PyM.Returns (fun o => ∀ a ∈ o, R a) (orDrop reported m) := by
  unfold orDrop
  refine PyM.returns_tryExcept (PyM.returns_map ?_) ?_
  · intro s a h b hb
    cases hb
    exact hm s a h
  · intro e
    split
    · exact PyM.returns_pure nofun
    · exact PyM.returns_raise e

theorem reportApplied_raises (result : Envelope) :
    PyM.RaisesOnly P (reportApplied (D := D) config stamps result) := by
  unfold reportApplied
  split
  · split
    · refine PyM.raisesOnly_bind (newEnvelope_raises config stamps _ _ _ (by decide)) ?_
      intro m
      exact PyM.raisesOnly_modify _
    · exact PyM.raisesOnly_pure _
  · exact PyM.raisesOnly_pure _

variable {driver} {timedOut : Bool}

/-- A decoded message never raises out of the loop, whatever it asks for. -/
theorem receive_raises (h : DriverRaises driver timedOut) (raw : Frame) (hr : raw.Reported L) :
    PyM.RaisesOnly P (receive L config stamps driver timedOut raw) := by
  unfold receive
  refine PyM.raisesOnly_bind (orDrop_raises (PyM.raisesOnly_outcome
    ((fromJson_raises_iff L raw).mpr hr)) (fun e he => he)) ?_
  intro message?
  cases message? with
  | none => exact PyM.raisesOnly_pure _
  | some message =>
    dsimp only
    split
    · refine PyM.raisesOnly_bind
        (orDrop_raises (handleDiscovery_raises L config stamps h message) (fun e he => he)) ?_
      intro messages?
      cases messages? with
      | none => exact PyM.raisesOnly_pure _
      | some messages => exact PyM.raisesOnly_modify _
    · next hnd =>
      split
      · refine PyM.raisesOnly_bind
          (orDrop_raises (handlePairing_raises L config stamps h message) (fun e he => he)) ?_
        intro messages?
        cases messages? with
        | none => exact PyM.raisesOnly_pure _
        | some messages => exact PyM.raisesOnly_modify _
      · next hnp =>
        split
        · exact PyM.raisesOnly_pure _
        · have hhandle : handle L config stamps driver timedOut message =
              .inl <$> handleCommand L config stamps driver message := by
            unfold handle
            rw [if_neg hnd, if_neg hnp]
          rw [hhandle]
          refine PyM.raisesOnly_bind_returns
            (orDrop_raises (PyM.raisesOnly_map _ (handleCommand_raises L config stamps h message))
              (fun e he => he))
            (orDrop_returns (R := fun r => ∃ result, r = .inl result)
              (PyM.returns_map fun _ a _ => ⟨a, rfl⟩)) ?_
          intro o ho
          cases o with
          | none => exact PyM.raisesOnly_pure _
          | some r =>
            obtain ⟨result, rfl⟩ := ho r rfl
            refine PyM.raisesOnly_bind (PyM.raisesOnly_modify _) ?_
            intro _
            exact reportApplied_raises config stamps result

end Raises

/-- A frame that is not reported raises out of the loop. -/
theorem receive_error (timedOut : Bool) (raw : Frame) (hr : ¬ raw.Reported L) (s : System D) :
    ∃ e, (receive L config stamps driver timedOut raw s).1 = .error e := by
  rw [← fromJson_raises_iff] at hr
  unfold Raises at hr
  push Not at hr
  obtain ⟨e, he, hne⟩ := hr
  refine ⟨e, ?_⟩
  have hdrop : orDrop (D := D) (fun e => e.isA protocolErrorClass)
      (PyM.outcome (fromJson L raw)) s = (.error e, s) := by
    unfold orDrop
    have hbody : (some <$> PyM.outcome (fromJson L raw) : PyM (System D) _) s = (.error e, s) := by
      rw [he]
      rfl
    have hf : e.isA protocolErrorClass = false := Bool.eq_false_iff.mpr hne
    rw [PyM.tryExcept_error hbody]
    show (if e.isA protocolErrorClass = true then (pure none : PyM (System D) (Option Envelope))
      else PyM.raise e) s = _
    rw [hf]
    rfl
  unfold receive
  rw [PyM.bind_error hdrop]

/-! ## Main result -/

/-- **A frame is taken or dropped, never raised**, exactly when its decoding fails, if it does,
as malformed JSON, and its timestamp, if it is read, has a UTC instant. -/
theorem receive_returns_iff (timedOut : Bool) (h : DriverRaises driver timedOut) (raw : Frame)
    (s : System D) :
    (receive L config stamps driver timedOut raw s).1 = .ok () ↔ raw.Reported L := by
  constructor
  · intro hok
    by_contra hr
    obtain ⟨e, he⟩ := receive_error L config stamps driver timedOut raw hr s
    rw [he] at hok
    cases hok
  · intro hr
    obtain ⟨u, hu⟩ := PyM.returns_of_raisesOnly (receive_raises L config stamps h raw hr) s
    exact hu

/-! ## A light command on the wire -/

def idleStamps (_ : Nat) : Stamp := .zero

def startOfTime : String := "0001-01-01T00:00:00+00:00"

/-- `light.command.power` for the desk lamp. -/
def powerFields : JsonObj :=
  [("v", .int 1), ("id", .str Stamp.zero.id.str), ("type", .str "light.command.power"),
    ("ts", .str startOfTime), ("source", .str "server"),
    ("correlation_id", .str Stamp.zero.id.str),
    ("payload", .obj [("light_id", .str "light.desk"), ("command_id", .str Stamp.zero.id.str),
      ("idempotency_key", .str "k1"), ("power", .bool true)])]

def powerText : String :=
  "\x7b\"v\":1,\"id\":\"00000000-0000-0000-0000-000000000000\",\"type\":\"light.command.power\"," ++
    "\"ts\":\"0001-01-01T00:00:00+00:00\",\"source\":\"server\"," ++
    "\"correlation_id\":\"00000000-0000-0000-0000-000000000000\",\"payload\":\x7b" ++
    "\"light_id\":\"light.desk\",\"command_id\":\"00000000-0000-0000-0000-000000000000\"," ++
    "\"idempotency_key\":\"k1\",\"power\":true\x7d\x7d"

/-- `json.loads` on this text and on two binary frames, an undecodable byte and no text at all. -/
def powerLib : PyLib where
  toJsonLib := { JsonLib.ofDecode fun b => if b = [0xff] then .error .undecodable else .error .malformed with
    decodeStr := fun text => if text = powerText then .ok (.obj powerFields) else .error .malformed }
  fromisoformat text := if text = startOfTime then some (ofUtc Stamp.zero.now) else none

/-- A driver that answers every operation alike, and counts them. -/
def countingDriver (answer : Except PyErr LightState) : VendorRgbDriver Nat where
  discover _ := pure []
  pair := none
  turnOn _ _ _ _ _ n := (answer, n + 1)
  turnOff _ _ n := (answer, n + 1)
  setBrightness _ _ _ n := (answer, n + 1)
  setRgb _ _ _ n := (answer, n + 1)

theorem countingDriver_raises {answer : Except PyErr LightState} (h : Raises IsOrdinary answer)
    (timedOut : Bool) : DriverRaises (countingDriver answer) timedOut where
  discover _ := PyM.raisesOnly_pure _
  pair _ hp := nomatch hp
  operation _ _ op := by cases op <;> exact fun _ => h

/-- The lamp is lit in full red. -/
def litAnswer : Except PyErr LightState := do
  let rgb ← Rgb.init (.int 255) (.int 0) (.int 0)
  LightState.init "bf0123456789abcdef" true true (some rgb) (some 255) none 0

def unreachable : PyErr := ⟨.ConnectionError, "no route to host"⟩

/-- The boundary is bound to the desk lamp. -/
def deskSystem : System Nat :=
  ⟨⟨some "light.desk", some "bf0123456789abcdef", none, Dict.empty⟩, 0, 0, []⟩

/-- One turn of the loop on the command. -/
def powerTurn (answer : Except PyErr LightState) : Except PyErr Unit × System Nat :=
  receive powerLib .default idleStamps (countingDriver answer) false (.text powerText) deskSystem

/-- How often the driver has been called, and the types of what has been sent, with their statuses. -/
def observed (s : System Nat) : Nat × List (String × Option String) :=
  (s.driver, s.sent.map fun m => (m.type, (getItem m.payload "status").str?))

theorem powerText_reported : (Frame.text powerText).Reported powerLib := by
  have hok : (fromJson powerLib (.text powerText)).isOk = true := by decide +kernel
  rw [← fromJson_raises_iff]
  cases hmessage : fromJson powerLib (.text powerText) with
  | ok m => exact raises_ok m
  | error e =>
    rw [hmessage] at hok
    cases hok

/-- The command reaches the driver, and is answered whether the driver applies it or raises. -/
theorem receive_returns_command :
    ((powerTurn litAnswer).1 = .ok () ∧ observed (powerTurn litAnswer).2 =
        (1, [("command.result", some "applied"), ("light.state.reported", none)])) ∧
      (powerTurn (.error unreachable)).1 = .ok () ∧
      observed (powerTurn (.error unreachable)).2 = (1, [("command.result", some "failed")]) := by
  have hlit : Raises IsOrdinary litAnswer := by
    intro e he
    cases he
  have hunreachable : IsOrdinary unreachable := by
    show decide (ExcClass.Exception ∈ ExcClass.mro .ConnectionError) = true
    decide
  refine ⟨⟨?_, by decide +kernel⟩, ?_, by decide +kernel⟩
  · exact (receive_returns_iff powerLib .default idleStamps (countingDriver litAnswer) false
      (countingDriver_raises hlit false) (.text powerText) deskSystem).mpr powerText_reported
  · exact (receive_returns_iff powerLib .default idleStamps (countingDriver (.error unreachable)) false
      (countingDriver_raises (raises_error hunreachable) false) (.text powerText) deskSystem).mpr
      powerText_reported

/-- The one-byte frame `b"\xff"` raises `UnicodeDecodeError` out of the receive loop. -/
theorem receive_raises_undecodable :
    (receive powerLib .default idleStamps (countingDriver litAnswer) false (.binary [0xff])
      deskSystem).1 = .error ⟨.UnicodeDecodeError, "'utf-8' codec can't decode bytes"⟩ := rfl

end Linker.ServerClient
