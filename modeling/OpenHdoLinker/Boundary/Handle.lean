import OpenHdoLinker.Boundary.Requests
import OpenHdoLinker.Config
import OpenHdoLinker.Lib.PyDict

/-!
# The server boundary around a light driver

`LinkerBoundary` as computations on a `System`: the boundary's fields, the state
of the driver, the number of envelopes built so far and what has gone out on the
WebSocket.  A driver is a record of computations on its own state (`VendorRgbDriver`),
so a result about the boundary holds over every driver.

The handlers raise nothing but the request errors their callers catch
(handleDiscovery_raises, handlePairing_raises, handleCommand_raises).
-/

namespace Linker

open Py

/-! ## Algorithm -/

/-- What a driver's `pair` returns; `none` stands for a value of another type. -/
structure PairResult where
  descriptor : Option DeviceDescriptor
  deviceId : Option String

/-- The driver contract, as far as the boundary calls it.  `pair` is optional. -/
structure VendorRgbDriver (D : Type) where
  discover : DiscoveryConfig → PyM D (List DeviceDescriptor)
  pair : Option (String → PyM D PairResult)
  turnOn : Option String → Option Rgb → Option Int → Option Int → Uuid → PyM D LightState
  turnOff : Option String → Uuid → PyM D LightState
  setBrightness : Option String → Int → Uuid → PyM D LightState
  setRgb : Option String → Rgb → Uuid → PyM D LightState

structure BoundaryState where
  lightId : Option String
  deviceId : Option String
  descriptor : Option DeviceDescriptor
  journal : Dict String JsonObj

/-- `text or other`. -/
def orElseText : Option String → Option String → Option String
  | some s, other => if s ≠ "" then some s else other
  | none, other => other

/-- `LinkerBoundary(config, credentials, driver, light_id, device_id, descriptor)`. -/
def BoundaryState.init (lightId deviceId : Option String) (descriptor : Option DeviceDescriptor) :
    BoundaryState :=
  let light := orElseText lightId (descriptor.map DeviceDescriptor.id)
  ⟨light, orElseText deviceId light, descriptor, Dict.empty⟩

/-- `uuid4()` and `datetime.now(timezone.utc)` of one new envelope. -/
structure Stamp where
  id : Uuid
  now : UtcTime

def Stamp.zero : Stamp := ⟨⟨0, by decide⟩, ⟨0, by decide⟩⟩

structure System (D : Type) where
  boundary : BoundaryState
  driver : D
  built : Nat
  sent : List Envelope

namespace System

variable {D α : Type}

def onDriver (m : PyM D α) : PyM (System D) α :=
  PyM.zoom System.driver (fun d s => { s with driver := d }) m

def setBoundary (f : BoundaryState → BoundaryState) : PyM (System D) Unit :=
  PyM.modify fun s => { s with boundary := f s.boundary }

end System

/-- `class PairingError(ValueError)`. -/
def pairingErrorClass : ExcClass := .derived "PairingError" .ValueError

def pairingError (text : String) : PyErr := ⟨pairingErrorClass, text⟩

section Boundary

variable {D : Type} (L : PyLib) (config : LinkerConfig) (stamps : Nat → Stamp)
variable (driver : VendorRgbDriver D)

/-- `Envelope(type=type, source=self.config.id, correlation_id=correlation, payload=payload)`. -/
def newEnvelope (type : String) (correlation : Option Uuid) (payload : JsonObj) :
    PyM (System D) Envelope := do
  let s ← PyM.get
  PyM.modify fun s => { s with built := s.built + 1 }
  let stamp := stamps s.built
  PyM.outcome
    (Envelope.init type config.id payload stamp.id (ofUtc stamp.now) correlation protocolVersion)

def errorText : Option String → Json
  | some text => .str text
  | none => .null

/-- `register()`. -/
def register : PyM (System D) Envelope := do
  let s ← PyM.get
  let devices : JsonObj := match s.boundary.descriptor with
    | some d => [("devices", .arr [.obj d.toPayload])]
    | none => []
  newEnvelope config stamps "link.register" none
    ([("id", .str config.id), ("version", .str config.version), ("name", .str config.name),
      ("transports", .arr [.str config.transport])] ++ devices)

/-- `_discovery_completed(start, session_id, status, error)`. -/
def discoveryCompleted (start : Envelope) (sessionId : Uuid) (status : String)
    (error : Option String) : PyM (System D) Envelope :=
  newEnvelope config stamps "discovery.completed" (some start.id)
    [("session_id", .str sessionId.str), ("status", .str status), ("error", errorText error)]

/-- `_pairing_completed(start, session_id, candidate_id, status, error)`. -/
def pairingCompleted (start : Envelope) (sessionId : Uuid) (candidateId status : String)
    (error : Option String) : PyM (System D) Envelope := do
  let s ← PyM.get
  let device : JsonObj := match s.boundary.descriptor with
    | some d => if status = "completed" then [("device", .obj d.toPayload)] else []
    | none => []
  newEnvelope config stamps "pairing.completed" (some start.id)
    ([("session_id", .str sessionId.str), ("candidate_id", .str candidateId),
      ("status", .str status), ("error", errorText error)] ++ device)

/-- `max(0.5, timeout_s - 0.25)`. -/
def effectiveTimeout (timeoutS : Int) : ℚ := max (1 / 2) (timeoutS - 1 / 4)

/-- The `except` clauses of `handle_discovery`. -/
def discoveryFailure (e : PyErr) : Except PyErr String :=
  if e.isA .CancelledError then .error e
  else if e.isA .TimeoutError then .ok "discovery timed out"
  else if e.isA .Exception then .ok "discovery failed"
  else .error e

def handleDiscovery (timedOut : Bool) (start : Envelope) : PyM (System D) (List Envelope) := do
  let (sessionId, timeoutS) ← PyM.outcome (discoveryRequest L start)
  let discovery ← PyM.outcome
    (config.discovery.replaceTimeout (.finite (effectiveTimeout timeoutS)))
  let found ← PyM.tryExcept
    (do
      let descriptors ← PyM.waitFor timedOut (System.onDriver (driver.discover discovery))
      let candidates ← PyM.outcome (descriptors.mapM DiscoveryCandidate.fromDescriptor)
      pure (Except.ok candidates))
    (fun e => Except.error <$> PyM.outcome (discoveryFailure e))
  match found with
  | .error text =>
    let m ← discoveryCompleted config stamps start sessionId "failed" (some text)
    pure [m]
  | .ok candidates =>
    let messages ← candidates.mapM fun c =>
      newEnvelope config stamps "discovery.candidate" (some start.id)
        (("session_id", .str sessionId.str) :: c.toPayload)
    let done ← discoveryCompleted config stamps start sessionId "completed" none
    pure (messages ++ [done])

/-- The `except` clauses of `handle_pairing`. -/
def pairingFailure (e : PyErr) : Except PyErr String :=
  if e.isA .CancelledError then .error e
  else if e.isA .TimeoutError then .ok "pairing timed out"
  else if e.isA pairingErrorClass then .ok e.text
  else if e.isA .Exception then
    .ok "device verification failed; check Linker local key, protocol, and DP mapping"
  else .error e

/-- The call of `pair` that `handle_pairing` makes. -/
def pairCall (timedOut : Bool) (candidateId : String) : PyM D PairResult :=
  match driver.pair with
  | some pair => PyM.waitFor timedOut (pair candidateId)
  | none => PyM.raise (pairingError "this Linker does not support pairing")

/-- The checks `handle_pairing` makes on the driver's result. -/
def pairingResult (candidateId : String) (r : PairResult) :
    Except PyErr (DeviceDescriptor × String) :=
  match r.descriptor, r.deviceId with
  | some descriptor, some deviceId =>
    if deviceId = "" then .error (valueError "driver returned an invalid pairing result")
    else if descriptor.id ≠ candidateId then
      .error (valueError "driver paired a different candidate")
    else .ok (descriptor, deviceId)
  | _, _ => .error (valueError "driver returned an invalid pairing result")

def handlePairing (timedOut : Bool) (start : Envelope) : PyM (System D) (List Envelope) := do
  let (sessionId, candidateId, _) ← PyM.outcome (pairingRequest L start)
  let failure ← PyM.tryExcept
    (do
      let pair ← PyM.outcome (match driver.pair with
        | some pair => .ok pair
        | none => .error (pairingError "this Linker does not support pairing"))
      let result ← PyM.waitFor timedOut (System.onDriver (pair candidateId))
      let (descriptor, deviceId) ← PyM.outcome (pairingResult candidateId result)
      System.setBoundary fun b =>
        { b with descriptor := some descriptor, lightId := some descriptor.id,
                 deviceId := some deviceId }
      pure none)
    (fun e => some <$> PyM.outcome (pairingFailure e))
  match failure with
  | some text =>
    let m ← pairingCompleted config stamps start sessionId candidateId "failed" (some text)
    pure [m]
  | none =>
    let m ← pairingCompleted config stamps start sessionId candidateId "completed" none
    pure [m]

/-- `operation()`: the driver call, on the device the boundary is bound to. -/
def runOperation (deviceId : Option String) (commandId : Uuid) : Operation → PyM D LightState
  | .turnOn => driver.turnOn deviceId none none none commandId
  | .turnOff => driver.turnOff deviceId commandId
  | .setBrightness n => driver.setBrightness deviceId n commandId
  | .setRgb c => driver.setRgb deviceId c commandId

/-- `_result(command, payload)`. -/
def resultEnvelope (command : Envelope) (payload : JsonObj) : PyM (System D) Envelope :=
  newEnvelope config stamps "command.result" (some command.id) payload

/-- `_execute(command, light_id, command_id, idempotency_key)`. -/
def execute (command : Envelope) (m : CommandMetadata) : PyM (System D) Envelope :=
  match planOperation command with
  | .error e => resultEnvelope config stamps command (invalidCommand m e.text)
  | .ok operation => do
    let s ← PyM.get
    let payload ← PyM.tryExcept
      (do
        let state ← System.onDriver
          (runOperation driver s.boundary.deviceId m.commandId operation)
        pure (statePayload m state))
      (fun e => if e.isA .Exception then pure (failed m) else PyM.raise e)
    resultEnvelope config stamps command payload

/-- `handle` on a light command. -/
def handleCommand (command : Envelope) : PyM (System D) Envelope := do
  let s ← PyM.get
  match ← PyM.outcome (admitCommand L s.boundary.lightId command) with
  | .error payload => resultEnvelope config stamps command payload
  | .ok m =>
    match s.boundary.journal.get? m.idempotencyKey with
    | some cached => resultEnvelope config stamps command (replay cached m)
    | none =>
      let result ← execute config stamps driver command m
      System.setBoundary fun b =>
        { b with journal := b.journal.setDefault m.idempotencyKey result.payload }
      pure result

/-- `handle`: one envelope for a light command, several for a request. -/
def handle (timedOut : Bool) (command : Envelope) :
    PyM (System D) (Envelope ⊕ List Envelope) :=
  if command.type = "discovery.start" then
    .inr <$> handleDiscovery L config stamps driver timedOut command
  else if command.type = "pairing.start" then
    .inr <$> handlePairing L config stamps driver timedOut command
  else .inl <$> handleCommand L config stamps driver command

/-! ## Lemmas -/

/-- The envelope built under the linker's own id with a fixed message type. -/
def ownEnvelope (type : String) (ht : isMessageType type = true) (correlation : Option Uuid)
    (payload : JsonObj) (stamp : Stamp) : Envelope :=
  ⟨type, config.id, payload, stamp.id, ofUtc stamp.now, correlation, protocolVersion, rfl, ht,
    config.id_length, rfl⟩

/-- It passes its checks. -/
theorem newEnvelope_run (type : String) (correlation : Option Uuid) (payload : JsonObj)
    (ht : isMessageType type = true) (s : System D) :
    newEnvelope config stamps type correlation payload s =
      (.ok (ownEnvelope config type ht correlation payload (stamps s.built)),
        { s with built := s.built + 1 }) := by
  have hts : (ofUtc (stamps s.built).now).offset.isSome = true := rfl
  unfold newEnvelope
  rw [PyM.get_bind, PyM.modify_bind]
  unfold Envelope.init
  rw [dif_pos rfl, dif_pos ht, dif_pos config.id_length, dif_pos hts]
  rfl

theorem newEnvelope_ok (type : String) (correlation : Option Uuid) (payload : JsonObj)
    (ht : isMessageType type = true) (s : System D) :
    ∃ m, newEnvelope config stamps type correlation payload s =
      (.ok m, { s with built := s.built + 1 }) ∧ m.payload = payload ∧ m.type = type :=
  ⟨_, newEnvelope_run config stamps type correlation payload ht s, rfl, rfl⟩

theorem newEnvelope_raises {P : PyErr → Prop} (type : String) (correlation : Option Uuid)
    (payload : JsonObj) (ht : isMessageType type = true) :
    PyM.RaisesOnly P (newEnvelope (D := D) config stamps type correlation payload) := by
  intro s
  obtain ⟨m, hm, -⟩ := newEnvelope_ok config stamps type correlation payload ht s
  rw [hm]
  exact raises_ok m

theorem discoveryCompleted_raises {P : PyErr → Prop} (start : Envelope) (sessionId : Uuid)
    (status : String) (error : Option String) :
    PyM.RaisesOnly P (discoveryCompleted (D := D) config stamps start sessionId status error) :=
  newEnvelope_raises config stamps _ _ _ (by decide)

theorem pairingCompleted_raises {P : PyErr → Prop} (start : Envelope) (sessionId : Uuid)
    (candidateId status : String) (error : Option String) :
    PyM.RaisesOnly P
      (pairingCompleted (D := D) config stamps start sessionId candidateId status error) := by
  unfold pairingCompleted
  refine PyM.raisesOnly_bind PyM.raisesOnly_get ?_
  intro s
  exact newEnvelope_raises config stamps _ _ _ (by decide)

theorem resultEnvelope_raises {P : PyErr → Prop} (command : Envelope) (payload : JsonObj) :
    PyM.RaisesOnly P (resultEnvelope (D := D) config stamps command payload) :=
  newEnvelope_raises config stamps _ _ _ (by decide)

theorem mapM_fromDescriptor_raises {P : PyErr → Prop} (l : List DeviceDescriptor) :
    Raises P (l.mapM DiscoveryCandidate.fromDescriptor) := by
  have key : ∀ acc, Raises P (List.mapM.loop DiscoveryCandidate.fromDescriptor l acc) := by
    induction l with
    | nil => intro acc; exact raises_ok acc.reverse
    | cons d l ih =>
      intro acc
      obtain ⟨c, hc, -⟩ := DiscoveryCandidate.fromDescriptor_ok d
      show Raises P (DiscoveryCandidate.fromDescriptor d >>= _)
      rw [hc]
      exact ih (c :: acc)
  exact key []

/-- The scan's budget is at least half a second, so the driver gets a usable configuration. -/
theorem replaceTimeout_ok (c : DiscoveryConfig) (timeoutS : Int) :
    ∃ d, c.replaceTimeout (.finite (effectiveTimeout timeoutS)) = .ok d := by
  have hpos : (0 : ℚ) < effectiveTimeout timeoutS :=
    lt_of_lt_of_le (by norm_num) (le_max_left _ _)
  have hok : (PyFloat.finite (effectiveTimeout timeoutS)).le (.finite 0) = false := by
    show (!decide ((0 : ℚ) < effectiveTimeout timeoutS)) = false
    rw [decide_eq_true hpos]
    rfl
  exact ⟨_, dif_pos hok⟩

theorem discoveryFailure_ok {e : PyErr} (h : IsOrdinary e) :
    ∃ text, discoveryFailure e = .ok text := by
  unfold discoveryFailure
  rw [h.not_cancelled]
  by_cases ht : e.isA .TimeoutError = true
  · exact ⟨"discovery timed out", by simp [ht]⟩
  · refine ⟨"discovery failed", ?_⟩
    have hx : e.isA .Exception = true := h
    simp [ht, hx]

theorem pairingFailure_ok {e : PyErr} (h : IsOrdinary e) : ∃ text, pairingFailure e = .ok text := by
  unfold pairingFailure
  rw [h.not_cancelled]
  have hx : e.isA .Exception = true := h
  by_cases ht : e.isA .TimeoutError = true
  · exact ⟨"pairing timed out", by simp [ht]⟩
  · by_cases hp : e.isA pairingErrorClass = true
    · exact ⟨e.text, by simp [ht, hp]⟩
    · exact ⟨_, by simp [ht, hp, hx]; rfl⟩

theorem isOrdinary_of_base {e : PyErr} {c : ExcClass} (h : e.isA c = true)
    (hc : .Exception ∈ c.mro) : IsOrdinary e :=
  PyErr.isA_base h .Exception hc

/-- What no clause of a request catches is not one of the classes it names. -/
theorem not_caught {e : PyErr} (h : ¬ IsOrdinary e) :
    e.isA .TimeoutError ≠ true ∧ e.isA pairingErrorClass ≠ true ∧ e.isA .Exception ≠ true :=
  ⟨fun ht => h (isOrdinary_of_base ht (by decide)), fun hp => h (isOrdinary_of_base hp (by decide)), h⟩

theorem discoveryFailure_uncaught {e : PyErr} (h : ¬ IsOrdinary e) : discoveryFailure e = .error e := by
  obtain ⟨ht, -, hx⟩ := not_caught h
  unfold discoveryFailure
  rw [if_neg ht, if_neg hx, ite_self]

theorem pairingFailure_uncaught {e : PyErr} (h : ¬ IsOrdinary e) : pairingFailure e = .error e := by
  obtain ⟨ht, hp, hx⟩ := not_caught h
  unfold pairingFailure
  rw [if_neg ht, if_neg hp, if_neg hx, ite_self]

/-- Every call of the driver fails with an ordinary exception, or because its timeout ended it. -/
structure DriverRaises (timedOut : Bool) : Prop where
  discover : ∀ c, PyM.RaisesOnly (IsOrdinaryOrTimeout timedOut) (driver.discover c)
  pair : ∀ p ∈ driver.pair, ∀ id, PyM.RaisesOnly (IsOrdinaryOrTimeout timedOut) (p id)
  operation : ∀ dev id op, PyM.RaisesOnly IsOrdinary (runOperation driver dev id op)

variable {driver} {timedOut : Bool}

theorem handleDiscovery_raises (h : DriverRaises driver timedOut) (start : Envelope) :
    PyM.RaisesOnly IsRequestError (handleDiscovery L config stamps driver timedOut start) := by
  unfold handleDiscovery
  refine PyM.raisesOnly_bind (PyM.raisesOnly_outcome (discoveryRequest_raises L start)) ?_
  rintro ⟨sessionId, timeoutS⟩
  obtain ⟨discovery, hd⟩ := replaceTimeout_ok config.discovery timeoutS
  refine PyM.raisesOnly_bind (PyM.raisesOnly_outcome (by rw [hd]; exact raises_ok _)) ?_
  intro discovery
  refine PyM.raisesOnly_bind ?_ ?_
  · refine PyM.raisesOnly_tryExcept (Q := IsOrdinary) ?_ ?_
    · refine PyM.raisesOnly_bind (raisesOnly_waitFor (PyM.raisesOnly_zoom _ _ (h.discover _))) ?_
      intro descriptors
      refine PyM.raisesOnly_bind (PyM.raisesOnly_outcome (mapM_fromDescriptor_raises _)) ?_
      intro candidates
      exact PyM.raisesOnly_pure _
    · intro e he
      obtain ⟨text, ht⟩ := discoveryFailure_ok he
      rw [ht]
      exact PyM.raisesOnly_map _ (PyM.raisesOnly_outcome (raises_ok text))
  · intro found
    cases found with
    | error text =>
      refine PyM.raisesOnly_bind (discoveryCompleted_raises config stamps _ _ _ _) ?_
      intro m
      exact PyM.raisesOnly_pure _
    | ok candidates =>
      refine PyM.raisesOnly_bind (PyM.raisesOnly_mapM _ ?_) ?_
      · intro c
        exact newEnvelope_raises config stamps _ _ _ (by decide)
      · intro messages
        refine PyM.raisesOnly_bind (discoveryCompleted_raises config stamps _ _ _ _) ?_
        intro m
        exact PyM.raisesOnly_pure _

theorem isOrdinary_valueError (text : String) : IsOrdinary (valueError text) := by
  show decide (ExcClass.Exception ∈ ExcClass.mro .ValueError) = true
  decide

theorem isOrdinary_pairingError {text : String} : IsOrdinary (pairingError text) := by
  show decide (ExcClass.Exception ∈ pairingErrorClass.mro) = true
  decide

theorem pairingResult_raises (candidateId : String) (r : PairResult) :
    Raises IsOrdinary (pairingResult candidateId r) := by
  unfold pairingResult
  split
  · split
    · exact raises_error (isOrdinary_valueError _)
    · split
      · exact raises_error (isOrdinary_valueError _)
      · exact raises_ok _
  · exact raises_error (isOrdinary_valueError _)

/-- What an accepted result holds. -/
theorem pairingResult_ok {candidateId : String} {r : PairResult} {a : DeviceDescriptor} {deviceId : String}
    (h : pairingResult candidateId r = .ok (a, deviceId)) :
    r = ⟨some a, some deviceId⟩ ∧ a.id = candidateId ∧ deviceId ≠ "" := by
  obtain ⟨descriptor?, deviceId?⟩ := r
  unfold pairingResult at h
  split at h
  · next hd hi =>
    dsimp only at hd hi
    split at h
    · cases h
    · next hne =>
      split at h
      · cases h
      · next hid =>
        cases h
        exact ⟨by rw [hd, hi], not_not.mp hid, hne⟩
  · cases h

theorem handlePairing_raises (h : DriverRaises driver timedOut) (start : Envelope) :
    PyM.RaisesOnly IsRequestError (handlePairing L config stamps driver timedOut start) := by
  unfold handlePairing
  refine PyM.raisesOnly_bind (PyM.raisesOnly_outcome (pairingRequest_raises L start)) ?_
  rintro ⟨sessionId, candidateId, timeoutS⟩
  refine PyM.raisesOnly_bind ?_ ?_
  · refine PyM.raisesOnly_tryExcept (Q := IsOrdinary) ?_ ?_
    · refine PyM.raisesOnly_outcome_bind ?_ ?_
      · split
        · exact raises_ok _
        · exact raises_error isOrdinary_pairingError
      · intro pair hpair
        have hmem : pair ∈ driver.pair := by
          split at hpair
          · next p hp => cases hpair; exact hp
          · cases hpair
        refine PyM.raisesOnly_bind
          (raisesOnly_waitFor (PyM.raisesOnly_zoom _ _ (h.pair pair hmem candidateId))) ?_
        intro result
        refine PyM.raisesOnly_bind (PyM.raisesOnly_outcome (pairingResult_raises _ _)) ?_
        rintro ⟨descriptor, deviceId⟩
        refine PyM.raisesOnly_bind (PyM.raisesOnly_modify _) ?_
        intro _
        exact PyM.raisesOnly_pure _
    · intro e he
      obtain ⟨text, ht⟩ := pairingFailure_ok he
      rw [ht]
      exact PyM.raisesOnly_map _ (PyM.raisesOnly_outcome (raises_ok text))
  · intro failure
    cases failure with
    | some text =>
      refine PyM.raisesOnly_bind (pairingCompleted_raises config stamps _ _ _ _ _) ?_
      intro m
      exact PyM.raisesOnly_pure _
    | none =>
      refine PyM.raisesOnly_bind (pairingCompleted_raises config stamps _ _ _ _ _) ?_
      intro m
      exact PyM.raisesOnly_pure _

theorem execute_raises {P : PyErr → Prop} (h : DriverRaises driver timedOut) (command : Envelope)
    (m : CommandMetadata) : PyM.RaisesOnly P (execute config stamps driver command m) := by
  unfold execute
  split
  · exact resultEnvelope_raises config stamps _ _
  · next operation _ =>
    refine PyM.raisesOnly_bind PyM.raisesOnly_get ?_
    intro s
    refine PyM.raisesOnly_bind ?_ ?_
    · refine PyM.raisesOnly_tryExcept (Q := IsOrdinary) ?_ ?_
      · refine PyM.raisesOnly_bind (PyM.raisesOnly_zoom _ _ (h.operation _ _ _)) ?_
        intro state
        exact PyM.raisesOnly_pure _
      · intro e he
        have hx : e.isA .Exception = true := he
        rw [if_pos hx]
        exact PyM.raisesOnly_pure _
    · intro payload
      exact resultEnvelope_raises config stamps _ _

theorem handleCommand_raises (h : DriverRaises driver timedOut) (command : Envelope) :
    PyM.RaisesOnly IsRequestError (handleCommand L config stamps driver command) := by
  unfold handleCommand
  refine PyM.raisesOnly_bind PyM.raisesOnly_get ?_
  intro s
  refine PyM.raisesOnly_bind (PyM.raisesOnly_outcome (admitCommand_raises L _ _)) ?_
  intro admitted
  cases admitted with
  | error payload => exact resultEnvelope_raises config stamps _ _
  | ok m =>
    dsimp only
    split
    · exact resultEnvelope_raises config stamps _ _
    · refine PyM.raisesOnly_bind (execute_raises config stamps h _ _) ?_
      intro result
      refine PyM.raisesOnly_bind (PyM.raisesOnly_modify _) ?_
      intro _
      exact PyM.raisesOnly_pure _

/-! ### What a light command comes to -/

theorem resultEnvelope_ok (command : Envelope) (payload : JsonObj) (s : System D) :
    ∃ m, resultEnvelope config stamps command payload s =
      (.ok m, { s with built := s.built + 1 }) ∧ m.payload = payload := by
  obtain ⟨m, hm, hp, -⟩ := newEnvelope_ok config stamps "command.result" (some command.id) payload
    (by decide) s
  exact ⟨m, hm, hp⟩

variable (driver)

theorem newEnvelope_preserves {I : System D → Prop}
    (hI : ∀ s, I s → I { s with built := s.built + 1 }) (type : String) (correlation : Option Uuid)
    (payload : JsonObj) :
    PyM.Preserves I (newEnvelope config stamps type correlation payload) := by
  refine PyM.preserves_bind PyM.preserves_get ?_
  intro s
  refine PyM.preserves_bind (PyM.preserves_modify hI) ?_
  intro _
  exact PyM.preserves_outcome _

/-- Running a command changes the driver's state and the count of envelopes alone. -/
theorem execute_preserves {I : System D → Prop} {K : D → Prop} (hget : ∀ s, I s → K s.driver)
    (hput : ∀ s d, I s → K d → I { s with driver := d })
    (hbuilt : ∀ s, I s → I { s with built := s.built + 1 })
    (hop : ∀ dev id op, PyM.Preserves K (runOperation driver dev id op)) (command : Envelope)
    (m : CommandMetadata) : PyM.Preserves I (execute config stamps driver command m) := by
  unfold execute
  split
  · exact newEnvelope_preserves config stamps hbuilt _ _ _
  · refine PyM.preserves_bind PyM.preserves_get ?_
    intro s
    refine PyM.preserves_bind ?_ ?_
    · refine PyM.preserves_tryExcept ?_ ?_
      · refine PyM.preserves_bind ?_ ?_
        · exact PyM.preserves_zoom _ _ hget (fun d s => hput s d) (hop _ _ _)
        · intro state
          exact PyM.preserves_pure _
      · intro e
        split
        · exact PyM.preserves_pure _
        · exact PyM.preserves_raise _
    · intro payload
      exact newEnvelope_preserves config stamps hbuilt _ _ _

theorem execute_keeps (command : Envelope) (m : CommandMetadata) (s : System D) :
    (execute config stamps driver command m s).2.boundary = s.boundary :=
  execute_preserves (I := fun t => t.boundary = s.boundary) (K := fun _ => True) config stamps driver
    (fun _ _ => trivial) (fun _ _ h _ => h) (fun _ h => h) (fun _ _ _ _ _ => trivial) command m s rfl

theorem execute_invalid {command : Envelope} {e : PyErr} (h : planOperation command = .error e)
    (m : CommandMetadata) :
    execute config stamps driver command m =
      resultEnvelope config stamps command (invalidCommand m e.text) := by
  unfold execute
  rw [h]

/-- The driver call returned, or raised what `execute` catches. -/
theorem execute_answered {command : Envelope} {op : Operation} {m : CommandMetadata}
    {s : System D} {r : Except PyErr LightState} {d : D} (hplan : planOperation command = .ok op)
    (hrun : runOperation driver s.boundary.deviceId m.commandId op s.driver = (r, d))
    (hr : Raises IsOrdinary r) :
    execute config stamps driver command m s =
      resultEnvelope config stamps command (driverPayload m r) { s with driver := d } := by
  have hzoom : System.onDriver (runOperation driver s.boundary.deviceId m.commandId op) s =
      (r, { s with driver := d }) := PyM.zoom_apply hrun
  unfold execute
  rw [hplan]
  show (PyM.get >>= _) s = _
  rw [PyM.get_bind]
  cases r with
  | ok state =>
    refine PyM.bind_ok (PyM.tryExcept_ok ?_)
    exact PyM.bind_ok hzoom
  | error e =>
    have hx : e.isA .Exception = true := hr e rfl
    refine PyM.bind_ok (a := failed m) ?_
    rw [PyM.tryExcept_error (PyM.bind_error hzoom), if_pos hx]
    rfl

/-- The driver call raised what `execute` lets through. -/
theorem execute_raised {command : Envelope} {op : Operation} {m : CommandMetadata}
    {s : System D} {e : PyErr} {d : D} (hplan : planOperation command = .ok op)
    (hrun : runOperation driver s.boundary.deviceId m.commandId op s.driver = (.error e, d))
    (he : ¬ IsOrdinary e) :
    execute config stamps driver command m s = (.error e, { s with driver := d }) := by
  have hzoom : System.onDriver (runOperation driver s.boundary.deviceId m.commandId op) s =
      (.error e, { s with driver := d }) := PyM.zoom_apply hrun
  unfold execute
  rw [hplan]
  show (PyM.get >>= _) s = _
  rw [PyM.get_bind]
  refine PyM.bind_error ?_
  have hx : ¬ e.isA .Exception = true := he
  rw [PyM.tryExcept_error (PyM.bind_error hzoom), if_neg hx]
  rfl

/-- A command's result is its rejection, or what its driver call comes to. -/
theorem execute_run_ok {command : Envelope} {m : CommandMetadata} {s t : System D} {r : Envelope}
    (h : execute config stamps driver command m s = (.ok r, t)) :
    (∃ e, planOperation command = .error e ∧ r.payload = invalidCommand m e.text) ∨
      ∃ op, planOperation command = .ok op ∧ r.payload = driverPayload m
        (runOperation driver s.boundary.deviceId m.commandId op s.driver).1 := by
  cases hplan : planOperation command with
  | error e =>
    left
    obtain ⟨r', hr', hp⟩ := resultEnvelope_ok config stamps command (invalidCommand m e.text) s
    rw [execute_invalid config stamps driver hplan, hr'] at h
    cases h
    exact ⟨e, rfl, hp⟩
  | ok op =>
    right
    refine ⟨op, rfl, ?_⟩
    cases hrun : runOperation driver s.boundary.deviceId m.commandId op s.driver with
    | mk o d =>
      by_cases ho : Raises IsOrdinary o
      · obtain ⟨r', hr', hp⟩ :=
          resultEnvelope_ok config stamps command (driverPayload m o) { s with driver := d }
        rw [execute_answered config stamps driver hplan hrun ho, hr'] at h
        cases h
        exact hp
      · unfold Raises at ho
        push Not at ho
        obtain ⟨e, rfl, he⟩ := ho
        rw [execute_raised config stamps driver hplan hrun he] at h
        cases h

/-- A light command is answered at once, from the journal, or by running it. -/
theorem handleCommand_run_ok {command : Envelope} {s t : System D} {r : Envelope}
    (h : handleCommand L config stamps driver command s = (.ok r, t)) :
    (∃ payload, admitCommand L s.boundary.lightId command = .ok (.error payload) ∧
      r.payload = payload ∧ t.boundary = s.boundary) ∨
    ∃ m, admitCommand L s.boundary.lightId command = .ok (.ok m) ∧
      ((∃ cached, s.boundary.journal.get? m.idempotencyKey = some cached ∧
          r.payload = replay cached m ∧ t.boundary = s.boundary) ∨
        s.boundary.journal.get? m.idempotencyKey = none ∧
          (∃ u, execute config stamps driver command m s = (.ok r, u)) ∧
          t.boundary.journal = s.boundary.journal.set m.idempotencyKey r.payload) := by
  unfold handleCommand at h
  rw [PyM.get_bind] at h
  obtain ⟨admitted, hadm, h⟩ := PyM.outcome_bind_run_ok h
  cases admitted with
  | error payload =>
    left
    obtain ⟨r', hr', hp⟩ := resultEnvelope_ok config stamps command payload s
    rw [show resultEnvelope config stamps command payload s = (.ok r, t) from h] at hr'
    cases hr'
    exact ⟨payload, hadm, hp, rfl⟩
  | ok m =>
    right
    refine ⟨m, hadm, ?_⟩
    dsimp only at h
    cases hc : s.boundary.journal.get? m.idempotencyKey with
    | some cached =>
      left
      rw [hc] at h
      obtain ⟨r', hr', hp⟩ := resultEnvelope_ok config stamps command (replay cached m) s
      rw [show resultEnvelope config stamps command (replay cached m) s = (.ok r, t) from h] at hr'
      cases hr'
      exact ⟨cached, rfl, hp, rfl⟩
    | none =>
      right
      rw [hc] at h
      obtain ⟨r', u, hex, h⟩ := PyM.bind_run_ok h
      have hkeep := execute_keeps config stamps driver command m s
      rw [hex] at hkeep
      cases h
      refine ⟨rfl, ⟨u, hex⟩, ?_⟩
      show Dict.setDefault u.boundary.journal m.idempotencyKey r.payload = _
      have hb : u.boundary = s.boundary := hkeep
      unfold Dict.setDefault
      rw [hb, hc]
      rfl

/-- A light command that raises leaves the boundary as it was. -/
theorem handleCommand_error {command : Envelope} {s t : System D} {e : PyErr}
    (h : handleCommand L config stamps driver command s = (.error e, t)) :
    t.boundary = s.boundary := by
  unfold handleCommand at h
  rw [PyM.get_bind] at h
  cases hadm : admitCommand L s.boundary.lightId command with
  | error e' => rw [hadm] at h; cases h; rfl
  | ok admitted =>
    rw [hadm, PyM.outcome_ok_bind] at h
    cases admitted with
    | error payload =>
      obtain ⟨r, hr, -⟩ := resultEnvelope_ok config stamps command payload s
      rw [show resultEnvelope config stamps command payload s = (.error e, t) from h] at hr
      cases hr
    | ok m =>
      dsimp only at h
      cases hc : s.boundary.journal.get? m.idempotencyKey with
      | some cached =>
        rw [hc] at h
        obtain ⟨r, hr, -⟩ := resultEnvelope_ok config stamps command (replay cached m) s
        rw [show resultEnvelope config stamps command (replay cached m) s = (.error e, t) from h] at hr
        cases hr
      | none =>
        rw [hc] at h
        change (execute config stamps driver command m >>= _) s = _ at h
        cases hex : execute config stamps driver command m s with
        | mk o u =>
          have hkeep := execute_keeps config stamps driver command m s
          rw [hex] at hkeep
          cases o with
          | ok r => rw [PyM.bind_ok hex] at h; cases h
          | error e' => rw [PyM.bind_error hex] at h; cases h; exact hkeep

/-- An admitted command with a fresh key and a valid operation is run and journalled. -/
theorem handleCommand_fresh {command : Envelope} {m : CommandMetadata} {op : Operation}
    {s : System D} {state : LightState} {d : D}
    (hadm : admitCommand L s.boundary.lightId command = .ok (.ok m))
    (hfresh : s.boundary.journal.get? m.idempotencyKey = none)
    (hplan : planOperation command = .ok op)
    (hrun : runOperation driver s.boundary.deviceId m.commandId op s.driver = (.ok state, d)) :
    ∃ r, handleCommand L config stamps driver command s = (.ok r, { s with
        boundary := { s.boundary with
          journal := s.boundary.journal.setDefault m.idempotencyKey r.payload }
        driver := d
        built := s.built + 1 }) ∧
      r.payload = statePayload m state := by
  obtain ⟨r, hr, hp⟩ :=
    resultEnvelope_ok config stamps command (driverPayload m (.ok state)) { s with driver := d }
  have hex := (execute_answered config stamps driver hplan hrun (raises_ok state)).trans hr
  unfold handleCommand
  rw [PyM.get_bind, hadm, PyM.outcome_ok_bind]
  dsimp only
  rw [hfresh]
  exact ⟨r, PyM.bind_ok hex, hp⟩

/-! ### What a pairing request comes to -/

theorem pairingCompleted_ok (start : Envelope) (sessionId : Uuid) (candidateId status : String)
    (error : Option String) (s : System D) :
    ∃ m, pairingCompleted config stamps start sessionId candidateId status error s =
        (.ok m, { s with built := s.built + 1 }) ∧ m.type = "pairing.completed" ∧
      getItem m.payload "status" = .str status ∧
      getItem m.payload "candidate_id" = .str candidateId := by
  unfold pairingCompleted
  rw [PyM.get_bind]
  obtain ⟨m, hm, hp, ht⟩ := newEnvelope_ok config stamps "pairing.completed" (some start.id)
    ([("session_id", .str sessionId.str), ("candidate_id", .str candidateId),
      ("status", .str status), ("error", errorText error)] ++
      (match s.boundary.descriptor with
        | some d => if status = "completed" then [("device", .obj d.toPayload)] else []
        | none => [] : JsonObj)) (by decide) s
  refine ⟨m, hm, ht, ?_, ?_⟩
  · rw [hp]
    rfl
  · rw [hp]
    rfl

variable {start : Envelope} {s : System D}

/-- Looking `pair` up and waiting for it is one call of the driver. -/
theorem pairCall_bind {D α : Type} {driver : VendorRgbDriver D} {timedOut : Bool} {candidateId : String}
    {r : Except PyErr (String → PyM D PairResult)} {f : PairResult → PyM (System D) α}
    (hsome : ∀ p, driver.pair = some p → r = .ok p)
    (hnone : driver.pair = none → r = .error (pairingError "this Linker does not support pairing")) :
    (PyM.outcome r >>= fun pair => PyM.waitFor timedOut (System.onDriver (pair candidateId)) >>= f) =
      System.onDriver (pairCall driver timedOut candidateId) >>= f := by
  unfold pairCall
  cases hp : driver.pair with
  | none => rw [hnone hp]; rfl
  | some p =>
    rw [hsome p hp]
    show PyM.waitFor timedOut (System.onDriver (p candidateId)) >>= f = _
    unfold System.onDriver
    rw [PyM.waitFor_zoom]

theorem handlePairing_invalid {e : PyErr} (h : pairingRequest L start = .error e) :
    handlePairing L config stamps driver timedOut start s = (.error e, s) := by
  unfold handlePairing
  rw [h]
  rfl

/-- The `try` block of `handle_pairing`. -/
def pairAttempt (driver : VendorRgbDriver D) (timedOut : Bool) (candidateId : String) :
    PyM (System D) (Option String) := do
  let result ← System.onDriver (pairCall driver timedOut candidateId)
  let (descriptor, deviceId) ← PyM.outcome (pairingResult candidateId result)
  System.setBoundary fun b =>
    { b with descriptor := some descriptor, lightId := some descriptor.id, deviceId := some deviceId }
  pure none

variable {sessionId : Uuid} {candidateId : String} {timeout : Int} {pair : String → PyM D PairResult}
variable {d : D}

section Attempt

variable {L driver} {t : System D}

theorem handlePairing_attempted
    (hreq : pairingRequest L start = .ok (sessionId, candidateId, timeout))
    (h : pairAttempt driver timedOut candidateId s = (.ok none, t)) :
    handlePairing L config stamps driver timedOut start s =
      ((fun m => [m]) <$> pairingCompleted config stamps start sessionId candidateId "completed" none)
        t := by
  unfold handlePairing
  rw [hreq, PyM.outcome_ok_bind]
  dsimp only
  refine (PyM.bind_ok (PyM.tryExcept_ok (show _ = (Except.ok none, t) from ?_))).trans rfl
  rw [pairCall_bind (fun p hp => by rw [hp]) (fun hn => by rw [hn])]
  exact h

/-- A failed attempt is answered, unless it was cancelled. -/
theorem handlePairing_refuses {e : PyErr}
    (hreq : pairingRequest L start = .ok (sessionId, candidateId, timeout))
    (h : pairAttempt driver timedOut candidateId s = (.error e, t)) :
    (¬ IsOrdinary e ∧ handlePairing L config stamps driver timedOut start s = (.error e, t)) ∨
    ∃ text, handlePairing L config stamps driver timedOut start s =
      ((fun m => [m]) <$>
        pairingCompleted config stamps start sessionId candidateId "failed" (some text)) t := by
  unfold handlePairing
  rw [hreq, PyM.outcome_ok_bind]
  dsimp only
  rw [pairCall_bind (fun p hp => by rw [hp]) (fun hn => by rw [hn])]
  by_cases he : IsOrdinary e
  · right
    obtain ⟨text, htext⟩ := pairingFailure_ok he
    refine ⟨text, (PyM.bind_ok (show _ = (Except.ok (some text), t) from ?_)).trans rfl⟩
    refine (PyM.tryExcept_error h).trans ?_
    rw [htext]
    rfl
  · left
    refine ⟨he, PyM.bind_error ((PyM.tryExcept_error h).trans ?_)⟩
    rw [pairingFailure_uncaught he]
    rfl

theorem pairAttempt_raised {e : PyErr}
    (hcall : pairCall driver timedOut candidateId s.driver = (.error e, d)) :
    pairAttempt driver timedOut candidateId s = (.error e, { s with driver := d }) :=
  PyM.bind_error (PyM.zoom_apply hcall)

/-- A result that is not accepted leaves the boundary as it was. -/
theorem pairAttempt_refused {r : PairResult} {e : PyErr}
    (hcall : pairCall driver timedOut candidateId s.driver = (.ok r, d))
    (hres : pairingResult candidateId r = .error e) :
    pairAttempt driver timedOut candidateId s = (.error e, { s with driver := d }) := by
  have hbody : System.onDriver (pairCall driver timedOut candidateId) s =
      (.ok r, { s with driver := d }) := PyM.zoom_apply hcall
  unfold pairAttempt
  rw [PyM.bind_ok hbody, hres]
  rfl

/-- An accepted result binds the boundary. -/
theorem pairAttempt_bound {r : PairResult} {a : DeviceDescriptor} {deviceId : String}
    (hcall : pairCall driver timedOut candidateId s.driver = (.ok r, d))
    (hres : pairingResult candidateId r = .ok (a, deviceId)) :
    pairAttempt driver timedOut candidateId s = (.ok none, { s with
      driver := d
      boundary := ⟨some a.id, some deviceId, some a, s.boundary.journal⟩ }) := by
  have hbody : System.onDriver (pairCall driver timedOut candidateId) s =
      (.ok r, { s with driver := d }) := PyM.zoom_apply hcall
  unfold pairAttempt
  rw [PyM.bind_ok hbody, hres]
  rfl

variable (timedOut) in
theorem pairCall_ok {r : PairResult} {x : D} (hpair : driver.pair = some pair)
    (hrun : pair candidateId x = (.ok r, d)) :
    pairCall driver timedOut candidateId x = (.ok r, d) := by
  unfold pairCall
  rw [hpair]
  exact PyM.tryExcept_ok hrun

variable (timedOut) in
/-- What the driver raises may become a timeout. -/
theorem pairCall_error {e : PyErr} {x : D} (hpair : driver.pair = some pair)
    (hrun : pair candidateId x = (.error e, d)) :
    ∃ e', pairCall driver timedOut candidateId x = (.error e', d) := by
  unfold pairCall
  rw [hpair]
  show ∃ e', PyM.waitFor timedOut (pair candidateId) x = (.error e', d)
  unfold PyM.waitFor
  rw [PyM.tryExcept_error hrun]
  split
  · exact ⟨_, rfl⟩
  · exact ⟨_, rfl⟩

end Attempt

theorem pairingResult_of_ok {a : DeviceDescriptor} {deviceId : String} (hid : a.id = candidateId)
    (hdev : deviceId ≠ "") : pairingResult candidateId ⟨some a, some deviceId⟩ = .ok (a, deviceId) := by
  unfold pairingResult
  dsimp only
  rw [if_neg hdev, if_neg (not_not.mpr hid)]

/-- The driver paired the candidate it was asked for: the boundary is bound to it. -/
theorem handlePairing_completed {a : DeviceDescriptor} {deviceId : String}
    (hreq : pairingRequest L start = .ok (sessionId, candidateId, timeout))
    (hpair : driver.pair = some pair)
    (hrun : pair candidateId s.driver = (.ok ⟨some a, some deviceId⟩, d))
    (hid : a.id = candidateId) (hdev : deviceId ≠ "") :
    ∃ m, handlePairing L config stamps driver timedOut start s =
        (.ok [m], { s with
          boundary := ⟨some candidateId, some deviceId, some a, s.boundary.journal⟩,
          driver := d, built := s.built + 1 }) ∧ m.type = "pairing.completed" ∧
      getItem m.payload "status" = .str "completed" ∧
      getItem m.payload "candidate_id" = .str candidateId := by
  have hattempt := pairAttempt_bound (pairCall_ok timedOut hpair hrun)
    (pairingResult_of_ok hid hdev)
  obtain ⟨m, hm, hrest⟩ := pairingCompleted_ok config stamps start sessionId candidateId
    "completed" none { s with
      driver := d, boundary := ⟨some a.id, some deviceId, some a, s.boundary.journal⟩ }
  refine ⟨m, ?_, hrest⟩
  rw [handlePairing_attempted config stamps hreq hattempt, PyM.map_apply, hm, hid]
  rfl

/-- The driver raised: the boundary keeps its binding, and an answer says so. -/
theorem handlePairing_failed {e : PyErr}
    (hreq : pairingRequest L start = .ok (sessionId, candidateId, timeout))
    (hpair : driver.pair = some pair) (hrun : pair candidateId s.driver = (.error e, d)) :
    ∃ r u, handlePairing L config stamps driver timedOut start s = (r, u) ∧ u.driver = d ∧
      u.boundary = s.boundary ∧
      ∀ ms, r = .ok ms → ∃ m, ms = [m] ∧ getItem m.payload "status" = .str "failed" := by
  obtain ⟨e', hcall⟩ := pairCall_error timedOut hpair hrun
  rcases handlePairing_refuses config stamps hreq (pairAttempt_raised hcall) with
    ⟨-, hrun⟩ | ⟨text, hrun⟩
  · exact ⟨.error e', { s with driver := d }, hrun, rfl, rfl, nofun⟩
  · obtain ⟨m, hm, -, hstatus, -⟩ := pairingCompleted_ok config stamps start sessionId candidateId
      "failed" (some text) { s with driver := d }
    refine ⟨.ok [m], { s with driver := d, built := s.built + 1 }, ?_, rfl, rfl, ?_⟩
    · rw [hrun, PyM.map_apply, hm]
      rfl
    · intro ms hms
      cases hms
      exact ⟨m, rfl, hstatus⟩

/-! ### The types of the messages -/

section Types

variable {driver : VendorRgbDriver D}

theorem newEnvelope_returns (type : String) (correlation : Option Uuid) (payload : JsonObj)
    (ht : isMessageType type = true) : PyM.Returns (fun m => m.type = type)
      (newEnvelope (D := D) config stamps type correlation payload) := by
  intro s m hm
  rw [newEnvelope_run config stamps type correlation payload ht] at hm
  cases hm
  rfl

theorem handleDiscovery_types (start : Envelope) :
    PyM.Returns
      (fun ms => ∀ m ∈ ms, m.type = "discovery.candidate" ∨ m.type = "discovery.completed")
      (handleDiscovery L config stamps driver timedOut start) := by
  have hdone : ∀ sessionId status error, PyM.Returns (fun m => m.type = "discovery.completed")
      (discoveryCompleted (D := D) config stamps start sessionId status error) :=
    fun _ _ _ => newEnvelope_returns config stamps _ _ _ (by decide)
  unfold handleDiscovery
  refine PyM.returns_bind_any fun request => PyM.returns_bind_any fun discovery =>
    PyM.returns_bind_any fun found => ?_
  cases found with
  | error text =>
    refine PyM.returns_bind (hdone _ _ _) fun m hm => PyM.returns_pure ?_
    exact List.forall_mem_singleton.mpr (Or.inr hm)
  | ok candidates =>
    refine PyM.returns_bind (PyM.returns_mapM candidates fun c =>
      newEnvelope_returns config stamps "discovery.candidate" _ _ (by decide)) ?_
    intro messages hmessages
    refine PyM.returns_bind (hdone _ _ _) fun m hm => PyM.returns_pure ?_
    exact List.forall_mem_append.mpr ⟨fun m' hm' => Or.inl (hmessages m' hm'),
      List.forall_mem_singleton.mpr (Or.inr hm)⟩

theorem handleCommand_type (command : Envelope) :
    PyM.Returns (fun m => m.type = "command.result")
      (handleCommand L config stamps driver command) := by
  have hresult : ∀ payload, PyM.Returns (fun m => m.type = "command.result")
      (resultEnvelope (D := D) config stamps command payload) :=
    fun _ => newEnvelope_returns config stamps _ _ _ (by decide)
  unfold handleCommand
  refine PyM.returns_bind_any fun s => PyM.returns_bind_any fun admitted => ?_
  cases admitted with
  | error payload => exact hresult payload
  | ok m =>
    dsimp only
    split
    · exact hresult _
    · refine PyM.returns_bind (Q := fun m => m.type = "command.result") ?_ fun result hr =>
        PyM.returns_bind_any fun _ => PyM.returns_pure hr
      unfold execute
      split
      · exact hresult _
      · exact PyM.returns_bind_any fun s => PyM.returns_bind_any fun payload => hresult payload

end Types

/-! ### What the other messages preserve -/

variable {driver : VendorRgbDriver D} {I : System D → Prop} {K : D → Prop}

/-- What holds after the scan holds after the whole request. -/
theorem handleDiscovery_after {s : System D} (hbuilt : ∀ s, I s → I { s with built := s.built + 1 })
    (hinvalid : ∀ e, discoveryRequest L start = .error e → I s)
    (hscan : ∀ c, I { s with driver := (driver.discover c s.driver).2 }) :
    I (handleDiscovery L config stamps driver timedOut start s).2 := by
  unfold handleDiscovery
  cases hreq : discoveryRequest L start with
  | error e => exact hinvalid e hreq
  | ok request =>
    obtain ⟨sessionId, timeoutS⟩ := request
    obtain ⟨discovery, hd⟩ := replaceTimeout_ok config.discovery timeoutS
    rw [PyM.outcome_ok_bind]
    dsimp only
    rw [hd, PyM.outcome_ok_bind]
    refine PyM.bind_after (PyM.tryExcept_after (PyM.bind_after (PyM.tryExcept_after ?_ ?_) ?_) ?_) ?_
    · exact hscan discovery
    · intro e
      split
      · exact PyM.preserves_raise _
      · exact PyM.preserves_raise _
    · intro descriptors
      refine PyM.preserves_bind (PyM.preserves_outcome _) ?_
      intro candidates
      exact PyM.preserves_pure _
    · intro e
      exact PyM.preserves_map _ (PyM.preserves_outcome _)
    · intro found
      cases found with
      | error text =>
        refine PyM.preserves_bind (newEnvelope_preserves config stamps hbuilt _ _ _) ?_
        intro m
        exact PyM.preserves_pure _
      | ok candidates =>
        refine PyM.preserves_bind (PyM.preserves_mapM _ ?_) ?_
        · intro c _
          exact newEnvelope_preserves config stamps hbuilt _ _ _
        · intro messages
          refine PyM.preserves_bind (newEnvelope_preserves config stamps hbuilt _ _ _) ?_
          intro m
          exact PyM.preserves_pure _

theorem handleDiscovery_preserves (hget : ∀ s, I s → K s.driver)
    (hput : ∀ s d, I s → K d → I { s with driver := d })
    (hbuilt : ∀ s, I s → I { s with built := s.built + 1 })
    (hdiscover : ∀ c, PyM.Preserves K (driver.discover c)) (start : Envelope) :
    PyM.Preserves I (handleDiscovery L config stamps driver timedOut start) := by
  intro s hs
  refine handleDiscovery_after L config stamps hbuilt (fun _ _ => hs) ?_
  intro c
  exact hput s _ hs (hdiscover c s.driver (hget s hs))

theorem handleCommand_preserves (hget : ∀ s, I s → K s.driver)
    (hput : ∀ s d, I s → K d → I { s with driver := d })
    (hbuilt : ∀ s, I s → I { s with built := s.built + 1 })
    (hjournal : ∀ s j, I s → I { s with boundary := { s.boundary with journal := j } })
    (hop : ∀ dev id op, PyM.Preserves K (runOperation driver dev id op)) (command : Envelope) :
    PyM.Preserves I (handleCommand L config stamps driver command) := by
  refine PyM.preserves_bind PyM.preserves_get ?_
  intro s
  refine PyM.preserves_bind (PyM.preserves_outcome _) ?_
  intro admitted
  cases admitted with
  | error payload => exact newEnvelope_preserves config stamps hbuilt _ _ _
  | ok m =>
    dsimp only
    split
    · exact newEnvelope_preserves config stamps hbuilt _ _ _
    · refine PyM.preserves_bind
        (execute_preserves config stamps driver hget hput hbuilt hop command m) ?_
      intro result
      refine PyM.preserves_bind (PyM.preserves_modify fun s hs => hjournal s _ hs) ?_
      intro _
      exact PyM.preserves_pure _

end Boundary

end Linker
