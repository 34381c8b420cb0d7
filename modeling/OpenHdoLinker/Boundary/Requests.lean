import OpenHdoLinker.Protocol

/-!
# What the boundary reads out of a message

The pure part of `boundary.py`: request validation, the metadata of a light
command, the driver operation a command asks for, and the payloads of its
result.  No driver and no state is involved, so both the sequential handlers and
the interleaved ones are built from these.
-/

namespace Linker

open Py

/-! ## Algorithm -/

/-- `_required_string(payload, key)`. -/
def requiredString (payload : JsonObj) (key : String) : Except PyErr String := do
  let value ← item payload key
  match value.str? with
  | some s =>
    if s ≠ "" ∧ s.length ≤ 128 then .ok s
    else .error (valueError s!"{key} must be a non-empty string")
  | none => .error (valueError s!"{key} must be a non-empty string")

/-- `_required_uuid(payload, key)`. -/
def requiredUuid (L : PyLib) (payload : JsonObj) (key : String) : Except PyErr Uuid :=
  match item payload key with
  | .error _ => .error (valueError s!"{key} must be a UUID")
  | .ok value =>
    match Uuid.parse (L.str value) with
    | some u => .ok u
    | none => .error (valueError s!"{key} must be a UUID")

theorem requiredUuid_str (L : PyLib) {payload : JsonObj} {key : String} {u : Uuid}
    (h : item payload key = .ok (.str u.str)) : requiredUuid L payload key = .ok u := by
  unfold requiredUuid
  rw [h]
  dsimp only
  rw [L.str_str, Uuid.parse_str]

/-- `type(timeout) is int and 1 <= timeout <= 60`. -/
def requestTimeout (payload : JsonObj) : Except PyErr Int :=
  match (getItem payload "timeout_s").int? with
  | some timeout =>
    if 1 ≤ timeout ∧ timeout ≤ 60 then .ok timeout
    else .error (valueError "timeout_s must be an integer from 1 to 60")
  | none => .error (valueError "timeout_s must be an integer from 1 to 60")

/-- The checks `_discovery_request` and `_pairing_request` begin with. -/
def requestHead (type : String) (noun : String) (fields : List String) (start : Envelope) :
    Except PyErr Unit :=
  let unknown := (start.payload.map Prod.fst).filter (· ∉ fields)
  if start.type ≠ type then .error (valueError s!"{noun} request must use {type}")
  else if start.correlationId ≠ some start.id then
    .error (valueError s!"{type} correlation_id must equal envelope id")
  else if unknown ≠ [] then .error (valueError s!"unknown {type} fields: {joinSorted unknown}")
  else .ok ()

/-- `_discovery_request(start)`. -/
def discoveryRequest (L : PyLib) (start : Envelope) : Except PyErr (Uuid × Int) := do
  requestHead "discovery.start" "discovery" ["session_id", "timeout_s"] start
  let sessionId ← requiredUuid L start.payload "session_id"
  let timeout ← requestTimeout start.payload
  .ok (sessionId, timeout)

/-- `_pairing_request(start)`. -/
def pairingRequest (L : PyLib) (start : Envelope) : Except PyErr (Uuid × String × Int) := do
  requestHead "pairing.start" "pairing"
    ["session_id", "discovery_session_id", "candidate_id", "timeout_s"] start
  let sessionId ← requiredUuid L start.payload "session_id"
  let _ ← requiredUuid L start.payload "discovery_session_id"
  let candidateId ← requiredString start.payload "candidate_id"
  let timeout ← requestTimeout start.payload
  .ok (sessionId, candidateId, timeout)

/-! ## Light commands -/

/-- `_COMMAND_TYPES`. -/
def commandTypes : List String :=
  ["light.command.power", "light.command.brightness", "light.command.rgb_color"]

/-- `metadata_error or text`. -/
def orText : Option String → String → Option String
  | some t, text => if t ≠ "" then some t else some text
  | none, text => some text

/-- `light_id or default`. -/
def orDefault : Option String → String → String
  | some s, dflt => if s ≠ "" then s else dflt
  | none, dflt => dflt

structure CommandMetadata where
  lightId : String
  commandId : Uuid
  idempotencyKey : String
  error : Option String

/-- The metadata `handle` reads before it takes the command lock. -/
def commandMetadata (L : PyLib) (boundaryLight : Option String) (command : Envelope) :
    CommandMetadata :=
  let light := match requiredString command.payload "light_id" with
    | .ok s => (s, none)
    | .error e => (orDefault boundaryLight "invalid.light", some e.text)
  let commandId := match requiredUuid L command.payload "command_id" with
    | .ok u => (u, light.2)
    | .error e => (command.id, orText light.2 e.text)
  let key := match requiredString command.payload "idempotency_key" with
    | .ok s => (s, commandId.2)
    | .error e => (s!"invalid:{command.id.str}", orText commandId.2 e.text)
  ⟨light.1, commandId.1, key.1, key.2⟩

/-- The driver call a command asks for. -/
inductive Operation
  | turnOn
  | turnOff
  | setBrightness (value : Int)
  | setRgb (rgb : Rgb)
deriving DecidableEq

/-- `_brightness(value)`. -/
def brightnessArg (value : Json) : Except PyErr Int :=
  match value.int? with
  | some n =>
    if 0 ≤ n ∧ n ≤ 255 then .ok n
    else .error (valueError "brightness must be an integer from 0 to 255")
  | none => .error (valueError "brightness must be an integer from 0 to 255")

/-- The first `try` block of `_execute`. -/
def planOperation (command : Envelope) : Except PyErr Operation :=
  if command.type = "light.command.power" then
    match (getItem command.payload "power").bool? with
    | some power => .ok (if power then .turnOn else .turnOff)
    | none => .error (valueError "power must be boolean")
  else if command.type = "light.command.brightness" then
    .setBrightness <$> brightnessArg (getItem command.payload "brightness")
  else
    .setRgb <$> Rgb.fromPayload (getItem command.payload "rgb_color")

/-- `_rejected(light_id, command_id, idempotency_key, code, message)`. -/
def rejected (m : CommandMetadata) (code message : String) : JsonObj :=
  [("status", .str "rejected"), ("light_id", .str m.lightId), ("command_id", .str m.commandId.str),
    ("idempotency_key", .str m.idempotencyKey),
    ("error", .obj [("code", .str code), ("message", .str message)])]

def applied (m : CommandMetadata) (state : JsonObj) : JsonObj :=
  [("status", .str "applied"), ("light_id", .str m.lightId), ("command_id", .str m.commandId.str),
    ("idempotency_key", .str m.idempotencyKey), ("state", .obj state)]

def failed (m : CommandMetadata) : JsonObj :=
  [("status", .str "failed"), ("light_id", .str m.lightId), ("command_id", .str m.commandId.str),
    ("idempotency_key", .str m.idempotencyKey),
    ("error", .obj [("code", .str "driver_error"),
      ("message", .str "physical device action was not confirmed")])]

/-- The second `try` block of `_execute`: the payload a returned state gives. -/
def statePayload (m : CommandMetadata) (state : LightState) : JsonObj :=
  match state.toPayload (some m.lightId) with
  | .ok payload => applied m payload
  | .error _ => failed m

/-- The second `try` block of `_execute`, on the outcome of the driver call. -/
def driverPayload (m : CommandMetadata) : Except PyErr LightState → JsonObj
  | .ok state => statePayload m state
  | .error _ => failed m

/-- The payload for a command whose metadata is invalid. -/
def invalidCommand (m : CommandMetadata) (message : String) : JsonObj :=
  rejected m "invalid_command" message

def unknownLight (m : CommandMetadata) : JsonObj :=
  rejected m "unknown_light" "light is not registered"

def idempotencyConflict (m : CommandMetadata) : JsonObj :=
  rejected m "idempotency_conflict" "idempotency key belongs to another command"

/-- `payload.get("command_id") == str(command_id)`. -/
def sameCommandId (payload : JsonObj) (commandId : Uuid) : Bool :=
  (getItem payload "command_id").str? = some commandId.str

/-- What `handle` does with a light command before it takes the command lock: it raises, answers
with a payload at once, or goes on with the command's metadata. -/
def admitCommand (L : PyLib) (boundaryLight : Option String) (command : Envelope) :
    Except PyErr (Except JsonObj CommandMetadata) :=
  if command.type ∉ commandTypes then
    .error (valueError s!"unsupported message type: {command.type}")
  else if command.correlationId = none then
    .error (valueError "light commands require correlation_id")
  else
    let m := commandMetadata L boundaryLight command
    match m.error with
    | some text => .ok (.error (invalidCommand m text))
    | none => .ok (if boundaryLight = some m.lightId then .ok m else .error (unknownLight m))

/-- The answer to a command whose key is in the journal. -/
def replay (cached : JsonObj) (m : CommandMetadata) : JsonObj :=
  if sameCommandId cached m.commandId then cached else idempotencyConflict m

/-! ## Lemmas -/

/-- The classes the callers list: `except (KeyError, TypeError, ValueError)`. -/
def requestErrors : List ExcClass := [.KeyError, .TypeError, .ValueError]

def IsRequestError (e : PyErr) : Prop := e.isAny requestErrors = true

theorem isRequestError_value (text : String) : IsRequestError (valueError text) := by
  show (requestErrors.any fun c => decide (c ∈ ExcClass.mro .ValueError)) = true
  decide

theorem isRequestError_key (text : String) : IsRequestError ⟨.KeyError, text⟩ := by
  show (requestErrors.any fun c => decide (c ∈ ExcClass.mro .KeyError)) = true
  decide

theorem requiredString_raises (payload : JsonObj) (key : String) :
    Raises IsRequestError (requiredString payload key) := by
  unfold requiredString
  apply raises_bind
  · unfold item
    split
    · exact raises_ok _
    · exact raises_error (isRequestError_key _)
  · intro value _
    split
    · split
      · exact raises_ok _
      · exact raises_error (isRequestError_value _)
    · exact raises_error (isRequestError_value _)

theorem requiredUuid_raises (L : PyLib) (payload : JsonObj) (key : String) :
    Raises IsRequestError (requiredUuid L payload key) := by
  unfold requiredUuid
  split
  · exact raises_error (isRequestError_value _)
  · split
    · exact raises_ok _
    · exact raises_error (isRequestError_value _)

theorem requestTimeout_raises (payload : JsonObj) :
    Raises IsRequestError (requestTimeout payload) := by
  unfold requestTimeout
  split
  · split
    · exact raises_ok _
    · exact raises_error (isRequestError_value _)
  · exact raises_error (isRequestError_value _)

theorem requestHead_raises (type noun : String) (fields : List String) (start : Envelope) :
    Raises IsRequestError (requestHead type noun fields start) := by
  unfold requestHead
  dsimp only
  split
  · exact raises_error (isRequestError_value _)
  · split
    · exact raises_error (isRequestError_value _)
    · split
      · exact raises_error (isRequestError_value _)
      · exact raises_ok _

theorem discoveryRequest_raises (L : PyLib) (start : Envelope) :
    Raises IsRequestError (discoveryRequest L start) := by
  unfold discoveryRequest
  refine raises_bind (requestHead_raises _ _ _ _) ?_
  intro _ _
  refine raises_bind (requiredUuid_raises L _ _) ?_
  intro _ _
  refine raises_bind (requestTimeout_raises _) ?_
  intro _ _
  exact raises_ok _

theorem pairingRequest_raises (L : PyLib) (start : Envelope) :
    Raises IsRequestError (pairingRequest L start) := by
  unfold pairingRequest
  refine raises_bind (requestHead_raises _ _ _ _) ?_
  intro _ _
  refine raises_bind (requiredUuid_raises L _ _) ?_
  intro _ _
  refine raises_bind (requiredUuid_raises L _ _) ?_
  intro _ _
  refine raises_bind (requiredString_raises _ _) ?_
  intro _ _
  refine raises_bind (requestTimeout_raises _) ?_
  intro _ _
  exact raises_ok _

theorem requestTimeout_range (payload : JsonObj) (n : Int) (h : requestTimeout payload = .ok n) :
    1 ≤ n ∧ n ≤ 60 := by
  unfold requestTimeout at h
  split at h
  · split at h
    · next hr => cases h; exact hr
    · cases h
  · cases h

theorem admitCommand_ok (L : PyLib) (light : Option String) (command : Envelope)
    (m : CommandMetadata) (h : admitCommand L light command = .ok (.ok m)) :
    m = commandMetadata L light command ∧ light = some m.lightId ∧ m.error = none := by
  unfold admitCommand at h
  dsimp only at h
  split at h
  · cases h
  · split at h
    · cases h
    · split at h
      · cases h
      · next he =>
        split at h
        · next hl => cases h; exact ⟨rfl, hl, he⟩
        · cases h

theorem orText_ne_none (t : Option String) (text : String) : orText t text ≠ none := by
  unfold orText
  split
  · split
    · exact Option.some_ne_none _
    · exact Option.some_ne_none _
  · exact Option.some_ne_none _

/-- Valid metadata is what the command's payload says. -/
theorem commandMetadata_fields (L : PyLib) {light : Option String} {command : Envelope}
    (h : (commandMetadata L light command).error = none) :
    requiredString command.payload "light_id" = .ok (commandMetadata L light command).lightId ∧
    requiredUuid L command.payload "command_id" = .ok (commandMetadata L light command).commandId ∧
    requiredString command.payload "idempotency_key" =
      .ok (commandMetadata L light command).idempotencyKey := by
  unfold commandMetadata at *
  cases hk : requiredString command.payload "idempotency_key" with
  | error e =>
    rw [hk] at h
    exact absurd h (orText_ne_none _ _)
  | ok key =>
    cases hc : requiredUuid L command.payload "command_id" with
    | error e =>
      rw [hk, hc] at h
      exact absurd h (orText_ne_none _ _)
    | ok u =>
      cases hl : requiredString command.payload "light_id" with
      | error e =>
        rw [hk, hc, hl] at h
        cases h
      | ok l => exact ⟨rfl, rfl, rfl⟩

/-- The boundary's light is only a default: valid metadata does not depend on it. -/
theorem commandMetadata_valid (L : PyLib) {light : Option String} {command : Envelope}
    (h : (commandMetadata L light command).error = none) (light' : Option String) :
    commandMetadata L light' command = commandMetadata L light command := by
  obtain ⟨hl, hc, hk⟩ := commandMetadata_fields L h
  unfold commandMetadata at *
  rw [hl, hc, hk]

/-- A command is admitted under the light it names, and under no other. -/
theorem admitCommand_named (L : PyLib) {light : Option String} {command : Envelope}
    {m : CommandMetadata} (h : admitCommand L light command = .ok (.ok m)) :
    admitCommand L (some m.lightId) command = .ok (.ok m) := by
  obtain ⟨-, hlight, -⟩ := admitCommand_ok L light command m h
  rw [← hlight]
  exact h

/-- An admitted command names its light. -/
theorem admitCommand_lightId (L : PyLib) {light : Option String} {command : Envelope}
    {m : CommandMetadata} (h : admitCommand L light command = .ok (.ok m)) :
    requiredString command.payload "light_id" = .ok m.lightId := by
  obtain ⟨hm, -, he⟩ := admitCommand_ok L light command m h
  rw [hm] at he ⊢
  exact (commandMetadata_fields L he).1

/-- The metadata of an admitted command does not depend on the boundary. -/
theorem admitCommand_unique (L : PyLib) {light light' : Option String} {command : Envelope}
    {m m' : CommandMetadata} (h : admitCommand L light command = .ok (.ok m))
    (h' : admitCommand L light' command = .ok (.ok m')) : m' = m := by
  obtain ⟨hm, -, he⟩ := admitCommand_ok L light command m h
  obtain ⟨hm', -, -⟩ := admitCommand_ok L light' command m' h'
  rw [hm] at he
  rw [hm, hm']
  exact commandMetadata_valid L he light'

/-- A command answered before the command lock is rejected. -/
theorem admitCommand_refused (L : PyLib) (light : Option String) (command : Envelope)
    (payload : JsonObj) (h : admitCommand L light command = .ok (.error payload)) :
    ∃ code message, code ≠ "" ∧
      payload = rejected (commandMetadata L light command) code message := by
  unfold admitCommand at h
  dsimp only at h
  split at h
  · cases h
  · split at h
    · cases h
    · split at h
      · cases h; exact ⟨_, _, by decide, rfl⟩
      · split at h
        · cases h
        · cases h; exact ⟨_, _, by decide, rfl⟩

/-! ### The command id of a payload -/

/-- The payload carries the command id of `m`. -/
def Tagged (m : CommandMetadata) (payload : JsonObj) : Prop :=
  getItem payload "command_id" = .str m.commandId.str

theorem tagged_rejected (m : CommandMetadata) (code message : String) :
    Tagged m (rejected m code message) := rfl

theorem tagged_driverPayload (m : CommandMetadata) (r : Except PyErr LightState) :
    Tagged m (driverPayload m r) := by
  unfold driverPayload statePayload
  split
  · split
    · rfl
    · rfl
  · rfl

/-- A tagged payload is recognised by the command id it was tagged with, and by no other. -/
theorem sameCommandId_tagged (m : CommandMetadata) (payload : JsonObj) (h : Tagged m payload)
    (commandId : Uuid) : sameCommandId payload commandId = true ↔ m.commandId = commandId := by
  unfold sameCommandId
  rw [h, decide_eq_true_eq]
  constructor
  · intro he
    exact Uuid.str_inj _ _ (Option.some.inj he)
  · intro he
    rw [he]
    rfl

theorem admitCommand_raises (L : PyLib) (light : Option String) (command : Envelope) :
    Raises IsRequestError (admitCommand L light command) := by
  unfold admitCommand
  dsimp only
  split
  · exact raises_error (isRequestError_value _)
  · split
    · exact raises_error (isRequestError_value _)
    · split
      · exact raises_ok _
      · exact raises_ok _

end Linker
