import OpenHdoLinker.Tuya.Discovery
import OpenHdoLinker.Tuya.Mapping
import OpenHdoLinker.Boundary.Handle

/-!
# The local Tuya driver, one call at a time

`TuyaLocalDriver` as computations on its fields and its pairing-state file.  What
the network and the file system answer is an argument of each call: an exchange
returns a payload or raises, and so does every step of connecting and of writing
the file.  The exchange itself, with its sockets and tasks, is modelled apart.
-/

namespace Linker

open Py

/-! ## Configuration -/

/-- What `ipaddress.ip_address` says of a text it accepts. -/
structure IpAddress where
  isLoopback : Bool
  isPrivate : Bool
  isLinkLocal : Bool
deriving DecidableEq

/-- The settings a device and a pairing profile share. -/
structure TuyaLink where
  localKey : String
  protocolVersion : ProtocolVersion
  publicName : String
  port : Nat
  timeoutS : PyFloat
  retries : Nat
  key_ok : (∀ c ∈ localKey.toList, c.toNat < 128) ∧ localKey.length = 16
  name_ok : publicName ≠ "" ∧ publicName.length ≤ 128
  port_ok : 1 ≤ port ∧ port ≤ 65535
  timeout_ok : timeoutS.le (.finite 0) = false ∧ (PyFloat.finite 60).lt timeoutS = false
  retries_ok : retries ≤ 5

/-- Local credentials and verified mapping used after LAN discovery. -/
structure TuyaPairingConfig where
  link : TuyaLink
  dps : TuyaDpMapping

/-- All values required to address one actual local device. -/
structure TuyaDeviceConfig where
  ip : String
  deviceId : String
  link : TuyaLink
  dps : Option TuyaDpMapping
  id_ok : deviceId ≠ "" ∧ deviceId.length ≤ 64

/-- `TuyaDeviceConfig(ip=…, device_id=…, …)`.  The checks on the link are its own fields. -/
def TuyaDeviceConfig.init (ipAddress : String → Option IpAddress) (ip deviceId : String)
    (link : TuyaLink) (dps : Option TuyaDpMapping) : Except PyErr TuyaDeviceConfig :=
  match ipAddress ip with
  | none => .error (tuyaConfigurationError "ip must be a valid IPv4 or IPv6 address")
  | some address =>
    if address.isLoopback || (!address.isPrivate && !address.isLinkLocal) then
      .error (tuyaConfigurationError "local Tuya device IP must be private or link-local")
    else if h : deviceId ≠ "" ∧ deviceId.length ≤ 64 then .ok ⟨ip, deviceId, link, dps, h⟩
    else .error (tuyaConfigurationError "device_id is required and must be at most 64 characters")

theorem TuyaDeviceConfig.init_eq_ok (ipAddress : String → Option IpAddress) (ip deviceId : String)
    (link : TuyaLink) (dps : Option TuyaDpMapping) (d : TuyaDeviceConfig)
    (h : init ipAddress ip deviceId link dps = .ok d) :
    d.ip = ip ∧ d.deviceId = deviceId ∧ d.link = link ∧ d.dps = dps := by
  unfold init at h
  split at h
  · cases h
  · split at h
    · cases h
    · split at h
      · cases h; exact ⟨rfl, rfl, rfl, rfl⟩
      · cases h

/-! ## State -/

/-- The pairing-state file, as `json.load` reads it. -/
abbrev StateFile : Type := Except JsonFailure Json

structure TuyaState where
  device : Option TuyaDeviceConfig
  pairing : Option TuyaPairingConfig
  statePath : Option String
  pairedLightId : Option String
  discoveryEnabled : Bool
  discovered : Dict String DiscoveryItem
  callbacks : Dict String (List Nat)
  rawDps : Dps
  state : Option LightState
  file : Option StateFile
  requests : List (Nat × Json)

/-- What the surroundings answer to the steps of one `pair` call. -/
structure PairOutcomes where
  disconnect : Except PyErr Unit
  connect : Except PyErr Unit
  exchange : Except PyErr Bytes
  mkdir : Except PyErr Unit
  create : Except PyErr Unit
  write : Except PyErr Unit
  replace : Except PyErr Unit
  unlink : Except PyErr Unit
  rollback : Except PyErr Unit

section Driver

variable (C : TuyaCrypto) (J : JsonLib) (ipAddress : String → Option IpAddress)

/-! ## Identifiers and descriptors -/

/-- `device_id.encode("utf-8")`. -/
def utf8 (s : String) : Bytes := s.toUTF8.data.toList

/-- `digest.hexdigest()`. -/
def hexdigest (digest : Bytes) : List Char := digest.flatMap fun b => hexDigits 2 b.toNat

/-- `_candidate_id(device_id)`. -/
def candidateIdOf (deviceId : String) : String :=
  String.ofList ("light.".toList ++ (hexdigest (C.sha256 (utf8 deviceId))).take 32)

/-- `_discovery_descriptor(device_id)`. -/
def discoveryDescriptor (deviceId : String) : Except PyErr DeviceDescriptor :=
  DeviceDescriptor.init (candidateIdOf C deviceId) "LED lamp" ["RGB"]

/-- `self.device`. -/
def deviceOf (s : TuyaState) : Except PyErr TuyaDeviceConfig :=
  match s.device with
  | some d => .ok d
  | none => .error (tuyaConfigurationError
      "real device configuration is required for connect/poll/commands; discovery may run without it")

/-- The color modes `_descriptor` announces for a device. -/
def colorModesOf (d : TuyaDeviceConfig) : List String :=
  match d.dps with
  | some m => if m.white.isSome then ["RGBW"] else ["RGB"]
  | none => ["RGB"]

/-- `_descriptor(self.device.device_id)`: the raw device id has to be a light id. -/
def rawDescriptor (d : TuyaDeviceConfig) : Except PyErr DeviceDescriptor :=
  DeviceDescriptor.init d.deviceId d.link.publicName (colorModesOf d)

/-- `descriptor(light_id)`. -/
def descriptor (s : TuyaState) (lightId : Option String) : Except PyErr DeviceDescriptor := do
  let d ← deviceOf s
  let descriptor ← rawDescriptor d
  match lightId with
  | some id => descriptor.replaceId id
  | none => .ok descriptor

/-! ## Requests -/

/-- `_exchange(command, body)`, with its outcome; the call is recorded, whatever it sends. -/
def exchange (command : Nat) (body : Json) (answer : Except PyErr Bytes) : PyM TuyaState Bytes := do
  PyM.modify fun s => { s with requests := s.requests ++ [(command, body)] }
  PyM.outcome answer

/-- `{device_id!r}`, for a text without quotes or escapes. -/
def reprOf : Option String → String
  | some s => "'" ++ s ++ "'"
  | none => "None"

/-- `_check_device(device_id)`. -/
def checkDevice (deviceId : Option String) : PyM TuyaState TuyaDeviceConfig := do
  let s ← PyM.get
  let d ← PyM.outcome (deviceOf s)
  if deviceId = some d.deviceId then pure d
  else PyM.raise (tuyaConfigurationError
    ("device_id " ++ reprOf deviceId ++ " is not configured for this driver"))

/-- `_mapping()`. -/
def mappingOf (d : TuyaDeviceConfig) : Except PyErr TuyaDpMapping :=
  match d.dps with
  | some m => .ok m
  | none => .error (tuyaConfigurationError "DP mapping is required for state mapping and control")

/-- `{str(index): value, …}`. -/
def dpsBody (values : List (Nat × Json)) : Json := .obj (values.map fun p => (toString p.1, p.2))

def pollBody (version : ProtocolVersion) (m : TuyaDpMapping) : Json :=
  if version = .v34 then .obj []
  else .obj [("dps", dpsBody [(m.power, .null), (m.brightness, .null), (m.color, .null)])]

def pollCommand (version : ProtocolVersion) : Nat :=
  if version = .v34 then commandDpQueryNew else commandDpQuery

/-- `_revisioned(state)`. -/
def revisioned (previous : Option LightState) (state : LightState) : LightState :=
  match previous with
  | none => state.withRevision 0
  | some p => state.withRevision (p.stateRevision.toNat + 1)

/-- `poll_state(device_id)`; `reply` is the outcome of its exchange. -/
def pollState (deviceId : Option String) (reply : Except PyErr Bytes) : PyM TuyaState LightState := do
  let d ← checkDevice deviceId
  let m ← PyM.outcome (mappingOf d)
  let payload ← exchange (pollCommand d.link.protocolVersion) (pollBody d.link.protocolVersion m) reply
  let dps ← PyM.outcome (parseDps J payload)
  PyM.modify fun s => { s with rawDps := dps }
  let s ← PyM.get
  let state ← PyM.outcome (stateFromDps d.deviceId dps m)
  let state := revisioned s.state state
  PyM.modify fun s => { s with state := some state }
  pure state

def controlBody (d : TuyaDeviceConfig) (now : Int) (values : List (Nat × Json)) : Json :=
  if d.link.protocolVersion = .v34 then
    .obj [("protocol", .int 5), ("t", .int now), ("data", .obj [("dps", dpsBody values)])]
  else
    .obj [("devId", .str d.deviceId), ("uid", .str d.deviceId), ("t", .int now),
      ("dps", dpsBody values)]

def controlCommand (version : ProtocolVersion) : Nat :=
  if version = .v34 then commandControlNew else commandControl

/-- What the network answers to one write: the acknowledgement and the reply to the poll after it;
`now` is `int(time.time())`. -/
structure WriteOutcomes where
  now : Int
  ack : Except PyErr Bytes
  reply : Except PyErr Bytes

/-- `_set_values(values)` of the device `d`. -/
def setValues (d : TuyaDeviceConfig) (o : WriteOutcomes) (values : List (Nat × Json)) :
    PyM TuyaState LightState := do
  let _ ← exchange (controlCommand d.link.protocolVersion) (controlBody d o.now values) o.ack
  let state ← pollState J (some d.deviceId) o.reply
  PyM.modify fun s => { s with state := some state }
  pure state

/-- The data points `turn_on` writes. -/
def turnOnValues (m : TuyaDpMapping) (rgb : Option Rgb) (brightness white : Option Int) :
    Except PyErr (List (Nat × Json)) := do
  let color := match rgb with
    | some c => [(m.color, Json.str (m.encodeColor c))]
    | none => []
  let brightness ← match brightness with
    | some n => (fun v => [(m.brightness, Json.int v)]) <$> m.brightnessToDp n
    | none => .ok []
  let white ← match white with
    -- the value of an assignment comes before its target
    | some n => do
      let v ← m.whiteToDp n
      let w ← m.whiteChannel
      .ok [(w.dp, Json.int v)]
    | none => .ok []
  .ok ([(m.power, .bool true)] ++ color ++ brightness ++ white)

/-- A command method: check the device, compute the values, write them. -/
def writeCommand (o : WriteOutcomes) (deviceId : Option String)
    (values : TuyaDpMapping → Except PyErr (List (Nat × Json))) : PyM TuyaState LightState := do
  let d ← checkDevice deviceId
  let m ← PyM.outcome (mappingOf d)
  let vs ← PyM.outcome (values m)
  setValues J d o vs

def turnOn (o : WriteOutcomes) (deviceId : Option String) (rgb : Option Rgb)
    (brightness white : Option Int) : PyM TuyaState LightState :=
  writeCommand J o deviceId fun m => turnOnValues m rgb brightness white

def turnOff (o : WriteOutcomes) (deviceId : Option String) : PyM TuyaState LightState :=
  writeCommand J o deviceId fun m => .ok [(m.power, .bool false)]

def setBrightness (o : WriteOutcomes) (deviceId : Option String) (brightness : Int) :
    PyM TuyaState LightState :=
  writeCommand J o deviceId fun m =>
    (fun v => [(m.brightness, Json.int v)]) <$> m.brightnessToDp brightness

def setRgb (o : WriteOutcomes) (deviceId : Option String) (rgb : Rgb) : PyM TuyaState LightState :=
  writeCommand J o deviceId fun m => .ok [(m.color, .str (m.encodeColor rgb))]

/-! ## Discovery and pairing -/

/-- `discover(config, credentials)`; `scan` is the outcome of `_discover_sync`. -/
def discover (scan : Except PyErr (List DiscoveryItem)) : PyM TuyaState (List DeviceDescriptor) := do
  PyM.modify fun s => { s with discovered := Dict.empty }
  let s ← PyM.get
  if s.discoveryEnabled = false then pure []
  else do
    let found ← PyM.outcome scan
    found.mapM fun item => do
      PyM.modify fun s =>
        { s with discovered := s.discovered.set (candidateIdOf C item.id.val) item }
      PyM.outcome (discoveryDescriptor C item.id.val)

/-- What `_save_pairing_state` writes. -/
def pairingRecord (candidateId : String) (d : TuyaDeviceConfig) : Json :=
  .obj [("version", .int 1), ("candidate_id", .str candidateId), ("device_id", .str d.deviceId),
    ("ip", .str d.ip)]

/-- The `finally` block of `_save_pairing_state`. -/
def unlinkTemporary (o : PairOutcomes) : PyM TuyaState Unit :=
  PyM.tryExcept (PyM.outcome o.unlink) fun e =>
    if e.isA .FileNotFoundError then pure () else PyM.raise e

/-- `_save_pairing_state(candidate_id, device)`.  The file changes by `os.replace` alone. -/
def savePairingState (o : PairOutcomes) (candidateId : String) (d : TuyaDeviceConfig) :
    PyM TuyaState Unit := do
  let s ← PyM.get
  match s.statePath with
  | none => pure ()
  | some _ =>
    if candidateId ≠ candidateIdOf C d.deviceId then
      PyM.raise (tuyaConfigurationError "pairing state candidate does not match device")
    else do
      PyM.outcome o.mkdir
      PyM.outcome o.create
      PyM.tryExcept
        (do
          PyM.outcome o.write
          PyM.outcome o.replace)
        (fun e => do
          unlinkTemporary o
          PyM.raise e)
      PyM.modify fun s => { s with file := some (.ok (pairingRecord candidateId d)) }

/-- The callbacks move from the previous device to the new one. -/
def moveCallbacks (previous : Option TuyaDeviceConfig) (d : TuyaDeviceConfig)
    (callbacks : Dict String (List Nat)) : Dict String (List Nat) :=
  match previous with
  | none => callbacks
  | some p =>
    let kept := callbacks.erase p.deviceId
    match callbacks.get? p.deviceId with
    | some (c :: cs) => kept.set d.deviceId (c :: cs)
    | _ => kept

/-- The `try` block of `pair`. -/
def pairBody (o : PairOutcomes) (candidateId : String) (previous : Option TuyaDeviceConfig)
    (d : TuyaDeviceConfig) : PyM TuyaState Unit := do
  PyM.outcome o.connect
  let _ ← pollState J (some d.deviceId) o.exchange
  savePairingState C o candidateId d
  PyM.modify fun s => { s with callbacks := moveCallbacks previous d s.callbacks }
  PyM.modify fun s => { s with pairedLightId := some candidateId }

/-- `pair(candidate_id)`. -/
def pair (o : PairOutcomes) (candidateId : String) : PyM TuyaState PairResult := do
  let s ← PyM.get
  match s.discovered.get? candidateId with
  | none => PyM.raise (pairingError "candidate expired; run Find again")
  | some item =>
    match s.pairing with
    | none => PyM.raise (pairingError
        "pairing profile is missing; configure Linker local key and verified DP mapping")
    | some profile => do
      let d ← PyM.outcome
        (TuyaDeviceConfig.init ipAddress item.ip item.id.val profile.link (some profile.dps))
      PyM.outcome o.disconnect
      PyM.modify fun t => { t with device := some d, state := none }
      PyM.tryExcept (pairBody C J o candidateId s.device d) fun e => do
        PyM.outcome o.rollback
        PyM.modify fun t =>
          { t with device := s.device, pairedLightId := s.pairedLightId, state := none }
        PyM.raise e
      let t ← PyM.get
      let announced ← PyM.outcome (descriptor t (some candidateId))
      pure ⟨some announced, some d.deviceId⟩

/-! ## Construction -/

/-- The `try` block of `_load_pairing_state`: the saved device and its light id. -/
def readPairingState (profile : TuyaPairingConfig) (file : StateFile) :
    Except PyErr (TuyaDeviceConfig × String) := do
  let payload ← file.mapError JsonFailure.err
  match payload.obj? with
  | none => .error (valueError "")
  | some d =>
    if (getItem d "version").eqInt 1 = false then .error (valueError "")
    else
      match (getItem d "candidate_id").str?, (getItem d "device_id").str?, (getItem d "ip").str? with
      | some candidateId, some deviceId, some ip =>
        if candidateId ≠ candidateIdOf C deviceId then .error (valueError "")
        else
          (fun device => (device, candidateId)) <$>
            TuyaDeviceConfig.init ipAddress ip deviceId profile.link (some profile.dps)
      | _, _, _ => .error (valueError "")

/-- `except (OSError, TypeError, ValueError, json.JSONDecodeError)`. -/
def pairingStateErrors : List ExcClass := [.OSError, .TypeError, .ValueError, .JSONDecodeError]

/-- `_load_pairing_state()`.  Without a file there is no binding. -/
def loadPairingState (profile : TuyaPairingConfig) (file : Option StateFile) :
    Except PyErr (Option (TuyaDeviceConfig × String)) :=
  match file with
  | none => .ok none
  | some file =>
    match readPairingState C ipAddress profile file with
    | .ok binding => .ok (some binding)
    | .error e =>
      if e.isAny pairingStateErrors then
        .error (tuyaConfigurationError "pairing state is invalid")
      else .error e

/-- `TuyaLocalDriver(device, discovery, pairing, state_path)`; `file` is what is at the path. -/
def TuyaState.init (device : Option TuyaDeviceConfig) (discoveryEnabled : Bool)
    (pairing : Option TuyaPairingConfig) (statePath : Option String) (file : Option StateFile) :
    Except PyErr TuyaState :=
  let blank : TuyaState :=
    ⟨device, pairing, statePath, none, discoveryEnabled, Dict.empty, Dict.empty, Dict.empty, none,
      file, []⟩
  match device, pairing, statePath with
  | none, some profile, some _ =>
    match loadPairingState C ipAddress profile file with
    | .error e => .error e
    | .ok none => .ok blank
    | .ok (some (d, lightId)) => .ok { blank with device := some d, pairedLightId := some lightId }
  | _, _, _ => .ok blank

/-! ## The driver the boundary is given -/

/-- The driver, with what the surroundings answer to its next call. -/
def tuyaDriver (scan : Except PyErr (List DiscoveryItem)) (o : PairOutcomes) (w : WriteOutcomes) :
    VendorRgbDriver TuyaState where
  discover _ := discover C scan
  pair := some (pair C J ipAddress o)
  turnOn deviceId rgb brightness white _ := turnOn J w deviceId rgb brightness white
  turnOff deviceId _ := turnOff J w deviceId
  setBrightness deviceId brightness _ := setBrightness J w deviceId brightness
  setRgb deviceId rgb _ := setRgb J w deviceId rgb

/-! ## Lemmas -/

theorem isNameChar_hex (c : Char) (h : IsHexChar c) : isNameChar c = true := by
  have hall : ∀ d < 16, isNameChar (Nat.digitChar d) = true := by decide
  obtain ⟨d, hd, rfl⟩ := h
  exact hall d hd

/-- The opaque id of a device is a light id, whatever the device id is. -/
theorem candidateIdOf_isIdentifier (deviceId : String) :
    isIdentifier (candidateIdOf C deviceId) = true := by
  have hhex : ∀ c ∈ (hexdigest (C.sha256 (utf8 deviceId))).take 32, isNameChar c = true := by
    intro c hc
    obtain ⟨b, -, hb⟩ := List.mem_flatMap.mp (List.mem_of_mem_take hc)
    exact isNameChar_hex c (hexDigits_hex 2 b.toNat c hb)
  have hlen := List.length_take_le 32 (hexdigest (C.sha256 (utf8 deviceId)))
  have hlight : "light.".toList = ['l', 'i', 'g', 'h', 't', '.'] := by decide
  unfold isIdentifier matchesName candidateIdOf
  rw [String.toList_ofList, hlight]
  generalize (hexdigest (C.sha256 (utf8 deviceId))).take 32 = digits at hhex hlen
  show (isLower 'l' && (['i', 'g', 'h', 't', '.'] ++ digits).all isNameChar &&
    decide (1 ≤ (['i', 'g', 'h', 't', '.'] ++ digits).length) &&
    decide ((['i', 'g', 'h', 't', '.'] ++ digits).length ≤ 63)) = true
  have hsum : (['i', 'g', 'h', 't', '.'] ++ digits).length = 5 + digits.length := List.length_append
  rw [List.all_append, List.all_eq_true.mpr hhex, hsum, decide_eq_true (by omega),
    decide_eq_true (by omega)]
  decide

theorem checkDevice_configured (s : TuyaState) (d : TuyaDeviceConfig) (h : s.device = some d) :
    checkDevice (some d.deviceId) s = (.ok d, s) := by
  unfold checkDevice deviceOf
  rw [PyM.get_bind, h]
  show (if some d.deviceId = some d.deviceId then (pure d : PyM TuyaState TuyaDeviceConfig)
    else PyM.raise _) s = _
  rw [if_pos rfl]
  rfl

theorem deviceOf_eq_ok {s : TuyaState} {d : TuyaDeviceConfig} (h : deviceOf s = .ok d) :
    s.device = some d := by
  unfold deviceOf at h
  split at h
  · next e he => cases h; exact he
  · cases h

theorem checkDevice_run_ok {deviceId : Option String} {s t : TuyaState} {d : TuyaDeviceConfig}
    (h : checkDevice deviceId s = (.ok d, t)) :
    s.device = some d ∧ deviceId = some d.deviceId ∧ s = t := by
  unfold checkDevice at h
  rw [PyM.get_bind] at h
  obtain ⟨d', hd, hcheck⟩ := PyM.outcome_bind_run_ok h
  have hdev : s.device = some d' := deviceOf_eq_ok hd
  split at hcheck
  · next he => cases hcheck; exact ⟨hdev, he, rfl⟩
  · cases hcheck

theorem mappingOf_eq_ok {d : TuyaDeviceConfig} {m : TuyaDpMapping} (h : mappingOf d = .ok m) :
    d.dps = some m := by
  unfold mappingOf at h
  split at h
  · next e he => cases h; exact he
  · cases h

/-- The exchange is recorded, whatever comes of it. -/
theorem exchange_apply (command : Nat) (body : Json) (answer : Except PyErr Bytes) (s : TuyaState) :
    exchange command body answer s =
      (answer, { s with requests := s.requests ++ [(command, body)] }) := rfl

/-- **Frame rule of a poll.**  It touches the requests, the store and the last state only. -/
theorem pollState_frame {I : TuyaState → Prop}
    (hrequests : ∀ s r, I s → I { s with requests := s.requests ++ [r] })
    (hraw : ∀ s dps, I s → I { s with rawDps := dps })
    (hstate : ∀ s st, I s → I { s with state := some st }) (deviceId : Option String)
    (reply : Except PyErr Bytes) : PyM.Preserves I (pollState J deviceId reply) := by
  unfold pollState checkDevice exchange
  refine PyM.preserves_bind ?_ fun d => ?_
  · refine PyM.preserves_bind PyM.preserves_get fun s => ?_
    refine PyM.preserves_bind (PyM.preserves_outcome _) fun d => ?_
    split
    · exact PyM.preserves_pure d
    · exact PyM.preserves_raise _
  · refine PyM.preserves_bind (PyM.preserves_outcome _) fun m => ?_
    refine PyM.preserves_bind ?_ fun payload => ?_
    · refine PyM.preserves_bind (PyM.preserves_modify ?_) fun _ => PyM.preserves_outcome _
      exact fun s h => hrequests s _ h
    · refine PyM.preserves_bind (PyM.preserves_outcome _) fun dps => ?_
      refine PyM.preserves_bind (PyM.preserves_modify fun s h => hraw s dps h) fun _ => ?_
      refine PyM.preserves_bind PyM.preserves_get fun s => ?_
      refine PyM.preserves_bind (PyM.preserves_outcome _) fun state => ?_
      exact PyM.preserves_bind (PyM.preserves_modify fun t h => hstate t _ h) fun _ =>
        PyM.preserves_pure _

/-- A poll that returns has read a reply and mapped it with the device's own mapping. -/
theorem pollState_run_ok {deviceId : Option String} {reply : Except PyErr Bytes} {s t : TuyaState}
    {state : LightState} (h : pollState J deviceId reply s = (.ok state, t)) :
    ∃ d m payload dps mapped, s.device = some d ∧ deviceId = some d.deviceId ∧ d.dps = some m ∧
      reply = .ok payload ∧ parseDps J payload = .ok dps ∧
      stateFromDps d.deviceId dps m = .ok mapped ∧ state = revisioned s.state mapped := by
  unfold pollState at h
  obtain ⟨d, s₁, hcheck, hrest⟩ := PyM.bind_run_ok h
  obtain ⟨hdev, hid, rfl⟩ := checkDevice_run_ok hcheck
  obtain ⟨m, hm, hrest⟩ := PyM.outcome_bind_run_ok hrest
  obtain ⟨payload, s₂, hp, hrest⟩ := PyM.bind_run_ok hrest
  rw [exchange_apply] at hp
  obtain ⟨hreply, rfl⟩ := Prod.mk.inj hp
  obtain ⟨dps, hdps, hrest⟩ := PyM.outcome_bind_run_ok hrest
  rw [PyM.modify_bind, PyM.get_bind] at hrest
  obtain ⟨mapped, hmap, hrest⟩ := PyM.outcome_bind_run_ok hrest
  cases hrest
  exact ⟨d, m, payload, dps, mapped, hdev, hid, mappingOf_eq_ok hm, hreply, hdps, hmap, rfl⟩

theorem revisioned_deviceId (previous : Option LightState) (mapped : LightState) :
    (revisioned previous mapped).deviceId = mapped.deviceId := by
  cases previous with
  | none => rfl
  | some last => rfl

/-- A mapped state can be reported under any revision. -/
theorem revisioned_toPayload {deviceId : String} {dps : Dps} {m : TuyaDpMapping} {mapped : LightState}
    (h : stateFromDps deviceId dps m = .ok mapped) (previous : Option LightState)
    (light : Option String) : ∃ p, (revisioned previous mapped).toPayload light = .ok p := by
  unfold revisioned
  split
  · exact stateFromDps_toPayload deviceId dps m mapped h light 0
  · exact stateFromDps_toPayload deviceId dps m mapped h light _

/-- A reply that maps makes the poll return. -/
theorem pollState_ok {s : TuyaState} {d : TuyaDeviceConfig} {m : TuyaDpMapping} {payload : Bytes}
    {dps : Dps} {mapped : LightState} (hd : s.device = some d) (hm : d.dps = some m)
    (hdps : parseDps J payload = .ok dps) (hmap : stateFromDps d.deviceId dps m = .ok mapped) :
    ∃ t, pollState J (some d.deviceId) (.ok payload) s = (.ok (revisioned s.state mapped), t) := by
  have hmo : mappingOf d = .ok m := by unfold mappingOf; rw [hm]
  unfold pollState
  rw [PyM.bind_ok (checkDevice_configured s d hd), hmo, PyM.outcome_ok_bind,
    PyM.bind_ok (exchange_apply _ _ _ _), hdps, PyM.outcome_ok_bind, PyM.modify_bind,
    PyM.get_bind, hmap, PyM.outcome_ok_bind]
  exact ⟨_, rfl⟩

end Driver

/-! ## A lamp that is off -/

def lampMapping : TuyaDpMapping where
  power := 1
  brightness := 2
  color := 3
  colorFormat := .rgbHex
  brightnessMin := 10
  brightnessMax := 1000
  white := none
  power_ok := by decide
  brightness_ok := by decide
  color_ok := by decide
  distinct := by decide
  range_ok := by decide
  white_ok := nofun

def lampLink : TuyaLink where
  localKey := "0123456789abcdef"
  protocolVersion := .v33
  publicName := "Desk lamp"
  port := 6668
  timeoutS := .finite 5
  retries := 1
  key_ok := ⟨by simp, rfl⟩
  name_ok := by decide
  port_ok := by decide
  timeout_ok := by decide
  retries_ok := by decide

def offReply : Bytes := utf8 "\x7b\"dps\":\x7b\"1\":false,\"2\":10,\"3\":\"ff0000\"\x7d\x7d"

def offDps : Dps := ⟨[(1, .bool false), (2, .int 10), (3, .str "ff0000")], by decide⟩

def fullRed : Rgb := ⟨255, 0, 0, le_rfl, by decide, by decide⟩

/-- A message of the server. -/
def serverMessage (type : String) (payload : JsonObj) (htype : isMessageType type = true) :
    Envelope where
  type := type
  source := "server"
  payload := payload
  id := Stamp.zero.id
  timestamp := ofUtc Stamp.zero.now
  correlationId := some Stamp.zero.id
  version := 1
  version_ok := rfl
  type_ok := htype
  source_ok := by decide
  timestamp_ok := rfl

/-- `json.loads` on the reply of the lamp. -/
def lampLib : PyLib where
  toJsonLib := .ofDecode fun b => if b = offReply then
      .ok (.obj [("dps", .obj [("1", .bool false), ("2", .int 10), ("3", .str "ff0000")])])
    else .error .malformed
  fromisoformat _ := none

theorem offReply_maps (deviceId : String) (h : deviceId ≠ "") :
    parseDps lampLib.toJsonLib offReply = .ok offDps ∧
    ∃ mapped, stateFromDps deviceId offDps lampMapping = .ok mapped := by
  have hdecode : lampLib.decode offReply = .ok (.obj [("dps",
      .obj [("1", .bool false), ("2", .int 10), ("3", .str "ff0000")])]) := by
    unfold lampLib
    dsimp only [JsonLib.ofDecode]
    rw [if_pos rfl]
  have hb : lampMapping.brightnessFromDp (.int 10) = .ok 0 :=
    scaleFromDp_low "brightness" 10 1000 (by decide)
  constructor
  · unfold parseDps
    rw [JsonLib.loads_ok lampLib.toJsonLib offReply _ hdecode]
    rfl
  · show ∃ mapped, (lampMapping.decodeColor (.str "ff0000") >>= fun rgb =>
      lampMapping.brightnessFromDp (.int 10) >>= fun brightness =>
        whiteOfDps offDps lampMapping >>= fun white =>
          LightState.init deviceId true false (some rgb) (some brightness) white 0) =
            .ok mapped
    rw [hb]
    exact ⟨_, dif_pos h⟩

end Linker
