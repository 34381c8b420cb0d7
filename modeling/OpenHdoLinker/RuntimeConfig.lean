import OpenHdoLinker.Tuya.Driver

/-!
# Process configuration

`RuntimeConfig.from_env`: the settings of the environment over those of the JSON
file, read by `_value` and its typed relatives, then the checks of four
dataclasses in the order the source makes them.  What the standard library says
of texts it parses (URLs, IP addresses, floats) and what is at the config path is
a parameter (`StartLib`).

    fromRaw P env raw = .ok config → config.discoveryOnly = false →
      config.device's id is the device_id setting                    (device_of_fromRaw)
-/

namespace Linker.Settings

open Py

/-! ## The standard library -/

/-- The fields of `urlparse(url)` that are looked at. -/
structure ParsedUrl where
  scheme : String
  hostname : Option String
  username : Option String
  password : Option String
  query : String
  fragment : String

/-- `urlparse`, `ip_address`, `float` of a text and of an integer (`none` is the `ValueError`, and
the `OverflowError`), and what opening and decoding a config file gives. -/
structure StartLib where
  urlparse : String → Except PyErr ParsedUrl
  ipAddress : String → Option IpAddress
  floatOfText : String → Option PyFloat
  floatOfInt : Int → Option PyFloat
  loadFile : String → Except PyErr Json

abbrev Env : Type := String → Option String

def runtimeConfigErrorClass : ExcClass := .derived "RuntimeConfigError" .ValueError

def runtimeConfigError (text : String) : PyErr := ⟨runtimeConfigErrorClass, text⟩

def typeError (text : String) : PyErr := ⟨.TypeError, text⟩

/-- What `str.strip()` takes off at both ends. -/
def isTextSpace (c : Char) : Bool := isIntSpace c || (0x1c ≤ c.toNat && c.toNat ≤ 0x1f)

def stripText (text : String) : List Char :=
  ((text.toList.dropWhile isTextSpace).reverse.dropWhile isTextSpace).reverse

def typeName : Json → String
  | .null => "NoneType"
  | .bool _ => "bool"
  | .int _ => "int"
  | .float _ => "float"
  | .str _ => "str"
  | .arr _ => "list"
  | .obj _ => "dict"

def intOf : Json → Except PyErr Int
  | .bool b => .ok (if b then 1 else 0)
  | .int i => .ok i
  | .float x => x.toInt
  | .str s =>
    match parseInt 10 s with
    | some i => .ok i
    | none => .error (valueError ("invalid literal for int() with base 10: " ++ reprOf (some s)))
  | value => .error (typeError
      ("int() argument must be a string, a bytes-like object or a real number, not '" ++
        typeName value ++ "'"))

def floatOf (P : StartLib) : Json → Except PyErr PyFloat
  | .bool b => .ok (.finite (if b then 1 else 0))
  | .int i =>
    match P.floatOfInt i with
    | some x => .ok x
    | none => .error ⟨.OverflowError, "int too large to convert to float"⟩
  | .float x => .ok x
  | .str s =>
    match P.floatOfText s with
    | some x => .ok x
    | none => .error (valueError ("could not convert string to float: " ++ reprOf (some s)))
  | value => .error (typeError
      ("float() argument must be a string or a real number, not '" ++ typeName value ++ "'"))

/-! ## Settings -/

section Settings

variable (env : Env) (envName : String) (raw : JsonObj) (key : String)

/-- `env.get(env_name, raw.get(key, default))`. -/
def setting (default : Json) : Json :=
  match env envName with
  | some text => .str text
  | none => (raw.lookup key).getD default

/-- `value is None or (isinstance(value, str) and not value.strip())`. -/
def isMissing : Json → Bool
  | .null => true
  | .str s => (stripText s).isEmpty
  | _ => false

def isNull : Json → Bool
  | .null => true
  | _ => false

/-- `_value(env, env_name, raw, key, required=True)`. -/
def requiredValue : Except PyErr Json :=
  let value := setting env envName raw key .null
  if isMissing value then .error (runtimeConfigError (envName ++ " is required")) else .ok value

/-- `_string(env, env_name, raw, key, default=default)`. -/
def stringSetting (default : Json) : Except PyErr (Option String) :=
  match setting env envName raw key default with
  | .null => .ok none
  | .str s => .ok (some s)
  | _ => .error (runtimeConfigError (key ++ " must be a string"))

/-- `_string(env, env_name, raw, key, required=True)`, which is never `None`. -/
def requiredString : Except PyErr String := do
  match ← requiredValue env envName raw key with
  | .str s => .ok s
  | _ => .error (runtimeConfigError (key ++ " must be a string"))

def trueWords : List String := ["1", "true", "yes", "on"]

def falseWords : List String := ["0", "false", "no", "off"]

/-- `_boolean(env, env_name, raw, key, default=default)`. -/
def booleanSetting (default : Bool) : Except PyErr Bool :=
  let failed : Except PyErr Bool := .error (runtimeConfigError (envName ++ " must be a boolean"))
  match setting env envName raw key (.bool default) with
  | .bool b => .ok b
  | .str s =>
    let word := String.ofList ((stripText s).map Char.toLower)
    if word ∈ trueWords then .ok true else if word ∈ falseWords then .ok false else failed
  | _ => failed

/-- `try: return int(value)` / `except (TypeError, ValueError)`. -/
def numberOf (value : Json) : Except PyErr Int :=
  match intOf value with
  | .ok i => .ok i
  | .error e =>
    if e.isAny [.TypeError, .ValueError] then
      .error (runtimeConfigError (key ++ " must be an integer"))
    else .error e

def tuyaNumber (default : Json) : Except PyErr (Option Int) :=
  match setting env envName raw key default with
  | .null => .ok none
  | value => some <$> numberOf key value

/-- `_tuya_number(env, raw, env_name, key, required=True)`, which is never `None`. -/
def requiredNumber : Except PyErr Int := do
  let value ← requiredValue env envName raw key
  numberOf key value

/-- `float(_value(env, env_name, raw, key, default=default))`. -/
def floatSetting (P : StartLib) (default : ℚ) : Except PyErr PyFloat :=
  floatOf P (setting env envName raw key (.float (.finite default)))

end Settings

def sectionOf (raw : JsonObj) (name : String) : Except PyErr JsonObj :=
  match (raw.lookup name).getD (.obj []) with
  | .obj d => .ok d
  | _ => .error (runtimeConfigError ("config section " ++ reprOf (some name) ++ " must be an object"))

/-- `except (OSError, json.JSONDecodeError)`. -/
def configFileErrors : List ExcClass := [.OSError, .JSONDecodeError]

def loadJson (P : StartLib) (path : String) : Except PyErr JsonObj :=
  match P.loadFile path with
  | .error e =>
    if e.isAny configFileErrors then .error (runtimeConfigError ("cannot load config: " ++ e.text))
    else .error e
  | .ok (.obj raw) => .ok raw
  | .ok _ => .error (runtimeConfigError "config file root must be an object")

/-! ## The checks of the configuration classes -/

/-- `pattern.fullmatch(value)` of a text that may be `None`. -/
def fullmatch (accepts : String → Bool) (failure : String) :
    Option String → Except PyErr { s : String // accepts s = true }
  | none => .error (typeError "expected string or bytes-like object, got 'NoneType'")
  | some s => if h : accepts s = true then .ok ⟨s, h⟩ else .error (valueError failure)

/-- `not name or len(name) > 128` raises. -/
def boundedName (failure : PyErr) :
    Option String → Except PyErr { s : String // s ≠ "" ∧ s.length ≤ 128 }
  | none => .error failure
  | some s => if h : s ≠ "" ∧ s.length ≤ 128 then .ok ⟨s, h⟩ else .error failure

def defaultDiscovery : DiscoveryConfig := LinkerConfig.default.discovery

def linkerConfig (id version name : Option String) (transport : String)
    (discovery : DiscoveryConfig) (reconnectInitialS reconnectMaxS : PyFloat) :
    Except PyErr LinkerConfig := do
  let id ← fullmatch isIdentifier "id must be a lowercase linker identifier" id
  let version ← fullmatch isSemver "version must use semantic versioning" version
  let name ← boundedName (valueError "name must contain 1 to 128 characters") name
  let transport ← fullmatch isIdentifier "transport must be a lowercase identifier" (some transport)
  if h : reconnectInitialS.le (.finite 0) = false ∧ reconnectMaxS.lt reconnectInitialS = false then
    .ok ⟨id, version, name, transport, discovery, reconnectInitialS, reconnectMaxS, id.2, version.2,
      name.2, transport.2, h⟩
  else .error (valueError "reconnect delays must be positive and ordered")

/-- `_bounded_int(name, value, low, high)` of an integer or `None`. -/
def bounded (name : String) (low high : Nat) (value : Option Int) :
    Except PyErr { n : Nat // low ≤ n ∧ n ≤ high } :=
  match value with
  | some i =>
    if h : (low : Int) ≤ i ∧ i ≤ high then .ok ⟨i.toNat, by omega⟩
    else .error (tuyaConfigurationError s!"{name} must be an integer from {low} to {high}")
  | none => .error (tuyaConfigurationError s!"{name} must be an integer from {low} to {high}")

/-- `color_format in {"rgb_hex", "hsv_hex"}`. -/
def colorFormatOf : String → Option ColorFormat
  | "rgb_hex" => some .rgbHex
  | "hsv_hex" => some .hsvHex
  | _ => none

/-- The checks on `white`, `white_min` and `white_max`. -/
def whiteDp (indexes : List Nat) (white whiteMin whiteMax : Option Int) :
    Except PyErr { w : Option WhiteDp // ∀ x ∈ w, x.dp ∉ indexes } :=
  match white with
  | none =>
    if whiteMin ≠ none ∨ whiteMax ≠ none then
      .error (tuyaConfigurationError "white_min/white_max require a white DP")
    else .ok ⟨none, nofun⟩
  | some white => do
    let dp ← bounded "DP white" 1 255 (some white)
    if hdp : dp.val ∈ indexes then .error (tuyaConfigurationError "white DP must be distinct")
    else if whiteMin = none ∨ whiteMax = none then
      .error (tuyaConfigurationError "white_min and white_max are required with a white DP")
    else do
      let low ← bounded "white_min" 0 65535 whiteMin
      let high ← bounded "white_max" 0 65535 whiteMax
      if hrange : low.val < high.val then
        .ok ⟨some ⟨dp, low, high, dp.2, ⟨hrange, high.2.2⟩⟩, fun _ hw => by cases hw; exact hdp⟩
      else .error (tuyaConfigurationError "white_max must be greater than white_min")

structure DpSettings where
  power : Int
  brightness : Int
  color : Int
  colorFormat : String
  brightnessMin : Int
  brightnessMax : Int
  white : Option Int
  whiteMin : Option Int
  whiteMax : Option Int

def dpMapping (a : DpSettings) : Except PyErr TuyaDpMapping := do
  let power ← bounded "DP power" 1 255 (some a.power)
  let brightness ← bounded "DP brightness" 1 255 (some a.brightness)
  let color ← bounded "DP color" 1 255 (some a.color)
  if hdistinct : [power.val, brightness.val, color.val].Nodup then
    match colorFormatOf a.colorFormat with
    | none => .error (tuyaConfigurationError "color_format must be rgb_hex or hsv_hex")
    | some format => do
      let low ← bounded "brightness_min" 0 65535 (some a.brightnessMin)
      let high ← bounded "brightness_max" 0 65535 (some a.brightnessMax)
      if hrange : low.val < high.val then do
        let white ← whiteDp [power.val, brightness.val, color.val] a.white a.whiteMin a.whiteMax
        .ok ⟨power, brightness, color, format, low, high, white, power.2, brightness.2, color.2,
          hdistinct, ⟨hrange, high.2.2⟩, white.2⟩
      else .error (tuyaConfigurationError "brightness_max must be greater than brightness_min")
  else .error (tuyaConfigurationError "power, brightness, and color DPs must be distinct")

/-- The arguments a device and a pairing profile share. -/
structure LinkSettings where
  localKey : String
  protocolVersion : String
  publicName : Option String
  port : Option Int
  timeoutS : PyFloat
  retries : Option Int

def checkName (publicName : Option String) :
    Except PyErr { s : String // s ≠ "" ∧ s.length ≤ 128 } :=
  boundedName (tuyaConfigurationError "public_name must contain 1 to 128 characters") publicName

/-- `local_key.encode("ascii")` and its length. -/
def checkKey (localKey : String) :
    Except PyErr { s : String // (∀ c ∈ s.toList, c.toNat < 128) ∧ s.length = 16 } :=
  if hascii : localKey.toList.all (fun c => c.toNat < 128) = true then
    if hlen : localKey.length = 16 then .ok ⟨localKey, by simpa using hascii, hlen⟩
    else .error (tuyaConfigurationError "local_key must be exactly 16 ASCII bytes")
  else .error (tuyaConfigurationError "local_key must contain ASCII characters")

def checkProtocol (version : String) : Except PyErr ProtocolVersion :=
  match ProtocolVersion.ofText? version with
  | some v => .ok v
  | none => .error (tuyaConfigurationError
      "protocol_version must be one of 3.1, 3.2, 3.3, 3.4; 3.5 is not implemented")

def checkTimeout (timeoutS : PyFloat) : Except PyErr
    { t : PyFloat // t.le (.finite 0) = false ∧ (PyFloat.finite 60).lt t = false } :=
  if h : timeoutS.le (.finite 0) = false ∧ (PyFloat.finite 60).lt timeoutS = false then
    .ok ⟨timeoutS, h⟩
  else .error (tuyaConfigurationError "timeout_s must be greater than 0 and at most 60")

/-- The checks `TuyaDeviceConfig` makes after its identity. -/
def deviceLink (a : LinkSettings) : Except PyErr TuyaLink := do
  let name ← checkName a.publicName
  let key ← checkKey a.localKey
  let protocol ← checkProtocol a.protocolVersion
  let port ← bounded "port" 1 65535 a.port
  let timeout ← checkTimeout a.timeoutS
  let retries ← bounded "retries" 0 5 a.retries
  .ok ⟨key, protocol, name, port, timeout, retries, key.2, name.2, port.2, timeout.2, retries.2.2⟩

/-- The checks of `TuyaPairingConfig`, where the name comes after the protocol. -/
def pairingLink (a : LinkSettings) : Except PyErr TuyaLink := do
  let key ← checkKey a.localKey
  let protocol ← checkProtocol a.protocolVersion
  let name ← checkName a.publicName
  let port ← bounded "port" 1 65535 a.port
  let timeout ← checkTimeout a.timeoutS
  let retries ← bounded "retries" 0 5 a.retries
  .ok ⟨key, protocol, name, port, timeout, retries, key.2, name.2, port.2, timeout.2, retries.2.2⟩

/-- `TuyaDeviceConfig(ip=…, device_id=…, local_key=…, …)`. -/
def deviceConfig (ipAddress : String → Option IpAddress) (ip deviceId : String)
    (a : LinkSettings) (dps : TuyaDpMapping) : Except PyErr TuyaDeviceConfig :=
  match ipAddress ip with
  | none => .error (tuyaConfigurationError "ip must be a valid IPv4 or IPv6 address")
  | some address =>
    if address.isLoopback || (!address.isPrivate && !address.isLinkLocal) then
      .error (tuyaConfigurationError "local Tuya device IP must be private or link-local")
    else if h : deviceId ≠ "" ∧ deviceId.length ≤ 64 then do
      let link ← deviceLink a
      .ok ⟨ip, deviceId, link, some dps, h⟩
    else .error (tuyaConfigurationError "device_id is required and must be at most 64 characters")

/-! ## The runtime configuration -/

/-- `RuntimeConfig`, with what its `__post_init__` checks of the mode and the timeouts. -/
structure RuntimeConfig where
  serverUrl : String
  linker : LinkerConfig
  device : Option TuyaDeviceConfig
  lightId : Option String
  statePollIntervalS : PyFloat
  serverOpenTimeoutS : PyFloat
  serverApiToken : Option String
  discoveryOnly : Bool
  discoveryEnabled : Bool
  pairing : Option TuyaPairingConfig
  pairingStatePath : String
  mode_ok : if discoveryOnly then device = none ∧ lightId = none
    else device ≠ none ∧ ∃ id, lightId = some id ∧ isIdentifier id = true
  timeouts_ok : statePollIntervalS.le (.finite 0) = false ∧ serverOpenTimeoutS.le (.finite 0) = false

/-- What the checks of the mode leave. -/
theorem mode_of_checks {device : Option TuyaDeviceConfig} {lightId : Option String}
    {discoveryOnly : Bool} (hempty : ¬ (discoveryOnly = true ∧ (device ≠ none ∨ lightId ≠ none)))
    (hdevice : ¬ (discoveryOnly = false ∧ device = none))
    (hlight : ¬ (discoveryOnly = false ∧ lightId.any isIdentifier = false)) :
    if discoveryOnly then device = none ∧ lightId = none
    else device ≠ none ∧ ∃ id, lightId = some id ∧ isIdentifier id = true := by
  cases discoveryOnly with
  | true =>
    rw [if_pos rfl]
    by_contra h
    apply hempty
    refine ⟨rfl, ?_⟩
    rwa [← not_and_or]
  | false =>
    rw [if_neg Bool.false_ne_true]
    refine ⟨fun h => hdevice ⟨rfl, h⟩, ?_⟩
    cases lightId with
    | none => exact absurd ⟨rfl, rfl⟩ hlight
    | some id =>
      refine ⟨id, rfl, ?_⟩
      by_contra h
      exact hlight ⟨rfl, Bool.eq_false_iff.mpr h⟩

structure RuntimeSettings where
  serverUrl : String
  linker : LinkerConfig
  device : Option TuyaDeviceConfig
  lightId : Option String
  statePollIntervalS : PyFloat
  serverOpenTimeoutS : PyFloat
  serverApiToken : Option String
  discoveryOnly : Bool
  discoveryEnabled : Bool
  pairing : Option TuyaPairingConfig
  pairingStatePath : String

section FromEnv

variable (P : StartLib)

def isLocalHost (host : String) : Bool :=
  String.ofList (host.toList.map Char.toLower) ∈ ["localhost", "localhost.localdomain"] ||
    match P.ipAddress host with
    | some address => address.isLoopback
    | none => false

def isGiven (text : Option String) : Bool := text.getD "" ≠ ""

/-- The checks of `__post_init__` on the server. -/
def checkServer (a : RuntimeSettings) : Except PyErr Unit := do
  let parsed ← P.urlparse a.serverUrl
  let host := parsed.hostname.getD ""
  if parsed.scheme ∉ ["ws", "wss"] ∨ host = "" ∨ isGiven parsed.username ∨ isGiven parsed.password ∨
      parsed.query ≠ "" ∨ parsed.fragment ≠ "" then
    .error (runtimeConfigError "server must be a ws:// or wss:// URL with a host")
  else if a.serverApiToken.any (fun token => (stripText token).isEmpty) then
    .error (runtimeConfigError "server_api_token must not be empty")
  else if (stripText a.pairingStatePath).isEmpty then
    .error (runtimeConfigError "pairing_state_path must not be empty")
  else if isLocalHost P host = false ∧ (parsed.scheme ≠ "wss" ∨ a.serverApiToken = none) then
    .error (runtimeConfigError "non-local servers require wss:// and OPENHDO_SERVER_TOKEN")
  else .ok ()

/-- `RuntimeConfig(…)`.  `discovery_enabled` is a boolean by its type. -/
def runtimeConfig (a : RuntimeSettings) : Except PyErr RuntimeConfig := do
  checkServer P a
  if hempty : a.discoveryOnly = true ∧ (a.device ≠ none ∨ a.lightId ≠ none) then
    .error (runtimeConfigError "discovery-only mode cannot include real-device configuration")
  else if hdevice : a.discoveryOnly = false ∧ a.device = none then
    .error (runtimeConfigError "real device configuration is required outside discovery-only mode")
  else if hlight : a.discoveryOnly = false ∧ a.lightId.any isIdentifier = false then
    .error (runtimeConfigError "light_id must be a lowercase OpenHDO identifier")
  else if h : a.statePollIntervalS.le (.finite 0) = false ∧
      a.serverOpenTimeoutS.le (.finite 0) = false then
    .ok ⟨a.serverUrl, a.linker, a.device, a.lightId, a.statePollIntervalS, a.serverOpenTimeoutS,
      a.serverApiToken, a.discoveryOnly, a.discoveryEnabled, a.pairing, a.pairingStatePath,
      mode_of_checks hempty hdevice hlight, h⟩
  else .error (runtimeConfigError "runtime timeouts must be positive")

variable (env : Env)

def tuyaMapping (raw : JsonObj) : Except PyErr TuyaDpMapping := do
  let power ← requiredNumber env "OPENHDO_TUYA_DP_POWER" raw "dp_power"
  let brightness ← requiredNumber env "OPENHDO_TUYA_DP_BRIGHTNESS" raw "dp_brightness"
  let color ← requiredNumber env "OPENHDO_TUYA_DP_COLOR" raw "dp_color"
  let colorFormat ← requiredString env "OPENHDO_TUYA_COLOR_FORMAT" raw "color_format"
  let brightnessMin ← requiredNumber env "OPENHDO_TUYA_BRIGHTNESS_MIN" raw "brightness_min"
  let brightnessMax ← requiredNumber env "OPENHDO_TUYA_BRIGHTNESS_MAX" raw "brightness_max"
  let white ← tuyaNumber env "OPENHDO_TUYA_DP_WHITE" raw "dp_white" .null
  let whiteMin ← tuyaNumber env "OPENHDO_TUYA_WHITE_MIN" raw "white_min" .null
  let whiteMax ← tuyaNumber env "OPENHDO_TUYA_WHITE_MAX" raw "white_max" .null
  dpMapping ⟨power, brightness, color, colorFormat, brightnessMin, brightnessMax, white, whiteMin,
    whiteMax⟩

/-- The keys one of which has to be set for a pairing profile, with their settings. -/
def pairingKeys : List (String × String) :=
  [("OPENHDO_TUYA_LOCAL_KEY", "local_key"), ("OPENHDO_TUYA_PROTOCOL", "protocol"),
    ("OPENHDO_TUYA_DP_POWER", "dp_power"), ("OPENHDO_TUYA_DP_BRIGHTNESS", "dp_brightness"),
    ("OPENHDO_TUYA_DP_COLOR", "dp_color"), ("OPENHDO_TUYA_COLOR_FORMAT", "color_format"),
    ("OPENHDO_TUYA_BRIGHTNESS_MIN", "brightness_min"),
    ("OPENHDO_TUYA_BRIGHTNESS_MAX", "brightness_max")]

/-- The arguments after `dps`: name, port, timeout and retries. -/
def linkSettings (raw : JsonObj) (localKey protocolVersion : String) : Except PyErr LinkSettings := do
  let publicName ← stringSetting env "OPENHDO_TUYA_PUBLIC_NAME" raw "public_name" (.str "LED lamp")
  let port ← tuyaNumber env "OPENHDO_TUYA_PORT" raw "port" (.int 6668)
  let timeoutS ← floatSetting env "OPENHDO_TUYA_TIMEOUT" raw "timeout" P 3
  let retries ← tuyaNumber env "OPENHDO_TUYA_RETRIES" raw "retries" (.int 1)
  .ok ⟨localKey, protocolVersion, publicName, port, timeoutS, retries⟩

def pairingConfig (raw : JsonObj) : Except PyErr (Option TuyaPairingConfig) :=
  if pairingKeys.all fun k => isNull (setting env k.1 raw k.2 .null) then .ok none
  else do
    let localKey ← requiredString env "OPENHDO_TUYA_LOCAL_KEY" raw "local_key"
    let protocolVersion ← requiredString env "OPENHDO_TUYA_PROTOCOL" raw "protocol"
    let dps ← tuyaMapping env raw
    let settings ← linkSettings P env raw localKey protocolVersion
    let link ← pairingLink settings
    .ok (some ⟨link, dps⟩)

/-- What `from_env` reads in either mode. -/
structure CommonSettings where
  tuyaRaw : JsonObj
  server : String
  serverApiToken : Option String
  linker : LinkerConfig
  discoveryOnly : Bool
  discoveryEnabled : Bool

/-- `from_env` up to its two modes. -/
def commonSettings (raw : JsonObj) : Except PyErr CommonSettings := do
  let linkerRaw ← sectionOf raw "linker"
  let serverRaw ← sectionOf raw "server_config"
  let tuyaRaw ← sectionOf raw "tuya"
  let server ← requiredString env "OPENHDO_SERVER" raw "server"
  let token ← stringSetting env "OPENHDO_SERVER_TOKEN" raw "server_api_token"
    (getItem serverRaw "api_token")
  let id ← stringSetting env "OPENHDO_LINKER_ID" linkerRaw "id" (.str "openhdo.linker.rgb")
  let version ← stringSetting env "OPENHDO_LINKER_VERSION" linkerRaw "version" (.str "0.3.0")
  let name ← stringSetting env "OPENHDO_LINKER_NAME" linkerRaw "name" (.str "OpenHDO Tuya LED Linker")
  let discoveryOnly ← booleanSetting env "OPENHDO_DISCOVERY_ONLY" raw "discovery_only" false
  let discoveryEnabled ←
    booleanSetting env "OPENHDO_TUYA_DISCOVERY_ENABLED" tuyaRaw "discovery_enabled" discoveryOnly
  let reconnectInitialS ←
    floatSetting env "OPENHDO_RECONNECT_INITIAL" linkerRaw "reconnect_initial_s" P 1
  let reconnectMaxS ← floatSetting env "OPENHDO_RECONNECT_MAX" linkerRaw "reconnect_max_s" P 30
  let linker ← linkerConfig id version name "wifi" defaultDiscovery reconnectInitialS reconnectMaxS
  .ok ⟨tuyaRaw, server, token, linker, discoveryOnly, discoveryEnabled⟩

def timeoutSettings (raw : JsonObj) : Except PyErr (PyFloat × PyFloat) := do
  let poll ← floatSetting env "OPENHDO_STATE_POLL_INTERVAL" raw "state_poll_interval_s" P 15
  let opening ← floatSetting env "OPENHDO_SERVER_OPEN_TIMEOUT" raw "server_open_timeout_s" P 10
  .ok (poll, opening)

/-- `_string(…, "pairing_state", …) or "openhdo-pairing.json"`. -/
def pairingStatePath (tuyaRaw : JsonObj) : Except PyErr String := do
  let path ← stringSetting env "OPENHDO_TUYA_PAIRING_STATE" tuyaRaw "pairing_state"
    (.str "openhdo-pairing.json")
  .ok ((orElseText path none).getD "openhdo-pairing.json")

def discoveryMode (raw : JsonObj) (c : CommonSettings) : Except PyErr RuntimeConfig := do
  let pairing ← pairingConfig P env c.tuyaRaw
  let path ← pairingStatePath env c.tuyaRaw
  let timeouts ← timeoutSettings P env raw
  runtimeConfig P ⟨c.server, c.linker, none, none, timeouts.1, timeouts.2, c.serverApiToken, true,
    c.discoveryEnabled, pairing, path⟩

def deviceOfEnv (tuyaRaw : JsonObj) (deviceId : String) : Except PyErr TuyaDeviceConfig := do
  let mapping ← tuyaMapping env tuyaRaw
  let ip ← requiredString env "OPENHDO_TUYA_IP" tuyaRaw "ip"
  let localKey ← requiredString env "OPENHDO_TUYA_LOCAL_KEY" tuyaRaw "local_key"
  let protocolVersion ← requiredString env "OPENHDO_TUYA_PROTOCOL" tuyaRaw "protocol"
  let settings ← linkSettings P env tuyaRaw localKey protocolVersion
  deviceConfig P.ipAddress ip deviceId settings mapping

/-- The rest of `from_env`: without a light id, the device id is it. -/
def deviceMode (raw : JsonObj) (c : CommonSettings) : Except PyErr RuntimeConfig := do
  let lightId ← stringSetting env "OPENHDO_LIGHT_ID" c.tuyaRaw "light_id" .null
  let deviceId ← requiredString env "OPENHDO_TUYA_DEVICE_ID" c.tuyaRaw "device_id"
  let device ← deviceOfEnv P env c.tuyaRaw deviceId
  let timeouts ← timeoutSettings P env raw
  let path ← pairingStatePath env c.tuyaRaw
  runtimeConfig P ⟨c.server, c.linker, some device, some (lightId.getD deviceId), timeouts.1,
    timeouts.2, c.serverApiToken, false, c.discoveryEnabled, none, path⟩

/-- `from_env` with the object of the config file. -/
def fromRaw (raw : JsonObj) : Except PyErr RuntimeConfig := do
  let c ← commonSettings P env raw
  if c.discoveryOnly then discoveryMode P env raw c else deviceMode P env raw c

def configFile (configPath : Option String) : Except PyErr JsonObj :=
  match orElseText configPath (env "OPENHDO_CONFIG") with
  | none => .ok []
  | some path => if path = "" then .ok [] else loadJson P path

/-- `RuntimeConfig.from_env(config_path, environ=env)`. -/
def fromEnv (configPath : Option String) : Except PyErr RuntimeConfig := do
  let raw ← configFile P env configPath
  fromRaw P env raw

/-! ## Lemmas -/

def tuyaSection (raw : JsonObj) : JsonObj := ((getItem raw "tuya").obj?).getD []

def linkerSection (raw : JsonObj) : JsonObj := ((getItem raw "linker").obj?).getD []

variable {P env}

theorem sectionOf_ok {raw d : JsonObj} {name : String} (h : sectionOf raw name = .ok d) :
    d = ((getItem raw name).obj?).getD [] := by
  unfold sectionOf at h
  unfold getItem
  cases hlookup : raw.lookup name with
  | none =>
    rw [hlookup] at h
    cases h
    rfl
  | some value =>
    rw [hlookup, Option.getD_some] at h
    rw [Option.getD_some]
    cases value with
    | obj d =>
      cases h
      rfl
    | _ => cases h

theorem requiredString_ok {envName key id : String} {raw : JsonObj}
    (h : requiredString env envName raw key = .ok id) :
    setting env envName raw key .null = .str id := by
  unfold requiredString at h
  obtain ⟨value, hvalue, hread⟩ := bind_eq_ok h
  unfold requiredValue at hvalue
  dsimp only at hvalue
  split at hvalue
  · cases hvalue
  · cases hvalue
    split at hread
    · next s hs =>
      cases hread
      exact hs
    · cases hread

theorem linkerConfig_ok {id version name : Option String} {transport : String}
    {discovery : DiscoveryConfig} {initial longest : PyFloat} {l : LinkerConfig}
    (h : linkerConfig id version name transport discovery initial longest = .ok l) :
    l.reconnectInitialS = initial ∧ l.reconnectMaxS = longest := by
  unfold linkerConfig at h
  obtain ⟨id, -, h⟩ := bind_eq_ok h
  obtain ⟨version, -, h⟩ := bind_eq_ok h
  obtain ⟨name, -, h⟩ := bind_eq_ok h
  obtain ⟨transport, -, h⟩ := bind_eq_ok h
  split at h
  · cases h
    exact ⟨rfl, rfl⟩
  · cases h

theorem commonSettings_ok {raw : JsonObj} {c : CommonSettings}
    (h : commonSettings P env raw = .ok c) : c.tuyaRaw = tuyaSection raw ∧
      booleanSetting env "OPENHDO_DISCOVERY_ONLY" raw "discovery_only" false = .ok c.discoveryOnly ∧
      floatSetting env "OPENHDO_RECONNECT_INITIAL" (linkerSection raw) "reconnect_initial_s" P 1 =
        .ok c.linker.reconnectInitialS ∧
      floatSetting env "OPENHDO_RECONNECT_MAX" (linkerSection raw) "reconnect_max_s" P 30 =
        .ok c.linker.reconnectMaxS := by
  unfold commonSettings at h
  obtain ⟨linkerRaw, hlinker, h⟩ := bind_eq_ok h
  obtain ⟨serverRaw, -, h⟩ := bind_eq_ok h
  obtain ⟨tuyaRaw, htuya, h⟩ := bind_eq_ok h
  obtain ⟨server, -, h⟩ := bind_eq_ok h
  obtain ⟨token, -, h⟩ := bind_eq_ok h
  obtain ⟨id, -, h⟩ := bind_eq_ok h
  obtain ⟨version, -, h⟩ := bind_eq_ok h
  obtain ⟨name, -, h⟩ := bind_eq_ok h
  obtain ⟨discoveryOnly, hmode, h⟩ := bind_eq_ok h
  obtain ⟨discoveryEnabled, -, h⟩ := bind_eq_ok h
  obtain ⟨initial, hinitial, h⟩ := bind_eq_ok h
  obtain ⟨longest, hlongest, h⟩ := bind_eq_ok h
  obtain ⟨linker, hconfig, h⟩ := bind_eq_ok h
  cases h
  obtain ⟨rfl, rfl⟩ := linkerConfig_ok hconfig
  obtain rfl := sectionOf_ok hlinker
  exact ⟨sectionOf_ok htuya, hmode, hinitial, hlongest⟩

theorem runtimeConfig_ok {a : RuntimeSettings} {config : RuntimeConfig}
    (h : runtimeConfig P a = .ok config) : checkServer P a = .ok () ∧ ∃ hmode htimeouts,
      config = ⟨a.serverUrl, a.linker, a.device, a.lightId, a.statePollIntervalS,
        a.serverOpenTimeoutS, a.serverApiToken, a.discoveryOnly, a.discoveryEnabled, a.pairing,
        a.pairingStatePath, hmode, htimeouts⟩ := by
  unfold runtimeConfig at h
  obtain ⟨_, hserver, h⟩ := bind_eq_ok h
  refine ⟨hserver, ?_⟩
  split at h
  · cases h
  · split at h
    · cases h
    · split at h
      · cases h
      · split at h
        · cases h
          exact ⟨_, _, rfl⟩
        · cases h

theorem deviceConfig_ok {ipAddress : String → Option IpAddress} {ip deviceId : String}
    {a : LinkSettings} {dps : TuyaDpMapping} {d : TuyaDeviceConfig}
    (h : deviceConfig ipAddress ip deviceId a dps = .ok d) :
    TuyaDeviceConfig.init ipAddress ip deviceId d.link (some dps) = .ok d := by
  unfold deviceConfig at h
  unfold TuyaDeviceConfig.init
  cases haddress : ipAddress ip with
  | none =>
    rw [haddress] at h
    cases h
  | some address =>
    rw [haddress] at h
    dsimp only at h ⊢
    split at h
    · cases h
    · next hprivate =>
      split at h
      · next hid =>
        obtain ⟨link, -, h⟩ := bind_eq_ok h
        cases h
        rw [if_neg hprivate, dif_pos hid]
      · cases h

theorem deviceOfEnv_ok {tuyaRaw : JsonObj} {deviceId : String} {d : TuyaDeviceConfig}
    (h : deviceOfEnv P env tuyaRaw deviceId = .ok d) : d.deviceId = deviceId := by
  unfold deviceOfEnv at h
  obtain ⟨mapping, -, h⟩ := bind_eq_ok h
  obtain ⟨ip, -, h⟩ := bind_eq_ok h
  obtain ⟨localKey, -, h⟩ := bind_eq_ok h
  obtain ⟨protocolVersion, -, h⟩ := bind_eq_ok h
  obtain ⟨settings, -, h⟩ := bind_eq_ok h
  exact (TuyaDeviceConfig.init_eq_ok _ _ _ _ _ _ (deviceConfig_ok h)).2.1

theorem discoveryMode_ok {raw : JsonObj} {c : CommonSettings} {config : RuntimeConfig}
    (h : discoveryMode P env raw c = .ok config) : config.device = none ∧ config.linker = c.linker ∧
      config.discoveryOnly = true ∧ pairingConfig P env c.tuyaRaw = .ok config.pairing ∧
      timeoutSettings P env raw = .ok (config.statePollIntervalS, config.serverOpenTimeoutS) := by
  unfold discoveryMode at h
  obtain ⟨pairing, hpairing, h⟩ := bind_eq_ok h
  obtain ⟨path, -, h⟩ := bind_eq_ok h
  obtain ⟨timeouts, htimeouts, h⟩ := bind_eq_ok h
  obtain ⟨-, _, _, rfl⟩ := runtimeConfig_ok h
  exact ⟨rfl, rfl, rfl, hpairing, htimeouts⟩

theorem deviceMode_ok {raw : JsonObj} {c : CommonSettings} {config : RuntimeConfig}
    (h : deviceMode P env raw c = .ok config) : config.pairing = none ∧ config.linker = c.linker ∧
      (∃ deviceId d, requiredString env "OPENHDO_TUYA_DEVICE_ID" c.tuyaRaw "device_id" = .ok deviceId ∧
        deviceOfEnv P env c.tuyaRaw deviceId = .ok d ∧ config.device = some d) ∧
      timeoutSettings P env raw = .ok (config.statePollIntervalS, config.serverOpenTimeoutS) := by
  unfold deviceMode at h
  obtain ⟨lightId, -, h⟩ := bind_eq_ok h
  obtain ⟨deviceId, hid, h⟩ := bind_eq_ok h
  obtain ⟨d, hd, h⟩ := bind_eq_ok h
  obtain ⟨timeouts, htimeouts, h⟩ := bind_eq_ok h
  obtain ⟨path, -, h⟩ := bind_eq_ok h
  obtain ⟨-, _, _, rfl⟩ := runtimeConfig_ok h
  exact ⟨rfl, rfl, ⟨deviceId, d, hid, hd, rfl⟩, htimeouts⟩

/-- An accepted configuration has the device whose id is set, unless it is discovery-only. -/
theorem device_of_fromRaw {raw : JsonObj} {config : RuntimeConfig} (h : fromRaw P env raw = .ok config)
    (hmode : config.discoveryOnly = false) :
    ∃ d, config.device = some d ∧
      setting env "OPENHDO_TUYA_DEVICE_ID" (tuyaSection raw) "device_id" .null = .str d.deviceId := by
  unfold fromRaw at h
  obtain ⟨c, hc, h⟩ := bind_eq_ok h
  split at h
  · obtain ⟨-, -, hdiscovery, -⟩ := discoveryMode_ok h
    rw [hmode] at hdiscovery
    cases hdiscovery
  · obtain ⟨-, -, ⟨deviceId, d, hid, hd, hdevice⟩, -⟩ := deviceMode_ok h
    refine ⟨d, hdevice, ?_⟩
    rw [deviceOfEnv_ok hd, ← (commonSettings_ok hc).1]
    exact requiredString_ok hid

end FromEnv

end Linker.Settings
