import OpenHdoLinker.Timings
import OpenHdoLinker.Lib.Readings

/-!
# Which configurations are reported

`main` prints an `OSError`, a `ValueError` and a `RuntimeError` and returns 2; anything
else ends the process with a traceback.  `from_env` reads its settings in a fixed order,
with readers that do not treat all bad values alike: `float()` of a setting that is not
text or a number is a `TypeError` and of a huge integer an `OverflowError`, `int()` of
an infinity is an `OverflowError` that only `TypeError` and `ValueError` are caught
around, and a `null` id or version reaches `fullmatch`.

    Raises Reported (fromEnv P env path) ↔ Orderly (readings P env raw)
                                                     (fromEnv_reported_iff)
-/

namespace Linker.BadConfig

open Py Settings

/-! ## Algorithm -/

/-- `except (OSError, RuntimeConfigError, ValueError, RuntimeError)` of `main`. -/
def mainErrors : List ExcClass := [.OSError, runtimeConfigErrorClass, .ValueError, .RuntimeError]

/-- `main` reports the exception. -/
def Reported (e : PyErr) : Prop := e.isAny mainErrors = true

/-! ## Statement -/

/-! ### What a reader makes of a setting -/

/-- `_section(raw, name)`. -/
def sectionReading (raw : JsonObj) (name : String) : Reading :=
  .check (∃ d, (raw.lookup name).getD (.obj []) = .obj d)

/-- `_string(…)`. -/
def textReading (value : Json) : Reading := .check (value = .null ∨ ∃ s, value = .str s)

/-- `_string(…, required=True)`. -/
def requiredTextReading (value : Json) : Reading :=
  .check (∃ s, value = .str s ∧ (stripText s).isEmpty = false)

/-- A bool, or one of the words for one. -/
def isBoolean : Json → Bool
  | .bool _ => true
  | .str s => String.ofList ((stripText s).map Char.toLower) ∈ trueWords ++ falseWords
  | _ => false

/-- `_boolean(…)`. -/
def booleanReading (value : Json) : Reading := .check (isBoolean value = true)

/-- What `float()` takes for no number at all, and an integer beyond the floats. -/
def isFloatHostile (P : StartLib) : Json → Bool
  | .null => true
  | .arr _ => true
  | .obj _ => true
  | .int i => (P.floatOfInt i).isNone
  | _ => false

/-- `float(_value(…))`. -/
def floatReading (P : StartLib) (value : Json) : Reading :=
  ⟨isFloatHostile P value = true, ∃ x, floatOf P value = .ok x⟩

/-- What `int()` overflows at. -/
def isInfinite : Json → Bool
  | .float .inf => true
  | .float .negInf => true
  | _ => false

/-- `_tuya_number(…)`. -/
def numberReading (value : Json) : Reading :=
  ⟨isInfinite value = true, value = .null ∨ ∃ i, intOf value = .ok i⟩

/-- `_tuya_number(…, required=True)`. -/
def requiredNumberReading (value : Json) : Reading :=
  ⟨isInfinite value = true, isMissing value = false ∧ ∃ i, intOf value = .ok i⟩

/-! ### What a constructor makes of the settings -/

/-- `pattern.fullmatch(value)`; there is no matching `None`. -/
def matchedReading (accepts : String → Bool) (value : Json) : Reading :=
  ⟨value = .null, ∃ s, value = .str s ∧ accepts s = true⟩

/-- A condition on a text. -/
def textCheck (p : String → Prop) (value : Json) : Reading :=
  .check (∃ s, value = .str s ∧ p s)

/-- A condition on what `int()` gives. -/
def numberCheck (p : Int → Prop) (value : Json) : Reading :=
  .check (∃ i, intOf value = .ok i ∧ p i)

/-- `_bounded_int(name, value, low, high)`. -/
def withinCheck (low high : Nat) (value : Json) : Reading :=
  numberCheck (fun i => low ≤ i ∧ i ≤ high) value

/-- A minimum below its maximum. -/
def orderedCheck (low high : Json) : Reading :=
  .check (∃ i j, intOf low = .ok i ∧ intOf high = .ok j ∧ i < j)

/-- A name of 1 to 128 characters. -/
def nameCheck (value : Json) : Reading := textCheck (fun s => s ≠ "" ∧ s.length ≤ 128) value

/-- The settings of a mapping. -/
structure MappingValues where
  power : Json
  brightness : Json
  color : Json
  colorFormat : Json
  brightnessMin : Json
  brightnessMax : Json
  white : Json
  whiteMin : Json
  whiteMax : Json

def mappingValues (env : Env) (tuyaRaw : JsonObj) : MappingValues where
  power := setting env "OPENHDO_TUYA_DP_POWER" tuyaRaw "dp_power" .null
  brightness := setting env "OPENHDO_TUYA_DP_BRIGHTNESS" tuyaRaw "dp_brightness" .null
  color := setting env "OPENHDO_TUYA_DP_COLOR" tuyaRaw "dp_color" .null
  colorFormat := setting env "OPENHDO_TUYA_COLOR_FORMAT" tuyaRaw "color_format" .null
  brightnessMin := setting env "OPENHDO_TUYA_BRIGHTNESS_MIN" tuyaRaw "brightness_min" .null
  brightnessMax := setting env "OPENHDO_TUYA_BRIGHTNESS_MAX" tuyaRaw "brightness_max" .null
  white := setting env "OPENHDO_TUYA_DP_WHITE" tuyaRaw "dp_white" .null
  whiteMin := setting env "OPENHDO_TUYA_WHITE_MIN" tuyaRaw "white_min" .null
  whiteMax := setting env "OPENHDO_TUYA_WHITE_MAX" tuyaRaw "white_max" .null

namespace MappingValues

variable (v : MappingValues)

/-- The three data points of every mapping. -/
def HasDps (dps : List Int) : Prop :=
  ∃ power brightness color, intOf v.power = .ok power ∧ intOf v.brightness = .ok brightness ∧
    intOf v.color = .ok color ∧ dps = [power, brightness, color]

/-- The checks on the white data point. -/
def whiteChecks : List Reading :=
  if isNull v.white then [.check (v.whiteMin = .null ∧ v.whiteMax = .null)]
  else [withinCheck 1 255 v.white,
    .check (∃ white dps, intOf v.white = .ok white ∧ v.HasDps dps ∧ white ∉ dps),
    .check (v.whiteMin ≠ .null ∧ v.whiteMax ≠ .null),
    withinCheck 0 65535 v.whiteMin, withinCheck 0 65535 v.whiteMax,
    orderedCheck v.whiteMin v.whiteMax]

/-- The checks of `TuyaDpMapping`. -/
def checks : List Reading :=
  [withinCheck 1 255 v.power, withinCheck 1 255 v.brightness, withinCheck 1 255 v.color,
    .check (∃ dps, v.HasDps dps ∧ dps.Nodup),
    textCheck (fun s => s = "rgb_hex" ∨ s = "hsv_hex") v.colorFormat,
    withinCheck 0 65535 v.brightnessMin, withinCheck 0 65535 v.brightnessMax,
    orderedCheck v.brightnessMin v.brightnessMax] ++ v.whiteChecks

/-- `_tuya_mapping(env, raw)`. -/
def readings : List Reading :=
  [requiredNumberReading v.power, requiredNumberReading v.brightness, requiredNumberReading v.color,
    requiredTextReading v.colorFormat, requiredNumberReading v.brightnessMin,
    requiredNumberReading v.brightnessMax, numberReading v.white, numberReading v.whiteMin,
    numberReading v.whiteMax] ++ v.checks

end MappingValues

/-- The settings of a link. -/
structure LinkValues where
  localKey : Json
  protocol : Json
  publicName : Json
  port : Json
  timeout : Json
  retries : Json

def linkValues (env : Env) (tuyaRaw : JsonObj) : LinkValues where
  localKey := setting env "OPENHDO_TUYA_LOCAL_KEY" tuyaRaw "local_key" .null
  protocol := setting env "OPENHDO_TUYA_PROTOCOL" tuyaRaw "protocol" .null
  publicName := setting env "OPENHDO_TUYA_PUBLIC_NAME" tuyaRaw "public_name" (.str "LED lamp")
  port := setting env "OPENHDO_TUYA_PORT" tuyaRaw "port" (.int 6668)
  timeout := setting env "OPENHDO_TUYA_TIMEOUT" tuyaRaw "timeout" (.float (.finite 3))
  retries := setting env "OPENHDO_TUYA_RETRIES" tuyaRaw "retries" (.int 1)

namespace LinkValues

variable (P : StartLib) (v : LinkValues)

/-- The arguments after `dps`. -/
def readings : List Reading :=
  [textReading v.publicName, numberReading v.port, floatReading P v.timeout, numberReading v.retries]

def keyCheck : Reading :=
  textCheck (fun s => (∀ c ∈ s.toList, c.toNat < 128) ∧ s.length = 16) v.localKey

def protocolCheck : Reading := textCheck (fun s => ∃ p, ProtocolVersion.ofText? s = some p) v.protocol

def timeoutCheck : Reading :=
  .check (∃ t, floatOf P v.timeout = .ok t ∧ t.le (.finite 0) = false ∧
    (PyFloat.finite 60).lt t = false)

/-- The checks both classes end with. -/
def lastChecks : List Reading :=
  [withinCheck 1 65535 v.port, v.timeoutCheck P, withinCheck 0 5 v.retries]

/-- The checks of `TuyaDeviceConfig` after its identity. -/
def deviceChecks : List Reading :=
  nameCheck v.publicName :: v.keyCheck :: v.protocolCheck :: v.lastChecks P

/-- The checks of `TuyaPairingConfig`. -/
def pairingChecks : List Reading :=
  v.keyCheck :: v.protocolCheck :: nameCheck v.publicName :: v.lastChecks P

end LinkValues

section Order

variable (P : StartLib) (env : Env) (raw : JsonObj)

/-- What `from_env` reads in either mode, to the checks of `LinkerConfig`. -/
def commonReadings : List Reading :=
  let serverRaw := ((getItem raw "server_config").obj?).getD []
  let linkerId := setting env "OPENHDO_LINKER_ID" (linkerSection raw) "id"
    (.str "openhdo.linker.rgb")
  let version := setting env "OPENHDO_LINKER_VERSION" (linkerSection raw) "version" (.str "0.3.0")
  let name := setting env "OPENHDO_LINKER_NAME" (linkerSection raw) "name"
    (.str "OpenHDO Tuya LED Linker")
  let initial := setting env "OPENHDO_RECONNECT_INITIAL" (linkerSection raw) "reconnect_initial_s"
    (.float (.finite 1))
  let longest := setting env "OPENHDO_RECONNECT_MAX" (linkerSection raw) "reconnect_max_s"
    (.float (.finite 30))
  [sectionReading raw "linker", sectionReading raw "server_config", sectionReading raw "tuya",
    requiredTextReading (setting env "OPENHDO_SERVER" raw "server" .null),
    textReading (setting env "OPENHDO_SERVER_TOKEN" raw "server_api_token"
      (getItem serverRaw "api_token")),
    textReading linkerId, textReading version, textReading name,
    booleanReading (setting env "OPENHDO_DISCOVERY_ONLY" raw "discovery_only" (.bool false)),
    booleanReading (setting env "OPENHDO_TUYA_DISCOVERY_ENABLED" (tuyaSection raw)
      "discovery_enabled" (.bool false)),
    floatReading P initial, floatReading P longest,
    matchedReading isIdentifier linkerId, matchedReading isSemver version, nameCheck name,
    .check (∃ x y, floatOf P initial = .ok x ∧ floatOf P longest = .ok y ∧
      x.le (.finite 0) = false ∧ y.lt x = false)]

/-- `state_poll_interval_s` and `server_open_timeout_s`. -/
def timeoutReadings : List Reading :=
  [floatReading P (setting env "OPENHDO_STATE_POLL_INTERVAL" raw "state_poll_interval_s"
      (.float (.finite 15))),
    floatReading P (setting env "OPENHDO_SERVER_OPEN_TIMEOUT" raw "server_open_timeout_s"
      (.float (.finite 10)))]

def pathReading (tuyaRaw : JsonObj) : Reading :=
  textReading (setting env "OPENHDO_TUYA_PAIRING_STATE" tuyaRaw "pairing_state"
    (.str "openhdo-pairing.json"))

/-- `_pairing_config(env, raw)`. -/
def pairingReadings (tuyaRaw : JsonObj) : List Reading :=
  if pairingKeys.all fun k => isNull (setting env k.1 tuyaRaw k.2 .null) then []
  else
    let link := linkValues env tuyaRaw
    requiredTextReading link.localKey :: requiredTextReading link.protocol ::
      ((mappingValues env tuyaRaw).readings ++ (link.readings P ++ link.pairingChecks P))

/-- Discovery-only mode. -/
def discoveryReadings (tuyaRaw : JsonObj) : List Reading :=
  pairingReadings P env tuyaRaw ++ pathReading env tuyaRaw :: timeoutReadings P env raw

/-- The device, and the checks of its identity. -/
def deviceReadings (tuyaRaw : JsonObj) : List Reading :=
  let link := linkValues env tuyaRaw
  let ip := setting env "OPENHDO_TUYA_IP" tuyaRaw "ip" .null
  let deviceId := setting env "OPENHDO_TUYA_DEVICE_ID" tuyaRaw "device_id" .null
  (mappingValues env tuyaRaw).readings ++ requiredTextReading ip ::
    requiredTextReading link.localKey :: requiredTextReading link.protocol ::
    (link.readings P ++
      textCheck (fun s => ∃ a, P.ipAddress s = some a ∧
        (a.isLoopback || (!a.isPrivate && !a.isLinkLocal)) = false) ip ::
      textCheck (fun s => s ≠ "" ∧ s.length ≤ 64) deviceId :: link.deviceChecks P)

/-- The other mode. -/
def lightReadings (tuyaRaw : JsonObj) : List Reading :=
  textReading (setting env "OPENHDO_LIGHT_ID" tuyaRaw "light_id" .null) ::
    requiredTextReading (setting env "OPENHDO_TUYA_DEVICE_ID" tuyaRaw "device_id" .null) ::
    (deviceReadings P env tuyaRaw ++ (timeoutReadings P env raw ++ [pathReading env tuyaRaw]))

/-- `discovery_only` is set. -/
def isDiscoveryOnly : Bool :=
  match booleanSetting env "OPENHDO_DISCOVERY_ONLY" raw "discovery_only" false with
  | .ok discoveryOnly => discoveryOnly
  | .error _ => false

/-- The readings and checks of `from_env` in the order it makes them, up to the last reading. -/
def readings : List Reading :=
  commonReadings P env raw ++
    if isDiscoveryOnly env raw then discoveryReadings P env raw (tuyaSection raw)
    else lightReadings P env raw (tuyaSection raw)

end Order

/-! ## Lemmas -/

/-- Every `ValueError` is reported. -/
theorem reported_of_valueError {e : PyErr} (h : e.isA .ValueError = true) : Reported e := by
  unfold Reported PyErr.isAny mainErrors
  rw [List.any_eq_true]
  exact ⟨.ValueError, by simp, h⟩

theorem reported_value (text : String) : Reported (valueError text) :=
  reported_of_valueError (isA_self _ _)

theorem reported_config (text : String) : Reported (runtimeConfigError text) :=
  reported_of_valueError (isA_derived _ _ _ _ (ExcClass.mem_mro_self _))

theorem reported_tuya (text : String) : Reported (tuyaConfigurationError text) :=
  reported_of_valueError (isA_derived _ _ _ _ (ExcClass.mem_mro_self _))

theorem not_reported_type (text : String) : ¬ Reported (typeError text) := Bool.false_ne_true

theorem not_reported_overflow (text : String) : ¬ Reported ⟨.OverflowError, text⟩ :=
  Bool.false_ne_true

/-! ### The readers -/

section Readers

variable (env : Env) (envName : String) (raw : JsonObj) (key : String)

theorem follows_section (name : String) :
    Follows Reported (sectionOf raw name) [sectionReading raw name] := by
  unfold sectionOf sectionReading
  cases (raw.lookup name).getD (.obj []) with
  | obj d => exact follows_check (raises_ok d) (iff_of_true ⟨d, rfl⟩ ⟨d, rfl⟩)
  | _ => exact follows_check (raises_error (reported_config _)) (iff_of_false nofun nofun)

theorem follows_text (default : Json) : Follows Reported (stringSetting env envName raw key default)
    [textReading (setting env envName raw key default)] := by
  unfold stringSetting textReading
  cases setting env envName raw key default with
  | null => exact follows_check (raises_ok none) (iff_of_true ⟨none, rfl⟩ (.inl rfl))
  | str s => exact follows_check (raises_ok (some s)) (iff_of_true ⟨some s, rfl⟩ (.inr ⟨s, rfl⟩))
  | _ =>
    refine follows_check (raises_error (reported_config _)) (iff_of_false nofun ?_)
    rintro (h | ⟨s, h⟩) <;> cases h

theorem follows_requiredText : Follows Reported (Settings.requiredString env envName raw key)
    [requiredTextReading (setting env envName raw key .null)] := by
  unfold Settings.requiredString requiredValue requiredTextReading isMissing
  cases setting env envName raw key .null with
  | str s =>
    cases hs : (stripText s).isEmpty with
    | true =>
      refine follows_check ?_ (iff_of_false ?_ ?_)
      · simp only [hs]
        exact raises_error (reported_config _)
      · simp only [hs]
        nofun
      · rintro ⟨t, ht, hne⟩
        cases ht
        rw [hs] at hne
        cases hne
    | false =>
      simp only [hs]
      exact follows_check (raises_ok s) (iff_of_true ⟨s, rfl⟩ ⟨s, rfl, hs⟩)
  | _ => exact follows_check (raises_error (reported_config _)) (iff_of_false nofun nofun)

theorem follows_boolean (default : Bool) :
    Follows Reported (booleanSetting env envName raw key default)
      [booleanReading (setting env envName raw key (.bool default))] := by
  unfold booleanSetting booleanReading isBoolean
  cases setting env envName raw key (.bool default) with
  | bool b => exact follows_check (raises_ok b) (iff_of_true ⟨b, rfl⟩ rfl)
  | str s =>
    simp only [List.mem_append, decide_eq_true_eq]
    split
    · next h => exact follows_check (raises_ok true) (iff_of_true ⟨true, rfl⟩ (.inl h))
    · next h =>
      split
      · next h => exact follows_check (raises_ok false) (iff_of_true ⟨false, rfl⟩ (.inr h))
      · next h' =>
        refine follows_check (raises_error (reported_config _)) (iff_of_false nofun ?_)
        rintro (hw | hw)
        · exact h hw
        · exact h' hw
  | _ => exact follows_check (raises_error (reported_config _)) (iff_of_false nofun nofun)

theorem floatOf_reported (P : StartLib) (value : Json) :
    Raises Reported (floatOf P value) ↔ ¬ isFloatHostile P value = true := by
  unfold floatOf isFloatHostile
  cases value with
  | bool b => exact iff_of_true (raises_ok _) nofun
  | float x => exact iff_of_true (raises_ok x) nofun
  | int i =>
    cases hi : P.floatOfInt i with
    | none => simpa [Raises, hi] using not_reported_overflow _
    | some x => simp [Raises, hi]
  | str s =>
    cases hs : P.floatOfText s with
    | none => simpa [Raises, hs] using reported_value _
    | some x => simp [Raises, hs]
  | _ => exact iff_of_false (fun h => not_reported_type _ (h _ rfl)) (fun h => h rfl)

theorem follows_float (P : StartLib) (default : ℚ) :
    Follows Reported (floatSetting env envName raw key P default)
      [floatReading P (setting env envName raw key (.float (.finite default)))] :=
  follows_one (floatOf_reported P _) Iff.rfl

/-- `int()` under `except (TypeError, ValueError)`. -/
theorem numberOf_reported (value : Json) :
    Raises Reported (numberOf key value) ↔ ¬ isInfinite value = true := by
  unfold numberOf isInfinite intOf
  cases value with
  | bool b => exact iff_of_true (raises_ok _) nofun
  | int i => exact iff_of_true (raises_ok i) nofun
  | float x =>
    cases x with
    | finite q => exact iff_of_true (raises_ok _) nofun
    | nan => exact iff_of_true (raises_error (reported_config _)) nofun
    | _ => exact iff_of_false (fun h => not_reported_overflow _ (h _ rfl)) (fun h => h rfl)
  | str s =>
    cases hs : parseInt 10 s with
    | none => 
      simp only [hs]
      exact iff_of_true (raises_error (reported_config _)) nofun
    | some i => 
      simp only [hs]
      exact iff_of_true (raises_ok i) nofun
  | _ => exact iff_of_true (raises_error (reported_config _)) nofun

theorem numberOf_ok {value : Json} {i : Int} :
    numberOf key value = .ok i ↔ intOf value = .ok i := by
  unfold numberOf
  cases intOf value with
  | ok j => rfl
  | error e =>
    refine iff_of_false ?_ nofun
    dsimp only
    split <;> nofun

theorem follows_numberOf (value : Json) : Follows Reported (numberOf key value)
    [⟨isInfinite value = true, ∃ i, intOf value = .ok i⟩] := by
  refine follows_one (numberOf_reported key value) ?_
  simp only [numberOf_ok]

theorem follows_number (default : Json) :
    Follows Reported (tuyaNumber env envName raw key default)
      [numberReading (setting env envName raw key default)] := by
  unfold tuyaNumber numberReading
  cases setting env envName raw key default with
  | null => exact follows_one (iff_of_true (raises_ok none) nofun) (iff_of_true ⟨none, rfl⟩ (.inl rfl))
  | _ => simpa only [reduceCtorEq, false_or] using (follows_numberOf key _).map

theorem follows_requiredNumber : Follows Reported (requiredNumber env envName raw key)
    [requiredNumberReading (setting env envName raw key .null)] := by
  unfold requiredNumber requiredValue requiredNumberReading
  generalize setting env envName raw key .null = value
  dsimp only
  cases hmissing : isMissing value with
  | true =>
    refine follows_one (iff_of_true (raises_error (reported_config _)) ?_) (iff_of_false nofun nofun)
    intro hinf
    change isInfinite value = true at hinf
    cases value <;> first | exact absurd hinf Bool.false_ne_true | exact absurd hmissing Bool.false_ne_true
  | false =>
    rw [if_neg Bool.false_ne_true]
    change Follows Reported (numberOf key value) _
    simpa only [true_and] using follows_numberOf key value

end Readers

/-! ### The constructors -/

/-- What an optional number was read from. -/
def ReadsAs (value : Json) : Option Int → Prop
  | none => value = .null
  | some i => intOf value = .ok i

theorem ReadsAs.isNull {value : Json} {o : Option Int} (h : ReadsAs value o) :
    value = .null ↔ o = none := by
  cases o with
  | none => exact iff_of_true h rfl
  | some i =>
    refine iff_of_false ?_ nofun
    rintro rfl
    cases h

section Read

variable {env : Env} {envName key : String} {raw : JsonObj}

theorem requiredNumber_ok {i : Int} (h : requiredNumber env envName raw key = .ok i) :
    ReadsAs (setting env envName raw key .null) (some i) := by
  unfold requiredNumber requiredValue at h
  obtain ⟨value, hvalue, hread⟩ := bind_eq_ok h
  dsimp only at hvalue
  split at hvalue
  · cases hvalue
  · cases hvalue
    exact (numberOf_ok key).mp hread

theorem tuyaNumber_ok {default : Json} {o : Option Int}
    (h : tuyaNumber env envName raw key default = .ok o) :
    ReadsAs (setting env envName raw key default) o := by
  unfold tuyaNumber at h
  split at h
  · next hnull =>
    cases h
    exact hnull
  · next value _ =>
    cases hread : numberOf key (setting env envName raw key default) with
    | error e =>
      rw [hread] at h
      cases h
    | ok i =>
      rw [hread] at h
      cases h
      exact (numberOf_ok key).mp hread

/-- The JSON text of a text that may be `None`. -/
def textJson : Option String → Json
  | none => .null
  | some s => .str s

theorem stringSetting_ok {default : Json} {o : Option String}
    (h : stringSetting env envName raw key default = .ok o) :
    setting env envName raw key default = textJson o := by
  unfold stringSetting at h
  split at h
  · next hnull =>
    cases h
    exact hnull
  · next s hs =>
    cases h
    exact hs
  · cases h

end Read

theorem follows_bounded {name : String} {low high : Nat} {value : Json} {o : Option Int}
    (h : ReadsAs value o) : Follows Reported (bounded name low high o) [withinCheck low high value] := by
  unfold bounded
  cases o with
  | none =>
    refine follows_stop ?_ (reported_tuya _)
    rintro ⟨i, hi, -⟩
    rw [show value = .null from h] at hi
    cases hi
  | some i =>
    have hi : intOf value = .ok i := h
    have hrange : (∃ j, intOf value = .ok j ∧ (low : Int) ≤ j ∧ j ≤ high) ↔ (low : Int) ≤ i ∧ i ≤ high := by
      rw [hi]
      simp
    exact follows_dite hrange (reported_tuya _) fun _ => follows_ok _

theorem bounded_ok {name : String} {low high : Nat} {value : Json} {o : Option Int}
    {n : { n : Nat // low ≤ n ∧ n ≤ high }} (h : ReadsAs value o) (hn : bounded name low high o = .ok n) :
    intOf value = .ok (n.val : Int) := by
  unfold bounded at hn
  cases o with
  | none => cases hn
  | some i =>
    dsimp only at hn
    split at hn
    · next hrange =>
      cases hn
      have hnat : ((i.toNat : Nat) : Int) = i := Int.toNat_of_nonneg (by omega)
      exact h.trans (congrArg Except.ok hnat.symm)
    · cases hn

/-- The arguments of a mapping and the settings they were read from. -/
structure MappingValues.ReadAs (v : MappingValues) (a : DpSettings) : Prop where
  power : ReadsAs v.power (some a.power)
  brightness : ReadsAs v.brightness (some a.brightness)
  color : ReadsAs v.color (some a.color)
  colorFormat : v.colorFormat = .str a.colorFormat
  brightnessMin : ReadsAs v.brightnessMin (some a.brightnessMin)
  brightnessMax : ReadsAs v.brightnessMax (some a.brightnessMax)
  white : ReadsAs v.white a.white
  whiteMin : ReadsAs v.whiteMin a.whiteMin
  whiteMax : ReadsAs v.whiteMax a.whiteMax

/-- Two settings that were read are ordered as what was read of them. -/
theorem ordered_iff {vlow vhigh : Json} {low high : Nat} (hlow : intOf vlow = .ok (low : Int))
    (hhigh : intOf vhigh = .ok (high : Int)) :
    (∃ i j, intOf vlow = .ok i ∧ intOf vhigh = .ok j ∧ i < j) ↔ low < high := by
  rw [hlow, hhigh]
  simp

theorem hasDps_iff {v : MappingValues} {power brightness color : Nat}
    (hpower : intOf v.power = .ok (power : Int)) (hbrightness : intOf v.brightness = .ok (brightness : Int))
    (hcolor : intOf v.color = .ok (color : Int)) (dps : List Int) :
    v.HasDps dps ↔ dps = [power, brightness, color].map Nat.cast := by
  unfold MappingValues.HasDps
  rw [hpower, hbrightness, hcolor]
  simp

theorem follows_whiteDp {v : MappingValues} {a : DpSettings} (h : v.ReadAs a) {dps : List Nat}
    (hdps : ∀ l, v.HasDps l ↔ l = dps.map Nat.cast) :
    Follows Reported (whiteDp dps a.white a.whiteMin a.whiteMax) v.whiteChecks := by
  have hwhite := h.white
  unfold whiteDp MappingValues.whiteChecks
  cases ha : a.white with
  | none =>
    rw [ha] at hwhite
    rw [if_pos (show isNull v.white = true by rw [show v.white = .null from hwhite]; rfl)]
    dsimp only
    rw [h.whiteMin.isNull, h.whiteMax.isNull]
    split
    · next hset => exact follows_stop (not_and_or.mpr hset) (reported_tuya _)
    · next hunset =>
      rw [not_or, not_not, not_not] at hunset
      exact (follows_ok _).pass hunset
  | some white =>
    rw [ha] at hwhite
    have hthere : ¬ isNull v.white = true := by
      cases hv : v.white with
      | null => rw [hv] at hwhite; cases hwhite
      | _ => exact Bool.false_ne_true
    rw [if_neg hthere]
    refine (follows_bounded hwhite).cons fun dp hdp => ?_
    have hdistinct : (∃ i l, intOf v.white = .ok i ∧ v.HasDps l ∧ i ∉ l) ↔ dp.val ∉ dps := by
      rw [bounded_ok hwhite hdp]
      simp only [Except.ok.injEq, hdps, exists_and_left, exists_eq_left', exists_eq_left, List.mem_map,
        Nat.cast_inj, exists_eq_right]
    split
    · next hin => exact follows_stop (fun hno => hdistinct.mp hno hin) (reported_tuya _)
    · next hout =>
      refine .pass (hdistinct.mpr hout) ?_
      rw [ne_eq, ne_eq, h.whiteMin.isNull, h.whiteMax.isNull, ← not_or]
      split
      · next hunset => exact follows_stop (not_not.mpr hunset) (reported_tuya _)
      · next hset =>
        refine .pass hset ?_
        refine (follows_bounded h.whiteMin).cons fun low hlow => ?_
        refine (follows_bounded h.whiteMax).cons fun high hhigh => ?_
        have horder := ordered_iff (bounded_ok h.whiteMin hlow) (bounded_ok h.whiteMax hhigh)
        exact follows_dite horder (reported_tuya _) fun _ => follows_ok _

theorem colorFormatOf_isSome (s : String) :
    (∃ format, colorFormatOf s = some format) ↔ s = "rgb_hex" ∨ s = "hsv_hex" := by
  unfold colorFormatOf
  split
  · exact iff_of_true ⟨_, rfl⟩ (.inl rfl)
  · exact iff_of_true ⟨_, rfl⟩ (.inr rfl)
  · next hrgb hhsv => exact iff_of_false nofun (fun h => h.elim hrgb hhsv)

theorem textCheck_iff {p : String → Prop} {value : Json} {s : String} (h : value = .str s) :
    (∃ t, value = .str t ∧ p t) ↔ p s := by
  rw [h]
  simp

theorem follows_dpMapping {v : MappingValues} {a : DpSettings} (h : v.ReadAs a) :
    Follows Reported (dpMapping a) v.checks := by
  unfold dpMapping MappingValues.checks
  refine (follows_bounded h.power).cons fun power hpower => ?_
  refine (follows_bounded h.brightness).cons fun brightness hbrightness => ?_
  refine (follows_bounded h.color).cons fun color hcolor => ?_
  have hdps := hasDps_iff (bounded_ok h.power hpower) (bounded_ok h.brightness hbrightness)
    (bounded_ok h.color hcolor)
  have hdistinct : (∃ dps, v.HasDps dps ∧ dps.Nodup) ↔
      [power.val, brightness.val, color.val].Nodup := by
    simp [hdps]
  refine follows_dite hdistinct (reported_tuya _) fun hnodup => ?_
  have hknown := (textCheck_iff (p := fun s => s = "rgb_hex" ∨ s = "hsv_hex") h.colorFormat).trans
    (colorFormatOf_isSome _).symm
  cases hformat : colorFormatOf a.colorFormat with
  | none =>
    rw [hformat] at hknown
    exact follows_stop (fun ht => nomatch hknown.mp ht) (reported_tuya _)
  | some format =>
    refine .pass (hknown.mpr ⟨format, hformat⟩) ?_
    refine (follows_bounded h.brightnessMin).cons fun low hlow => ?_
    refine (follows_bounded h.brightnessMax).cons fun high hhigh => ?_
    have horder := ordered_iff (bounded_ok h.brightnessMin hlow) (bounded_ok h.brightnessMax hhigh)
    exact follows_dite horder (reported_tuya _) fun _ => (follows_whiteDp h hdps).last _

theorem follows_tuyaMapping (env : Env) (tuyaRaw : JsonObj) :
    Follows Reported (tuyaMapping env tuyaRaw) (mappingValues env tuyaRaw).readings := by
  unfold tuyaMapping MappingValues.readings
  refine (follows_requiredNumber ..).cons fun power hpower => ?_
  refine (follows_requiredNumber ..).cons fun brightness hbrightness => ?_
  refine (follows_requiredNumber ..).cons fun color hcolor => ?_
  refine (follows_requiredText ..).cons fun colorFormat hformat => ?_
  refine (follows_requiredNumber ..).cons fun brightnessMin hbrightnessMin => ?_
  refine (follows_requiredNumber ..).cons fun brightnessMax hbrightnessMax => ?_
  refine (follows_number ..).cons fun white hwhite => ?_
  refine (follows_number ..).cons fun whiteMin hwhiteMin => ?_
  refine (follows_number ..).cons fun whiteMax hwhiteMax => ?_
  exact follows_dpMapping ⟨requiredNumber_ok hpower, requiredNumber_ok hbrightness,
    requiredNumber_ok hcolor, requiredString_ok hformat, requiredNumber_ok hbrightnessMin,
    requiredNumber_ok hbrightnessMax, tuyaNumber_ok hwhite, tuyaNumber_ok hwhiteMin,
    tuyaNumber_ok hwhiteMax⟩

/-! ### Links -/

theorem follows_fullmatch {accepts : String → Bool} {failure : String} {value : Json}
    {o : Option String} (h : value = textJson o) :
    Follows Reported (fullmatch accepts failure o) [matchedReading accepts value] := by
  subst h
  unfold fullmatch
  cases o with
  | none =>
    refine follows_one (iff_of_false ?_ (fun h => h rfl)) (iff_of_false nofun nofun)
    intro h
    exact not_reported_type _ (h _ rfl)
  | some s =>
    dsimp only
    split
    · next hs => exact follows_one (iff_of_true (raises_ok _) nofun) (iff_of_true ⟨_, rfl⟩ ⟨s, rfl, hs⟩)
    · next hs =>
      refine follows_one (iff_of_true (raises_error (reported_value _)) nofun)
        (iff_of_false nofun ?_)
      rintro ⟨t, ht, haccepts⟩
      cases ht
      exact hs haccepts

theorem follows_boundedName {failure : PyErr} (hfailure : Reported failure) {value : Json}
    {o : Option String} (h : value = textJson o) :
    Follows Reported (boundedName failure o) [nameCheck value] := by
  subst h
  unfold boundedName
  cases o with
  | none => exact follows_stop nofun hfailure
  | some s => exact follows_dite (textCheck_iff rfl) hfailure fun _ => follows_ok _

variable {v : LinkValues} {s : String}

theorem follows_checkKey (h : v.localKey = .str s) : Follows Reported (checkKey s) [v.keyCheck] := by
  have hkey := textCheck_iff (p := fun s => (∀ c ∈ s.toList, c.toNat < 128) ∧ s.length = 16) h
  unfold checkKey
  split
  · next hascii =>
    split
    · next hlen => exact (follows_ok _).pass (hkey.mpr ⟨by simpa using hascii, hlen⟩)
    · next hlen => exact follows_stop (fun hk => hlen (hkey.mp hk).2) (reported_tuya _)
  · next hascii =>
    refine follows_stop (fun hk => hascii ?_) (reported_tuya _)
    simpa using (hkey.mp hk).1

theorem follows_checkProtocol (h : v.protocol = .str s) :
    Follows Reported (checkProtocol s) [v.protocolCheck] := by
  have hprotocol := textCheck_iff (p := fun s => ∃ p, ProtocolVersion.ofText? s = some p) h
  unfold checkProtocol
  cases hp : ProtocolVersion.ofText? s with
  | none =>
    rw [hp] at hprotocol
    exact follows_stop (fun ht => nomatch hprotocol.mp ht) (reported_tuya _)
  | some p => exact (follows_ok p).pass (hprotocol.mpr ⟨p, hp⟩)

theorem follows_checkTimeout {P : StartLib} {t : PyFloat} (h : floatOf P v.timeout = .ok t) :
    Follows Reported (checkTimeout t) [v.timeoutCheck P] := by
  have ht : (∃ u, floatOf P v.timeout = .ok u ∧ u.le (.finite 0) = false ∧
      (PyFloat.finite 60).lt u = false) ↔
        t.le (.finite 0) = false ∧ (PyFloat.finite 60).lt t = false := by
    rw [h]
    simp
  exact follows_dite ht (reported_tuya _) fun _ => follows_ok _

/-- The arguments of a link and the settings they were read from. -/
structure LinkValues.ReadAs (P : StartLib) (v : LinkValues) (a : LinkSettings) : Prop where
  localKey : v.localKey = .str a.localKey
  protocol : v.protocol = .str a.protocolVersion
  publicName : v.publicName = textJson a.publicName
  port : ReadsAs v.port a.port
  timeout : floatOf P v.timeout = .ok a.timeoutS
  retries : ReadsAs v.retries a.retries

variable {P : StartLib} {a : LinkSettings}

theorem follows_deviceLink (h : v.ReadAs P a) : Follows Reported (deviceLink a) (v.deviceChecks P) := by
  unfold deviceLink
  refine (follows_boundedName (reported_tuya _) h.publicName).cons fun name _ => ?_
  refine (follows_checkKey h.localKey).cons fun key _ => ?_
  refine (follows_checkProtocol h.protocol).cons fun protocol _ => ?_
  refine (follows_bounded h.port).cons fun port _ => ?_
  refine (follows_checkTimeout h.timeout).cons fun timeout _ => ?_
  exact (follows_bounded h.retries).last _

theorem follows_pairingLink (h : v.ReadAs P a) :
    Follows Reported (pairingLink a) (v.pairingChecks P) := by
  unfold pairingLink
  refine (follows_checkKey h.localKey).cons fun key _ => ?_
  refine (follows_checkProtocol h.protocol).cons fun protocol _ => ?_
  refine (follows_boundedName (reported_tuya _) h.publicName).cons fun name _ => ?_
  refine (follows_bounded h.port).cons fun port _ => ?_
  refine (follows_checkTimeout h.timeout).cons fun timeout _ => ?_
  exact (follows_bounded h.retries).last _

section Modes

variable (P) (env : Env)

theorem follows_linkSettings (tuyaRaw : JsonObj) (localKey protocolVersion : String) :
    Follows Reported (linkSettings P env tuyaRaw localKey protocolVersion)
      ((linkValues env tuyaRaw).readings P) := by
  unfold linkSettings
  refine (follows_text ..).cons fun publicName _ => ?_
  refine (follows_number ..).cons fun port _ => ?_
  refine (follows_float ..).cons fun timeout _ => ?_
  exact (follows_number ..).last _

variable {P env}

theorem linkSettings_ok {tuyaRaw : JsonObj} {localKey protocolVersion : String}
    (hkey : (linkValues env tuyaRaw).localKey = .str localKey)
    (hprotocol : (linkValues env tuyaRaw).protocol = .str protocolVersion)
    (h : linkSettings P env tuyaRaw localKey protocolVersion = .ok a) :
    (linkValues env tuyaRaw).ReadAs P a := by
  unfold linkSettings at h
  obtain ⟨publicName, hname, h⟩ := bind_eq_ok h
  obtain ⟨port, hport, h⟩ := bind_eq_ok h
  obtain ⟨timeoutS, htimeout, h⟩ := bind_eq_ok h
  obtain ⟨retries, hretries, h⟩ := bind_eq_ok h
  cases h
  exact ⟨hkey, hprotocol, stringSetting_ok hname, tuyaNumber_ok hport, htimeout,
    tuyaNumber_ok hretries⟩

variable (P env)

theorem follows_pairingConfig (tuyaRaw : JsonObj) :
    Follows Reported (pairingConfig P env tuyaRaw) (pairingReadings P env tuyaRaw) := by
  unfold pairingConfig pairingReadings
  split
  · exact follows_ok none
  · refine (follows_requiredText ..).cons fun localKey hkey => ?_
    refine (follows_requiredText ..).cons fun protocolVersion hprotocol => ?_
    refine (follows_tuyaMapping env tuyaRaw).bind fun dps _ => ?_
    refine (follows_linkSettings ..).bind fun settings hsettings => ?_
    exact (follows_pairingLink (linkSettings_ok (requiredString_ok hkey)
      (requiredString_ok hprotocol) hsettings)).last _

theorem follows_deviceConfig {ip deviceId : String} {vip vid : Json} (hip : vip = .str ip)
    (hid : vid = .str deviceId) (h : v.ReadAs P a) (dps : TuyaDpMapping) :
    Follows Reported (deviceConfig P.ipAddress ip deviceId a dps)
      (textCheck (fun s => ∃ a, P.ipAddress s = some a ∧
        (a.isLoopback || (!a.isPrivate && !a.isLinkLocal)) = false) vip ::
      textCheck (fun s => s ≠ "" ∧ s.length ≤ 64) vid :: v.deviceChecks P) := by
  have haddress := textCheck_iff (p := fun s => ∃ a, P.ipAddress s = some a ∧
    (a.isLoopback || (!a.isPrivate && !a.isLinkLocal)) = false) hip
  unfold deviceConfig
  cases hparsed : P.ipAddress ip with
  | none =>
    refine follows_stop (fun ht => ?_) (reported_tuya _)
    obtain ⟨a, hsome, -⟩ := haddress.mp ht
    rw [hparsed] at hsome
    cases hsome
  | some address =>
    dsimp only
    split
    · next hpublic =>
      refine follows_stop (fun ht => ?_) (reported_tuya _)
      obtain ⟨a, hsome, hprivate⟩ := haddress.mp ht
      rw [hparsed] at hsome
      cases hsome
      rw [hpublic] at hprivate
      cases hprivate
    · next hprivate =>
      refine .pass (haddress.mpr ⟨address, hparsed, by simpa using hprivate⟩) ?_
      exact follows_dite (textCheck_iff hid) (reported_tuya _) fun _ => (follows_deviceLink h).last _

theorem follows_deviceOfEnv {tuyaRaw : JsonObj} {deviceId : String}
    (hid : setting env "OPENHDO_TUYA_DEVICE_ID" tuyaRaw "device_id" .null = .str deviceId) :
    Follows Reported (deviceOfEnv P env tuyaRaw deviceId) (deviceReadings P env tuyaRaw) := by
  unfold deviceOfEnv deviceReadings
  refine (follows_tuyaMapping env tuyaRaw).bind fun mapping _ => ?_
  refine (follows_requiredText ..).cons fun ip hip => ?_
  refine (follows_requiredText ..).cons fun localKey hkey => ?_
  refine (follows_requiredText ..).cons fun protocolVersion hprotocol => ?_
  refine (follows_linkSettings ..).bind fun settings hsettings => ?_
  exact follows_deviceConfig P (requiredString_ok hip) hid (linkSettings_ok (requiredString_ok hkey)
    (requiredString_ok hprotocol) hsettings) mapping

theorem follows_linkerConfig {vid vversion vname vinitial vlongest : Json}
    {id version name : Option String} {initial longest : PyFloat} (hid : vid = textJson id)
    (hversion : vversion = textJson version) (hname : vname = textJson name)
    (hinitial : floatOf P vinitial = .ok initial) (hlongest : floatOf P vlongest = .ok longest) :
    Follows Reported (linkerConfig id version name "wifi" defaultDiscovery initial longest)
      [matchedReading isIdentifier vid, matchedReading isSemver vversion, nameCheck vname,
        .check (∃ x y, floatOf P vinitial = .ok x ∧ floatOf P vlongest = .ok y ∧
          x.le (.finite 0) = false ∧ y.lt x = false)] := by
  unfold linkerConfig
  refine (follows_fullmatch hid).cons fun id _ => ?_
  refine (follows_fullmatch hversion).cons fun version _ => ?_
  refine (follows_boundedName (reported_value _) hname).cons fun name _ => ?_
  have htransport : fullmatch isIdentifier "transport must be a lowercase identifier" (some "wifi") =
      .ok ⟨"wifi", by decide⟩ := rfl
  rw [htransport]
  have hdelays : (∃ x y, floatOf P vinitial = .ok x ∧ floatOf P vlongest = .ok y ∧
      x.le (.finite 0) = false ∧ y.lt x = false) ↔
        initial.le (.finite 0) = false ∧ longest.lt initial = false := by
    rw [hinitial, hlongest]
    simp
  exact follows_dite hdelays (reported_value _) fun _ => follows_ok _

/-- The mode does not decide whether `discovery_enabled` is a boolean. -/
theorem isBoolean_default (envName : String) (raw : JsonObj) (key : String) (b : Bool) :
    isBoolean (setting env envName raw key (.bool b)) =
      isBoolean (setting env envName raw key (.bool false)) := by
  unfold setting
  cases env envName with
  | some text => rfl
  | none => cases raw.lookup key <;> rfl

theorem follows_commonSettings (raw : JsonObj) :
    Follows Reported (commonSettings P env raw) (commonReadings P env raw) := by
  unfold commonSettings commonReadings
  refine (follows_section ..).cons fun linkerRaw hlinker => ?_
  refine (follows_section ..).cons fun serverRaw hserver => ?_
  refine (follows_section ..).cons fun tuyaRaw htuya => ?_
  obtain rfl : linkerRaw = linkerSection raw := sectionOf_ok hlinker
  obtain rfl := sectionOf_ok hserver
  obtain rfl : tuyaRaw = tuyaSection raw := sectionOf_ok htuya
  refine (follows_requiredText ..).cons fun server _ => ?_
  refine (follows_text ..).cons fun token _ => ?_
  refine (follows_text ..).cons fun id hid => ?_
  refine (follows_text ..).cons fun version hversion => ?_
  refine (follows_text ..).cons fun name hname => ?_
  refine (follows_boolean ..).cons fun discoveryOnly _ => ?_
  have henabled := follows_boolean env "OPENHDO_TUYA_DISCOVERY_ENABLED" (tuyaSection raw)
    "discovery_enabled" discoveryOnly
  unfold booleanReading at henabled ⊢
  rw [isBoolean_default] at henabled
  refine henabled.cons fun discoveryEnabled _ => ?_
  refine (follows_float ..).cons fun initial hinitial => ?_
  refine (follows_float ..).cons fun longest hlongest => ?_
  exact (follows_linkerConfig P (stringSetting_ok hid) (stringSetting_ok hversion)
    (stringSetting_ok hname) hinitial hlongest).last _

theorem follows_timeoutSettings (raw : JsonObj) :
    Follows Reported (timeoutSettings P env raw) (timeoutReadings P env raw) := by
  unfold timeoutSettings
  exact (follows_float ..).cons fun poll _ => (follows_float ..).last _

theorem follows_pairingStatePath (tuyaRaw : JsonObj) :
    Follows Reported (pairingStatePath env tuyaRaw) [pathReading env tuyaRaw] :=
  (follows_text ..).last _

/-! ### Both modes -/

variable {P}

/-- The checks of `RuntimeConfig` are reported; `urlparse` raises a `ValueError` itself. -/
theorem runtimeConfig_reported (hurl : ∀ url, Raises (fun e => e.isA .ValueError = true) (P.urlparse url))
    (a : RuntimeSettings) : Raises Reported (runtimeConfig P a) := by
  unfold runtimeConfig
  refine raises_bind ?_ fun _ _ => ?_
  · unfold checkServer
    refine raises_bind ((hurl _).mono fun e he => reported_of_valueError he) fun parsed _ => ?_
    dsimp only
    split
    · exact raises_error (reported_config _)
    · split
      · exact raises_error (reported_config _)
      · split
        · exact raises_error (reported_config _)
        · split
          · exact raises_error (reported_config _)
          · exact raises_ok ()
  · split
    · exact raises_error (reported_config _)
    · split
      · exact raises_error (reported_config _)
      · split
        · exact raises_error (reported_config _)
        · split
          · exact raises_ok _
          · exact raises_error (reported_config _)

variable {env}

theorem discoveryMode_reported (hurl : ∀ url, Raises (fun e => e.isA .ValueError = true) (P.urlparse url))
    (raw : JsonObj) (c : CommonSettings) : Raises Reported (discoveryMode P env raw c) ↔
      Orderly (discoveryReadings P env raw c.tuyaRaw) := by
  unfold discoveryMode discoveryReadings
  refine (follows_pairingConfig ..).raises_bind fun pairing _ => ?_
  refine (follows_pairingStatePath ..).raises_bind fun path _ => ?_
  exact (follows_timeoutSettings ..).raises_then fun timeouts => runtimeConfig_reported hurl _

theorem deviceMode_reported (hurl : ∀ url, Raises (fun e => e.isA .ValueError = true) (P.urlparse url))
    (raw : JsonObj) (c : CommonSettings) : Raises Reported (deviceMode P env raw c) ↔
      Orderly (lightReadings P env raw c.tuyaRaw) := by
  unfold deviceMode lightReadings
  refine (follows_text ..).raises_bind fun lightId _ => ?_
  refine (follows_requiredText ..).raises_bind fun deviceId hid => ?_
  refine (follows_deviceOfEnv P env (requiredString_ok hid)).raises_bind fun device _ => ?_
  refine (follows_timeoutSettings ..).raises_bind fun timeouts _ => ?_
  exact (follows_pairingStatePath ..).raises_then fun path => runtimeConfig_reported hurl _

theorem fromRaw_reported (hurl : ∀ url, Raises (fun e => e.isA .ValueError = true) (P.urlparse url))
    (raw : JsonObj) : Raises Reported (fromRaw P env raw) ↔ Orderly (readings P env raw) := by
  unfold fromRaw readings
  refine (follows_commonSettings ..).raises_bind fun c hc => ?_
  obtain ⟨htuya, hmode, -⟩ := commonSettings_ok hc
  have hdiscovery : isDiscoveryOnly env raw = c.discoveryOnly := by
    unfold isDiscoveryOnly
    rw [hmode]
  rw [hdiscovery, ← htuya]
  cases c.discoveryOnly with
  | true => exact discoveryMode_reported hurl raw c
  | false => exact deviceMode_reported hurl raw c

end Modes

/-! ## Main result -/

/-- **Bad configuration is reported, not crashed on**, exactly when no setting `from_env` reads, up
to the first that fails as `main` expects, is one its reader does not expect: a `null` linker id or
version, a time that `float()` takes for no number or overflows at, an infinite integer. -/
theorem fromEnv_reported_iff (P : StartLib) (env : Env) (configPath : Option String) {raw : JsonObj}
    (hraw : configFile P env configPath = .ok raw)
    (hurl : ∀ url, Raises (fun e => e.isA .ValueError = true) (P.urlparse url)) :
    Raises Reported (fromEnv P env configPath) ↔ Orderly (readings P env raw) := by
  unfold fromEnv
  rw [hraw]
  exact fromRaw_reported hurl raw

/-- A config file with a `null` id. -/
def nullId : JsonObj := [("server", .str "ws://localhost:8000"), ("linker", .obj [("id", .null)])]

/-- `"linker": {"id": null}` is a `TypeError`, which `main` does not report. -/
theorem null_id_crashes : ∃ e,
    fromEnv (Timings.localLib nullId) (fun _ => none) (some "linker.json") = .error e ∧
    ¬ Reported e :=
  ⟨_, rfl, not_reported_type _⟩

/-- A config file with a server that is no text, before a poll interval that is no number. -/
def numberServer : JsonObj := [("server", .int 5), ("state_poll_interval_s", .null)]

/-- A server that is no text is reported, whatever else is wrong. -/
theorem number_server_reported : Raises Reported
    (fromEnv (Timings.localLib numberServer) (fun _ => none) (some "linker.json")) := by
  refine (fromEnv_reported_iff (Timings.localLib numberServer) (fun _ => none) (some "linker.json")
    rfl (fun _ => raises_ok _)).mpr ?_
  refine ⟨not_false, fun _ => ⟨not_false, fun _ => ⟨not_false, fun _ => ⟨not_false, ?_⟩⟩⟩⟩
  rintro ⟨s, hs, -⟩
  cases hs

end Linker.BadConfig
