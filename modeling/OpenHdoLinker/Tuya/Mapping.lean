import OpenHdoLinker.Tuya.Frame
import OpenHdoLinker.Models
import OpenHdoLinker.Lib.Colorsys
import OpenHdoLinker.Lib.Rounding
import OpenHdoLinker.Lib.PyDict

/-!
# Data points

`TuyaDpMapping` says which data point of a device carries power, brightness and
colour, and how.  `parseDps` reads the data points out of a reply, `stateFromDps`
maps them to the light state, and `dpValues` are the data points an operation
writes.

    stateFromDps id dps m = .ok s → s.toPayload light ≠ error     (stateFromDps_toPayload)
-/

namespace Linker

open Py

/-! ## The mapping -/

inductive ColorFormat
  | rgbHex
  | hsvHex
deriving DecidableEq, Repr

/-- The white channel of a mapping: `white`, `white_min` and `white_max`, set together. -/
structure WhiteDp where
  dp : Nat
  min : Nat
  max : Nat
  dp_ok : 1 ≤ dp ∧ dp ≤ 255
  range_ok : min < max ∧ max ≤ 65535
deriving DecidableEq

structure TuyaDpMapping where
  power : Nat
  brightness : Nat
  color : Nat
  colorFormat : ColorFormat
  brightnessMin : Nat
  brightnessMax : Nat
  white : Option WhiteDp
  power_ok : 1 ≤ power ∧ power ≤ 255
  brightness_ok : 1 ≤ brightness ∧ brightness ≤ 255
  color_ok : 1 ≤ color ∧ color ≤ 255
  distinct : [power, brightness, color].Nodup
  range_ok : brightnessMin < brightnessMax ∧ brightnessMax ≤ 65535
  white_ok : ∀ w ∈ white, w.dp ∉ [power, brightness, color]
deriving DecidableEq

/-- `_bounded_int(name, value, low, high)` on an integer. -/
def boundedInt (name : String) (value low high : Int) : Except PyErr Int :=
  if low ≤ value ∧ value ≤ high then .ok value
  else .error (tuyaConfigurationError s!"{name} must be an integer from {low} to {high}")

/-- `min + (value * span + 127) // 255`, for brightness and white alike. -/
def scaleToDp (name : String) (low high : Nat) (value : Int) : Except PyErr Int := do
  let value ← boundedInt name value 0 255
  .ok (low + (value * (high - low) + 127) / 255)

/-- `isinstance(value, (int, float))` without `bool`, then `int(value)`. -/
def numericDp (name : String) : Json → Except PyErr Int
  | .int n => .ok n
  | .float x => x.toInt
  | _ => .error (tuyaProtocolError s!"{name} DP is not numeric")

/-- `round((numeric - min) * 255 / (max - min))`, for brightness and white alike. -/
def scaleFromDp (name : String) (low high : Nat) (value : Json) : Except PyErr Int := do
  let numeric ← numericDp name value
  if (low : Int) ≤ numeric ∧ numeric ≤ high then
    .ok (roundHalfEven (((numeric - low) * 255 : Int) / ((high - low : Int) : ℚ)))
  else .error (tuyaProtocolError s!"{name} DP is outside configured range")

/-- `int(text, 16)`, with the `ValueError` of malformed text. -/
def hexInt (cs : List Char) : Except PyErr Int :=
  match parseInt 16 (String.ofList cs) with
  | some n => .ok n
  | none => .error (valueError "invalid literal for int() with base 16")

/-- `except ValueError: raise TuyaProtocolError(text)`. -/
def valueErrorAs {α : Type} (text : String) (r : Except PyErr α) : Except PyErr α :=
  match r with
  | .ok a => .ok a
  | .error e => if e.isA .ValueError then .error (tuyaProtocolError text) else .error e

/-- `value[start:stop]`. -/
def sliceChars (cs : List Char) (start stop : Nat) : List Char := (cs.take stop).drop start

namespace TuyaDpMapping

variable (m : TuyaDpMapping)

def brightnessToDp (value : Int) : Except PyErr Int :=
  scaleToDp "brightness" m.brightnessMin m.brightnessMax value

def brightnessFromDp (value : Json) : Except PyErr Int :=
  scaleFromDp "brightness" m.brightnessMin m.brightnessMax value

/-- `_white_dp()` and `white_to_dp(value)` need a white channel. -/
def whiteChannel : Except PyErr WhiteDp :=
  match m.white with
  | some w => .ok w
  | none => .error (tuyaConfigurationError "white channel is not configured for this device")

def whiteToDp (value : Int) : Except PyErr Int :=
  match m.white with
  | some w => scaleToDp "white" w.min w.max value
  | none => .error (tuyaConfigurationError "white DP is not configured")

def whiteFromDp (value : Json) : Except PyErr Int :=
  match m.white with
  | some w => scaleFromDp "white" w.min w.max value
  | none => .error (tuyaConfigurationError "white DP is not configured")

/-- `encode_color(rgb)`, the results of float operations rounded by `fl`. -/
def encodeColorIn (fl : ℚ → ℚ) (rgb : Rgb) : String :=
  match m.colorFormat with
  | .rgbHex => hexPad 2 rgb.r ++ hexPad 2 rgb.g ++ hexPad 2 rgb.b
  | .hsvHex =>
    let (hue, saturation, value) := rgbToHsv fl (fl (rgb.r / 255)) (fl (rgb.g / 255)) (fl (rgb.b / 255))
    hexPad 4 (roundHalfEven (fl (hue * 360))).toNat ++
      hexPad 4 (roundHalfEven (fl (saturation * 1000))).toNat ++
      hexPad 4 (roundHalfEven (fl (value * 1000))).toNat

def encodeColor (rgb : Rgb) : String := m.encodeColorIn binary64 rgb

/-- The `rgb_hex` branch of `decode_color`. -/
def decodeRgbHex (cs : List Char) : Except PyErr Rgb :=
  if cs.length ≠ 6 ∧ cs.length ≠ 8 then
    .error (tuyaProtocolError "rgb_hex color DP must contain 6 or 8 hex digits")
  else valueErrorAs "rgb_hex color DP contains invalid hex" do
    let r ← hexInt (sliceChars cs 0 2)
    let g ← hexInt (sliceChars cs 2 4)
    let b ← hexInt (sliceChars cs 4 6)
    Rgb.init (.int r) (.int g) (.int b)

/-- The `hsv_hex` branch of `decode_color`.  The colour is built outside the `try`. -/
def decodeHsvHex (fl : ℚ → ℚ) (cs : List Char) : Except PyErr Rgb :=
  if cs.length ≠ 12 then .error (tuyaProtocolError "hsv_hex color DP must contain 12 hex digits")
  else do
    let (hue, saturation, brightness) ← valueErrorAs "hsv_hex color DP contains invalid hex" do
      let hue ← hexInt (sliceChars cs 0 4)
      let saturation ← hexInt (sliceChars cs 4 8)
      let brightness ← hexInt (sliceChars cs 8 12)
      .ok (fl ((hue : ℚ) / 360), fl ((saturation : ℚ) / 1000), fl ((brightness : ℚ) / 1000))
    let (red, green, blue) := hsvToRgb fl (fl (Int.fract hue)) saturation brightness
    Rgb.init (.int (roundHalfEven (fl (red * 255)))) (.int (roundHalfEven (fl (green * 255))))
      (.int (roundHalfEven (fl (blue * 255))))

/-- `decode_color(value)`, the results of float operations rounded by `fl`. -/
def decodeColorIn (fl : ℚ → ℚ) (value : Json) : Except PyErr Rgb :=
  match value.str? with
  | none => .error (tuyaProtocolError "color DP must be a hexadecimal string")
  | some text =>
    match m.colorFormat with
    | .rgbHex => decodeRgbHex text.toList
    | .hsvHex => decodeHsvHex fl text.toList

def decodeColor (value : Json) : Except PyErr Rgb := m.decodeColorIn binary64 value

end TuyaDpMapping

/-! ## Data points of a reply -/

abbrev Dps : Type := Dict Nat Json

/-- `except (UnicodeDecodeError, json.JSONDecodeError)`. -/
def payloadJsonErrors : List ExcClass := [.UnicodeDecodeError, .JSONDecodeError]

/-- `index = int(raw_index)`, within 1 to 255. -/
def dpIndex (rawIndex : String) : Except PyErr Nat :=
  match parseInt 10 rawIndex with
  | none => .error (tuyaProtocolError "Tuya DP index must be an integer")
  | some n =>
    if 1 ≤ n ∧ n ≤ 255 then .ok n.toNat
    else .error (tuyaProtocolError "Tuya DP index is outside the supported range")

/-- The indexed data points of a parsed reply: `dps`, or `data.dps`. -/
def dpsOfValue (value : Json) : Except PyErr Dps :=
  match value.obj? with
  | none => .error (tuyaProtocolError "Tuya payload must be an object")
  | some d =>
    let direct := getItem d "dps"
    let dps := match direct, (getItem d "data").obj? with
      | .null, some data => getItem data "dps"
      | direct, _ => direct
    match dps.obj? with
    | none => .error (tuyaProtocolError "Tuya payload does not contain indexed dps")
    | some items =>
      items.foldlM (fun result (p : String × Json) => do
        let index ← dpIndex p.1
        .ok (result.set index p.2)) Dict.empty

/-- `parse_dps(payload)` of bytes. -/
def parseDps (J : JsonLib) (payload : Bytes) : Except PyErr Dps :=
  match J.loads payload with
  | .ok value => dpsOfValue value
  | .error e =>
    if e.isAny payloadJsonErrors then .error (tuyaProtocolError "Tuya payload is not valid JSON")
    else .error e

/-- The white value of a reply, where one is configured and reported. -/
def whiteOfDps (dps : Dps) (m : TuyaDpMapping) : Except PyErr (Option Int) :=
  match m.white with
  | none => .ok none
  | some w =>
    match dps.get? w.dp with
    | none => .ok none
    | some v => some <$> m.whiteFromDp v

/-- `state_from_dps(device_id, dps, mapping)`. -/
def stateFromDps (deviceId : String) (dps : Dps) (m : TuyaDpMapping) : Except PyErr LightState :=
  match dps.get? m.power with
  | none => .error (tuyaProtocolError "configured power DP is absent")
  | some power =>
    match power.bool? with
    | none => .error (tuyaProtocolError "configured power DP is not boolean")
    | some on =>
      match dps.get? m.brightness, dps.get? m.color with
      | some brightness, some color => do
        let rgb ← m.decodeColor color
        let brightness ← m.brightnessFromDp brightness
        let white ← whiteOfDps dps m
        LightState.init deviceId true on (some rgb) (some brightness) white 0
      | _, _ => .error (tuyaProtocolError "configured brightness and color DPs are absent")

/-! ## Lemmas -/

/-- The low end of a range reads as 0. -/
theorem scaleFromDp_low (name : String) (low high : Nat) (h : low ≤ high) :
    scaleFromDp name low high (.int low) = .ok 0 := by
  show (if (low : Int) ≤ low ∧ (low : Int) ≤ high then
    Except.ok (roundHalfEven ((((low : Int) - low) * 255 : Int) / ((high - low : Int) : ℚ)))
    else Except.error _) = _
  rw [if_pos ⟨le_refl _, by omega⟩, sub_self, zero_mul, Int.cast_zero, zero_div]
  have h0 := roundHalfEven_intCast 0
  rw [Int.cast_zero] at h0
  rw [h0]

/-- The quotient of `scaleFromDp` may be a float: it rounds to the same value. -/
theorem scaled_float {low high : Nat} (hlt : low < high) (hhigh : high ≤ 65535) {numeric : Int}
    (hin : (low : Int) ≤ numeric ∧ numeric ≤ high) :
    roundHalfEven (binary64 (((numeric - low) * 255 : Int) / ((high - low : Int) : ℚ))) =
      roundHalfEven (((numeric - low) * 255 : Int) / ((high - low : Int) : ℚ)) := by
  refine roundHalfEven_binary64_div (by omega) (by omega) ?_
  rw [abs_lt]
  omega

/-- A value read from a data point is a byte. -/
theorem scaleFromDp_range {name : String} {low high : Nat} {v : Json} {n : Int} (hlt : low < high)
    (h : scaleFromDp name low high v = .ok n) : 0 ≤ n ∧ n ≤ 255 := by
  unfold scaleFromDp at h
  obtain ⟨numeric, -, h⟩ := bind_eq_ok h
  split at h
  · next hin =>
    cases h
    have hspan : (0 : ℚ) < ((high - low : Int) : ℚ) := by
      have : (0 : Int) < high - low := by omega
      exact_mod_cast this
    refine roundHalfEven_bounds _ 0 255 ?_ ?_
    · rw [Int.cast_zero]
      refine div_nonneg ?_ hspan.le
      exact_mod_cast Int.mul_nonneg (by omega) (by omega)
    · rw [div_le_iff₀ hspan]
      have : (numeric - low) * 255 ≤ 255 * (high - low) := by omega
      exact_mod_cast this
  · cases h

/-- Values in range make a state. -/
theorem lightState_init_ok {deviceId : String} (hid : deviceId ≠ "") (on : Bool) (rgb : Rgb) {n : Int}
    (hn : 0 ≤ n ∧ n ≤ 255) {white : Option Int} (hwhite : ∀ w ∈ white, 0 ≤ w ∧ w ≤ 255) :
    ∃ s, LightState.init deviceId true on (some rgb) (some n) white 0 = .ok s := by
  have hb : ∀ b ∈ some n, 0 ≤ b ∧ b ≤ 255 := by
    intro b hb
    cases hb
    exact hn
  unfold LightState.init
  rw [dif_pos hid, dif_pos hb, dif_pos hwhite, dif_pos (le_refl _)]
  exact ⟨_, rfl⟩

theorem whiteOfDps_range {dps : Dps} {m : TuyaDpMapping} {white : Option Int}
    (h : whiteOfDps dps m = .ok white) : ∀ w ∈ white, 0 ≤ w ∧ w ≤ 255 := by
  unfold whiteOfDps at h
  split at h
  · cases h
    exact nofun
  · next w hw =>
    split at h
    · cases h
      exact nofun
    · next v _ =>
      have hscale : m.whiteFromDp v = scaleFromDp "white" w.min w.max v := by
        unfold TuyaDpMapping.whiteFromDp
        rw [hw]
      rw [hscale] at h
      cases hv : scaleFromDp "white" w.min w.max v with
      | ok n =>
        rw [hv] at h
        cases h
        intro b hb
        cases hb
        exact scaleFromDp_range w.range_ok.1 hv
      | error e =>
        rw [hv] at h
        cases h

/-- What a mapped state holds, and which data points it was read from. -/
theorem stateFromDps_ok (deviceId : String) (dps : Dps) (m : TuyaDpMapping) (s : LightState)
    (h : stateFromDps deviceId dps m = .ok s) :
    ∃ brightness color rgb n, dps.get? m.power = some (.bool s.on) ∧
      dps.get? m.brightness = some brightness ∧ dps.get? m.color = some color ∧
      m.decodeColor color = .ok rgb ∧ m.brightnessFromDp brightness = .ok n ∧
      s.deviceId = deviceId ∧ s.rgb = some rgb ∧ s.brightness = some n ∧
      whiteOfDps dps m = .ok s.white := by
  unfold stateFromDps at h
  split at h
  · cases h
  · next power hpower =>
    split at h
    · cases h
    · next on hon =>
      rw [Json.bool?_eq_some] at hon
      split at h
      · next brightness color hb hc =>
        obtain ⟨rgb, hrgb, h⟩ := bind_eq_ok h
        obtain ⟨n, hn, h⟩ := bind_eq_ok h
        obtain ⟨white, hwhite, h⟩ := bind_eq_ok h
        obtain ⟨hid, hson, hsrgb, hsb, hsw, -⟩ := LightState.init_eq_ok _ _ _ _ _ _ _ _ h
        refine ⟨brightness, color, rgb, n, ?_, hb, hc, hrgb, hn, hid, hsrgb, hsb, ?_⟩
        · rw [hson, hpower, hon]
        · rw [hsw, hwhite]
      · cases h

theorem stateFromDps_deviceId {deviceId : String} {dps : Dps} {m : TuyaDpMapping} {s : LightState}
    (h : stateFromDps deviceId dps m = .ok s) : s.deviceId = deviceId := by
  obtain ⟨-, -, -, -, -, -, -, -, -, hid, -⟩ := stateFromDps_ok deviceId dps m s h
  exact hid

/-- A mapped state can always be reported. -/
theorem stateFromDps_toPayload (deviceId : String) (dps : Dps) (m : TuyaDpMapping) (s : LightState)
    (h : stateFromDps deviceId dps m = .ok s) (light : Option String) (revision : Nat) :
    ∃ p, (s.withRevision revision).toPayload light = .ok p := by
  obtain ⟨-, -, rgb, n, -, -, -, -, -, -, hrgb, hn, -⟩ := stateFromDps_ok deviceId dps m s h
  unfold LightState.toPayload LightState.withRevision
  simp only [hrgb, hn]
  exact ⟨_, rfl⟩

end Linker
