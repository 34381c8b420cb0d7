import OpenHdoLinker.Tuya.ColorText

/-!
# Which data points a state can be made of

`state_from_dps` raises `TuyaProtocolError` for data points it cannot map.  A colour out of gamut is
a `ValueError` of `Rgb`, outside the `try` of `decode_color`, and `int` of an infinity or NaN is an
error of its own.

    MapsOrRefuses (stateFromDps id dps m) ↔ ¬ Escapes m dps      (stateFromDps_maps_iff)
-/

namespace Linker

open Py

/-! ## Statement -/

/-- A state with its values in range, or the driver's own class of errors. -/
def MapsOrRefuses : Except PyErr LightState → Prop
  | .ok s => (∃ rgb ∈ s.rgb, rgb.r ≤ 255 ∧ rgb.g ≤ 255 ∧ rgb.b ≤ 255) ∧
      (∃ n ∈ s.brightness, 0 ≤ n ∧ n ≤ 255) ∧ ∀ w ∈ s.white, 0 ≤ w ∧ w ≤ 255
  | .error e => IsTuyaProtocolError e

/-- The colour is a text that is taken. -/
def ColorTaken (m : TuyaDpMapping) (color : Json) : Prop :=
  ∃ text, color = .str text ∧ Taken m.colorFormat text.toList

/-- Three literals that are no colour: the channels would leave the byte. -/
def NoColor (m : TuyaDpMapping) (color : Json) : Prop :=
  m.colorFormat = .hsvHex ∧ ∃ text hue saturation value, color = .str text ∧
    text.toList.length = 12 ∧ HexLiteral (sliceChars text.toList 0 4) hue ∧
    HexLiteral (sliceChars text.toList 4 8) saturation ∧
    HexLiteral (sliceChars text.toList 8 12) value ∧ ¬ InGamut saturation value

/-- A number, cut to an integer within the configured range. -/
def InRange (low high : Nat) (v : Json) : Prop :=
  ∃ n : Int, (v = .int n ∨ ∃ q, v = .float (.finite q) ∧ n = truncate q) ∧ (low : Int) ≤ n ∧ n ≤ high

/-- Power is a truth value, brightness and colour are reported, and then either the colour is three
literals that are none, or it is taken and the brightness is an infinity or NaN, or both are taken
and the white value is. -/
def Escapes (m : TuyaDpMapping) (dps : Dps) : Prop :=
  ∃ on brightness color, dps.get? m.power = some (.bool on) ∧
    dps.get? m.brightness = some brightness ∧ dps.get? m.color = some color ∧
    (NoColor m color ∨ ColorTaken m color ∧ (NotFinite brightness ∨
      InRange m.brightnessMin m.brightnessMax brightness ∧
        ∃ w v, m.white = some w ∧ dps.get? w.dp = some v ∧ NotFinite v))

/-! ## Lemmas -/

theorem decodeColor_ok_iff (m : TuyaDpMapping) (color : Json) :
    (∃ rgb, m.decodeColor color = .ok rgb) ↔ ColorTaken m color := by
  unfold ColorTaken
  constructor
  · rintro ⟨rgb, h⟩
    cases hs : color.str? with
    | none =>
      unfold TuyaDpMapping.decodeColor TuyaDpMapping.decodeColorIn at h
      rw [hs] at h
      cases h
    | some text =>
      rw [Json.str?_eq_some] at hs
      subst hs
      exact ⟨text, rfl, (decodeColor_taken_iff m text).mp ⟨rgb, h⟩⟩
  · rintro ⟨text, rfl, h⟩
    exact (decodeColor_taken_iff m text).mpr h

theorem noColor_iff (m : TuyaDpMapping) (color : Json) : NoColor m color ↔ OutOfGamut m color := by
  unfold NoColor OutOfGamut
  constructor
  · rintro ⟨hformat, text, hue, saturation, value, hcolor, hlen, hhue, hsat, hval, hgamut⟩
    rw [← wordChannels_inByte_iff hue] at hgamut
    exact ⟨hformat, text, hue, saturation, value, hcolor, hlen, (hexInt_iff _ _).mpr hhue,
      (hexInt_iff _ _).mpr hsat, (hexInt_iff _ _).mpr hval, _, _, _, rfl, hgamut⟩
  · rintro ⟨hformat, text, hue, saturation, value, hcolor, hlen, hhue, hsat, hval, red, green, blue,
      hrgb, hout⟩
    refine ⟨hformat, text, hue, saturation, value, hcolor, hlen, (hexInt_iff _ _).mp hhue,
      (hexInt_iff _ _).mp hsat, (hexInt_iff _ _).mp hval, ?_⟩
    rw [← wordChannels_inByte_iff hue, hrgb]
    exact hout

theorem numericDp_ok_iff (name : String) (v : Json) (n : Int) :
    numericDp name v = .ok n ↔ v = .int n ∨ ∃ q, v = .float (.finite q) ∧ n = truncate q := by
  constructor
  · intro h
    unfold numericDp at h
    split at h
    · cases h
      exact Or.inl rfl
    · next x =>
      cases x with
      | finite q =>
        cases h
        exact Or.inr ⟨q, rfl, rfl⟩
      | inf | negInf | nan => cases h
    · cases h
  · rintro (rfl | ⟨q, rfl, rfl⟩)
    · rfl
    · rfl

/-- A number is scaled exactly when it is in range. -/
theorem scaleFromDp_ok_iff (name : String) (low high : Nat) (v : Json) :
    (∃ k, scaleFromDp name low high v = .ok k) ↔ InRange low high v := by
  unfold scaleFromDp InRange
  constructor
  · rintro ⟨k, h⟩
    obtain ⟨n, hn, h⟩ := bind_eq_ok h
    refine ⟨n, (numericDp_ok_iff name v n).mp hn, ?_⟩
    by_contra hout
    rw [if_neg hout] at h
    cases h
  · rintro ⟨n, hn, hin⟩
    rw [(numericDp_ok_iff name v n).mpr hn]
    exact ⟨_, if_pos hin⟩

theorem escapes_iff (m : TuyaDpMapping) (dps : Dps) : Escapes m dps ↔ Unmappable m dps := by
  unfold Escapes Unmappable TuyaDpMapping.brightnessFromDp
  simp only [noColor_iff, ← decodeColor_ok_iff, ← scaleFromDp_ok_iff "brightness"]

/-- A state that is made has its values in range. -/
theorem stateFromDps_in_range {deviceId : String} {dps : Dps} {m : TuyaDpMapping} {s : LightState}
    (h : stateFromDps deviceId dps m = .ok s) : MapsOrRefuses (.ok s) := by
  obtain ⟨_, _, rgb, n, -, -, -, -, hn, -, hrgb, hbrightness, hwhite⟩ :=
    stateFromDps_ok deviceId dps m s h
  exact ⟨⟨rgb, hrgb, rgb.r_le, rgb.g_le, rgb.b_le⟩,
    ⟨n, hbrightness, scaleFromDp_range m.range_ok.1 hn⟩, whiteOfDps_range hwhite⟩

/-! ## Main result -/

/-- **`state_from_dps` makes a state or raises its own error exactly for data points that do not
escape it.** -/
theorem stateFromDps_maps_iff (m : TuyaDpMapping) (deviceId : String) (hid : deviceId ≠ "")
    (dps : Dps) : MapsOrRefuses (stateFromDps deviceId dps m) ↔ ¬ Escapes m dps := by
  rw [escapes_iff, ← stateFromDps_raises_iff hid]
  cases h : stateFromDps deviceId dps m with
  | ok s => exact ⟨fun _ => raises_ok s, fun _ => stateFromDps_in_range h⟩
  | error e =>
    constructor
    · intro he
      exact raises_error he
    · intro hraises
      exact hraises e rfl

/-! ### An infinite brightness -/

def infiniteDps : Dps :=
  ⟨[(1, .bool true), (2, .float .inf), (3, .str "ff0000")], by decide⟩

/-- `1e999` as the brightness is an `OverflowError`. -/
theorem infinite_brightness_escapes :
    stateFromDps "lamp" infiniteDps lampMapping =
        .error ⟨.OverflowError, "cannot convert float infinity to integer"⟩ ∧
      ¬ MapsOrRefuses (stateFromDps "lamp" infiniteDps lampMapping) := by
  have herror : stateFromDps "lamp" infiniteDps lampMapping =
      .error ⟨.OverflowError, "cannot convert float infinity to integer"⟩ := rfl
  refine ⟨herror, ?_⟩
  rw [herror]
  exact nofun

/-- The reply of an idle lamp is mapped. -/
theorem offDps_maps : MapsOrRefuses (stateFromDps "lamp" offDps lampMapping) := by
  refine (stateFromDps_maps_iff lampMapping "lamp" (by decide) offDps).mpr ?_
  rintro ⟨on, brightness, color, -, hbright, -, ⟨hformat, -⟩ | ⟨-, hnot | ⟨-, w, v, hw, -⟩⟩⟩
  · cases hformat
  · cases hbright
    rcases hnot with h | h | h <;> cases h
  · cases hw

end Linker
