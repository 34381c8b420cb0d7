import OpenHdoLinker.Tuya.Confirmed

/-!
# The data points as a light

A light has power, a colour, a brightness and perhaps a white channel; an operation
of the driver replaces the fields it names.  The data points of a device are a
refinement of it: writing what an operation sends and mapping the store again
does to the state what the operation does to the light.

    stateFromDps store = s → stateFromDps (store + values of op) = op applied to s
                                                            (mapping_implements_light)
-/

namespace Linker

open Py

/-! ## The abstract light -/

structure Light where
  power : Bool
  rgb : Option Rgb
  brightness : Option Int
  white : Option Int

inductive LightOp
  | turnOn (rgb : Option Rgb) (brightness white : Option Int)
  | turnOff
  | setBrightness (value : Int)
  | setRgb (rgb : Rgb)
  | setWhite (value : Int)

namespace LightOp

/-- What the operation asks of the light. -/
def apply : LightOp → Light → Light
  | turnOn rgb brightness white, l =>
    ⟨true, rgb.or l.rgb, brightness.or l.brightness, white.or l.white⟩
  | turnOff, l => { l with power := false }
  | setBrightness n, l => { l with brightness := some n }
  | setRgb c, l => { l with rgb := some c }
  | setWhite n, l => { l with white := some n }

def InRange : LightOp → Prop
  | turnOn _ brightness white =>
    (∀ n ∈ brightness, 0 ≤ n ∧ n ≤ 255) ∧ ∀ n ∈ white, 0 ≤ n ∧ n ≤ 255
  | setBrightness n => 0 ≤ n ∧ n ≤ 255
  | setWhite n => 0 ≤ n ∧ n ≤ 255
  | _ => True

def wantsWhite : LightOp → Bool
  | turnOn _ _ white => white.isSome
  | setWhite _ => true
  | _ => false

end LightOp

/-- The light a state stands for. -/
def LightState.light (s : LightState) : Light := ⟨s.on, s.rgb, s.brightness, s.white⟩

/-! ## Algorithm -/

/-- The data points `set_white` writes. -/
def setWhiteValues (m : TuyaDpMapping) (white : Int) : Except PyErr (List (Nat × Json)) := do
  let w ← m.whiteChannel
  (fun v => [(w.dp, Json.int v)]) <$> m.whiteToDp white

section Algorithm

variable (J : JsonLib) (o : WriteOutcomes) (deviceId : Option String)

def setWhite (white : Int) : PyM TuyaState LightState :=
  writeCommand J o deviceId fun m => setWhiteValues m white

/-- The call of the driver for an operation. -/
def driverCall : LightOp → PyM TuyaState LightState
  | .turnOn rgb brightness white => turnOn J o deviceId rgb brightness white
  | .turnOff => turnOff J o deviceId
  | .setBrightness n => setBrightness J o deviceId n
  | .setRgb c => setRgb J o deviceId c
  | .setWhite n => setWhite J o deviceId n

end Algorithm

/-- The data points an operation writes. -/
def opValues (m : TuyaDpMapping) : LightOp → Except PyErr (List (Nat × Json))
  | .turnOn rgb brightness white => turnOnValues m rgb brightness white
  | .turnOff => .ok [(m.power, .bool false)]
  | .setBrightness n => (fun v => [(m.brightness, Json.int v)]) <$> m.brightnessToDp n
  | .setRgb c => .ok [(m.color, .str (m.encodeColor c))]
  | .setWhite n => setWhiteValues m n

/-! ## Statement -/

/-- The spans of a mapping are wide enough for the 256 values of a byte. -/
structure TuyaDpMapping.WideSpans (m : TuyaDpMapping) : Prop where
  brightness : 255 ≤ m.brightnessMax - m.brightnessMin
  white : ∀ w ∈ m.white, 255 ≤ w.max - w.min

/-- The first request of the call writes these values. -/
def Sends (J : JsonLib) (o : WriteOutcomes) (t : TuyaState) (d : TuyaDeviceConfig) (op : LightOp)
    (values : List (Nat × Json)) : Prop :=
  ∃ rest, (driverCall J o (some d.deviceId) op t).2.requests =
    t.requests ++ (controlCommand d.link.protocolVersion, controlBody d o.now values) :: rest

/-- Writing the values does to the mapped state what the operation does to the light. -/
def Implements (m : TuyaDpMapping) (op : LightOp) (values : List (Nat × Json)) : Prop :=
  ∀ deviceId dps s, stateFromDps deviceId dps m = .ok s →
    ∃ s', stateFromDps deviceId (dps.setAll values) m = .ok s' ∧ s'.light = op.apply s.light

/-! ## Lemmas -/

/-! ### Scales and colours -/

/-- **A byte survives a wide scale.** -/
theorem scaleFromDp_toDp (name : String) {low high : Nat} {value : Int} (hspan : 255 ≤ high - low)
    (hvalue : 0 ≤ value ∧ value ≤ 255) :
    ∃ w, scaleToDp name low high value = .ok w ∧ scaleFromDp name low high (.int w) = .ok value := by
  refine ⟨low + (value * (high - low) + 127) / 255, ?_, ?_⟩
  · show (boundedInt name value 0 255 >>= _) = _
    unfold boundedInt
    rw [if_pos hvalue]
    rfl
  · obtain ⟨span, hs⟩ : ∃ span : Int, span = high - low := ⟨_, rfl⟩
    have hs255 : 255 ≤ span := by omega
    generalize hq : (value * (high - low) + 127) / 255 = q
    rw [← hs] at hq
    have hprod₀ : 0 ≤ value * span := Int.mul_nonneg hvalue.1 (by omega)
    have hprod₁ : value * span ≤ 255 * span := Int.mul_le_mul_of_nonneg_right hvalue.2 (by omega)
    have hq₀ : 0 ≤ q := by omega
    have hq₁ : q ≤ span := by omega
    show (if (low : Int) ≤ low + q ∧ low + q ≤ high then Except.ok
      (roundHalfEven (((low + q - low) * 255 : Int) / ((high - low : Int) : ℚ))) else Except.error _) = _
    rw [if_pos ⟨by omega, by omega⟩, add_sub_cancel_left, ← hs]
    congr 1
    refine roundHalfEven_eq _ _ ?_
    have hspan₀ : (0 : ℚ) < span := by exact_mod_cast (show (0 : Int) < span by omega)
    have hspan₁ : (255 : ℚ) ≤ span := by exact_mod_cast hs255
    have hlow : (-127 : ℚ) ≤ ((q * 255 : Int) : ℚ) - value * span := by
      have : -127 ≤ q * 255 - value * span := by omega
      exact_mod_cast this
    have hhigh : ((q * 255 : Int) : ℚ) - value * span ≤ 127 := by
      have : q * 255 - value * span ≤ 127 := by omega
      exact_mod_cast this
    have heq : ((q * 255 : Int) : ℚ) / span - value = (((q * 255 : Int) : ℚ) - value * span) / span := by
      field_simp
    rw [heq, abs_lt, lt_div_iff₀ hspan₀, div_lt_iff₀ hspan₀]
    constructor
    · linarith
    · linarith

theorem hexInt_hexDigits (n : Nat) : hexInt (hexDigits 2 n) = .ok n := by
  unfold hexInt
  rw [show parseInt 16 (String.ofList (hexDigits 2 n)) = some (n : Int) from parseInt_hexPad 2 n]

/-- **A colour survives its six digits.** -/
theorem decodeColor_encode (m : TuyaDpMapping) (hformat : m.colorFormat = .rgbHex) (c : Rgb) :
    m.decodeColor (.str (m.encodeColor c)) = .ok c := by
  have hlen : ∀ n, n ≤ 255 → (hexDigits 2 n).length = 2 := fun n hn =>
    length_hexDigits (by decide) (by omega)
  have hr := hlen c.r c.r_le
  have hg := hlen c.g c.g_le
  have hb := hlen c.b c.b_le
  have htext : (m.encodeColor c).toList = hexDigits 2 c.r ++ (hexDigits 2 c.g ++ hexDigits 2 c.b) := by
    unfold TuyaDpMapping.encodeColor TuyaDpMapping.encodeColorIn
    rw [hformat]
    simp [hexPad]
  have hred : sliceChars (hexDigits 2 c.r ++ (hexDigits 2 c.g ++ hexDigits 2 c.b)) 0 2 =
      hexDigits 2 c.r := List.take_left' hr
  have hgreen : sliceChars (hexDigits 2 c.r ++ (hexDigits 2 c.g ++ hexDigits 2 c.b)) 2 4 =
      hexDigits 2 c.g := by
    unfold sliceChars
    rw [← List.append_assoc, List.take_left' (by rw [List.length_append, hr, hg]), List.drop_left' hr]
  have hblue : sliceChars (hexDigits 2 c.r ++ (hexDigits 2 c.g ++ hexDigits 2 c.b)) 4 6 =
      hexDigits 2 c.b := by
    unfold sliceChars
    rw [List.take_of_length_le (by simp only [List.length_append, hr, hg, hb]; omega),
      ← List.append_assoc, List.drop_left' (by rw [List.length_append, hr, hg])]
  unfold TuyaDpMapping.decodeColor TuyaDpMapping.decodeColorIn
  dsimp only [Json.str?]
  rw [hformat, htext]
  show TuyaDpMapping.decodeRgbHex _ = _
  unfold TuyaDpMapping.decodeRgbHex
  rw [if_neg (by simp only [List.length_append, hr, hg, hb]; omega), hred, hgreen, hblue,
    hexInt_hexDigits, hexInt_hexDigits, hexInt_hexDigits]
  show valueErrorAs _ (Rgb.init (.int c.r) (.int c.g) (.int c.b)) = _
  rw [Rgb.init_ofNat _ _ _ c.r_le c.g_le c.b_le]
  rfl

/-! ### What a store shows -/

/-- The mapped data points of the store show this light. -/
structure Shows (m : TuyaDpMapping) (dps : Dps) (l : Light) : Prop where
  power : dps.get? m.power = some (.bool l.power)
  rgb : ∃ v c, dps.get? m.color = some v ∧ m.decodeColor v = .ok c ∧ l.rgb = some c
  brightness : ∃ v n, dps.get? m.brightness = some v ∧ m.brightnessFromDp v = .ok n ∧
    l.brightness = some n
  white : whiteOfDps dps m = .ok l.white

theorem shows_of_state {deviceId : String} {dps : Dps} {m : TuyaDpMapping} {s : LightState}
    (h : stateFromDps deviceId dps m = .ok s) : Shows m dps s.light := by
  obtain ⟨brightness, color, rgb, n, hpower, hbright, hcolor, hrgb, hn, -, hsrgb, hsb, hwhite⟩ :=
    stateFromDps_ok deviceId dps m s h
  exact ⟨hpower, ⟨color, rgb, hcolor, hrgb, hsrgb⟩, ⟨brightness, n, hbright, hn, hsb⟩, hwhite⟩

/-- A store that shows a light maps to a state of it. -/
theorem state_of_shows {deviceId : String} (hid : deviceId ≠ "") {dps : Dps} {m : TuyaDpMapping}
    {l : Light} (h : Shows m dps l) : ∃ s, stateFromDps deviceId dps m = .ok s ∧ s.light = l := by
  obtain ⟨power, rgb, brightness, white⟩ := l
  obtain ⟨hpower, ⟨color, c, hcolor, hc, hrgb⟩, ⟨v, n, hbright, hn, hb⟩, hwhite⟩ := h
  dsimp only at hpower hrgb hb hwhite
  subst hrgb hb
  obtain ⟨s, hs⟩ := lightState_init_ok hid power c (scaleFromDp_range m.range_ok.1 hn)
    (whiteOfDps_range hwhite)
  refine ⟨s, ?_, ?_⟩
  · unfold stateFromDps
    rw [hpower]
    dsimp only [Json.bool?]
    rw [hbright, hcolor]
    show (m.decodeColor color >>= _) = _
    rw [hc]
    show (m.brightnessFromDp v >>= _) = _
    rw [hn]
    show (whiteOfDps dps m >>= _) = _
    rw [hwhite]
    exact hs
  · obtain ⟨-, hon, hsrgb, hsb, hsw, -⟩ := LightState.init_eq_ok _ _ _ _ _ _ _ _ hs
    unfold LightState.light
    rw [hon, hsrgb, hsb, hsw]

/-! ### Writing one data point -/

section Writes

variable {m : TuyaDpMapping} {dps : Dps} {l : Light}

theorem distinct_dps (m : TuyaDpMapping) :
    m.power ≠ m.brightness ∧ m.power ≠ m.color ∧ m.brightness ≠ m.color := by
  have h := m.distinct
  simp only [List.nodup_cons, List.mem_cons, List.not_mem_nil, not_or, or_false] at h
  exact ⟨h.1.1, h.1.2, h.2.1⟩

theorem distinct_white {w : WhiteDp} (hw : m.white = some w) :
    w.dp ≠ m.power ∧ w.dp ≠ m.brightness ∧ w.dp ≠ m.color := by
  have h := m.white_ok w hw
  simp only [List.mem_cons, List.not_mem_nil, not_or, or_false] at h
  exact h

theorem get?_set_ne {k k' : Nat} (v : Json) (h : k' ≠ k) : (dps.set k v).get? k' = dps.get? k' := by
  rw [Dict.get?_set, if_neg h]

/-- The white channel does not see the other data points. -/
theorem whiteOfDps_set {k : Nat} (v : Json) (h : ∀ w, m.white = some w → w.dp ≠ k) :
    whiteOfDps (dps.set k v) m = whiteOfDps dps m := by
  unfold whiteOfDps
  split
  · rfl
  · next w hw => rw [get?_set_ne v (h w hw)]

theorem Shows.setPower (h : Shows m dps l) (b : Bool) :
    Shows m (dps.set m.power (.bool b)) { l with power := b } := by
  obtain ⟨hpb, hpc, -⟩ := distinct_dps m
  refine ⟨Dict.get?_set_self _ _ _, ?_, ?_, ?_⟩
  · rw [get?_set_ne _ hpc.symm]
    exact h.rgb
  · rw [get?_set_ne _ hpb.symm]
    exact h.brightness
  · rw [whiteOfDps_set _ fun w hw => (distinct_white hw).1]
    exact h.white

theorem Shows.setRgb (h : Shows m dps l) (hformat : m.colorFormat = .rgbHex) (c : Rgb) :
    Shows m (dps.set m.color (.str (m.encodeColor c))) { l with rgb := some c } := by
  obtain ⟨-, hpc, hbc⟩ := distinct_dps m
  refine ⟨?_, ⟨_, c, Dict.get?_set_self _ _ _, decodeColor_encode m hformat c, rfl⟩, ?_, ?_⟩
  · rw [get?_set_ne _ hpc]
    exact h.power
  · rw [get?_set_ne _ hbc]
    exact h.brightness
  · rw [whiteOfDps_set _ fun w hw => (distinct_white hw).2.2]
    exact h.white

theorem Shows.setBrightness (h : Shows m dps l) {v n : Int}
    (hv : m.brightnessFromDp (.int v) = .ok n) :
    Shows m (dps.set m.brightness (.int v)) { l with brightness := some n } := by
  obtain ⟨hpb, -, hbc⟩ := distinct_dps m
  refine ⟨?_, ?_, ⟨_, n, Dict.get?_set_self _ _ _, hv, rfl⟩, ?_⟩
  · rw [get?_set_ne _ hpb]
    exact h.power
  · rw [get?_set_ne _ hbc.symm]
    exact h.rgb
  · rw [whiteOfDps_set _ fun w hw => (distinct_white hw).2.1]
    exact h.white

theorem Shows.setWhite (h : Shows m dps l) {w : WhiteDp} (hw : m.white = some w) {v n : Int}
    (hv : m.whiteFromDp (.int v) = .ok n) :
    Shows m (dps.set w.dp (.int v)) { l with white := some n } := by
  obtain ⟨hwp, hwb, hwc⟩ := distinct_white hw
  refine ⟨?_, ?_, ?_, ?_⟩
  · rw [get?_set_ne _ hwp.symm]
    exact h.power
  · rw [get?_set_ne _ hwc.symm]
    exact h.rgb
  · rw [get?_set_ne _ hwb.symm]
    exact h.brightness
  · unfold whiteOfDps
    rw [hw]
    dsimp only
    rw [Dict.get?_set_self]
    dsimp only
    rw [hv]
    rfl

end Writes

/-! ### Writing the values of an operation -/

/-- A part of what `turn_on` writes: the values for one optional argument. -/
structure Part (m : TuyaDpMapping) (values : Except PyErr (List (Nat × Json)))
    (change : Light → Light) : Prop where
  shows : ∃ vs, values = .ok vs ∧
    ∀ (dps : Dps) (l : Light), Shows m dps l → Shows m (dps.setAll vs) (change l)

section Parts

variable {m : TuyaDpMapping}

theorem part_rgb (hformat : m.colorFormat = .rgbHex) (c : Rgb) :
    Part m (.ok [(m.color, .str (m.encodeColor c))]) fun l => { l with rgb := some c } :=
  ⟨⟨_, rfl, fun _ _ h => h.setRgb hformat c⟩⟩

theorem part_power (b : Bool) : Part m (.ok [(m.power, .bool b)]) fun l => { l with power := b } :=
  ⟨⟨_, rfl, fun _ _ h => h.setPower b⟩⟩

theorem part_brightness (hspan : 255 ≤ m.brightnessMax - m.brightnessMin) {n : Int}
    (hn : 0 ≤ n ∧ n ≤ 255) :
    Part m ((fun v => [(m.brightness, Json.int v)]) <$> m.brightnessToDp n)
      fun l => { l with brightness := some n } := by
  obtain ⟨v, hto, hfrom⟩ := scaleFromDp_toDp "brightness" hspan hn
  refine ⟨⟨[(m.brightness, .int v)], ?_, fun _ _ h => h.setBrightness hfrom⟩⟩
  unfold TuyaDpMapping.brightnessToDp
  rw [hto]
  rfl

theorem part_white (hspan : ∀ w ∈ m.white, 255 ≤ w.max - w.min) {n : Int} (hn : 0 ≤ n ∧ n ≤ 255)
    (hwhite : m.white.isSome = true) :
    Part m (setWhiteValues m n) fun l => { l with white := some n } := by
  obtain ⟨w, hw⟩ := Option.isSome_iff_exists.mp hwhite
  obtain ⟨v, hto, hfrom⟩ := scaleFromDp_toDp "white" (hspan w hw) hn
  have hread : m.whiteFromDp (.int v) = .ok n := by
    unfold TuyaDpMapping.whiteFromDp
    rw [hw]
    exact hfrom
  refine ⟨⟨[(w.dp, .int v)], ?_, fun _ _ h => h.setWhite hw hread⟩⟩
  unfold setWhiteValues TuyaDpMapping.whiteChannel TuyaDpMapping.whiteToDp
  rw [hw]
  show (fun v => [(w.dp, Json.int v)]) <$> scaleToDp "white" w.min w.max n = _
  rw [hto]
  rfl

theorem setAll_append (dps : Dps) (vs ws : List (Nat × Json)) :
    dps.setAll (vs ++ ws) = (dps.setAll vs).setAll ws := List.foldl_append

/-- An argument that is not given writes nothing. -/
theorem part_none : Part m (.ok []) id := ⟨⟨[], rfl, fun _ _ h => h⟩⟩

/-- What `turn_on` writes for each of its optional arguments. -/
def rgbPart (m : TuyaDpMapping) : Option Rgb → List (Nat × Json)
  | some c => [(m.color, .str (m.encodeColor c))]
  | none => []

def brightnessPart (m : TuyaDpMapping) : Option Int → Except PyErr (List (Nat × Json))
  | some n => (fun v => [(m.brightness, Json.int v)]) <$> m.brightnessToDp n
  | none => .ok []

def whitePart (m : TuyaDpMapping) : Option Int → Except PyErr (List (Nat × Json))
  | some n => do
    let v ← m.whiteToDp n
    let w ← m.whiteChannel
    .ok [(w.dp, Json.int v)]
  | none => .ok []

/-- With a white channel it makes no difference which of the two is asked first. -/
theorem whitePart_some (hwhite : m.white.isSome = true) (n : Int) :
    whitePart m (some n) = setWhiteValues m n := by
  obtain ⟨w, hw⟩ := Option.isSome_iff_exists.mp hwhite
  unfold whitePart setWhiteValues TuyaDpMapping.whiteChannel TuyaDpMapping.whiteToDp
  rw [hw]
  dsimp only
  cases scaleToDp "white" w.min w.max n <;> rfl

theorem turnOnValues_eq (rgb : Option Rgb) (brightness white : Option Int) :
    turnOnValues m rgb brightness white = (do
      let bs ← brightnessPart m brightness
      let ws ← whitePart m white
      .ok ([(m.power, .bool true)] ++ rgbPart m rgb ++ bs ++ ws)) := by
  cases white with
  | none => cases rgb <;> cases brightness <;> rfl
  | some n =>
    unfold turnOnValues whitePart
    dsimp only
    cases m.whiteToDp n <;> cases m.whiteChannel <;> cases rgb <;> cases brightness <;> rfl

/-- The parts of `turn_on`, one after the other. -/
theorem part_turnOn (hformat : m.colorFormat = .rgbHex) (hspans : m.WideSpans) {rgb : Option Rgb}
    {brightness white : Option Int} (hop : (LightOp.turnOn rgb brightness white).InRange)
    (hwhite : white.isSome = true → m.white.isSome = true) :
    Part m (turnOnValues m rgb brightness white) (LightOp.turnOn rgb brightness white).apply := by
  have hcolor : Part m (.ok (rgbPart m rgb)) fun l => { l with rgb := rgb.or l.rgb } := by
    cases rgb with
    | none => exact part_none
    | some c => exact part_rgb hformat c
  have hbrightness : Part m (brightnessPart m brightness)
      fun l => { l with brightness := brightness.or l.brightness } := by
    cases brightness with
    | none => exact part_none
    | some n => exact part_brightness hspans.brightness (hop.1 n rfl)
  have hchannel : Part m (whitePart m white) fun l => { l with white := white.or l.white } := by
    cases white with
    | none => exact part_none
    | some n =>
      rw [whitePart_some (hwhite rfl)]
      exact part_white hspans.white (hop.2 n rfl) (hwhite rfl)
  obtain ⟨cs, hcs, hshowc⟩ := hcolor
  obtain ⟨bs, hbs, hshowb⟩ := hbrightness
  obtain ⟨ws, hws, hshoww⟩ := hchannel
  cases hcs
  refine ⟨⟨[(m.power, .bool true)] ++ rgbPart m rgb ++ bs ++ ws, ?_, ?_⟩⟩
  · rw [turnOnValues_eq, hbs, hws]
    rfl
  · intro dps l h
    have hpower : Shows m (dps.setAll [(m.power, .bool true)]) { l with power := true } :=
      h.setPower true
    rw [setAll_append, setAll_append, setAll_append]
    exact hshoww _ _ (hshowb _ _ (hshowc _ _ hpower))

/-- Every operation writes what does to the store what it does to the light. -/
theorem part_opValues (hformat : m.colorFormat = .rgbHex) (hspans : m.WideSpans) {op : LightOp}
    (hop : op.InRange) (hwhite : op.wantsWhite = true → m.white.isSome = true) :
    Part m (opValues m op) op.apply := by
  cases op with
  | turnOn rgb brightness white => exact part_turnOn hformat hspans hop hwhite
  | turnOff => exact part_power false
  | setBrightness n => exact part_brightness hspans.brightness hop
  | setRgb c => exact part_rgb hformat c
  | setWhite n => exact part_white hspans.white hop (hwhite rfl)

end Parts

/-! ### The call of the driver -/

section Call

variable {J : JsonLib} {o : WriteOutcomes} {t : TuyaState} {d : TuyaDeviceConfig} {m : TuyaDpMapping}

theorem driverCall_eq (deviceId : Option String) (op : LightOp) :
    driverCall J o deviceId op = writeCommand J o deviceId fun m => opValues m op := by
  cases op <;> rfl

theorem writeCommand_values {values : TuyaDpMapping → Except PyErr (List (Nat × Json))}
    (hd : t.device = some d) (hm : d.dps = some m) :
    writeCommand J o (some d.deviceId) values t =
      (PyM.outcome (values m) >>= fun vs => setValues J d o vs) t := by
  have hmapping : mappingOf d = .ok m := by
    unfold mappingOf
    rw [hm]
  unfold writeCommand
  rw [PyM.bind_ok (checkDevice_configured t d hd), hmapping, PyM.outcome_ok_bind]

/-- Requests are only ever added. -/
theorem pollState_requests (deviceId : Option String) (reply : Except PyErr Bytes)
    (sent : List (Nat × Json)) :
    PyM.Preserves (fun s : TuyaState => sent <+: s.requests) (pollState J deviceId reply) :=
  pollState_frame J (fun _ _ h => h.trans (List.prefix_append _ _)) (fun _ _ h => h) (fun _ _ h => h)
    deviceId reply

/-- The values go out in the first request of the call. -/
theorem sends_of_opValues (hd : t.device = some d) (hm : d.dps = some m) {op : LightOp}
    {values : List (Nat × Json)} (hvalues : opValues m op = .ok values) : Sends J o t d op values := by
  have hrun : driverCall J o (some d.deviceId) op t = setValues J d o values t := by
    rw [driverCall_eq, writeCommand_values hd hm, hvalues]
    rfl
  have hkept : (t.requests ++ [(controlCommand d.link.protocolVersion, controlBody d o.now values)]) <+:
      (setValues J d o values t).2.requests := by
    unfold setValues
    refine PyM.bind_after (I := fun s : TuyaState => _ <+: s.requests) (List.prefix_refl _) fun _ => ?_
    refine PyM.preserves_bind (pollState_requests _ _ _) fun state => ?_
    exact PyM.preserves_bind (PyM.preserves_modify fun s h => h) fun _ => PyM.preserves_pure _
  obtain ⟨rest, hrest⟩ := hkept
  refine ⟨rest, ?_⟩
  rw [hrun, ← hrest, List.append_assoc]
  rfl

/-- Without a white channel a white request raises before anything is written. -/
theorem driverCall_no_white (hd : t.device = some d) (hm : d.dps = some m) (hnone : m.white = none)
    {op : LightOp} (hwhite : op.wantsWhite = true) :
    ∃ e, driverCall J o (some d.deviceId) op t = (.error e, t) := by
  have hchannel : ∀ n, ∃ e, setWhiteValues m n = .error e := by
    intro n
    unfold setWhiteValues TuyaDpMapping.whiteChannel
    rw [hnone]
    exact ⟨_, rfl⟩
  have hvalues : ∃ e, opValues m op = .error e := by
    cases op with
    | turnOn rgb brightness white =>
      cases white with
      | none => cases hwhite
      | some n =>
        obtain ⟨e, hpart⟩ : ∃ e, whitePart m (some n) = .error e := by
          unfold whitePart TuyaDpMapping.whiteToDp
          rw [hnone]
          exact ⟨_, rfl⟩
        show ∃ e, turnOnValues m rgb brightness (some n) = .error e
        rw [turnOnValues_eq, hpart]
        cases brightnessPart m brightness with
        | ok bs => exact ⟨e, rfl⟩
        | error e' => exact ⟨e', rfl⟩
    | turnOff => cases hwhite
    | setBrightness n => cases hwhite
    | setRgb c => cases hwhite
    | setWhite n => exact hchannel n
  obtain ⟨e, he⟩ := hvalues
  refine ⟨e, ?_⟩
  rw [driverCall_eq, writeCommand_values hd hm, he]
  rfl

end Call

/-! ## Main result -/

/-- **The mapping implements the light.**  What an operation with arguments in range
sends is what the store needs to show the light the operation asked for, and a white
request to a lamp without a white channel sends nothing. -/
theorem mapping_implements_light (J : JsonLib) (o : WriteOutcomes) (t : TuyaState)
    (d : TuyaDeviceConfig) (m : TuyaDpMapping) (hd : t.device = some d) (hm : d.dps = some m)
    (hformat : m.colorFormat = .rgbHex) (hspans : m.WideSpans) (op : LightOp) (hop : op.InRange) :
    ((op.wantsWhite = true → m.white.isSome = true) →
      ∃ values, Sends J o t d op values ∧ Implements m op values) ∧
    (op.wantsWhite = true → m.white = none →
      ∃ e, driverCall J o (some d.deviceId) op t = (.error e, t)) := by
  refine ⟨fun hwhite => ?_, fun hwhite hnone => driverCall_no_white hd hm hnone hwhite⟩
  obtain ⟨values, hvalues, hshows⟩ := part_opValues hformat hspans hop hwhite
  refine ⟨values, sends_of_opValues hd hm hvalues, fun deviceId dps s hs => ?_⟩
  have hid : deviceId ≠ "" := stateFromDps_deviceId hs ▸ s.device_ok
  exact state_of_shows hid (hshows dps s.light (shows_of_state hs))

theorem wideSpans_lamp : lampMapping.WideSpans := ⟨by decide, fun _ h => nomatch h⟩

def dimRed : LightOp := .turnOn (some fullRed) (some 7) none

theorem dimRed_inRange : dimRed.InRange := by
  refine ⟨fun n h => ?_, fun n h => nomatch h⟩
  cases h
  exact ⟨by decide, by decide⟩

/-- A dim red on the lamp is sent and shown; the lamp has no white channel to ask for. -/
theorem mapping_implements_light_lamp :
    (∃ values, Sends lampLib.toJsonLib Commands.acknowledgedOnly Commands.lampState Commands.lamp
        dimRed values ∧ Implements lampMapping dimRed values) ∧
    ∃ e, driverCall lampLib.toJsonLib Commands.acknowledgedOnly (some Commands.lamp.deviceId)
      (.setWhite 7) Commands.lampState = (.error e, Commands.lampState) :=
  ⟨(mapping_implements_light lampLib.toJsonLib _ Commands.lampState Commands.lamp lampMapping rfl rfl
      rfl wideSpans_lamp dimRed dimRed_inRange).1 (fun h => nomatch h),
    (mapping_implements_light lampLib.toJsonLib _ Commands.lampState Commands.lamp lampMapping rfl rfl
      rfl wideSpans_lamp (.setWhite 7) ⟨by decide, by decide⟩).2 rfl rfl⟩

end Linker
