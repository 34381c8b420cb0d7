import OpenHdoLinker.Tuya.Payload
import OpenHdoLinker.Tuya.Confirmed

/-!
# Status pushes

`_handle_status` decodes a push, merges its data points into those known so far,
maps the light state and hands it to the subscribers; `_reader_loop` calls it for
each status frame and fails every pending request on an exception that escapes.
`_last_error`, which nothing reads back but `health`, is left out.

    a push is handled ↔ it decodes, its JSON is within the limits of the reader,
      the merged values are ordinary, and no subscriber is cancelled       (status_handled_iff)
-/

namespace Linker

open Py

/-! ## Algorithm -/

/-- `self.device.key_bytes`. -/
def keyBytes (l : TuyaLink) : Bytes := asciiBytes l.localKey.toList

/-- `except TuyaProtocolError: return`. -/
def orIgnore {σ α : Type} (m : PyM σ α) : PyM σ (Option α) :=
  PyM.tryExcept (some <$> m) fun e =>
    if e.isA tuyaProtocolErrorClass then pure none else PyM.raise e

section Algorithm

variable (C : TuyaCrypto) (J : JsonLib)

/-- `self._raw_dps.update(parse_dps(payload))`. -/
def mergeDps (payload : Bytes) : PyM TuyaState Unit := do
  let dps ← PyM.outcome (parseDps J payload)
  PyM.modify fun s => { s with rawDps := s.rawDps.setAll dps.items }

/-- The `try` block with a mapping: the merged data points as the next light state. -/
def pushedState (d : TuyaDeviceConfig) (m : TuyaDpMapping) (payload : Bytes) :
    PyM TuyaState LightState := do
  mergeDps J payload
  let s ← PyM.get
  let state ← PyM.outcome (stateFromDps d.deviceId s.rawDps m)
  pure (revisioned s.state state)

/-- The loop over the subscribers.  An ordinary exception of a publication consumer is swallowed. -/
def notifyEach {σ : Type} (call : Nat → PyM σ Unit) : List Nat → PyM σ Unit
  | [] => pure ()
  | callback :: callbacks => do
    PyM.tryExcept (call callback) fun e =>
      if e.isA .Exception then pure () else PyM.raise e
    notifyEach call callbacks

/-- The loop, where `answer` is how the call of each subscriber ends. -/
def notify (answer : Nat → Except PyErr Unit) (callbacks : List Nat) : PyM TuyaState Unit :=
  notifyEach (fun callback => PyM.outcome (answer callback)) callbacks

/-- `tuple(self._callbacks.get(self.device.device_id, ()))`. -/
def callbacksOf (s : TuyaState) (d : TuyaDeviceConfig) : List Nat :=
  (s.callbacks.get? d.deviceId).getD []

/-- What follows the decoding of a push. -/
def applyStatus (answer : Nat → Except PyErr Unit) (d : TuyaDeviceConfig) (payload : Bytes) :
    PyM TuyaState Unit := do
  match d.dps with
  | none => (fun _ => ()) <$> orIgnore (mergeDps J payload)
  | some m => do
    let state ← orIgnore (pushedState J d m payload)
    match state with
    | none => pure ()
    | some state => do
      PyM.modify fun s => { s with state := some state }
      let s ← PyM.get
      notify answer (callbacksOf s d)

/-- `_handle_status(frame)` under the session key of the moment. -/
def handleStatus (answer : Nat → Except PyErr Unit) (sessionKey : Option Bytes) (frame : TuyaFrame) :
    PyM TuyaState Unit := do
  let s ← PyM.get
  let d ← PyM.outcome (deviceOf s)
  let decoded ← PyM.outcome
    (decodePayload C frame d.link.protocolVersion (keyBytes d.link) sessionKey)
  applyStatus J answer d (withoutRetcode decoded)

/-! ### The reader loop -/

/-- The future of a request. -/
inductive Reply
  | waiting
  | result (frame : TuyaFrame)
  | failed (e : PyErr)

/-- The driver and the futures its requests wait for; `pending` has them by sequence number. -/
structure ReaderState where
  driver : TuyaState
  pending : Dict Nat Nat
  replies : Dict Nat Reply

/-- How a turn of the loop ends: with the next frame, with the task over, or with an exception
that `except Exception` lets through. -/
inductive Turn
  | goesOn
  | ended
  | raises (e : PyErr)

/-- `if not future.done(): …`. -/
def settle (r : Reply) (replies : Dict Nat Reply) (future : Nat) : Dict Nat Reply :=
  match replies.get? future with
  | some .waiting => replies.set future r
  | _ => replies

/-- `except Exception` of `_reader_loop`. -/
def failPending (e : PyErr) (s : ReaderState) : ReaderState :=
  { s with pending := Dict.empty,
           replies := (s.pending.items.map Prod.snd).foldl
             (settle (.failed ⟨.ConnectionError, e.text⟩)) s.replies }

/-- A reply goes to the request with its sequence number. -/
def answerPending (frame : TuyaFrame) (s : ReaderState) : ReaderState :=
  match s.pending.get? frame.sequence with
  | some future =>
    { s with pending := s.pending.erase frame.sequence,
             replies := settle (.result frame) s.replies future }
  | none => s

/-- One turn of `_reader_loop`: the frame that `_read_frame` gave, or its exception. -/
def readerTurn (answer : Nat → Except PyErr Unit) (sessionKey : Option Bytes)
    (read : Except PyErr TuyaFrame) (s : ReaderState) : Turn × ReaderState :=
  let handled : Except PyErr Unit × ReaderState :=
    match read with
    | .error e => (.error e, s)
    | .ok frame =>
      if frame.command = commandStatus then
        let r := handleStatus C J answer sessionKey frame s.driver
        (r.1, { s with driver := r.2 })
      else (.ok (), answerPending frame s)
  match handled with
  | (.ok (), t) => (.goesOn, t)
  | (.error e, t) => if e.isA .Exception then (.ended, failPending e t) else (.raises e, t)

end Algorithm

/-! ## Statement -/

/-- A number that `int` does not take: an infinity or NaN. -/
def NotFinite (v : Json) : Prop := v = .float .nan ∨ v = .float .inf ∨ v = .float .negInf

/-- A float channel rounds into a byte. -/
def InByte (fl : ℚ → ℚ) (x : ℚ) : Prop :=
  0 ≤ roundHalfEven (fl (x * 255)) ∧ roundHalfEven (fl (x * 255)) ≤ 255

/-- The float channels of three words. -/
def wordChannels (fl : ℚ → ℚ) (hue saturation value : Int) : ℚ × ℚ × ℚ :=
  hsvToRgb fl (fl (Int.fract (fl ((hue : ℚ) / 360)))) (fl ((saturation : ℚ) / 1000))
    (fl ((value : ℚ) / 1000))

/-- Twelve hexadecimal digits whose hue, saturation and value are no colour. -/
def OutOfGamut (m : TuyaDpMapping) (color : Json) : Prop :=
  m.colorFormat = .hsvHex ∧ ∃ text hue saturation value, color = .str text ∧
    text.toList.length = 12 ∧ hexInt (sliceChars text.toList 0 4) = .ok hue ∧
    hexInt (sliceChars text.toList 4 8) = .ok saturation ∧
    hexInt (sliceChars text.toList 8 12) = .ok value ∧
    ∃ red green blue, wordChannels binary64 hue saturation value = (red, green, blue) ∧
      ¬ (InByte binary64 red ∧ InByte binary64 green ∧ InByte binary64 blue)

/-- Data points the mapping cannot take for a state without leaving its own error class: a colour
out of gamut or, where the colour is one, a brightness or white value that is no finite number. -/
def Unmappable (m : TuyaDpMapping) (dps : Dps) : Prop :=
  ∃ on brightness color, dps.get? m.power = some (.bool on) ∧
    dps.get? m.brightness = some brightness ∧ dps.get? m.color = some color ∧
    (OutOfGamut m color ∨ (∃ rgb, m.decodeColor color = .ok rgb) ∧
      (NotFinite brightness ∨ (∃ n, m.brightnessFromDp brightness = .ok n) ∧
        ∃ w v, m.white = some w ∧ dps.get? w.dp = some v ∧ NotFinite v))

/-- `json.loads` reads the text or finds it malformed: no integer beyond the digit limit, no nesting
beyond the recursion limit. -/
def WithinJsonLimits (J : JsonLib) (payload : Bytes) : Prop :=
  J.decode payload ≠ .error .digitLimit ∧ J.decode payload ≠ .error .tooDeep

/-- The pushes the reader survives. -/
def Digestible (C : TuyaCrypto) (J : JsonLib) (answer : Nat → Except PyErr Unit)
    (sessionKey : Option Bytes) (frame : TuyaFrame) (s : TuyaState) (d : TuyaDeviceConfig)
    (m : TuyaDpMapping) : Prop :=
  ∃ decoded, decodePayload C frame d.link.protocolVersion (keyBytes d.link) sessionKey = .ok decoded ∧
    WithinJsonLimits J (withoutRetcode decoded) ∧
    ∀ dps, parseDps J (withoutRetcode decoded) = .ok dps →
      ¬ Unmappable m (s.rawDps.setAll dps.items) ∧
      ∀ state, stateFromDps d.deviceId (s.rawDps.setAll dps.items) m = .ok state →
        ∀ callback ∈ callbacksOf s d, Raises IsOrdinary (answer callback)

/-! ## Lemmas -/

/-! ### Exceptions of the mapping -/

theorem valueErrorAs_raises {α : Type} {r : Except PyErr α} (text : String)
    (h : Raises (fun e => e.isA .ValueError = true) r) :
    Raises IsTuyaProtocolError (valueErrorAs text r) := by
  cases r with
  | ok a => exact raises_ok a
  | error e =>
    show Raises _ (if e.isA .ValueError then _ else _)
    rw [if_pos (h e rfl)]
    exact raises_error (isTuyaProtocolError text)

theorem valueErrorAs_ok {α : Type} {r : Except PyErr α} {text : String} {a : α}
    (h : valueErrorAs text r = .ok a) : r = .ok a := by
  cases r with
  | ok b => exact h
  | error e =>
    change (if e.isA .ValueError then Except.error (tuyaProtocolError text) else .error e) = _ at h
    split at h
    · cases h
    · cases h

theorem hexInt_raises (cs : List Char) : Raises (fun e => e.isA .ValueError = true) (hexInt cs) := by
  unfold hexInt
  split
  · exact raises_ok _
  · exact raises_error rfl

theorem rgbInit_raises (r g b : Json) : Raises (fun e => e.isA .ValueError = true) (Rgb.init r g b) := by
  unfold Rgb.init
  split
  · exact raises_ok _
  · exact raises_error rfl

theorem decodeRgbHex_raises (cs : List Char) :
    Raises IsTuyaProtocolError (TuyaDpMapping.decodeRgbHex cs) := by
  unfold TuyaDpMapping.decodeRgbHex
  split
  · exact raises_error (isTuyaProtocolError _)
  · refine valueErrorAs_raises _ ?_
    refine raises_bind (hexInt_raises _) fun r _ => ?_
    refine raises_bind (hexInt_raises _) fun g _ => ?_
    exact raises_bind (hexInt_raises _) fun b _ => rgbInit_raises _ _ _

/-- The constructor call of a colour of rounded channels. -/
def roundedRgb (fl : ℚ → ℚ) (red green blue : ℚ) : Except PyErr Rgb :=
  Rgb.init (.int (roundHalfEven (fl (red * 255)))) (.int (roundHalfEven (fl (green * 255))))
    (.int (roundHalfEven (fl (blue * 255))))

theorem channel_int {i : Int} (h : 0 ≤ i ∧ i ≤ 255) :
    Rgb.channel? (.int i) = some ⟨i.toNat, Rgb.toNat_le_of_channel h⟩ := dif_pos h

theorem channel_int_none {i : Int} (h : ¬ (0 ≤ i ∧ i ≤ 255)) : Rgb.channel? (.int i) = none := dif_neg h

theorem roundedRgb_ok {fl : ℚ → ℚ} {red green blue : ℚ} (hr : InByte fl red) (hg : InByte fl green)
    (hb : InByte fl blue) : ∃ rgb, roundedRgb fl red green blue = .ok rgb := by
  unfold roundedRgb Rgb.init
  rw [channel_int hr, channel_int hg, channel_int hb]
  exact ⟨_, rfl⟩

theorem roundedRgb_error {fl : ℚ → ℚ} {red green blue : ℚ}
    (h : ¬ (InByte fl red ∧ InByte fl green ∧ InByte fl blue)) :
    roundedRgb fl red green blue = .error (valueError "RGB channels must be integers from 0 to 255") := by
  unfold roundedRgb Rgb.init
  by_cases hr : InByte fl red
  · by_cases hg : InByte fl green
    · have hb : ¬ InByte fl blue := fun hb => h ⟨hr, hg, hb⟩
      rw [channel_int hr, channel_int hg, channel_int_none hb]
    · rw [channel_int hr, channel_int_none hg]
  · rw [channel_int_none hr]

theorem not_isTuyaProtocolError_valueError (text : String) : ¬ IsTuyaProtocolError (valueError text) :=
  nofun

/-- A colour raises outside the driver's error class exactly when it is out of gamut. -/
theorem decodeColor_raises_iff (m : TuyaDpMapping) (color : Json) :
    Raises IsTuyaProtocolError (m.decodeColor color) ↔ ¬ OutOfGamut m color := by
  constructor
  · rintro h ⟨hformat, text, hue, saturation, value, rfl, hlen, hhue, hsat, hval, red, green, blue,
      hrgb, hout⟩
    have hdecode : m.decodeColor (.str text) =
        .error (valueError "RGB channels must be integers from 0 to 255") := by
      rw [← roundedRgb_error hout]
      simp only [TuyaDpMapping.decodeColor, TuyaDpMapping.decodeColorIn, Json.str?, hformat,
        TuyaDpMapping.decodeHsvHex]
      rw [if_neg (not_not.mpr hlen), hhue, hsat, hval]
      unfold wordChannels at hrgb
      simp only [bind, Except.bind, valueErrorAs, hrgb]
      rfl
    exact not_isTuyaProtocolError_valueError _ (h _ hdecode)
  · intro h
    unfold TuyaDpMapping.decodeColor TuyaDpMapping.decodeColorIn
    split
    · exact raises_error (isTuyaProtocolError _)
    · next text htext =>
      split
      · exact decodeRgbHex_raises _
      · next hformat =>
        unfold TuyaDpMapping.decodeHsvHex
        split
        · exact raises_error (isTuyaProtocolError _)
        · next hlen =>
          refine raises_bind ?_ ?_
          · refine valueErrorAs_raises _ ?_
            refine raises_bind (hexInt_raises _) fun hue _ => ?_
            refine raises_bind (hexInt_raises _) fun saturation _ => ?_
            exact raises_bind (hexInt_raises _) fun value _ => raises_ok _
          · rintro ⟨hue', saturation', value'⟩ hwords
            obtain ⟨hue, hhue, hwords⟩ := bind_eq_ok (valueErrorAs_ok hwords)
            obtain ⟨saturation, hsat, hwords⟩ := bind_eq_ok hwords
            obtain ⟨value, hval, hwords⟩ := bind_eq_ok hwords
            cases hwords
            obtain ⟨red, green, blue, hrgb⟩ : ∃ red green blue,
              wordChannels binary64 hue saturation value = (red, green, blue) := ⟨_, _, _, rfl⟩
            have hchannels := hrgb
            unfold wordChannels at hchannels
            simp only [hchannels]
            show Raises _ (roundedRgb binary64 red green blue)
            by_cases hin : InByte binary64 red ∧ InByte binary64 green ∧ InByte binary64 blue
            · obtain ⟨rgb, hok⟩ := roundedRgb_ok hin.1 hin.2.1 hin.2.2
              rw [hok]
              exact raises_ok rgb
            · rw [Json.str?_eq_some] at htext
              exact absurd ⟨hformat, text, hue, saturation, value, htext, not_not.mp hlen, hhue, hsat,
                hval, red, green, blue, hrgb, hin⟩ h

/-- A number raises outside the driver's error class exactly when it is not finite. -/
theorem scaleFromDp_raises_iff (name : String) (low high : Nat) (v : Json) :
    Raises IsTuyaProtocolError (scaleFromDp name low high v) ↔ ¬ NotFinite v := by
  constructor
  · rintro h (rfl | rfl | rfl)
    · exact absurd (h _ rfl) (not_isTuyaProtocolError_valueError _)
    · exact absurd (h _ rfl) nofun
    · exact absurd (h _ rfl) nofun
  · intro h
    unfold scaleFromDp
    refine raises_bind ?_ ?_
    · unfold numericDp
      split
      · exact raises_ok _
      · next x =>
        cases x with
        | finite q => exact raises_ok _
        | inf => exact absurd (Or.inr (Or.inl rfl)) h
        | negInf => exact absurd (Or.inr (Or.inr rfl)) h
        | nan => exact absurd (Or.inl rfl) h
      · exact raises_error (isTuyaProtocolError _)
    · intro numeric _
      split
      · exact raises_ok _
      · exact raises_error (isTuyaProtocolError _)

theorem whiteOfDps_raises_iff (dps : Dps) (m : TuyaDpMapping) :
    Raises IsTuyaProtocolError (whiteOfDps dps m) ↔
      ¬ ∃ w v, m.white = some w ∧ dps.get? w.dp = some v ∧ NotFinite v := by
  unfold whiteOfDps
  split
  · next hw =>
    refine ⟨fun _ => ?_, fun _ => raises_ok _⟩
    rintro ⟨w, v, hw', -⟩
    rw [hw] at hw'
    cases hw'
  · next w hw =>
    split
    · next hv =>
      refine ⟨fun _ => ?_, fun _ => raises_ok _⟩
      rintro ⟨w', v, hw', hv', -⟩
      rw [hw] at hw'
      cases hw'
      rw [hv] at hv'
      cases hv'
    · next v hv =>
      have hscale : m.whiteFromDp v = scaleFromDp "white" w.min w.max v := by
        unfold TuyaDpMapping.whiteFromDp
        rw [hw]
      rw [raises_map_iff, hscale, scaleFromDp_raises_iff]
      constructor
      · rintro h ⟨w', v', hw', hv', hnot⟩
        rw [hw] at hw'
        cases hw'
        rw [hv] at hv'
        cases hv'
        exact h hnot
      · intro h hnot
        exact h ⟨w, v, hw, hv, hnot⟩

/-- The data points raise outside the driver's error class exactly when they are unmappable. -/
theorem stateFromDps_raises_iff {deviceId : String} (hid : deviceId ≠ "") (dps : Dps)
    (m : TuyaDpMapping) :
    Raises IsTuyaProtocolError (stateFromDps deviceId dps m) ↔ ¬ Unmappable m dps := by
  constructor
  · rintro h ⟨on, brightness, color, hpower, hbright, hcolor, hbad⟩
    unfold stateFromDps at h
    simp only [hpower, Json.bool?, hbright, hcolor] at h
    change Raises _ (m.decodeColor color >>= fun rgb => m.brightnessFromDp brightness >>= fun n =>
      whiteOfDps dps m >>= fun white =>
        LightState.init deviceId true on (some rgb) (some n) white 0) at h
    rcases hbad with hbad | ⟨⟨rgb, hrgb⟩, hbad⟩
    · exact (decodeColor_raises_iff m color).mp h.of_bind hbad
    · have hbrightness := h.of_bind_ok hrgb
      rcases hbad with hbad | ⟨⟨n, hn⟩, hbad⟩
      · exact (scaleFromDp_raises_iff "brightness" m.brightnessMin m.brightnessMax brightness).mp
          hbrightness.of_bind hbad
      · exact (whiteOfDps_raises_iff dps m).mp (hbrightness.of_bind_ok hn).of_bind hbad
  · intro h
    unfold stateFromDps
    split
    · exact raises_error (isTuyaProtocolError _)
    · next power hpower =>
      split
      · exact raises_error (isTuyaProtocolError _)
      · next on hon =>
        rw [Json.bool?_eq_some] at hon
        subst hon
        split
        · next brightness color hbright hcolor =>
          refine raises_bind ?_ ?_
          · rw [decodeColor_raises_iff]
            exact fun hbad => h ⟨on, brightness, color, hpower, hbright, hcolor, Or.inl hbad⟩
          · intro rgb hrgb
            refine raises_bind ?_ ?_
            · unfold TuyaDpMapping.brightnessFromDp
              rw [scaleFromDp_raises_iff]
              exact fun hbad => h ⟨on, brightness, color, hpower, hbright, hcolor,
                Or.inr ⟨⟨rgb, hrgb⟩, Or.inl hbad⟩⟩
            · intro n hn
              refine raises_bind ?_ ?_
              · rw [whiteOfDps_raises_iff]
                exact fun hbad => h ⟨on, brightness, color, hpower, hbright, hcolor,
                  Or.inr ⟨⟨rgb, hrgb⟩, Or.inr ⟨⟨n, hn⟩, hbad⟩⟩⟩
              · intro white hwhite
                obtain ⟨s, hs⟩ := lightState_init_ok hid on rgb (scaleFromDp_range m.range_ok.1 hn)
                  (whiteOfDps_range hwhite)
                rw [hs]
                exact raises_ok s
        · exact raises_error (isTuyaProtocolError _)

theorem dpIndex_raises (rawIndex : String) : Raises IsTuyaProtocolError (dpIndex rawIndex) := by
  unfold dpIndex
  split
  · exact raises_error (isTuyaProtocolError _)
  · split
    · exact raises_ok _
    · exact raises_error (isTuyaProtocolError _)

theorem dpsOfValue_raises (value : Json) : Raises IsTuyaProtocolError (dpsOfValue value) := by
  unfold dpsOfValue
  split
  · exact raises_error (isTuyaProtocolError _)
  · dsimp only
    split
    · exact raises_error (isTuyaProtocolError _)
    · next items hitems =>
      clear hitems
      generalize (Dict.empty : Dps) = acc
      induction items generalizing acc with
      | nil => exact raises_ok acc
      | cons p items ih =>
        rw [List.foldlM_cons]
        refine raises_bind ?_ fun result _ => ih result
        exact raises_bind (dpIndex_raises p.1) fun index _ => raises_ok _

/-- A payload raises outside the driver's error class exactly beyond the limits of `json.loads`. -/
theorem parseDps_raises_iff (J : JsonLib) (payload : Bytes) :
    Raises IsTuyaProtocolError (parseDps J payload) ↔ WithinJsonLimits J payload := by
  unfold WithinJsonLimits parseDps
  cases hdecode : J.decode payload with
  | ok value =>
    rw [J.loads_ok _ _ hdecode]
    exact ⟨fun _ => ⟨nofun, nofun⟩, fun _ => dpsOfValue_raises value⟩
  | error failure =>
    rw [J.loads_error _ _ hdecode]
    cases failure with
    | malformed => exact ⟨fun _ => ⟨nofun, nofun⟩, fun _ => raises_error (isTuyaProtocolError _)⟩
    | undecodable => exact ⟨fun _ => ⟨nofun, nofun⟩, fun _ => raises_error (isTuyaProtocolError _)⟩
    | digitLimit =>
      refine ⟨fun h => absurd (h JsonFailure.digitLimit.err rfl) nofun, fun h => absurd rfl h.1⟩
    | tooDeep =>
      refine ⟨fun h => absurd (h JsonFailure.tooDeep.err rfl) nofun, fun h => absurd rfl h.2⟩

/-! ### How a push is handled -/

section Handled

variable {C : TuyaCrypto} {J : JsonLib} {answer : Nat → Except PyErr Unit} {sessionKey : Option Bytes}
variable {s t : TuyaState} {d : TuyaDeviceConfig} {m : TuyaDpMapping} {payload : Bytes}

theorem orIgnore_ok {σ α : Type} {c : PyM σ α} {x y : σ} {a : α} (h : c x = (.ok a, y)) :
    orIgnore c x = (.ok (some a), y) := by
  refine PyM.tryExcept_ok ?_
  rw [PyM.map_apply, h]
  rfl

theorem orIgnore_error {σ α : Type} {c : PyM σ α} {x y : σ} {e : PyErr} (h : c x = (.error e, y)) :
    orIgnore c x =
      (if e.isA tuyaProtocolErrorClass then pure none else PyM.raise e : PyM σ (Option α)) y := by
  refine PyM.tryExcept_error ?_
  rw [PyM.map_apply, h]
  rfl

/-- The subscribers are all called unless one raises what `except Exception` lets through. -/
theorem notify_ok_iff (callbacks : List Nat) (s : TuyaState) :
    (notify answer callbacks s).1 = .ok () ↔
      ∀ callback ∈ callbacks, Raises IsOrdinary (answer callback) := by
  induction callbacks with
  | nil => exact ⟨fun _ => nofun, fun _ => rfl⟩
  | cons callback callbacks ih =>
    rw [List.forall_mem_cons, ← ih]
    cases hanswer : answer callback with
    | ok u =>
      have hrest : notify answer (callback :: callbacks) s = notify answer callbacks s := by
        show (PyM.tryExcept (PyM.outcome (answer callback)) _ >>= fun _ => notify answer callbacks) s = _
        rw [PyM.bind_ok (PyM.tryExcept_ok (by rw [hanswer]; rfl))]
      rw [hrest]
      exact ⟨fun h => ⟨raises_ok u, h⟩, fun h => h.2⟩
    | error e =>
      have htry : PyM.tryExcept (PyM.outcome (answer callback)) (fun e =>
          if e.isA .Exception then pure () else PyM.raise e) s =
          (if e.isA .Exception then pure () else PyM.raise e : PyM TuyaState Unit) s :=
        PyM.tryExcept_error (by rw [hanswer]; rfl)
      show ((PyM.tryExcept (PyM.outcome (answer callback)) _ >>= fun _ =>
        notify answer callbacks) s).1 = _ ↔ _
      cases hord : e.isA .Exception with
      | true =>
        rw [hord, if_pos rfl] at htry
        rw [PyM.bind_ok htry]
        exact ⟨fun h => ⟨raises_error hord, h⟩, fun h => h.2⟩
      | false =>
        rw [hord, if_neg nofun] at htry
        rw [PyM.bind_error htry]
        refine ⟨nofun, fun h => ?_⟩
        have := h.1 e rfl
        unfold IsOrdinary at this
        rw [hord] at this
        cases this

theorem mergeDps_ok {dps : Dps} (h : parseDps J payload = .ok dps) :
    mergeDps J payload s = (.ok (), { s with rawDps := s.rawDps.setAll dps.items }) := by
  unfold mergeDps
  rw [h]
  rfl

theorem mergeDps_error {e : PyErr} (h : parseDps J payload = .error e) :
    mergeDps J payload s = (.error e, s) := by
  unfold mergeDps
  rw [h]
  rfl

/-- What the `try` block of a push ends with. -/
theorem pushedState_error {e : PyErr} (h : parseDps J payload = .error e) :
    pushedState J d m payload s = (.error e, s) := by
  unfold pushedState
  rw [PyM.bind_error (mergeDps_error h)]

theorem pushedState_unmapped {dps : Dps} {e : PyErr} (h : parseDps J payload = .ok dps)
    (hmap : stateFromDps d.deviceId (s.rawDps.setAll dps.items) m = .error e) :
    pushedState J d m payload s = (.error e, { s with rawDps := s.rawDps.setAll dps.items }) := by
  unfold pushedState
  rw [PyM.bind_ok (mergeDps_ok h), PyM.get_bind, hmap]
  rfl

theorem pushedState_ok {dps : Dps} {state : LightState} (h : parseDps J payload = .ok dps)
    (hmap : stateFromDps d.deviceId (s.rawDps.setAll dps.items) m = .ok state) :
    pushedState J d m payload s =
      (.ok (revisioned s.state state), { s with rawDps := s.rawDps.setAll dps.items }) := by
  unfold pushedState
  rw [PyM.bind_ok (mergeDps_ok h), PyM.get_bind, hmap]
  rfl

/-- With a mapping, a push that raised within the `try` block is handled if the driver's own class
of errors was raised. -/
theorem applyStatus_error_iff (hm : d.dps = some m) {e : PyErr}
    (h : pushedState J d m payload s = (.error e, t)) :
    (applyStatus J answer d payload s).1 = .ok () ↔ IsTuyaProtocolError e := by
  have hrun := orIgnore_error h
  unfold applyStatus IsTuyaProtocolError
  rw [hm]
  cases he : e.isA tuyaProtocolErrorClass with
  | true =>
    rw [he, if_pos rfl] at hrun
    show ((orIgnore (pushedState J d m payload) >>= _) s).1 = _ ↔ _
    rw [PyM.bind_ok hrun]
    exact ⟨fun _ => rfl, fun _ => rfl⟩
  | false =>
    rw [he, if_neg nofun] at hrun
    show ((orIgnore (pushedState J d m payload) >>= _) s).1 = _ ↔ _
    rw [PyM.bind_error hrun]
    exact ⟨nofun, nofun⟩

theorem applyStatus_ok (hm : d.dps = some m) {state : LightState}
    (h : pushedState J d m payload s = (.ok state, t)) :
    applyStatus J answer d payload s =
      notify answer (callbacksOf t d) { t with state := some state } := by
  unfold applyStatus
  rw [hm]
  show (orIgnore (pushedState J d m payload) >>= _) s = _
  rw [PyM.bind_ok (orIgnore_ok h)]
  rfl

theorem applyStatus_ok_iff (hm : d.dps = some m) :
    (applyStatus J answer d payload s).1 = .ok () ↔
      WithinJsonLimits J payload ∧ ∀ dps, parseDps J payload = .ok dps →
        ¬ Unmappable m (s.rawDps.setAll dps.items) ∧
        ∀ state, stateFromDps d.deviceId (s.rawDps.setAll dps.items) m = .ok state →
          ∀ callback ∈ callbacksOf s d, Raises IsOrdinary (answer callback) := by
  rw [← parseDps_raises_iff]
  cases hparse : parseDps J payload with
  | error e =>
    rw [applyStatus_error_iff hm (pushedState_error hparse)]
    exact ⟨fun h => ⟨raises_error h, nofun⟩, fun h => h.1 e rfl⟩
  | ok dps =>
    have hmaps := stateFromDps_raises_iff d.id_ok.1 (s.rawDps.setAll dps.items) m
    cases hstate : stateFromDps d.deviceId (s.rawDps.setAll dps.items) m with
    | error e =>
      rw [hstate] at hmaps
      rw [applyStatus_error_iff hm (pushedState_unmapped hparse hstate)]
      constructor
      · intro h
        refine ⟨raises_ok dps, ?_⟩
        rintro _ ⟨⟩
        exact ⟨hmaps.mp (raises_error h), by rw [hstate]; exact nofun⟩
      · intro h
        exact hmaps.mpr (h.2 dps rfl).1 e rfl
    | ok state =>
      rw [hstate] at hmaps
      rw [applyStatus_ok hm (pushedState_ok hparse hstate), notify_ok_iff]
      constructor
      · intro h
        refine ⟨raises_ok dps, ?_⟩
        rintro _ ⟨⟩
        exact ⟨hmaps.mp (raises_ok state), fun _ _ => h⟩
      · intro h
        exact (h.2 dps rfl).2 state hstate

theorem handleStatus_ok_iff {frame : TuyaFrame} (hd : s.device = some d) (hm : d.dps = some m) :
    (handleStatus C J answer sessionKey frame s).1 = .ok () ↔
      Digestible C J answer sessionKey frame s d m := by
  have hdevice : deviceOf s = .ok d := by
    unfold deviceOf
    rw [hd]
  unfold handleStatus Digestible
  rw [PyM.get_bind, hdevice, PyM.outcome_ok_bind]
  cases hdecode : decodePayload C frame d.link.protocolVersion (keyBytes d.link) sessionKey with
  | error e =>
    refine ⟨nofun, ?_⟩
    rintro ⟨decoded, hok, -⟩
    cases hok
  | ok decoded =>
    rw [PyM.outcome_ok_bind, applyStatus_ok_iff hm]
    constructor
    · intro h
      exact ⟨decoded, rfl, h⟩
    · rintro ⟨_, ⟨⟩, h⟩
      exact h

end Handled

/-! ### Turns of the reader loop -/

/-- The loop goes on after a status frame exactly when the frame was handled. -/
theorem readerTurn_status {C : TuyaCrypto} {J : JsonLib} {answer : Nat → Except PyErr Unit}
    {sessionKey : Option Bytes} {frame : TuyaFrame} {s : ReaderState}
    (hcommand : frame.command = commandStatus)
    (h : (handleStatus C J answer sessionKey frame s.driver).1 = .ok ()) :
    readerTurn C J answer sessionKey (.ok frame) s =
      (.goesOn, { s with driver := (handleStatus C J answer sessionKey frame s.driver).2 }) := by
  unfold readerTurn
  dsimp only
  rw [if_pos hcommand, h]

/-! ## Main result -/

/-- **A status push is harmless exactly when it is digestible**: then `_handle_status` returns, the
loop goes on to the next frame and the pending requests keep their futures. -/
theorem status_handled_iff (C : TuyaCrypto) (J : JsonLib) (answer : Nat → Except PyErr Unit)
    (sessionKey : Option Bytes) (s : ReaderState) (d : TuyaDeviceConfig) (m : TuyaDpMapping)
    (frame : TuyaFrame) (hd : s.driver.device = some d) (hm : d.dps = some m)
    (hcommand : frame.command = commandStatus) :
    ((handleStatus C J answer sessionKey frame s.driver).1 = .ok () ∧
      (readerTurn C J answer sessionKey (.ok frame) s).1 = .goesOn ∧
      (readerTurn C J answer sessionKey (.ok frame) s).2.pending = s.pending ∧
      (readerTurn C J answer sessionKey (.ok frame) s).2.replies = s.replies) ↔
    Digestible C J answer sessionKey frame s.driver d m := by
  rw [← handleStatus_ok_iff hd hm]
  constructor
  · intro h
    exact h.1
  · intro h
    rw [readerTurn_status hcommand h]
    exact ⟨h, rfl, rfl, rfl⟩

/-! ### A push of an idle lamp and a push of one byte -/

/-- The lamp, with one request waiting. -/
def waitingReader : ReaderState where
  driver := Commands.lampState
  pending := ⟨[(2, 0)], by decide⟩
  replies := ⟨[(0, .waiting)], by decide⟩

theorem status_handled_off :
    (handleStatus .plain lampLib.toJsonLib (fun _ => .ok ()) none
      ⟨1, commandStatus, aesEncrypt .plain offReply (keyBytes lampLink)⟩ Commands.lampState).1 =
        .ok () := by
  refine ((status_handled_iff .plain lampLib.toJsonLib (fun _ => .ok ()) none waitingReader
    Commands.lamp lampMapping ⟨1, commandStatus, aesEncrypt .plain offReply (keyBytes lampLink)⟩ rfl
    rfl rfl).mpr ?_).1
  obtain ⟨hparse, -⟩ := offReply_maps Commands.lamp.deviceId (by decide)
  have hbrace : ∃ t, offReply = 0x7b :: t := ⟨_, rfl⟩
  obtain ⟨t, ht⟩ := hbrace
  have hcode : withoutRetcode offReply = offReply := by
    rw [ht]
    exact withoutRetcode_cons (by decide) t
  have hdecode : decodePayload .plain
      ⟨1, commandStatus, aesEncrypt .plain offReply (keyBytes lampLink)⟩ .v33 (keyBytes lampLink)
        none = .ok offReply := by
    rw [decodePayload_v33 (Or.inr rfl) (if_neg ?_), aesDecrypt_encrypt]
    rw [ht]
    exact not_startsWith_header .v33 (by decide) _
  refine ⟨offReply, hdecode, ?_, ?_⟩
  · rw [hcode, ← parseDps_raises_iff, hparse]
    exact raises_ok _
  · rw [hcode, hparse]
    rintro _ ⟨⟩
    refine ⟨?_, fun _ _ => nofun⟩
    rintro ⟨on, brightness, color, -, hbright, -, ⟨hformat, -⟩ | ⟨-, hnot | ⟨-, w, v, hw, -⟩⟩⟩
    · cases hformat
    · cases hbright
      rcases hnot with h | h | h <;> cases h
    · cases hw

/-- A 3.3 status frame with one byte of payload, which is accepted as a frame, ends the reader task
and fails the waiting request. -/
theorem status_kills_reader :
    parseFrame .plain (frameBytes .plain 1 commandStatus [5] .v33 (keyBytes lampLink)) .v33
      (keyBytes lampLink) = .ok ⟨1, commandStatus, [5]⟩ ∧
    ¬ ((handleStatus .plain lampLib.toJsonLib (fun _ => .ok ()) none ⟨1, commandStatus, [5]⟩
        waitingReader.driver).1 = .ok () ∧
      (readerTurn .plain lampLib.toJsonLib (fun _ => .ok ()) none (.ok ⟨1, commandStatus, [5]⟩)
        waitingReader).1 = .goesOn ∧
      (readerTurn .plain lampLib.toJsonLib (fun _ => .ok ()) none (.ok ⟨1, commandStatus, [5]⟩)
        waitingReader).2.pending = waitingReader.pending ∧
      (readerTurn .plain lampLib.toJsonLib (fun _ => .ok ()) none (.ok ⟨1, commandStatus, [5]⟩)
        waitingReader).2.replies = waitingReader.replies) := by
  constructor
  · exact parseFrame_eq_ok_iff.mpr ⟨sampleFrames_encodable _ List.mem_cons_self, rfl⟩
  · rintro ⟨h, -⟩
    have herror : (handleStatus .plain lampLib.toJsonLib (fun _ => .ok ()) none
        ⟨1, commandStatus, [5]⟩ waitingReader.driver).1 = .error (valueError
          "The length of the provided data is not a multiple of the block length.") := rfl
    rw [herror] at h
    cases h

end Linker
