import OpenHdoLinker.Tuya.Status
import OpenHdoLinker.Tuya.Confirmed

/-!
# How the driver fails on what a device sends

Reading the data points of a reply, mapping them and checking values raise a
`ValueError`, the `RecursionError` of the JSON decoder or, for an infinite number, an
`OverflowError`.  A call of the driver raises these and what its exchange raises.

    Raises IsDataError (stateFromDps …)      (stateFromDps_dataError)
-/

namespace Linker

open Py

/-- A `ValueError`, a `RuntimeError` or an `OverflowError`. -/
def IsDataError (e : PyErr) : Prop :=
  e.isA .ValueError = true ∨ e.isA .RuntimeError = true ∨ e.isA .OverflowError = true

theorem IsDataError.ordinary {e : PyErr} (h : IsDataError e) : IsOrdinary e := by
  rcases h with h | h | h
  · exact isOrdinary_of_base h (by decide)
  · exact isOrdinary_of_base h (by decide)
  · exact isOrdinary_of_base h (by decide)

/-! ### Data points -/

section Data

theorem dataError_protocol {α : Type} (text : String) :
    Raises IsDataError (.error (tuyaProtocolError text) : Except PyErr α) :=
  raises_error (.inl rfl)

theorem dataError_configuration {α : Type} (text : String) :
    Raises IsDataError (.error (tuyaConfigurationError text) : Except PyErr α) :=
  raises_error (.inl rfl)

theorem dataError_value {α : Type} (text : String) :
    Raises IsDataError (.error (valueError text) : Except PyErr α) :=
  raises_error (.inl rfl)

theorem dataError_of_value {α : Type} {r : Except PyErr α}
    (h : Raises (fun e => e.isA .ValueError = true) r) : Raises IsDataError r :=
  h.mono fun _ he => .inl he

theorem scaleToDp_dataError (name : String) (low high : Nat) (value : Int) :
    Raises IsDataError (scaleToDp name low high value) := by
  refine raises_bind ?_ fun n _ => raises_ok _
  unfold boundedInt
  split
  · exact raises_ok _
  · exact dataError_configuration _

theorem numericDp_dataError (name : String) (v : Json) : Raises IsDataError (numericDp name v) := by
  unfold numericDp
  split
  · exact raises_ok _
  · unfold PyFloat.toInt
    split
    · exact raises_ok _
    · exact dataError_value _
    · exact raises_error (.inr (.inr rfl))
  · exact dataError_protocol _

theorem scaleFromDp_dataError (name : String) (low high : Nat) (v : Json) :
    Raises IsDataError (scaleFromDp name low high v) := by
  refine raises_bind (numericDp_dataError name v) fun n _ => ?_
  split
  · exact raises_ok _
  · exact dataError_protocol _

theorem valueErrorAs_dataError {α : Type} (text : String) {r : Except PyErr α}
    (h : Raises IsDataError r) : Raises IsDataError (valueErrorAs text r) := by
  unfold valueErrorAs
  split
  · exact raises_ok _
  · split
    · exact dataError_protocol _
    · exact h

theorem decodeColor_dataError (m : TuyaDpMapping) (v : Json) :
    Raises IsDataError (m.decodeColor v) := by
  unfold TuyaDpMapping.decodeColor TuyaDpMapping.decodeColorIn
  split
  · exact dataError_protocol _
  · split
    · unfold TuyaDpMapping.decodeRgbHex
      split
      · exact dataError_protocol _
      · refine valueErrorAs_dataError _ ?_
        refine raises_bind (dataError_of_value (hexInt_raises _)) fun r _ => ?_
        refine raises_bind (dataError_of_value (hexInt_raises _)) fun g _ => ?_
        refine raises_bind (dataError_of_value (hexInt_raises _)) fun b _ => ?_
        exact dataError_of_value (rgbInit_raises _ _ _)
    · unfold TuyaDpMapping.decodeHsvHex
      split
      · exact dataError_protocol _
      · refine raises_bind (valueErrorAs_dataError _ ?_) fun hsv _ =>
          dataError_of_value (rgbInit_raises _ _ _)
        refine raises_bind (dataError_of_value (hexInt_raises _)) fun h _ => ?_
        refine raises_bind (dataError_of_value (hexInt_raises _)) fun s _ => ?_
        exact raises_bind (dataError_of_value (hexInt_raises _)) fun v _ => raises_ok _

theorem lightInit_dataError (deviceId : String) (available on : Bool) (rgb : Option Rgb)
    (brightness white : Option Int) (revision : Int) :
    Raises IsDataError (LightState.init deviceId available on rgb brightness white revision) := by
  unfold LightState.init
  repeat' split
  · exact raises_ok _
  all_goals exact dataError_value _

theorem stateFromDps_dataError (deviceId : String) (dps : Dps) (m : TuyaDpMapping) :
    Raises IsDataError (stateFromDps deviceId dps m) := by
  unfold stateFromDps
  split
  · exact dataError_protocol _
  · split
    · exact dataError_protocol _
    · split
      · refine raises_bind (decodeColor_dataError m _) fun rgb _ => ?_
        refine raises_bind (scaleFromDp_dataError _ _ _ _) fun brightness _ => ?_
        refine raises_bind ?_ fun white _ => lightInit_dataError _ _ _ _ _ _ _
        unfold whiteOfDps TuyaDpMapping.whiteFromDp
        split
        · exact raises_ok _
        · split
          · exact raises_ok _
          · refine raises_map _ ?_
            split
            · exact scaleFromDp_dataError _ _ _ _
            · exact dataError_configuration _
      · exact dataError_protocol _

theorem parseDps_dataError (J : JsonLib) (payload : Bytes) :
    Raises IsDataError (parseDps J payload) := by
  unfold parseDps
  split
  · exact (dpsOfValue_raises _).mono fun e he => .inl (PyErr.isA_base he _ (by decide))
  · next e he =>
    split
    · exact dataError_protocol _
    · unfold JsonLib.loads at he
      cases hd : J.decode payload with
      | ok v => rw [hd] at he; cases he
      | error f =>
        rw [hd] at he
        cases he
        cases f with
        | malformed => exact raises_error (.inl rfl)
        | undecodable => exact raises_error (.inl rfl)
        | digitLimit => exact raises_error (.inl rfl)
        | tooDeep => exact raises_error (.inr (.inl rfl))

theorem writtenValues_dataError (m : TuyaDpMapping) (op : Operation) :
    Raises IsDataError (Commands.writtenValues m op) := by
  cases op with
  | turnOn => exact raises_ok _
  | turnOff => exact raises_ok _
  | setBrightness n => exact raises_map _ (scaleToDp_dataError _ _ _ _)
  | setRgb c => exact raises_ok _

theorem checkDevice_dataError (deviceId : Option String) :
    PyM.RaisesOnly IsDataError (checkDevice deviceId) := by
  refine PyM.raisesOnly_bind PyM.raisesOnly_get fun s => ?_
  refine PyM.raisesOnly_bind (PyM.raisesOnly_outcome ?_) fun d => ?_
  · unfold deviceOf
    split
    · exact raises_ok _
    · exact dataError_configuration _
  · split
    · exact PyM.raisesOnly_pure _
    · exact PyM.raisesOnly_raise (.inl rfl)

theorem mappingOf_dataError (d : TuyaDeviceConfig) : Raises IsDataError (mappingOf d) := by
  unfold mappingOf
  split
  · exact raises_ok _
  · exact dataError_configuration _

end Data

/-! ### Calls of the driver -/

section Calls

variable {P : PyErr → Prop}

theorem exchange_raises (command : Nat) (body : Json) {answer : Except PyErr Bytes}
    (h : Raises P answer) : PyM.RaisesOnly P (exchange command body answer) :=
  PyM.raisesOnly_bind (PyM.raisesOnly_modify _) fun _ => PyM.raisesOnly_outcome h

theorem checkDevice_raises (hP : ∀ e, IsDataError e → P e) (deviceId : Option String) :
    PyM.RaisesOnly P (checkDevice deviceId) :=
  fun s => (checkDevice_dataError deviceId s).mono hP

theorem pollState_raises (hP : ∀ e, IsDataError e → P e) (J : JsonLib) (deviceId : Option String)
    {reply : Except PyErr Bytes} (h : Raises P reply) :
    PyM.RaisesOnly P (pollState J deviceId reply) := by
  have hdata : ∀ {α : Type} {r : Except PyErr α}, Raises IsDataError r →
      PyM.RaisesOnly P (PyM.outcome r : PyM TuyaState α) :=
    fun hr => PyM.raisesOnly_outcome (hr.mono hP)
  refine PyM.raisesOnly_bind (checkDevice_raises hP _) fun d => ?_
  refine PyM.raisesOnly_bind (hdata (mappingOf_dataError d)) fun m => ?_
  refine PyM.raisesOnly_bind (exchange_raises _ _ h) fun payload => ?_
  refine PyM.raisesOnly_bind (hdata (parseDps_dataError J payload)) fun dps => ?_
  refine PyM.raisesOnly_bind (PyM.raisesOnly_modify _) fun _ => ?_
  refine PyM.raisesOnly_bind PyM.raisesOnly_get fun s => ?_
  refine PyM.raisesOnly_bind (hdata (stateFromDps_dataError _ _ _)) fun state => ?_
  exact PyM.raisesOnly_bind (PyM.raisesOnly_modify _) fun _ => PyM.raisesOnly_pure _

/-- A write fails with what the device's answers do. -/
theorem writeCommand_raises (hP : ∀ e, IsDataError e → P e) (J : JsonLib) {w : WriteOutcomes}
    (deviceId : Option String) {values : TuyaDpMapping → Except PyErr (List (Nat × Json))}
    (hvalues : ∀ m, Raises IsDataError (values m)) (hack : Raises P w.ack)
    (hreply : Raises P w.reply) : PyM.RaisesOnly P (writeCommand J w deviceId values) := by
  refine PyM.raisesOnly_bind (checkDevice_raises hP _) fun d => ?_
  refine PyM.raisesOnly_bind (PyM.raisesOnly_outcome ((mappingOf_dataError d).mono hP)) fun m => ?_
  refine PyM.raisesOnly_bind (PyM.raisesOnly_outcome ((hvalues m).mono hP)) fun vs => ?_
  refine PyM.raisesOnly_bind (exchange_raises _ _ hack) fun _ => ?_
  refine PyM.raisesOnly_bind (pollState_raises hP J _ hreply) fun state => ?_
  exact PyM.raisesOnly_bind (PyM.raisesOnly_modify _) fun _ => PyM.raisesOnly_pure _

end Calls

end Linker
