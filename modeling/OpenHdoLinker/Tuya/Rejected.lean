import OpenHdoLinker.Lib.PyRel
import OpenHdoLinker.Tuya.Ownership

/-!
# What a rejected report leaves behind

`_handle_status` and `poll_state` store the data points of a report before they map them
to a state.  A report that cannot be mapped is dropped, or raises, with its values in the
store, where every later partial push builds on them.

    Rejected s a → (NoTrace s (takeIn s a) ↔ AddsNothing s a)   (rejected_leaves_no_trace_iff)
-/

namespace Linker.Life

open Py

/-! ## Algorithm -/

/-- A report of the device: a status push under the session key of the moment, or the outcome of the
exchange of a `poll_state`. -/
inductive Arrival
  | push (sessionKey : Option Bytes) (frame : TuyaFrame)
  | poll (deviceId : Option String) (reply : Except PyErr Bytes)

section Algorithm

variable (C : TuyaCrypto) (J : JsonLib)

/-- The driver after `_handle_status` or `poll_state`. -/
def takeIn (s : TuyaState) : Arrival → TuyaState
  | .push sessionKey frame => (statusState C J sessionKey frame s).2
  | .poll deviceId reply => (pollState J deviceId reply s).2

/-- The data points of a report. -/
def arrivedDps (s : TuyaState) : Arrival → Except PyErr Dps
  | .push sessionKey frame => pushedDps C J s sessionKey frame
  | .poll deviceId reply => polledDps J s deviceId reply

/-- What a sequence of pushes does: each publishes a state, is dropped, or raises. -/
def publish : List (Option Bytes × TuyaFrame) → TuyaState →
    List (Except PyErr (Option LightState))
  | [], _ => []
  | (sessionKey, frame) :: pushes, s =>
    let r := statusState C J sessionKey frame s
    r.1 :: publish pushes r.2

end Algorithm

/-! ## Statement -/

section Statement

variable (C : TuyaCrypto) (J : JsonLib) (s : TuyaState)

/-- A push is dropped; a poll raises once it has a reply.  Without a mapping a push that can be parsed
makes no state either, but is not dropped. -/
def Rejected : Arrival → Prop
  | .push sessionKey frame => (statusState C J sessionKey frame s).1 = .ok none ∧
      ∀ d dps, s.device = some d → d.dps = none → pushedDps C J s sessionKey frame ≠ .ok dps
  | .poll deviceId reply => (∃ d m payload, checked s deviceId = .ok d ∧ d.dps = some m ∧
      reply = .ok payload) ∧ ∃ e, (pollState J deviceId reply s).1 = .error e

/-- The store and the last state are what they were, and so is all that later pushes do. -/
structure NoTrace (t : TuyaState) : Prop where
  rawDps : ∀ i, t.rawDps.get? i = s.rawDps.get? i
  state : t.state = s.state
  later : ∀ pushes, publish C J pushes t = publish C J pushes s

/-- The report cannot be parsed, or the store has its values already: a push merges into the store, a
poll replaces it. -/
def AddsNothing (a : Arrival) : Prop :=
  ∀ dps, arrivedDps C J s a = .ok dps →
    match a with
    | .push _ _ => ∀ i v, dps.get? i = some v → s.rawDps.get? i = some v
    | .poll _ _ => ∀ i, dps.get? i = s.rawDps.get? i

end Statement

/-! ## Lemmas -/

section Same

variable {C : TuyaCrypto} {J : JsonLib} {s t : TuyaState}

/-- Two drivers no push can tell apart. -/
structure SameStore (s t : TuyaState) : Prop where
  device : t.device = s.device
  state : t.state = s.state
  rawDps : ∀ i, t.rawDps.get? i = s.rawDps.get? i

/-- A mapping reads single data points. -/
theorem stateFromDps_congr {raw raw' : Dps} (h : ∀ i, raw'.get? i = raw.get? i) (deviceId : String)
    (m : TuyaDpMapping) : stateFromDps deviceId raw' m = stateFromDps deviceId raw m := by
  have hwhite : whiteOfDps raw' m = whiteOfDps raw m := by
    unfold whiteOfDps
    simp only [h]
  unfold stateFromDps
  simp only [h, hwhite]

theorem SameStore.merged (h : SameStore s t) (dps : Dps) :
    SameStore { s with rawDps := s.rawDps.setAll dps.items }
      { t with rawDps := t.rawDps.setAll dps.items } where
  device := h.device
  state := h.state
  rawDps i := by
    show (t.rawDps.setAll dps.items).get? i = (s.rawDps.setAll dps.items).get? i
    rw [merged_get?, merged_get?, h.rawDps]

theorem SameStore.deviceOf (h : SameStore s t) : deviceOf s = deviceOf t := by
  unfold Linker.deviceOf
  rw [h.device]

/-! ### Two drivers take the same push -/

theorem match_orIgnore {α : Type} {m n : PyM TuyaState α} (h : Match SameStore Eq Eq m n) :
    Match SameStore Eq Eq (orIgnore m) (orIgnore n) := by
  unfold orIgnore
  apply match_tryExcept
  · exact match_map h fun a b hab => congrArg some hab
  · rintro e _ rfl
    split
    · exact match_pure rfl
    · exact match_raise rfl

theorem match_mergeDps (payload : Bytes) :
    Match SameStore Eq Eq (mergeDps J payload) (mergeDps J payload) := by
  unfold mergeDps
  apply match_bind (match_outcome (alike_of_eq rfl))
  rintro dps _ rfl
  intro s t hs
  exact ⟨.ok rfl, hs.merged dps⟩

theorem match_pushedState (d : TuyaDeviceConfig) (m : TuyaDpMapping) (payload : Bytes) :
    Match SameStore Eq Eq (pushedState J d m payload) (pushedState J d m payload) := by
  unfold pushedState
  apply match_bind (match_mergeDps payload)
  rintro _ _ -
  apply match_bind match_get
  intro a b hab
  have hmaps : stateFromDps d.deviceId a.rawDps m = stateFromDps d.deviceId b.rawDps m :=
    (stateFromDps_congr hab.rawDps d.deviceId m).symm
  apply match_bind (match_outcome (alike_of_eq hmaps))
  rintro state _ rfl
  apply match_pure
  rw [hab.state]

/-- A push ends alike in both, and leaves them alike. -/
theorem match_statusState (sessionKey : Option Bytes) (frame : TuyaFrame) :
    Match SameStore Eq Eq (statusState C J sessionKey frame) (statusState C J sessionKey frame) := by
  unfold statusState
  apply match_bind match_get
  intro a b hab
  apply match_bind (match_outcome (alike_of_eq hab.deviceOf))
  rintro d _ rfl
  apply match_bind (match_outcome (alike_of_eq rfl))
  rintro decoded _ rfl
  cases d.dps with
  | none => exact match_map (match_orIgnore (match_mergeDps _)) fun _ _ _ => rfl
  | some m =>
    apply match_bind (match_orIgnore (match_pushedState d m _))
    rintro state _ rfl
    cases state with
    | none => exact match_pure rfl
    | some state =>
      intro s t hs
      exact ⟨.ok rfl, ⟨hs.device, rfl, hs.rawDps⟩⟩

/-- And so does every sequence of pushes. -/
theorem publish_same (h : SameStore s t) (pushes : List (Option Bytes × TuyaFrame)) :
    publish C J pushes t = publish C J pushes s := by
  induction pushes generalizing s t with
  | nil => rfl
  | cons push pushes ih =>
    obtain ⟨sessionKey, frame⟩ := push
    obtain ⟨halike, hstate⟩ := match_statusState (C := C) (J := J) sessionKey frame s t h
    show _ :: _ = _ :: _
    rw [← halike.eq, ih hstate]

/-- A push whose merged data points make no state is dropped. -/
theorem statusState_dropped {sessionKey : Option Bytes} {frame : TuyaFrame} {d : TuyaDeviceConfig}
    {m : TuyaDpMapping} {dps : Dps} {e : PyErr} (hd : s.device = some d) (hm : d.dps = some m)
    (hp : pushedDps C J s sessionKey frame = .ok dps)
    (hmap : stateFromDps d.deviceId (s.rawDps.setAll dps.items) m = .error e)
    (he : IsTuyaProtocolError e) : (statusState C J sessionKey frame s).1 = .ok none := by
  have hdevice : Linker.deviceOf s = .ok d := by
    unfold Linker.deviceOf
    rw [hd]
  unfold pushedDps at hp
  rw [hdevice] at hp
  obtain ⟨_, ⟨⟩, hp⟩ := bind_eq_ok hp
  obtain ⟨decoded, hdec, hparse⟩ := bind_eq_ok hp
  have hrun := orIgnore_error (pushedState_unmapped (d := d) (m := m) hparse hmap)
  rw [if_pos (show e.isA tuyaProtocolErrorClass = true from he)] at hrun
  unfold statusState
  rw [PyM.get_bind, hdevice, PyM.outcome_ok_bind, hdec, PyM.outcome_ok_bind, hm]
  dsimp only
  rw [PyM.bind_ok hrun]
  rfl

theorem publish_one (sessionKey : Option Bytes) (frame : TuyaFrame) :
    publish C J [(sessionKey, frame)] s = [(statusState C J sessionKey frame s).1] := rfl

/-! ### What a rejected report leaves -/

/-- What an arrival does to the store. -/
def reportOf (C : TuyaCrypto) (J : JsonLib) (s : TuyaState) : Arrival → Report
  | .push sessionKey frame => merging (pushedDps C J s sessionKey frame)
  | .poll deviceId reply => replacing (polledDps J s deviceId reply)

theorem effect_rejected {a : Arrival} (h : Rejected C J s a) :
    Effect s (reportOf C J s a) none (takeIn C J s a) := by
  cases a with
  | push sessionKey frame =>
    have heffect := effect_push (C := C) (J := J) (s := s) sessionKey frame
    rw [h.1] at heffect
    exact heffect
  | poll deviceId reply =>
    have heffect := effect_poll (J := J) (s := s) deviceId reply
    obtain ⟨-, e, he⟩ := h
    rw [he] at heffect
    exact heffect

/-- An operation that makes no state leaves no trace exactly when it leaves the store alone. -/
theorem noTrace_iff {report : Report} (h : Effect s report none t) :
    NoTrace C J s t ↔ ∀ i, (report.store s.rawDps).get? i = s.rawDps.get? i := by
  rw [← h.rawDps]
  constructor
  · intro hn
    exact hn.rawDps
  · intro hr
    exact ⟨hr, h.state, publish_same ⟨h.device, h.state, hr⟩⟩

/-- Merged data points change nothing exactly when they are in the store. -/
theorem merged_same_iff (raw dps : Dps) :
    (∀ i, (raw.setAll dps.items).get? i = raw.get? i) ↔
      ∀ i v, dps.get? i = some v → raw.get? i = some v := by
  constructor
  · intro h i v hv
    rw [← h i, merged_get?, hv]
    rfl
  · intro h i
    rw [merged_get?]
    cases hv : dps.get? i with
    | none => rfl
    | some v => exact (h i v hv).symm

end Same

/-! ## Main result -/

/-- **A rejected report leaves no trace exactly when it adds nothing**: the store, the last state and
all that later pushes publish are as before if and only if the report cannot be parsed or has only
values that the store has already. -/
theorem rejected_leaves_no_trace_iff (C : TuyaCrypto) (J : JsonLib) (s : TuyaState) (a : Arrival)
    (h : Rejected C J s a) : NoTrace C J s (takeIn C J s a) ↔ AddsNothing C J s a := by
  rw [noTrace_iff (effect_rejected h)]
  unfold AddsNothing
  cases a with
  | push sessionKey frame =>
    show (∀ i, ((merging (pushedDps C J s sessionKey frame)).store s.rawDps).get? i = _) ↔
      ∀ dps, pushedDps C J s sessionKey frame = .ok dps → _
    cases pushedDps C J s sessionKey frame with
    | error e => exact ⟨fun _ _ => nofun, fun _ _ => rfl⟩
    | ok dps =>
      show (∀ i, (s.rawDps.setAll dps.items).get? i = _) ↔ _
      rw [merged_same_iff]
      constructor
      · rintro hin _ ⟨⟩
        exact hin
      · intro hin
        exact hin dps rfl
  | poll deviceId reply =>
    show (∀ i, ((replacing (polledDps J s deviceId reply)).store s.rawDps).get? i = _) ↔
      ∀ dps, polledDps J s deviceId reply = .ok dps → _
    cases polledDps J s deviceId reply with
    | error e => exact ⟨fun _ _ => nofun, fun _ _ => rfl⟩
    | ok dps =>
      constructor
      · rintro hin _ ⟨⟩
        exact hin
      · intro hin
        exact hin dps rfl

/-! ### A push of a brightness out of range -/

/-- A push of the brightness alone, beyond the range of the lamp. -/
def brightPush : Bytes := utf8 "\x7b\"dps\":\x7b\"2\":5000\x7d\x7d"

def brightDps : Dps := ⟨[(2, .int 5000)], by decide⟩

def brightLib : JsonLib := .ofDecode fun b =>
  if b = brightPush then .ok (.obj [("dps", .obj [("2", .int 5000)])])
  else if b = powerPush then .ok (.obj [("dps", .obj [("1", .bool true)])])
  else .error .malformed

/-- The lamp, after a reply with all its data points. -/
def lampKnown : TuyaState := { Commands.lampState with rawDps := offDps }

def brightFrame : TuyaFrame := ⟨1, commandStatus, aesEncrypt .plain brightPush (keyBytes lampLink)⟩

theorem brightPush_dps : parseDps brightLib brightPush = .ok brightDps := by
  have hdecode : brightLib.decode brightPush = .ok (.obj [("dps", .obj [("2", .int 5000)])]) := by
    unfold brightLib
    dsimp only [JsonLib.ofDecode]
    rw [if_pos rfl]
  unfold parseDps
  rw [JsonLib.loads_ok _ _ _ hdecode]
  rfl

theorem powerAfter_dps : parseDps brightLib powerPush = .ok powerDps := by
  have hdecode : brightLib.decode powerPush = .ok (.obj [("dps", .obj [("1", .bool true)])]) := by
    unfold brightLib
    dsimp only [JsonLib.ofDecode]
    rw [if_neg (by decide), if_pos rfl]
  unfold parseDps
  rw [JsonLib.loads_ok _ _ _ hdecode]
  rfl

/-- No state is made of a brightness out of range. -/
theorem outOfRange_unmapped {raw : Dps} {on : Bool} (hpower : raw.get? 1 = some (.bool on))
    (hbright : raw.get? 2 = some (.int 5000)) (hcolor : raw.get? 3 = some (.str "ff0000")) :
    stateFromDps Commands.lamp.deviceId raw lampMapping =
      .error (tuyaProtocolError "brightness DP is outside configured range") := by
  unfold stateFromDps
  rw [show raw.get? lampMapping.power = _ from hpower,
    show raw.get? lampMapping.brightness = _ from hbright,
    show raw.get? lampMapping.color = _ from hcolor]
  rfl

/-- The lamp drops the brightness. -/
theorem brightFrame_rejected : Rejected .plain brightLib lampKnown (.push none brightFrame) := by
  refine ⟨?_, ?_⟩
  · exact statusState_dropped (d := Commands.lamp) (m := lampMapping) rfl rfl
      (plainFrame_dps rfl ⟨_, rfl⟩ brightPush_dps) (outOfRange_unmapped rfl rfl rfl)
      (isTuyaProtocolError _)
  · rintro d dps ⟨⟩ ⟨⟩

/-- A reply that is no JSON leaves no trace. -/
theorem unparsable_poll_leaves_no_trace :
    NoTrace .plain brightLib lampKnown
      (takeIn .plain brightLib lampKnown (.poll (some Commands.lamp.deviceId) (.ok []))) := by
  have hparse : parseDps brightLib [] = .error (tuyaProtocolError "Tuya payload is not valid JSON") :=
    rfl
  refine (rejected_leaves_no_trace_iff .plain brightLib lampKnown
    (.poll (some Commands.lamp.deviceId) (.ok [])) ⟨⟨_, _, _, rfl, rfl, rfl⟩, _, rfl⟩).mpr ?_
  intro dps hdps
  have herror : polledDps brightLib lampKnown (some Commands.lamp.deviceId) (.ok []) =
      parseDps brightLib [] := rfl
  rw [arrivedDps, herror, hparse] at hdps
  cases hdps

/-- After the brightness the power is dropped as well. -/
theorem powerFrame_dropped :
    (statusState .plain brightLib none powerFrame
      (takeIn .plain brightLib lampKnown (.push none brightFrame))).1 = .ok none := by
  have heffect := effect_rejected brightFrame_rejected
  have hpushed : pushedDps .plain brightLib lampKnown none brightFrame = .ok brightDps :=
    plainFrame_dps rfl ⟨_, rfl⟩ brightPush_dps
  have hraw : (takeIn .plain brightLib lampKnown (.push none brightFrame)).rawDps =
      offDps.setAll brightDps.items := by
    rw [heffect.rawDps, reportOf, hpushed]
    rfl
  have hpower : ((offDps.setAll brightDps.items).setAll powerDps.items).get? 1 =
      some (.bool true) := rfl
  have hmap := outOfRange_unmapped hpower rfl rfl
  rw [← hraw] at hmap
  exact statusState_dropped (d := Commands.lamp) (m := lampMapping) heffect.device rfl
    (plainFrame_dps heffect.device ⟨_, rfl⟩ powerAfter_dps) hmap (isTuyaProtocolError _)

/-- Without it the power makes a state. -/
theorem powerFrame_published :
    ∃ state, (statusState .plain brightLib none powerFrame lampKnown).1 = .ok (some state) := by
  obtain ⟨mapped, hmap⟩ : ∃ mapped, stateFromDps Commands.lamp.deviceId
      (offDps.setAll powerDps.items) lampMapping = .ok mapped := by
    have hb : lampMapping.brightnessFromDp (.int 10) = .ok 0 :=
      scaleFromDp_low "brightness" 10 1000 (by decide)
    show ∃ mapped, (lampMapping.decodeColor (.str "ff0000") >>= fun rgb =>
      lampMapping.brightnessFromDp (.int 10) >>= fun brightness =>
        whiteOfDps (offDps.setAll powerDps.items) lampMapping >>= fun white =>
          LightState.init Commands.lamp.deviceId true true (some rgb) (some brightness) white 0) =
            .ok mapped
    rw [hb]
    exact ⟨_, rfl⟩
  exact ⟨_, statusState_made (d := Commands.lamp) (m := lampMapping) rfl rfl
    (plainFrame_dps rfl ⟨_, rfl⟩ powerAfter_dps) hmap⟩

/-- The lamp pushes a brightness out of range, which is dropped, and then its power: nothing is
published, where without the dropped push a state would be. -/
theorem rejected_push_silences :
    Rejected .plain brightLib lampKnown (.push none brightFrame) ∧
      ¬ NoTrace .plain brightLib lampKnown
        (takeIn .plain brightLib lampKnown (.push none brightFrame)) ∧
      publish .plain brightLib [(none, powerFrame)]
        (takeIn .plain brightLib lampKnown (.push none brightFrame)) = [.ok none] ∧
      ∃ state, publish .plain brightLib [(none, powerFrame)] lampKnown = [.ok (some state)] := by
  obtain ⟨state, hstate⟩ := powerFrame_published
  have hafter : publish .plain brightLib [(none, powerFrame)]
      (takeIn .plain brightLib lampKnown (.push none brightFrame)) = [.ok none] := by
    rw [publish_one, powerFrame_dropped]
  have hbefore : publish .plain brightLib [(none, powerFrame)] lampKnown = [.ok (some state)] := by
    rw [publish_one, hstate]
  refine ⟨brightFrame_rejected, ?_, hafter, state, hbefore⟩
  intro h
  have hlater := h.later [(none, powerFrame)]
  rw [hafter, hbefore] at hlater
  cases hlater

end Linker.Life
