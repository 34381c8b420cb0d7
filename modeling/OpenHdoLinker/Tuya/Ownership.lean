import OpenHdoLinker.Tuya.Life

/-!
# Whose values a state shows

A push brings some of the data points only, and the driver takes the others from what
it has stored.  `pair` turns the driver to another device, by its switch and by its
rollback, and leaves the store as it is.

    Always step OwnValues (start t) es ↔ Meets step FindsOwn (start t) es   (values_not_mixed)
-/

namespace Linker.Life

open Py

/-! ## Statement -/

/-- The values a state was read from were reported by the device of the state. -/
def OwnValues (s : LifeState) : Prop :=
  ∀ b ∈ s.built, ∀ source ∈ b.sources, source = some b.state.deviceId

/-- A push that makes a state finds the mapped values it does not bring as the device itself has
reported them: none is left from another device. -/
def FindsOwn (C : TuyaCrypto) (J : JsonLib) (s : LifeState) : LifeEvent → Prop
  | .push sessionKey frame => ∀ d m dps mapped, s.driver.device = some d → d.dps = some m →
      pushedDps C J s.driver sessionKey frame = .ok dps →
      stateFromDps d.deviceId (s.driver.rawDps.setAll dps.items) m = .ok mapped →
      ∀ k ∈ mappedDps m, dps.get? k = none → (s.driver.rawDps.get? k).isSome →
        s.owner k = some d.deviceId
  | _ => True

/-! ## Lemmas -/

/-! ### Sources -/

theorem mem_sourcesOf {t : TuyaState} {d : TuyaDeviceConfig} {m : TuyaDpMapping}
    (hd : t.device = some d) (hm : d.dps = some m) (owner : Nat → Option String)
    (source : Option String) :
    source ∈ sourcesOf t owner ↔
      ∃ k ∈ mappedDps m, (t.rawDps.get? k).isSome ∧ owner k = source := by
  have hmap : t.device.bind TuyaDeviceConfig.dps = some m := by rw [hd]; exact hm
  unfold sourcesOf
  rw [hmap]
  constructor
  · intro h
    obtain ⟨k, hk, rfl⟩ := List.mem_map.mp h
    obtain ⟨hmem, hsome⟩ := List.mem_filter.mp hk
    exact ⟨k, hmem, hsome, rfl⟩
  · rintro ⟨k, hk, hsome, rfl⟩
    exact List.mem_map.mpr ⟨k, List.mem_filter.mpr ⟨hk, hsome⟩, rfl⟩

/-- Merged data points win over the stored ones. -/
theorem merged_get? (raw dps : Dps) (k : Nat) :
    (raw.setAll dps.items).get? k = (dps.get? k).or (raw.get? k) :=
  Dict.get?_setAll_nodup raw dps.nodup k

/-! ### The invariant -/

/-- The connection goes to the configured device, and the states so far are its own. -/
structure Owned (s : LifeState) : Prop where
  own : OwnValues s
  peer : ∀ x, s.peer = some x → ∃ d, s.driver.device = some d ∧ d.deviceId = x

theorem owned_start (t : TuyaState) : Owned (start t) where
  own b hb := by cases hb
  peer := nofun

theorem Owned.sender {s : LifeState} (h : Owned s) {d : TuyaDeviceConfig}
    (hd : s.driver.device = some d) : s.sender = some d.deviceId := by
  unfold LifeState.sender
  cases hp : s.peer with
  | none => rw [hd]; rfl
  | some x =>
    obtain ⟨d', hd', hid⟩ := h.peer x hp
    cases hd.symm.trans hd'
    rw [hid]
    rfl

/-- A connection that goes to the sender goes to the configured device. -/
theorem Owned.peer_of_sender {s : LifeState} (h : Owned s) {peer : Option String}
    (hpeer : ∀ x, peer = some x → s.sender = some x) (x : String) (hx : peer = some x) :
    ∃ d, s.driver.device = some d ∧ d.deviceId = x := by
  have hs := hpeer x hx
  cases hd : s.driver.device with
  | some d =>
    rw [h.sender hd] at hs
    exact ⟨d, rfl, Option.some.inj hs⟩
  | none =>
    unfold LifeState.sender at hs
    cases hp : s.peer with
    | none =>
      rw [hp, hd] at hs
      cases hs
    | some y =>
      obtain ⟨d, hd', -⟩ := h.peer y hp
      rw [hd] at hd'
      cases hd'

/-- The state an operation makes is the device's own if its sources are. -/
theorem ownValues_after {s : LifeState} (h : OwnValues s) {report : Report} {made : Option LightState}
    {t : TuyaState}
    (hmade : ∀ st ∈ made, ∀ source ∈ sourcesOf t (report.owners s.sender s.owner),
      source = some st.deviceId) :
    OwnValues (s.after report made t) := by
  intro b hb
  rcases List.mem_append.mp hb with hb | hb
  · exact h b hb
  · cases made with
    | none => cases hb
    | some st =>
      cases List.mem_singleton.mp hb
      exact hmade st rfl

/-- What a state shows, read off the effect of the operation that made it. -/
theorem Effect.made_for {s t : TuyaState} {report : Report} {st : LightState}
    (h : Effect s report (some st) t) :
    ∃ d m mapped, s.device = some d ∧ t.device = some d ∧ d.dps = some m ∧
      stateFromDps d.deviceId t.rawDps m = .ok mapped ∧ st.deviceId = d.deviceId := by
  obtain ⟨d, m, mapped, hd, hm, hmap, rfl⟩ := h.reads st rfl
  exact ⟨d, m, mapped, hd, h.device.trans hd, hm, hmap,
    (revisioned_deviceId _ _).trans (stateFromDps_deviceId hmap)⟩

/-- A reply replaces the whole store, so the state it makes shows what the sender reported. -/
theorem Owned.replaced {s : LifeState} (h : Owned s) {reply : Except PyErr Dps}
    {made : Option LightState} {t : TuyaState} (ht : Effect s.driver (replacing reply) made t) :
    OwnValues (s.after (replacing reply) made t) := by
  refine ownValues_after h.own ?_
  rintro st ⟨⟩ source hsource
  obtain ⟨d, m, mapped, hd, htd, hm, -, hid⟩ := ht.made_for
  obtain ⟨k, -, hk, rfl⟩ := (mem_sourcesOf htd hm _ _).mp hsource
  cases reply with
  | error e => exact absurd rfl (ht.reported st rfl)
  | ok dps =>
    have hraw : t.rawDps = dps := ht.rawDps
    rw [hraw] at hk
    show (if (dps.get? k).isSome then s.sender else none) = some st.deviceId
    rw [if_pos hk, h.sender hd, hid]

section Steps

variable {C : TuyaCrypto} {J : JsonLib} {ipAddress : String → Option IpAddress}

theorem Owned.pushed {s : LifeState} (h : Owned s) {sessionKey : Option Bytes} {frame : TuyaFrame}
    (hc : FindsOwn C J s (.push sessionKey frame)) : OwnValues (pushStep C J s sessionKey frame) := by
  have ht := effect_push (C := C) (J := J) (s := s.driver) sessionKey frame
  refine ownValues_after h.own ?_
  intro st hst source hsource
  rw [Option.mem_def.mp hst] at ht
  obtain ⟨d, m, mapped, hd, htd, hm, hmap, hid⟩ := ht.made_for
  obtain ⟨k, hk, hsome, rfl⟩ := (mem_sourcesOf htd hm _ _).mp hsource
  cases hp : pushedDps C J s.driver sessionKey frame with
  | error e =>
    rw [hp] at ht
    exact absurd rfl (ht.reported st rfl)
  | ok dps =>
    rw [hp] at ht
    have hraw : (statusState C J sessionKey frame s.driver).2.rawDps =
        s.driver.rawDps.setAll dps.items := ht.rawDps
    rw [hraw] at hsome hmap
    show (if (dps.get? k).isSome then s.sender else s.owner k) = some st.deviceId
    rw [hid]
    cases hbrought : dps.get? k with
    | some v =>
      rw [Option.isSome_some, if_pos rfl]
      exact h.sender hd
    | none =>
      rw [merged_get?, hbrought] at hsome
      rw [if_neg nofun]
      exact hc d m dps mapped hd hm hp hmap k hk hbrought hsome

/-- A push with the data points for a state makes it. -/
theorem statusState_made {s : TuyaState} {sessionKey : Option Bytes} {frame : TuyaFrame}
    {d : TuyaDeviceConfig} {m : TuyaDpMapping} {dps : Dps} {mapped : LightState}
    (hd : s.device = some d) (hm : d.dps = some m)
    (hp : pushedDps C J s sessionKey frame = .ok dps)
    (hmap : stateFromDps d.deviceId (s.rawDps.setAll dps.items) m = .ok mapped) :
    (statusState C J sessionKey frame s).1 = .ok (some (revisioned s.state mapped)) := by
  have hdevice : deviceOf s = .ok d := by
    unfold deviceOf
    rw [hd]
  unfold pushedDps at hp
  rw [hdevice] at hp
  obtain ⟨_, ⟨⟩, hp⟩ := bind_eq_ok hp
  obtain ⟨decoded, hdec, hparse⟩ := bind_eq_ok hp
  unfold statusState
  rw [PyM.get_bind, hdevice, PyM.outcome_ok_bind, hdec, PyM.outcome_ok_bind, hm]
  dsimp only
  rw [PyM.bind_ok (orIgnore_ok (pushedState_ok hparse hmap))]
  rfl

/-- What a push that makes a state adds to the history. -/
theorem pushStep_built {s : LifeState} {sessionKey : Option Bytes} {frame : TuyaFrame}
    {d : TuyaDeviceConfig} {m : TuyaDpMapping} {dps : Dps} {mapped : LightState}
    (hd : s.driver.device = some d) (hm : d.dps = some m)
    (hp : pushedDps C J s.driver sessionKey frame = .ok dps)
    (hmap : stateFromDps d.deviceId (s.driver.rawDps.setAll dps.items) m = .ok mapped) :
    ∃ b ∈ (pushStep C J s sessionKey frame).built, b.state.deviceId = d.deviceId ∧
      ∀ k ∈ mappedDps m, dps.get? k = none → (s.driver.rawDps.get? k).isSome →
        s.owner k ∈ b.sources := by
  have ht := effect_push (C := C) (J := J) (s := s.driver) sessionKey frame
  have hmade := statusState_made hd hm hp hmap
  refine ⟨⟨revisioned s.driver.state mapped, sourcesOf (statusState C J sessionKey frame s.driver).2
    ((merging (pushedDps C J s.driver sessionKey frame)).owners s.sender s.owner)⟩, ?_, ?_, ?_⟩
  · unfold pushStep LifeState.after
    dsimp only
    rw [hmade]
    exact List.mem_append_right _ (List.mem_singleton.mpr rfl)
  · rw [hmade] at ht
    obtain ⟨d', -, -, hd', -, -, -, hid⟩ := ht.made_for
    cases hd.symm.trans hd'
    exact hid
  · intro k hk hbrought hsome
    rw [hp] at ht ⊢
    have hraw : (statusState C J sessionKey frame s.driver).2.rawDps =
        s.driver.rawDps.setAll dps.items := ht.rawDps
    refine (mem_sourcesOf (ht.device.trans hd) hm _ _).mpr ⟨k, hk, ?_, ?_⟩
    · rw [hraw, merged_get?, hbrought]
      exact hsome
    · show (if (dps.get? k).isSome then s.sender else s.owner k) = s.owner k
      rw [hbrought]
      rfl

/-- Values of another device that a push does not bring are mixed into the state it makes. -/
theorem push_findsOwn {s : LifeState} {sessionKey : Option Bytes} {frame : TuyaFrame}
    (h : OwnValues (pushStep C J s sessionKey frame)) : FindsOwn C J s (.push sessionKey frame) := by
  intro d m dps mapped hd hm hp hmap k hk hbrought hsome
  obtain ⟨b, hb, hid, hsources⟩ := pushStep_built hd hm hp hmap
  rw [h b hb _ (hsources k hk hbrought hsome), hid]

theorem step_owned {s t : LifeState} {e : LifeEvent} (h : Owned s) (hc : FindsOwn C J s e)
    (hs : step C J ipAddress s e = some t) : Owned t := by
  cases step_moves hs with
  | idles e t ht peer hpeer switching =>
    refine ⟨h.own, fun x hx => ?_⟩
    obtain ⟨d, hd, hid⟩ := h.peer_of_sender hpeer x hx
    exact ⟨d, ht.1.trans hd, hid⟩
  | works e reply made t ht peer hpeer switching =>
    refine ⟨h.replaced ht, fun x hx => ?_⟩
    obtain ⟨d, hd, hid⟩ := h.peer_of_sender hpeer x hx
    exact ⟨d, ht.device.trans hd, hid⟩
  | pushes sessionKey frame x hx =>
    refine ⟨h.pushed hc, fun x hx => ?_⟩
    obtain ⟨d, hd, hid⟩ := h.peer x hx
    exact ⟨d, (effect_push sessionKey frame).device.trans hd, hid⟩
  | switches candidateId d hd w => exact ⟨h.own, nofun⟩
  | rollsBack w hw => exact ⟨h.own, nofun⟩

/-- The condition fails only at a push that mixes. -/
theorem step_findsOwn {s t : LifeState} {e : LifeEvent} (hs : step C J ipAddress s e = some t)
    (h : OwnValues t) : FindsOwn C J s e := by
  cases e with
  | push sessionKey frame =>
    simp only [step] at hs
    obtain ⟨x, -, rfl⟩ := Option.map_eq_some_iff.mp hs
    exact push_findsOwn h
  | connect | disconnect | discover | poll | write | inspect | pairBegin | pairConnect | pairPoll
  | pairRollback => trivial

/-! ### A pairing that fails at its poll -/

/-- A reply without a light state is stored before the poll raises. -/
theorem pollState_unmapped {s : TuyaState} {d : TuyaDeviceConfig} {m : TuyaDpMapping}
    {payload : Bytes} {dps : Dps} {e : PyErr} (hd : s.device = some d) (hm : mappingOf d = .ok m)
    (hdps : parseDps J payload = .ok dps) (hmap : stateFromDps d.deviceId dps m = .error e) :
    ∃ t, pollState J (some d.deviceId) (.ok payload) s = (.error e, t) ∧ t.rawDps = dps := by
  unfold pollState
  rw [PyM.bind_ok (checkDevice_configured s d hd), hm, PyM.outcome_ok_bind,
    PyM.bind_ok (exchange_apply _ _ _ _), hdps, PyM.outcome_ok_bind, PyM.modify_bind,
    PyM.get_bind, hmap]
  exact ⟨_, rfl, rfl⟩

/-- After a pairing whose reply makes no state the driver has its device back, and the values of the
candidate. -/
theorem run_unsuitable {s : LifeState} {candidateId : String} {d : TuyaDeviceConfig}
    {m : TuyaDpMapping} {payload : Bytes} {dps : Dps} {e : PyErr} (o : PairOutcomes)
    (hw : s.switching = none) (hd : pairTarget ipAddress s.driver candidateId = .ok d)
    (hm : mappingOf d = .ok m) (ho : o.exchange = .ok payload) (hdps : parseDps J payload = .ok dps)
    (hmap : stateFromDps d.deviceId dps m = .error e) :
    ∃ t, t.device = s.driver.device ∧ t.rawDps = dps ∧
      Runs.run (step C J ipAddress) s
          [.pairBegin candidateId (.ok ()), .pairConnect (.ok ()), .pairPoll o,
            .pairRollback (.ok ())] =
        some ⟨t, none, none, (Report.replace dps).owners (some d.deviceId) s.owner, s.built⟩ := by
  obtain ⟨t, ht, hraw⟩ := pollState_unmapped (J := J) (s := switchTo d s.driver) rfl hm hdps hmap
  have hpolled : polledDps J (switchTo d s.driver) (some d.deviceId) (.ok payload) = .ok dps := by
    rw [polledDps_device rfl hm]
    exact hdps
  refine ⟨rollBack s.driver.device s.driver.pairedLightId t, rfl, hraw, ?_⟩
  simp only [Runs.run, step, hw, hd, pairPollStep, pollStep, ho, ht, hpolled, LifeState.after,
    Except.toOption, Option.map_none, Option.toList_none, List.append_nil]
  rfl

end Steps

/-! ## Main result -/

/-- **No mixing of devices, exactly as long as no push finds values of another device**: along every
run, each state was read from what its own device reported if and only if every push that makes a
state finds the values it does not bring as reported by its own device. -/
theorem values_not_mixed (C : TuyaCrypto) (J : JsonLib) (ipAddress : String → Option IpAddress)
    (t : TuyaState) (es : List LifeEvent) :
    Runs.Always (step C J ipAddress) OwnValues (start t) es ↔
      Runs.Meets (step C J ipAddress) (FindsOwn C J) (start t) es := by
  refine Runs.always_iff_meets (I := Owned) ?_ ?_ ?_ es (owned_start t)
  · intro s e s' hi hc hs
    exact step_owned hi hc hs
  · intro s hi
    exact hi.own
  · intro s e s' _ hs h
    exact step_findsOwn hs h

/-! ## A pairing with an unsuitable device -/

/-- The reply of a device that reports no power. -/
def colorReply : Bytes := utf8 "\x7b\"dps\":\x7b\"2\":10,\"3\":\"ff0000\"\x7d\x7d"

def colorDps : Dps := ⟨[(2, .int 10), (3, .str "ff0000")], by decide⟩

/-- A push of the power alone. -/
def powerPush : Bytes := utf8 "\x7b\"dps\":\x7b\"1\":true\x7d\x7d"

def powerDps : Dps := ⟨[(1, .bool true)], by decide⟩

def partialLib : JsonLib := .ofDecode fun b =>
  if b = colorReply then .ok (.obj [("dps", .obj [("2", .int 10), ("3", .str "ff0000")])])
  else if b = powerPush then .ok (.obj [("dps", .obj [("1", .bool true)])])
  else .error .malformed

theorem colorReply_dps : parseDps partialLib colorReply = .ok colorDps := by
  have hdecode : partialLib.decode colorReply =
      .ok (.obj [("dps", .obj [("2", .int 10), ("3", .str "ff0000")])]) := by
    unfold partialLib
    dsimp only [JsonLib.ofDecode]
    rw [if_pos rfl]
  unfold parseDps
  rw [JsonLib.loads_ok _ _ _ hdecode]
  rfl

theorem powerPush_dps : parseDps partialLib powerPush = .ok powerDps := by
  have hdecode : partialLib.decode powerPush = .ok (.obj [("dps", .obj [("1", .bool true)])]) := by
    unfold partialLib
    dsimp only [JsonLib.ofDecode]
    rw [if_neg (by decide), if_pos rfl]
  unfold parseDps
  rw [JsonLib.loads_ok _ _ _ hdecode]
  rfl

/-- The power of one device and the colour of another make a state. -/
theorem mixed_maps (deviceId : String) (h : deviceId ≠ "") :
    ∃ mapped, stateFromDps deviceId (colorDps.setAll powerDps.items) lampMapping = .ok mapped := by
  have hb : lampMapping.brightnessFromDp (.int 10) = .ok 0 :=
    scaleFromDp_low "brightness" 10 1000 (by decide)
  show ∃ mapped, (lampMapping.decodeColor (.str "ff0000") >>= fun rgb =>
    lampMapping.brightnessFromDp (.int 10) >>= fun brightness =>
      whiteOfDps (colorDps.setAll powerDps.items) lampMapping >>= fun white =>
        LightState.init deviceId true true (some rgb) (some brightness) white 0) =
          .ok mapped
  rw [hb]
  exact ⟨_, dif_pos h⟩

def powerFrame : TuyaFrame := ⟨1, commandStatus, aesEncrypt .plain powerPush (keyBytes lampLink)⟩

/-- A push of the lamp in the clear. -/
theorem plainFrame_dps {J : JsonLib} {s : TuyaState} {payload : Bytes} {dps : Dps}
    (hd : s.device = some Commands.lamp) (hbrace : ∃ tail, payload = 0x7b :: tail)
    (hparse : parseDps J payload = .ok dps) :
    pushedDps .plain J s none ⟨1, commandStatus, aesEncrypt .plain payload (keyBytes lampLink)⟩ =
      .ok dps := by
  obtain ⟨tail, htail⟩ := hbrace
  have hdecode : decodePayload .plain
      ⟨1, commandStatus, aesEncrypt .plain payload (keyBytes lampLink)⟩ .v33 (keyBytes lampLink) none =
        .ok payload := by
    rw [decodePayload_v33 (Or.inr rfl) (if_neg ?_), aesDecrypt_encrypt]
    rw [htail]
    exact not_startsWith_header .v33 (by decide) _
  have hcode : withoutRetcode payload = payload := by
    rw [htail]
    exact withoutRetcode_cons (by decide) tail
  have hdevice : deviceOf s = .ok Commands.lamp := by
    unfold deviceOf
    rw [hd]
  unfold pushedDps
  rw [hdevice]
  show (decodePayload .plain ⟨1, commandStatus, aesEncrypt .plain payload (keyBytes lampLink)⟩ .v33
    (keyBytes lampLink) none >>= fun decoded => parseDps J (withoutRetcode decoded)) = _
  rw [hdecode]
  show parseDps J (withoutRetcode payload) = _
  rw [hcode]
  exact hparse

theorem powerFrame_dps {s : TuyaState} (hd : s.device = some Commands.lamp) :
    pushedDps .plain partialLib s none powerFrame = .ok powerDps :=
  plainFrame_dps hd ⟨_, rfl⟩ powerPush_dps

/-- The lamp with a subscriber, after a scan that has found the other one. -/
def lampWatched : TuyaState :=
  { lampBeside .plain with callbacks := Dict.empty.set Commands.lamp.deviceId [0] }

/-- A pairing with a device that reports no power fails, the lamp is connected again and pushes its
power: its subscriber gets a state with the brightness and colour of the other device. -/
theorem values_mixed :
    ¬ Runs.Always (step .plain partialLib privateAddress) OwnValues (start lampWatched)
      [.pairBegin (candidateIdOf .plain "0123456789") (.ok ()), .pairConnect (.ok ()),
        .pairPoll { allWell with exchange := .ok colorReply }, .pairRollback (.ok ()),
        .connect true, .push none powerFrame] := by
  intro h
  obtain ⟨t, hdevice, hraw, hrun⟩ := run_unsuitable (C := .plain) (J := partialLib)
    (s := start lampWatched) { allWell with exchange := .ok colorReply } rfl
    (pairTarget_digit (C := .plain) rfl rfl) rfl rfl colorReply_dps rfl
  obtain ⟨mapped, hmap⟩ := mixed_maps Commands.lamp.deviceId (by decide)
  have hlast : Runs.run (step .plain partialLib privateAddress) (start lampWatched)
      ([.pairBegin (candidateIdOf .plain "0123456789") (.ok ()), .pairConnect (.ok ()),
        .pairPoll { allWell with exchange := .ok colorReply }, .pairRollback (.ok ())] ++
        [.connect true, .push none powerFrame]) =
      some (pushStep .plain partialLib ⟨t, none, some Commands.lamp.deviceId,
        (Report.replace colorDps).owners (some digitLamp.deviceId) fun _ => none, []⟩ none
        powerFrame) := by
    rw [Runs.run_append hrun]
    simp only [Runs.run, step, LifeState.peerAfter, LifeState.sender, hdevice]
    rfl
  have howner : some digitLamp.deviceId = some Commands.lamp.deviceId :=
    push_findsOwn (Runs.always_run h hlast) Commands.lamp lampMapping powerDps mapped hdevice rfl
      (powerFrame_dps hdevice) (by rw [hraw]; exact hmap) 2 (by decide) rfl (by rw [hraw]; rfl)
  exact absurd howner (by decide)

end Linker.Life
