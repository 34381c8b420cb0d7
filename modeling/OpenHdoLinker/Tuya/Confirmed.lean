import OpenHdoLinker.Tuya.Driver
import OpenHdoLinker.Lib.Runs

/-!
# Applied results and what the device reports

A run of light commands handled by the boundary over the Tuya driver.  Every
command comes with what the device answers to it: an acknowledgement of the write
and a reply to the poll after it.  Between commands the driver and the binding
may change in any way (pairing, discovery, polls of the publisher); only the
journal is the boundary's own.

`setValues` reports whatever the poll returns, without comparing it with the
values it wrote.  So an applied result is a confirmed one exactly while the
device honours the writes it acknowledges:

    Always AppliedConfirmed run ↔ Meets Honoured run      (applied_confirmed_iff)
-/

namespace Linker.Commands

open Py

/-! ## Algorithm -/

/-- The data points an operation writes, as the boundary calls the driver for it. -/
def writtenValues (m : TuyaDpMapping) : Operation → Except PyErr (List (Nat × Json))
  | .turnOn => turnOnValues m none none none
  | .turnOff => .ok [(m.power, .bool false)]
  | .setBrightness n => (fun v => [(m.brightness, Json.int v)]) <$> m.brightnessToDp n
  | .setRgb c => .ok [(m.color, .str (m.encodeColor c))]

/-- The reply `dps` has the written value at a data point: the same boolean, an equal number, or
a text that decodes to the same colour. -/
def Agrees (m : TuyaDpMapping) (dps : Dps) (written : Nat × Json) : Prop :=
  match written.2 with
  | .bool b => dps.get? written.1 = some (.bool b)
  | .int n => ∃ v, dps.get? written.1 = some v ∧ v.eqInt n = true
  | .str text => ∃ v c, dps.get? written.1 = some v ∧ m.decodeColor v = .ok c ∧
      m.decodeColor (.str text) = .ok c
  | _ => False

section Session

variable (L : PyLib) (config : LinkerConfig) (stamps : Nat → Stamp)
variable (C : TuyaCrypto) (ipAddress : String → Option IpAddress)
variable (scan : Except PyErr (List DiscoveryItem)) (o : PairOutcomes)

/-- One command the boundary has answered: the system it met, what the device answered, and the
result. -/
structure Handled where
  before : System TuyaState
  command : Envelope
  outcomes : WriteOutcomes
  result : Envelope

structure Session where
  system : System TuyaState
  log : List Handled

inductive Event
  | command (command : Envelope) (outcomes : WriteOutcomes)
  | other (driver : TuyaState) (lightId deviceId : Option String)
      (descriptor : Option DeviceDescriptor)

def step (s : Session) : Event → Option Session
  | .command c w =>
    match handleCommand L config stamps (tuyaDriver C L.toJsonLib ipAddress scan o w) c s.system with
    | (.ok r, t) => some ⟨t, s.log ++ [⟨s.system, c, w, r⟩]⟩
    | (.error _, t) => some ⟨t, s.log⟩
  | .other driver light device descriptor =>
    some ⟨{ s.system with driver := driver,
                          boundary := ⟨light, device, descriptor, s.system.boundary.journal⟩ }, s.log⟩

theorem step_some (s : Session) (e : Event) :
    ∃ s', step L config stamps C ipAddress scan o s e = some s' := by
  unfold step
  cases e with
  | command c w =>
    dsimp only
    split
    · exact ⟨_, rfl⟩
    · exact ⟨_, rfl⟩
  | other _ _ _ _ => exact ⟨_, rfl⟩

/-- The process has just started: no command is in the journal. -/
def start (driver : TuyaState) (light device : Option String)
    (descriptor : Option DeviceDescriptor) : Session :=
  ⟨⟨⟨light, device, descriptor, Dict.empty⟩, driver, 0, []⟩, []⟩

/-! ## Statement -/

def IsApplied (payload : JsonObj) : Prop := getItem payload "status" = .str "applied"

def keyOf (h : Handled) : String :=
  (commandMetadata L h.before.boundary.lightId h.command).idempotencyKey

/-- The command was run on the device, not answered at once or from the journal. -/
def Ran (h : Handled) : Prop :=
  (∃ m, admitCommand L h.before.boundary.lightId h.command = .ok (.ok m)) ∧
    h.before.boundary.journal.get? (keyOf L h) = none

/-- In the poll after the write every written data point has the written value. -/
def Confirmed (h : Handled) : Prop :=
  ∃ d m op written reply dps, h.before.driver.device = some d ∧ d.dps = some m ∧
    planOperation h.command = .ok op ∧ writtenValues m op = .ok written ∧
    h.outcomes.reply = .ok reply ∧ parseDps L.toJsonLib reply = .ok dps ∧
    ∀ p ∈ written, Agrees m dps p

/-- The payload is the result of a run on the device, under this key, that was confirmed. -/
def ConfirmedRun (log : List Handled) (key : String) (payload : JsonObj) : Prop :=
  ∃ first ∈ log, Ran L first ∧ keyOf L first = key ∧ first.result.payload = payload ∧
    Confirmed L first

/-- Every applied result, replayed or not, comes from a run on the device that confirmed it. -/
def AppliedConfirmed (s : Session) : Prop :=
  ∀ h ∈ s.log, IsApplied h.result.payload → ConfirmedRun L s.log (keyOf L h) h.result.payload

/-- A reply that maps to a light state, with another value at a written data point. -/
def IgnoredWrite (deviceId : String) (m : TuyaDpMapping) (written : List (Nat × Json))
    (reply : Bytes) : Prop :=
  ∃ dps mapped, parseDps L.toJsonLib reply = .ok dps ∧ stateFromDps deviceId dps m = .ok mapped ∧
    ∃ p ∈ written, ¬ Agrees m dps p

/-- The device does not acknowledge a write of this command and then report another value. -/
def Honoured (s : Session) : Event → Prop
  | .command c w =>
    ∀ md op d m written ack reply,
      admitCommand L s.system.boundary.lightId c = .ok (.ok md) →
      s.system.boundary.journal.get? md.idempotencyKey = none → planOperation c = .ok op →
      s.system.driver.device = some d → s.system.boundary.deviceId = some d.deviceId →
      d.dps = some m → writtenValues m op = .ok written → w.ack = .ok ack → w.reply = .ok reply →
      ¬ IgnoredWrite L d.deviceId m written reply
  | .other _ _ _ _ => True

/-! ## Lemmas -/

/-! ### One write -/

/-- Each operation of the boundary is a write of its data points. -/
theorem runOperation_tuyaDriver (w : WriteOutcomes) (deviceId : Option String) (commandId : Uuid)
    (op : Operation) :
    runOperation (tuyaDriver C L.toJsonLib ipAddress scan o w) deviceId commandId op =
      writeCommand L.toJsonLib w deviceId fun m => writtenValues m op := by
  cases op <;> rfl

/-- A write that returns was acknowledged and followed by a poll that maps. -/
theorem writeCommand_run_ok {J : JsonLib} {w : WriteOutcomes} {deviceId : Option String}
    {values : TuyaDpMapping → Except PyErr (List (Nat × Json))} {s t : TuyaState}
    {state : LightState} (h : writeCommand J w deviceId values s = (.ok state, t)) :
    ∃ d m written ack reply dps mapped, s.device = some d ∧ deviceId = some d.deviceId ∧
      d.dps = some m ∧ values m = .ok written ∧ w.ack = .ok ack ∧ w.reply = .ok reply ∧
      parseDps J reply = .ok dps ∧ stateFromDps d.deviceId dps m = .ok mapped ∧
      state = revisioned s.state mapped := by
  unfold writeCommand at h
  obtain ⟨d, s₁, hcheck, hrest⟩ := PyM.bind_run_ok h
  obtain ⟨hdev, hid, rfl⟩ := checkDevice_run_ok hcheck
  obtain ⟨m, hm, hrest⟩ := PyM.outcome_bind_run_ok hrest
  obtain ⟨written, hw, hrest⟩ := PyM.outcome_bind_run_ok hrest
  unfold setValues at hrest
  obtain ⟨ack, s₂, hex, hrest⟩ := PyM.bind_run_ok hrest
  rw [exchange_apply] at hex
  obtain ⟨hack, rfl⟩ := Prod.mk.inj hex
  obtain ⟨state', s₃, hpoll, hrest⟩ := PyM.bind_run_ok hrest
  cases hrest
  obtain ⟨d', m', reply, dps, mapped, hd', -, hm', hreply, hdps, hmap, hstate⟩ :=
    pollState_run_ok J hpoll
  have hdd : d' = d := by
    have he : s.device = some d' := hd'
    rw [hdev] at he
    exact (Option.some.inj he).symm
  subst hdd
  have hmm : m' = m := Option.some.inj (hm'.symm.trans (mappingOf_eq_ok hm))
  subst hmm
  exact ⟨d', m', written, ack, reply, dps, mapped, hdev, hid, hm', hw, hack, hreply, hdps, hmap,
    hstate⟩

/-- An acknowledged write whose poll maps returns the mapped state, whatever it holds. -/
theorem writeCommand_ok {J : JsonLib} {w : WriteOutcomes}
    {values : TuyaDpMapping → Except PyErr (List (Nat × Json))} {s : TuyaState}
    {d : TuyaDeviceConfig} {m : TuyaDpMapping} {written : List (Nat × Json)} {ack reply : Bytes}
    {dps : Dps} {mapped : LightState} (hd : s.device = some d) (hm : d.dps = some m)
    (hw : values m = .ok written) (hack : w.ack = .ok ack) (hreply : w.reply = .ok reply)
    (hdps : parseDps J reply = .ok dps) (hmap : stateFromDps d.deviceId dps m = .ok mapped) :
    ∃ t, writeCommand J w (some d.deviceId) values s = (.ok (revisioned s.state mapped), t) := by
  have hmo : mappingOf d = .ok m := by unfold mappingOf; rw [hm]
  unfold writeCommand setValues
  rw [PyM.bind_ok (checkDevice_configured s d hd), hmo, PyM.outcome_ok_bind, hw,
    PyM.outcome_ok_bind, hack, hreply, PyM.bind_ok (exchange_apply _ _ _ _)]
  obtain ⟨t, ht⟩ := pollState_ok J (s := { s with requests := s.requests ++
    [(controlCommand d.link.protocolVersion, controlBody d w.now written)] }) hd hm hdps hmap
  rw [PyM.bind_ok ht]
  exact ⟨_, rfl⟩

/-! ### Payloads -/

theorem rejected_not_applied (m : CommandMetadata) (code message : String) :
    ¬ IsApplied (rejected m code message) := by
  intro h
  have hs : Json.str "rejected" = Json.str "applied" := h
  injection hs with hs
  exact absurd hs (by decide)

theorem failed_not_applied (m : CommandMetadata) : ¬ IsApplied (failed m) := by
  intro h
  have hs : Json.str "failed" = Json.str "applied" := h
  injection hs with hs
  exact absurd hs (by decide)

/-- Only a driver call that returned is reported as applied. -/
theorem driverPayload_applied {m : CommandMetadata} {r : Except PyErr LightState}
    (h : IsApplied (driverPayload m r)) : ∃ state, r = .ok state := by
  cases r with
  | ok state => exact ⟨state, rfl⟩
  | error e => exact absurd h (failed_not_applied m)

/-- A mapped state is reported as applied. -/
theorem statePayload_applied (md : CommandMetadata) (deviceId : String) (dps : Dps)
    (m : TuyaDpMapping) (mapped : LightState) (previous : Option LightState)
    (h : stateFromDps deviceId dps m = .ok mapped) :
    IsApplied (statePayload md (revisioned previous mapped)) := by
  obtain ⟨p, hp⟩ := revisioned_toPayload h previous (some md.lightId)
  unfold statePayload
  rw [hp]
  exact rfl

/-! ### The log and the journal -/

theorem keyOf_admitted {h : Handled} {m : CommandMetadata}
    (hadm : admitCommand L h.before.boundary.lightId h.command = .ok (.ok m)) :
    keyOf L h = m.idempotencyKey := by
  obtain ⟨rfl, -, -⟩ := admitCommand_ok L _ _ _ hadm
  rfl

/-- What holds of the log and the journal after every run. -/
structure Inv (s : Session) : Prop where
  applied : AppliedConfirmed L s
  journal : ∀ k p, s.system.boundary.journal.get? k = some p → IsApplied p →
    ConfirmedRun L s.log k p
  ran : ∀ h ∈ s.log, Ran L h → (s.system.boundary.journal.get? (keyOf L h)).isSome

theorem inv_start (driver : TuyaState) (light device : Option String)
    (descriptor : Option DeviceDescriptor) : Inv L (start driver light device descriptor) where
  applied _ hh := absurd hh List.not_mem_nil
  journal _ _ hk := by cases hk
  ran _ hh := absurd hh List.not_mem_nil

variable {L}

theorem ConfirmedRun.append {log : List Handled} {k : String} {p : JsonObj}
    (h : ConfirmedRun L log k p) (x : Handled) : ConfirmedRun L (log ++ [x]) k p := by
  obtain ⟨first, hf, hrest⟩ := h
  exact ⟨first, List.mem_append_left _ hf, hrest⟩

/-- A command answered without the device leaves the journal alone and repeats an entry, if it is
applied at all. -/
theorem Inv.answered {s : Session} (h : Inv L s) (t : System TuyaState) (x : Handled)
    (ht : t.boundary.journal = s.system.boundary.journal) (hx : ¬ Ran L x)
    (hp : IsApplied x.result.payload → ConfirmedRun L s.log (keyOf L x) x.result.payload) :
    Inv L ⟨t, s.log ++ [x]⟩ where
  applied := by
    intro y hy happ
    rcases List.mem_append.mp hy with hy | hy
    · exact (h.applied y hy happ).append x
    · rw [List.mem_singleton.mp hy] at happ ⊢
      exact (hp happ).append x
  journal := by
    intro k p hk happ
    rw [show t.boundary.journal.get? k = s.system.boundary.journal.get? k by rw [ht]] at hk
    exact (h.journal k p hk happ).append x
  ran := by
    intro y hy hran
    show (t.boundary.journal.get? (keyOf L y)).isSome
    rw [ht]
    rcases List.mem_append.mp hy with hy | hy
    · exact h.ran y hy hran
    · rw [List.mem_singleton.mp hy] at hran
      exact absurd hran hx

/-- A command that is not admitted is rejected. -/
theorem Inv.refused {s : Session} (h : Inv L s) {t : System TuyaState} {x : Handled}
    {payload : JsonObj} (ht : t.boundary = s.system.boundary)
    (hadm : admitCommand L x.before.boundary.lightId x.command = .ok (.error payload))
    (hp : x.result.payload = payload) : Inv L ⟨t, s.log ++ [x]⟩ := by
  refine h.answered t x (by rw [ht]) ?_ ?_
  · rintro ⟨⟨m, hm⟩, -⟩
    rw [hadm] at hm
    cases hm
  · intro happ
    obtain ⟨code, message, -, rfl⟩ := admitCommand_refused L _ _ _ hadm
    rw [hp] at happ
    exact absurd happ (rejected_not_applied _ code message)

/-- A command whose key is in the journal is answered from it. -/
theorem Inv.replayed {s : Session} (h : Inv L s) {t : System TuyaState} {x : Handled}
    {m : CommandMetadata} {cached : JsonObj} (ht : t.boundary = s.system.boundary)
    (hbefore : x.before = s.system)
    (hadm : admitCommand L x.before.boundary.lightId x.command = .ok (.ok m))
    (hcached : s.system.boundary.journal.get? m.idempotencyKey = some cached)
    (hp : x.result.payload = replay cached m) : Inv L ⟨t, s.log ++ [x]⟩ := by
  have hkey := keyOf_admitted L hadm
  refine h.answered t x (by rw [ht]) ?_ ?_
  · rintro ⟨-, hnone⟩
    rw [hkey, hbefore, hcached] at hnone
    cases hnone
  · intro happ
    rw [hkey]
    rw [hp] at happ ⊢
    unfold replay at happ ⊢
    split at happ
    · next hsame =>
      rw [if_pos hsame]
      exact h.journal _ _ hcached happ
    · exact absurd happ (rejected_not_applied m _ _)

/-- A command run on the device enters the journal with its result. -/
theorem Inv.executed {s : Session} (h : Inv L s) (t : System TuyaState) (x : Handled)
    (ht : t.boundary.journal = s.system.boundary.journal.set (keyOf L x) x.result.payload)
    (hx : Ran L x) (hp : IsApplied x.result.payload → Confirmed L x) :
    Inv L ⟨t, s.log ++ [x]⟩ := by
  have hnew : IsApplied x.result.payload →
      ConfirmedRun L (s.log ++ [x]) (keyOf L x) x.result.payload := fun happ =>
    ⟨x, List.mem_append_right _ (List.mem_singleton.mpr rfl), hx, rfl, rfl, hp happ⟩
  refine ⟨?_, ?_, ?_⟩
  · intro y hy happ
    rcases List.mem_append.mp hy with hy | hy
    · exact (h.applied y hy happ).append x
    · rw [List.mem_singleton.mp hy] at happ ⊢
      exact hnew happ
  · intro k p hk happ
    rw [show t.boundary.journal.get? k =
      (s.system.boundary.journal.set (keyOf L x) x.result.payload).get? k by rw [ht],
      Dict.get?_set] at hk
    split at hk
    · next he =>
      cases hk
      rw [he]
      exact hnew happ
    · exact (h.journal k p hk happ).append x
  · intro y hy hran
    show (t.boundary.journal.get? (keyOf L y)).isSome
    rw [ht, Dict.get?_set]
    split
    · rfl
    · next he =>
      rcases List.mem_append.mp hy with hy | hy
      · exact h.ran y hy hran
      · rw [List.mem_singleton.mp hy] at he
        exact absurd rfl he

/-- An applied result of an honoured write is confirmed by its poll. -/
theorem confirmed_of_honoured {s : Session} {c : Envelope} {w : WriteOutcomes}
    (hc : Honoured L s (.command c w)) {m : CommandMetadata} {r : Envelope} {u : System TuyaState}
    (hadm : admitCommand L s.system.boundary.lightId c = .ok (.ok m))
    (hfresh : s.system.boundary.journal.get? m.idempotencyKey = none)
    (hex : execute config stamps (tuyaDriver C L.toJsonLib ipAddress scan o w) c m s.system =
      (.ok r, u)) (happ : IsApplied r.payload) : Confirmed L ⟨s.system, c, w, r⟩ := by
  rcases execute_run_ok config stamps _ hex with ⟨e, -, hp⟩ | ⟨op, hplan, hp⟩
  · rw [hp] at happ
    exact absurd happ (rejected_not_applied m _ _)
  · rw [hp] at happ
    obtain ⟨state, hstate⟩ := driverPayload_applied happ
    rw [runOperation_tuyaDriver] at hstate
    obtain ⟨d, mp, written, ack, reply, dps, mapped, hd, hid, hm, hw, hack, hreply, hdps, hmap, -⟩ :=
      writeCommand_run_ok (Prod.ext hstate rfl)
    have hok := hc m op d mp written ack reply hadm hfresh hplan hd hid hm hw hack hreply
    refine ⟨d, mp, op, written, reply, dps, hd, hm, hplan, hw, hreply, hdps, ?_⟩
    intro p hpw
    by_contra hno
    exact hok ⟨dps, mapped, hdps, hmap, p, hpw, hno⟩

theorem step_inv {s s' : Session} {e : Event} (h : Inv L s) (hc : Honoured L s e)
    (hs : step L config stamps C ipAddress scan o s e = some s') : Inv L s' := by
  cases e with
  | other driver light device descriptor =>
    cases hs
    exact ⟨h.applied, h.journal, h.ran⟩
  | command c w =>
    unfold step at hs
    dsimp only at hs
    cases hrun : handleCommand L config stamps (tuyaDriver C L.toJsonLib ipAddress scan o w) c
      s.system with
    | mk out t =>
      rw [hrun] at hs
      cases out with
      | error e =>
        cases hs
        have hb := handleCommand_error L config stamps _ hrun
        refine ⟨h.applied, ?_, ?_⟩
        · show ∀ k p, t.boundary.journal.get? k = some p → _
          rw [hb]
          exact h.journal
        · show ∀ x ∈ s.log, Ran L x → (t.boundary.journal.get? (keyOf L x)).isSome
          rw [hb]
          exact h.ran
      | ok r =>
        cases hs
        rcases handleCommand_run_ok L config stamps _ hrun with
          ⟨payload, hadm, hp, hb⟩ | ⟨m, hadm, ⟨cached, hcached, hp, hb⟩ | ⟨hfresh, ⟨u, hex⟩, hj⟩⟩
        · exact h.refused (x := ⟨s.system, c, w, r⟩) hb hadm hp
        · exact h.replayed (x := ⟨s.system, c, w, r⟩) hb rfl hadm hcached hp
        · have hkey := keyOf_admitted L (h := ⟨s.system, c, w, r⟩) hadm
          refine h.executed t ⟨s.system, c, w, r⟩ ?_ ⟨⟨m, hadm⟩, ?_⟩ ?_
          · rw [hkey]
            exact hj
          · rw [hkey]
            exact hfresh
          · exact confirmed_of_honoured config stamps C ipAddress scan o hc hadm hfresh hex

/-- A write that was ignored is reported as applied and confirmed by no run of the log. -/
theorem honoured_of_step {s s' : Session} {e : Event} (h : Inv L s)
    (hs : step L config stamps C ipAddress scan o s e = some s') (hP : AppliedConfirmed L s') :
    Honoured L s e := by
  cases e with
  | other driver light device descriptor => trivial
  | command c w =>
    intro md op d m written ack reply hadm hfresh hplan hd hid hm hw hack hreply
    rintro ⟨dps, mapped, hdps, hmap, p, hpw, hno⟩
    obtain ⟨td, hwrite⟩ : ∃ td, writeCommand L.toJsonLib w (some d.deviceId)
        (fun m => writtenValues m op) s.system.driver =
          (.ok (revisioned s.system.driver.state mapped), td) :=
      writeCommand_ok hd hm hw hack hreply hdps hmap
    have hrun : runOperation (tuyaDriver C L.toJsonLib ipAddress scan o w) s.system.boundary.deviceId
        md.commandId op s.system.driver = (.ok (revisioned s.system.driver.state mapped), td) := by
      rw [runOperation_tuyaDriver, hid]
      exact hwrite
    obtain ⟨r, hr, hpay⟩ := handleCommand_fresh L config stamps _ hadm hfresh hplan hrun
    unfold step at hs
    dsimp only at hs
    rw [hr] at hs
    cases hs
    have happ : IsApplied r.payload := by
      rw [hpay]
      exact statePayload_applied md _ _ _ _ _ hmap
    have hkey := keyOf_admitted L (h := ⟨s.system, c, w, r⟩) hadm
    obtain ⟨first, hmem, hran, hfk, -, hconf⟩ := hP ⟨s.system, c, w, r⟩
      (List.mem_append_right _ (List.mem_singleton.mpr rfl)) happ
    rcases List.mem_append.mp hmem with hmem | hmem
    · -- an earlier run under this key would be in the journal
      have hsome := h.ran first hmem hran
      rw [hfk, hkey, hfresh] at hsome
      cases hsome
    · rw [List.mem_singleton.mp hmem] at hconf
      obtain ⟨d', m', op', written', reply', dps', hd', hm', hop', hw', hreply', hdps', hall⟩ := hconf
      have e1 : d' = d := Option.some.inj (hd'.symm.trans hd)
      subst e1
      have e2 : m' = m := Option.some.inj (hm'.symm.trans hm)
      subst e2
      have e3 : op' = op := Except.ok.inj (hop'.symm.trans hplan)
      subst e3
      have e4 : written' = written := Except.ok.inj (hw'.symm.trans hw)
      subst e4
      have e5 : reply' = reply := Except.ok.inj (hreply'.symm.trans hreply)
      subst e5
      have e6 : dps' = dps := Except.ok.inj (hdps'.symm.trans hdps)
      subst e6
      exact hno (hall p hpw)

/-! ## Main result -/

variable (L)

/-- **Applied means confirmed, exactly while the device honours its acknowledgements.** -/
theorem applied_confirmed_iff (driver : TuyaState) (light device : Option String)
    (descriptor : Option DeviceDescriptor) (es : List Event) :
    Runs.Always (step L config stamps C ipAddress scan o) (AppliedConfirmed L)
        (start driver light device descriptor) es ↔
      Runs.Meets (step L config stamps C ipAddress scan o) (Honoured L)
        (start driver light device descriptor) es := by
  refine Runs.always_iff_meets (I := Inv L) ?_ (fun s h => h.applied) ?_ es ?_
  · intro s e s' h hc hs
    exact step_inv config stamps C ipAddress scan o h hc hs
  · intro s e s' h hs hP
    exact honoured_of_step config stamps C ipAddress scan o h hs hP
  · exact inv_start L driver light device descriptor

end Session

/-! ## A lamp that acknowledges and stays off -/

def lamp : TuyaDeviceConfig where
  ip := "192.168.1.20"
  deviceId := "bf1234567890abcdef"
  link := lampLink
  dps := some lampMapping
  id_ok := by decide

def lampState : TuyaState where
  device := some lamp
  pairing := none
  statePath := none
  pairedLightId := none
  discoveryEnabled := false
  discovered := Dict.empty
  callbacks := Dict.empty
  rawDps := Dict.empty
  state := none
  file := none
  requests := []

/-- `light.command.power` with `power: true`. -/
def powerOn : Envelope :=
  serverMessage "light.command.power"
    [("light_id", .str "light.desk"), ("command_id", .str Stamp.zero.id.str),
      ("idempotency_key", .str "k1"), ("power", .bool true)] (by decide)

/-- An empty acknowledgement, then a poll reply with the lamp still off. -/
def acknowledgedOnly : WriteOutcomes := ⟨0, .ok [], .ok offReply⟩

def noPairing : PairOutcomes :=
  ⟨.ok (), .ok (), .ok [], .ok (), .ok (), .ok (), .ok (), .ok (), .ok ()⟩

theorem powerOn_admitted : admitCommand lampLib (some "light.desk") powerOn =
    .ok (.ok ⟨"light.desk", Stamp.zero.id, "k1", none⟩) := by
  have hid : requiredUuid lampLib powerOn.payload "command_id" = .ok Stamp.zero.id :=
    requiredUuid_str lampLib rfl
  have hm : commandMetadata lampLib (some "light.desk") powerOn =
      ⟨"light.desk", Stamp.zero.id, "k1", none⟩ := by
    unfold commandMetadata
    rw [hid]
    rfl
  unfold admitCommand
  rw [if_neg (by decide), if_neg nofun]
  dsimp only
  rw [hm]
  rfl

/-- The lamp is switched on, acknowledges, reports power off, and the result says applied. -/
theorem applied_unconfirmed :
    ¬ Runs.Always (step lampLib .default (fun _ => Stamp.zero) TuyaCrypto.plain (fun _ => none)
        (.ok []) noPairing) (AppliedConfirmed lampLib)
      (start lampState (some "light.desk") (some lamp.deviceId) none)
      [.command powerOn acknowledgedOnly] := by
  intro h
  obtain ⟨s', hs⟩ := step_some lampLib .default (fun _ => Stamp.zero) TuyaCrypto.plain
    (fun _ => none) (.ok []) noPairing (start lampState (some "light.desk") (some lamp.deviceId) none)
    (.command powerOn acknowledgedOnly)
  have hon := honoured_of_step _ _ _ _ _ _ (inv_start lampLib _ _ _ _) hs (h.2 s' hs)
  obtain ⟨hdps, mapped, hmap⟩ := offReply_maps lamp.deviceId (by decide)
  refine hon _ .turnOn lamp lampMapping [(1, .bool true)] [] offReply powerOn_admitted rfl rfl rfl rfl
    rfl rfl rfl rfl ⟨offDps, mapped, hdps, hmap, (1, .bool true), List.mem_singleton.mpr rfl, ?_⟩
  -- the write was `true`, the reply has `false`
  intro hag
  have hv : some (Json.bool false) = some (Json.bool true) := hag
  cases hv

end Linker.Commands
