import OpenHdoLinker.Tuya.Light
import OpenHdoLinker.Tuya.Pairing
import OpenHdoLinker.Tuya.Status

/-!
# The life of a driver

One `TuyaLocalDriver` over its whole life: polls, writes, inspections, discoveries,
connections that come and go, pairings that may fail at any step, and the status
pushes of the device at the other end of the connection, also in the middle of a
pairing.  One operation runs at a time, as its callers see to; the pushes do not wait.

Every operation has one effect lemma: it replaces the store of data points, merges
into it or leaves it, and makes at most one state, with the revision after the last.

    Meets step NotReset (start t) es → Always step RevisionsIncrease (start t) es
                                                            (revisions_increase)
-/

namespace Linker.Life

open Py

/-! ## Algorithm -/

section Operations

variable (C : TuyaCrypto) (J : JsonLib) (ipAddress : String → Option IpAddress)

def inspectBody (d : TuyaDeviceConfig) (now : Int) : Json :=
  if d.link.protocolVersion = .v34 then .obj []
  else .obj [("devId", .str d.deviceId), ("uid", .str d.deviceId), ("t", .int now),
    ("dps", .obj [])]

/-- `inspect_dps()`; `now` is `int(time.time())`. -/
def inspectDps (now : Int) (reply : Except PyErr Bytes) : PyM TuyaState Dps := do
  let s ← PyM.get
  let d ← PyM.outcome (deviceOf s)
  let payload ← exchange (pollCommand d.link.protocolVersion) (inspectBody d now) reply
  let dps ← PyM.outcome (parseDps J payload)
  PyM.modify fun s => { s with rawDps := dps }
  pure dps

/-- `_handle_status(frame)` up to its subscribers, with the state they are given. -/
def statusState (sessionKey : Option Bytes) (frame : TuyaFrame) :
    PyM TuyaState (Option LightState) := do
  let s ← PyM.get
  let d ← PyM.outcome (deviceOf s)
  let decoded ← PyM.outcome
    (decodePayload C frame d.link.protocolVersion (keyBytes d.link) sessionKey)
  match d.dps with
  | none => (fun _ => none) <$> orIgnore (mergeDps J (withoutRetcode decoded))
  | some m => do
    let state ← orIgnore (pushedState J d m (withoutRetcode decoded))
    match state with
    | none => pure none
    | some state => do
      PyM.modify fun s => { s with state := some state }
      pure (some state)

/-! ### The steps of a pairing -/

/-- What `pair` looks up and builds before its first await. -/
def pairTarget (s : TuyaState) (candidateId : String) : Except PyErr TuyaDeviceConfig :=
  match s.discovered.get? candidateId with
  | none => .error (pairingError "candidate expired; run Find again")
  | some item =>
    match s.pairing with
    | none => .error (pairingError
        "pairing profile is missing; configure Linker local key and verified DP mapping")
    | some profile =>
      TuyaDeviceConfig.init ipAddress item.ip item.id.val profile.link (some profile.dps)

/-- The driver turns to the candidate. -/
def switchTo (d : TuyaDeviceConfig) (s : TuyaState) : TuyaState :=
  { s with device := some d, state := none }

/-- What follows the poll of a pairing. -/
def pairCommit (o : PairOutcomes) (candidateId : String) (previous : Option TuyaDeviceConfig)
    (d : TuyaDeviceConfig) : PyM TuyaState Unit := do
  savePairingState C o candidateId d
  PyM.modify fun s => { s with callbacks := moveCallbacks previous d s.callbacks }
  PyM.modify fun s => { s with pairedLightId := some candidateId }

/-- The driver turns back to the previous device. -/
def rollBack (previous : Option TuyaDeviceConfig) (light : Option String) (s : TuyaState) :
    TuyaState :=
  { s with device := previous, pairedLightId := light, state := none }

/-- `pair` is made of these steps. -/
theorem pair_eq (o : PairOutcomes) (candidateId : String) (s : TuyaState) :
    pair C J ipAddress o candidateId s = (do
      let d ← PyM.outcome (pairTarget ipAddress s candidateId)
      PyM.outcome o.disconnect
      PyM.modify (switchTo d)
      PyM.tryExcept
        (do
          PyM.outcome o.connect
          let _ ← pollState J (some d.deviceId) o.exchange
          pairCommit C o candidateId s.device d)
        (fun e => do
          PyM.outcome o.rollback
          PyM.modify (rollBack s.device s.pairedLightId)
          PyM.raise e)
      let t ← PyM.get
      let announced ← PyM.outcome (descriptor t (some candidateId))
      pure ⟨some announced, some d.deviceId⟩ : PyM TuyaState PairResult) s := by
  unfold pair pairTarget
  rw [PyM.get_bind]
  cases s.discovered.get? candidateId with
  | none => rfl
  | some item =>
    dsimp only
    cases s.pairing with
    | none => rfl
    | some profile => rfl

end Operations

/-! ### What an operation takes from the device -/

/-- The data points an operation stores. -/
inductive Report
  | nothing
  | replace (dps : Dps)
  | merge (dps : Dps)

def Report.store : Report → Dps → Dps
  | .nothing, raw => raw
  | .replace dps, _ => dps
  | .merge dps, raw => raw.setAll dps.items

/-- Who reported the values in the store, after `sender` has reported. -/
def Report.owners (sender : Option String) (owner : Nat → Option String) :
    Report → Nat → Option String
  | .nothing => owner
  | .replace dps => fun k => if (dps.get? k).isSome then sender else none
  | .merge dps => fun k => if (dps.get? k).isSome then sender else owner k

/-- The report of an operation that replaces the store, if it gets as far. -/
def replacing : Except PyErr Dps → Report
  | .ok dps => .replace dps
  | .error _ => .nothing

def merging : Except PyErr Dps → Report
  | .ok dps => .merge dps
  | .error _ => .nothing

section Reports

variable (C : TuyaCrypto) (J : JsonLib)

/-- `_check_device(device_id)`, on the driver as it is. -/
def checked (s : TuyaState) (deviceId : Option String) : Except PyErr TuyaDeviceConfig :=
  (checkDevice deviceId s).1

def polledDps (s : TuyaState) (deviceId : Option String) (reply : Except PyErr Bytes) :
    Except PyErr Dps := do
  let d ← checked s deviceId
  let _ ← mappingOf d
  let payload ← reply
  parseDps J payload

def writtenDps (s : TuyaState) (deviceId : Option String) (op : LightOp) (o : WriteOutcomes) :
    Except PyErr Dps := do
  let d ← checked s deviceId
  let m ← mappingOf d
  let _ ← opValues m op
  let _ ← o.ack
  let payload ← o.reply
  parseDps J payload

def inspectedDps (s : TuyaState) (reply : Except PyErr Bytes) : Except PyErr Dps := do
  let _ ← deviceOf s
  let payload ← reply
  parseDps J payload

def pushedDps (s : TuyaState) (sessionKey : Option Bytes) (frame : TuyaFrame) :
    Except PyErr Dps := do
  let d ← deviceOf s
  let decoded ← decodePayload C frame d.link.protocolVersion (keyBytes d.link) sessionKey
  parseDps J (withoutRetcode decoded)

end Reports

/-! ### Runs -/

/-- A call of `pair` after its first await: what it restores, and where it stands. -/
inductive Phase
  | connecting
  | polling
  | failing

structure Switching where
  candidateId : String
  previous : Option TuyaDeviceConfig
  previousLight : Option String
  device : TuyaDeviceConfig
  phase : Phase

/-- A state made for a device, and who reported the values it was read from. -/
structure Built where
  state : LightState
  sources : List (Option String)

/-- `peer`: the device at the other end of the connection.  `owner`: who reported the value a data
point has in the store.  `built`: the states made so far. -/
structure LifeState where
  driver : TuyaState
  switching : Option Switching
  peer : Option String
  owner : Nat → Option String
  built : List Built

/-- `connected`: the connection is up after the operation. -/
inductive LifeEvent
  | connect (connected : Bool)
  | disconnect
  | discover (scan : Except PyErr (List DiscoveryItem))
  | poll (deviceId : Option String) (reply : Except PyErr Bytes) (connected : Bool)
  | write (deviceId : Option String) (op : LightOp) (o : WriteOutcomes) (connected : Bool)
  | inspect (now : Int) (reply : Except PyErr Bytes) (connected : Bool)
  | push (sessionKey : Option Bytes) (frame : TuyaFrame)
  | pairBegin (candidateId : String) (disconnected : Except PyErr Unit)
  | pairConnect (connected : Except PyErr Unit)
  | pairPoll (o : PairOutcomes)
  | pairRollback (disconnected : Except PyErr Unit)

/-- The data points a mapping reads. -/
def mappedDps (m : TuyaDpMapping) : List Nat :=
  [m.power, m.brightness, m.color] ++ (m.white.map WhiteDp.dp).toList

/-- Who reported the mapped values of the store. -/
def sourcesOf (t : TuyaState) (owner : Nat → Option String) : List (Option String) :=
  match t.device.bind TuyaDeviceConfig.dps with
  | some m => ((mappedDps m).filter fun k => (t.rawDps.get? k).isSome).map owner
  | none => []

namespace LifeState

/-- The device a request goes to: the one connected, or the configured one. -/
def sender (s : LifeState) : Option String :=
  s.peer.or (s.driver.device.map TuyaDeviceConfig.deviceId)

/-- The connection after an operation that uses it. -/
def peerAfter (s : LifeState) (connected : Bool) : Option String :=
  if connected then s.sender else none

/-- An operation of the driver has led to `t`. -/
def after (s : LifeState) (report : Report) (made : Option LightState) (t : TuyaState) : LifeState :=
  { s with driver := t, owner := report.owners s.sender s.owner,
           built := s.built ++
            (made.map fun st => ⟨st, sourcesOf t (report.owners s.sender s.owner)⟩).toList }

end LifeState

section Machine

variable (C : TuyaCrypto) (J : JsonLib) (ipAddress : String → Option IpAddress)

def pollStep (s : LifeState) (deviceId : Option String) (reply : Except PyErr Bytes) : LifeState :=
  let r := pollState J deviceId reply s.driver
  s.after (replacing (polledDps J s.driver deviceId reply)) r.1.toOption r.2

def writeStep (s : LifeState) (deviceId : Option String) (op : LightOp) (o : WriteOutcomes) :
    LifeState :=
  let r := driverCall J o deviceId op s.driver
  s.after (replacing (writtenDps J s.driver deviceId op o)) r.1.toOption r.2

def inspectStep (s : LifeState) (now : Int) (reply : Except PyErr Bytes) : LifeState :=
  s.after (replacing (inspectedDps J s.driver reply)) none (inspectDps J now reply s.driver).2

def pushStep (s : LifeState) (sessionKey : Option Bytes) (frame : TuyaFrame) : LifeState :=
  let r := statusState C J sessionKey frame s.driver
  s.after (merging (pushedDps C J s.driver sessionKey frame)) (r.1.toOption.bind id) r.2

/-- The poll of a pairing and what follows it; any exception leads to the rollback. -/
def pairPollStep (s : LifeState) (w : Switching) (o : PairOutcomes) : LifeState :=
  let polled := pollStep J s (some w.device.deviceId) o.exchange
  match (pollState J (some w.device.deviceId) o.exchange s.driver).1 with
  | .error _ => { polled with switching := some { w with phase := .failing } }
  | .ok _ =>
    match pairCommit C o w.candidateId w.previous w.device polled.driver with
    | (.ok (), t) => { polled with driver := t, switching := none }
    | (.error _, t) => { polled with driver := t, switching := some { w with phase := .failing } }

/-- One operation at a time: the operations other than a push wait for the end of a pairing. -/
def step (s : LifeState) (e : LifeEvent) : Option LifeState :=
  match s.switching, e with
  | _, .push sessionKey frame => s.peer.map fun _ => pushStep C J s sessionKey frame
  | none, .connect connected => some { s with peer := s.peerAfter connected }
  | none, .disconnect => some { s with peer := none }
  | none, .discover scan => some { s with driver := (discover C scan s.driver).2 }
  | none, .poll deviceId reply connected =>
    some { pollStep J s deviceId reply with peer := s.peerAfter connected }
  | none, .write deviceId op o connected =>
    some { writeStep J s deviceId op o with peer := s.peerAfter connected }
  | none, .inspect now reply connected =>
    some { inspectStep J s now reply with peer := s.peerAfter connected }
  | none, .pairBegin candidateId disconnected =>
    match pairTarget ipAddress s.driver candidateId, disconnected with
    | .error _, _ => some s
    | .ok _, .error _ => some { s with peer := none }
    | .ok d, .ok () =>
      some { s with
        driver := switchTo d s.driver
        peer := none
        switching := some ⟨candidateId, s.driver.device, s.driver.pairedLightId, d, .connecting⟩ }
  | some w, .pairConnect connected =>
    match w.phase, connected with
    | .connecting, .ok () =>
      some { s with peer := s.sender, switching := some { w with phase := .polling } }
    | .connecting, .error _ => some { s with peer := none, switching := some { w with phase := .failing } }
    | _, _ => none
  | some w, .pairPoll o =>
    match w.phase with
    | .polling => some (pairPollStep C J s w o)
    | _ => none
  | some w, .pairRollback disconnected =>
    match w.phase, disconnected with
    | .failing, .ok () =>
      some { s with
        driver := rollBack w.previous w.previousLight s.driver
        peer := none
        switching := none }
    | .failing, .error _ => some { s with peer := none, switching := none }
    | _, _ => none
  | _, _ => none

def start (t : TuyaState) : LifeState := ⟨t, none, none, fun _ => none, []⟩

end Machine

/-! ## Statement -/

/-- The revisions of the states made for one device are strictly increasing. -/
def RevisionsIncrease (s : LifeState) : Prop :=
  s.built.Pairwise fun a b =>
    a.state.deviceId = b.state.deviceId → a.state.stateRevision < b.state.stateRevision

/-- No state has been made for the device. -/
def NeverBuilt (s : LifeState) (deviceId : String) : Prop :=
  ∀ b ∈ s.built, b.state.deviceId ≠ deviceId

/-- A pairing does not turn the driver, by its switch or by its rollback, to a device that has had a
state: both forget the last state, which holds the counter. -/
def NotReset (ipAddress : String → Option IpAddress) (s : LifeState) : LifeEvent → Prop
  | .pairBegin candidateId (.ok ()) =>
    ∀ d, pairTarget ipAddress s.driver candidateId = .ok d → NeverBuilt s d.deviceId
  | .pairRollback (.ok ()) =>
    ∀ w, s.switching = some w → ∀ d, w.previous = some d → NeverBuilt s d.deviceId
  | _ => True

instance (s : LifeState) (deviceId : String) : Decidable (NeverBuilt s deviceId) :=
  inferInstanceAs (Decidable (∀ b ∈ s.built, _))

theorem notReset_begin (ipAddress : String → Option IpAddress) (s : LifeState) (candidateId : String) :
    (∀ d ∈ (pairTarget ipAddress s.driver candidateId).toOption, NeverBuilt s d.deviceId) ↔
      NotReset ipAddress s (.pairBegin candidateId (.ok ())) := by
  unfold NotReset
  cases htarget : pairTarget ipAddress s.driver candidateId with
  | ok d => simp [Except.toOption, htarget]
  | error e => simp [Except.toOption, htarget]

theorem notReset_rollback (ipAddress : String → Option IpAddress) (s : LifeState) :
    (∀ d ∈ s.switching.bind Switching.previous, NeverBuilt s d.deviceId) ↔
      NotReset ipAddress s (.pairRollback (.ok ())) := by
  unfold NotReset
  cases s.switching with
  | none => simp
  | some w => simp

instance (ipAddress : String → Option IpAddress) (s : LifeState) : DecidablePred (NotReset ipAddress s)
  | .pairBegin candidateId (.ok ()) => decidable_of_iff _ (notReset_begin ipAddress s candidateId)
  | .pairRollback (.ok ()) => decidable_of_iff _ (notReset_rollback ipAddress s)
  | .pairBegin _ (.error _) | .pairRollback (.error _) | .connect _ | .disconnect | .discover _
  | .poll _ _ _ | .write _ _ _ _ | .inspect _ _ _ | .push _ _ | .pairConnect _ | .pairPoll _ =>
    isTrue trivial

/-! ## Lemmas -/

/-! ### The effect of each operation -/

/-- What an operation does to the driver: the device stays, the store takes the report, and a state
it makes is read off the store and becomes the last one. -/
structure Effect (s : TuyaState) (report : Report) (made : Option LightState) (t : TuyaState) :
    Prop where
  device : t.device = s.device
  rawDps : t.rawDps = report.store s.rawDps
  state : t.state = made.or s.state
  reads : ∀ st ∈ made, ∃ d m mapped, s.device = some d ∧ d.dps = some m ∧
    stateFromDps d.deviceId t.rawDps m = .ok mapped ∧ st = revisioned s.state mapped
  reported : ∀ st ∈ made, report ≠ .nothing

section Effects

variable {C : TuyaCrypto} {J : JsonLib} {s : TuyaState}

/-- An operation that makes no state. -/
theorem effect_silent {report : Report} {t : TuyaState} (hd : t.device = s.device)
    (hr : t.rawDps = report.store s.rawDps) (hs : t.state = s.state) : Effect s report none t where
  device := hd
  rawDps := hr
  state := hs
  reads st h := absurd h (Option.not_mem_none st)
  reported st h := absurd h (Option.not_mem_none st)

/-- An operation that ends before it stores anything. -/
theorem effect_nothing {t : TuyaState} (hd : t.device = s.device) (hr : t.rawDps = s.rawDps)
    (hs : t.state = s.state) : Effect s .nothing none t :=
  effect_silent hd hr hs

/-- The effect is one on the device, the store and the last state only. -/
theorem Effect.congr {s₁ t : TuyaState} {report : Report} {made : Option LightState}
    (hd : s₁.device = s.device) (hr : s₁.rawDps = s.rawDps) (hs : s₁.state = s.state)
    (h : Effect s₁ report made t) : Effect s report made t where
  device := h.device.trans hd
  rawDps := hr ▸ h.rawDps
  state := hs ▸ h.state
  reads st hst := by
    obtain ⟨d, m, mapped, hdev, hm, hmap, hrev⟩ := h.reads st hst
    exact ⟨d, m, mapped, hd ▸ hdev, hm, hmap, hs ▸ hrev⟩
  reported := h.reported

/-- What follows an operation without touching these parts belongs to it. -/
theorem Effect.trans {t u : TuyaState} {report : Report} {made : Option LightState}
    (h : Effect s report made t) (hd : u.device = t.device) (hr : u.rawDps = t.rawDps)
    (hs : u.state = t.state) : Effect s report made u where
  device := hd.trans h.device
  rawDps := hr.trans h.rawDps
  state := hs.trans h.state
  reads := hr ▸ h.reads
  reported := h.reported

theorem checkDevice_state (deviceId : Option String) (s : TuyaState) :
    (checkDevice deviceId s).2 = s := by
  unfold checkDevice
  rw [PyM.get_bind]
  cases deviceOf s with
  | error e => rfl
  | ok d =>
    rw [PyM.outcome_ok_bind]
    split
    · rfl
    · rfl

theorem checkDevice_checked {deviceId : Option String} {r : Except PyErr TuyaDeviceConfig}
    (h : checked s deviceId = r) : checkDevice deviceId s = (r, s) :=
  Prod.ext h (checkDevice_state deviceId s)

theorem device_of_checked {deviceId : Option String} {d : TuyaDeviceConfig}
    (h : checked s deviceId = .ok d) : s.device = some d :=
  (checkDevice_run_ok (checkDevice_checked h)).1

/-- An operation that asks for the values takes its effect from them, if it gets them. -/
theorem effect_asked {α : Type} (made : Except PyErr α → Option LightState) (command : Nat)
    (body : Json) (reply : Except PyErr Bytes) {k : Dps → PyM TuyaState α}
    (hmade : ∀ e, made (.error e) = none)
    (hk : ∀ dps, Effect s (.replace dps)
      (made (k dps { s with requests := s.requests ++ [(command, body)] }).1)
      (k dps { s with requests := s.requests ++ [(command, body)] }).2) :
    Effect s (replacing (reply >>= parseDps J))
      (made ((exchange command body reply >>= fun payload =>
        PyM.outcome (parseDps J payload) >>= k) s).1)
      ((exchange command body reply >>= fun payload =>
        PyM.outcome (parseDps J payload) >>= k) s).2 := by
  cases reply with
  | error e =>
    rw [PyM.bind_error (exchange_apply _ _ _ _), hmade]
    exact effect_nothing rfl rfl rfl
  | ok payload =>
    rw [PyM.bind_ok (exchange_apply _ _ _ _)]
    show Effect _ (replacing (parseDps J payload)) _ _
    cases hp : parseDps J payload with
    | error e =>
      rw [PyM.outcome_error_bind, hmade]
      exact effect_nothing rfl rfl rfl
    | ok dps =>
      rw [PyM.outcome_ok_bind]
      exact hk dps

theorem effect_poll (deviceId : Option String) (reply : Except PyErr Bytes) :
    Effect s (replacing (polledDps J s deviceId reply)) (pollState J deviceId reply s).1.toOption
      (pollState J deviceId reply s).2 := by
  unfold pollState polledDps
  cases hc : checked s deviceId with
  | error e =>
    rw [PyM.bind_error (checkDevice_checked hc)]
    exact effect_nothing rfl rfl rfl
  | ok d =>
    rw [PyM.bind_ok (checkDevice_checked hc)]
    show Effect _ (replacing (mappingOf d >>= fun _ => reply >>= parseDps J)) _ _
    cases hm : mappingOf d with
    | error e => exact effect_nothing rfl rfl rfl
    | ok m =>
      rw [PyM.outcome_ok_bind]
      refine effect_asked Except.toOption _ _ reply (fun _ => rfl) fun dps => ?_
      rw [PyM.modify_bind, PyM.get_bind]
      cases hst : stateFromDps d.deviceId dps m with
      | error e => exact effect_silent rfl rfl rfl
      | ok mapped =>
        refine ⟨rfl, rfl, rfl, ?_, fun _ _ => nofun⟩
        intro st h
        cases h
        exact ⟨d, m, mapped, device_of_checked hc, mappingOf_eq_ok hm, hst, rfl⟩

theorem polledDps_device {d : TuyaDeviceConfig} {m : TuyaDpMapping} (hd : s.device = some d)
    (hm : mappingOf d = .ok m) (reply : Except PyErr Bytes) :
    polledDps J s (some d.deviceId) reply = reply >>= parseDps J := by
  unfold polledDps checked
  rw [checkDevice_configured s d hd]
  show (mappingOf d >>= fun _ => reply >>= parseDps J) = _
  rw [hm]
  rfl

/-- A write of values and the poll after it. -/
theorem effect_setValues {d : TuyaDeviceConfig} {m : TuyaDpMapping} (hd : s.device = some d)
    (hm : mappingOf d = .ok m) (values : List (Nat × Json)) (o : WriteOutcomes) :
    Effect s (replacing (o.ack >>= fun _ => o.reply >>= parseDps J))
      (setValues J d o values s).1.toOption (setValues J d o values s).2 := by
  unfold setValues
  cases o.ack with
  | error e => exact effect_nothing rfl rfl rfl
  | ok ack =>
    obtain ⟨s₁, hs₁⟩ : ∃ s₁, exchange (controlCommand d.link.protocolVersion)
        (controlBody d o.now values) (.ok ack) s = (.ok ack, s₁) := ⟨_, rfl⟩
    have hfields : s₁.device = s.device ∧ s₁.rawDps = s.rawDps ∧ s₁.state = s.state := by
      cases hs₁
      exact ⟨rfl, rfl, rfl⟩
    rw [PyM.bind_ok hs₁]
    have hpoll := effect_poll (J := J) (s := s₁) (some d.deviceId) o.reply
    rw [polledDps_device (hfields.1.trans hd) hm] at hpoll
    refine Effect.congr hfields.1 hfields.2.1 hfields.2.2 ?_
    show Effect _ (replacing (o.reply >>= parseDps J)) _ _
    rw [PyM.bind_apply]
    cases hps : pollState J (some d.deviceId) o.reply s₁ with
    | mk r t =>
      rw [hps] at hpoll
      cases r with
      | error e => exact hpoll
      | ok st => exact ⟨hpoll.device, hpoll.rawDps, rfl, hpoll.reads, hpoll.reported⟩

theorem effect_write (deviceId : Option String) (op : LightOp) (o : WriteOutcomes) :
    Effect s (replacing (writtenDps J s deviceId op o)) (driverCall J o deviceId op s).1.toOption
      (driverCall J o deviceId op s).2 := by
  rw [driverCall_eq]
  unfold writeCommand writtenDps
  cases hc : checked s deviceId with
  | error e =>
    rw [PyM.bind_error (checkDevice_checked hc)]
    exact effect_nothing rfl rfl rfl
  | ok d =>
    rw [PyM.bind_ok (checkDevice_checked hc)]
    show Effect _ (replacing (mappingOf d >>= fun m => opValues m op >>= fun _ => o.ack >>= fun _ =>
      o.reply >>= parseDps J)) _ _
    cases hm : mappingOf d with
    | error e => exact effect_nothing rfl rfl rfl
    | ok m =>
      rw [PyM.outcome_ok_bind]
      dsimp only
      show Effect _ (replacing (opValues m op >>= fun _ => o.ack >>= fun _ =>
        o.reply >>= parseDps J)) _ _
      cases hv : opValues m op with
      | error e => exact effect_nothing rfl rfl rfl
      | ok values =>
        rw [PyM.outcome_ok_bind]
        exact effect_setValues (device_of_checked hc) hm values o

theorem effect_inspect (now : Int) (reply : Except PyErr Bytes) :
    Effect s (replacing (inspectedDps J s reply)) none (inspectDps J now reply s).2 := by
  unfold inspectDps inspectedDps
  rw [PyM.get_bind]
  cases hd : deviceOf s with
  | error e => exact effect_nothing rfl rfl rfl
  | ok d =>
    rw [PyM.outcome_ok_bind]
    exact effect_asked (fun _ => none) _ _ reply (fun _ => rfl)
      fun _ => effect_silent rfl rfl rfl

/-- An exception in the `try` block of a push is swallowed or leaves it; no state comes of it. -/
theorem orIgnore_error_cases {α : Type} {c : PyM TuyaState α} {t : TuyaState} {e : PyErr}
    (h : c s = (.error e, t)) : orIgnore c s = (.ok none, t) ∨ orIgnore c s = (.error e, t) := by
  rw [orIgnore_error h]
  split
  · exact Or.inl rfl
  · exact Or.inr rfl

theorem effect_push (sessionKey : Option Bytes) (frame : TuyaFrame) :
    Effect s (merging (pushedDps C J s sessionKey frame))
      ((statusState C J sessionKey frame s).1.toOption.bind id)
      (statusState C J sessionKey frame s).2 := by
  unfold statusState pushedDps
  rw [PyM.get_bind]
  cases hd : deviceOf s with
  | error e => exact effect_nothing rfl rfl rfl
  | ok d =>
    rw [PyM.outcome_ok_bind]
    show Effect _ (merging (decodePayload C frame d.link.protocolVersion (keyBytes d.link) sessionKey >>=
      fun decoded => parseDps J (withoutRetcode decoded))) _ _
    cases hdec : decodePayload C frame d.link.protocolVersion (keyBytes d.link) sessionKey with
    | error e => exact effect_nothing rfl rfl rfl
    | ok decoded =>
      rw [PyM.outcome_ok_bind]
      show Effect _ (merging (parseDps J (withoutRetcode decoded))) _ _
      cases hdps : d.dps with
      | none =>
        dsimp only
        rw [PyM.map_apply]
        cases hp : parseDps J (withoutRetcode decoded) with
        | error e =>
          rcases orIgnore_error_cases (s := s) (mergeDps_error hp) with h | h
          · rw [h]; exact effect_nothing rfl rfl rfl
          · rw [h]; exact effect_nothing rfl rfl rfl
        | ok dps =>
          rw [orIgnore_ok (mergeDps_ok hp)]
          exact effect_silent rfl rfl rfl
      | some m =>
        dsimp only
        cases hp : parseDps J (withoutRetcode decoded) with
        | error e =>
          rcases orIgnore_error_cases (s := s) (pushedState_error (d := d) (m := m) hp) with h | h
          · rw [PyM.bind_ok h]; exact effect_nothing rfl rfl rfl
          · rw [PyM.bind_error h]; exact effect_nothing rfl rfl rfl
        | ok dps =>
          cases hmap : stateFromDps d.deviceId (s.rawDps.setAll dps.items) m with
          | error e =>
            rcases orIgnore_error_cases (s := s) (pushedState_unmapped hp hmap) with h | h
            · rw [PyM.bind_ok h]; exact effect_silent rfl rfl rfl
            · rw [PyM.bind_error h]; exact effect_silent rfl rfl rfl
          | ok mapped =>
            rw [PyM.bind_ok (orIgnore_ok (pushedState_ok hp hmap))]
            refine ⟨rfl, rfl, rfl, ?_, fun _ _ => nofun⟩
            intro st h
            cases h
            exact ⟨d, m, mapped, deviceOf_eq_ok hd, hdps, hmap, rfl⟩

/-- The parts of the driver that discovery and the end of a pairing leave alone. -/
def SameLight (s t : TuyaState) : Prop :=
  t.device = s.device ∧ t.rawDps = s.rawDps ∧ t.state = s.state

theorem discover_sameLight (scan : Except PyErr (List DiscoveryItem)) :
    SameLight s (discover C scan s).2 := by
  have h : PyM.Preserves (SameLight s) (discover C scan) := by
    unfold discover
    refine PyM.preserves_bind (PyM.preserves_modify fun t ht => ht) fun _ => ?_
    refine PyM.preserves_bind PyM.preserves_get fun t => ?_
    split
    · exact PyM.preserves_pure _
    · refine PyM.preserves_bind (PyM.preserves_outcome _) fun found => ?_
      refine PyM.preserves_mapM _ fun item _ => ?_
      refine PyM.preserves_bind (PyM.preserves_modify fun t ht => ht) fun _ => ?_
      exact PyM.preserves_outcome _
  exact h s ⟨rfl, rfl, rfl⟩

theorem savePairingState_sameLight (o : PairOutcomes) (candidateId : String) (d : TuyaDeviceConfig) :
    PyM.Preserves (SameLight s) (savePairingState C o candidateId d) := by
  unfold savePairingState
  refine PyM.preserves_bind PyM.preserves_get fun t => ?_
  split
  · exact PyM.preserves_pure _
  · split
    · exact PyM.preserves_raise _
    · refine PyM.preserves_bind (PyM.preserves_outcome _) fun _ => ?_
      refine PyM.preserves_bind (PyM.preserves_outcome _) fun _ => ?_
      refine PyM.preserves_bind ?_ fun _ => PyM.preserves_modify fun t ht => ht
      refine PyM.preserves_tryExcept ?_ fun e => ?_
      · exact PyM.preserves_bind (PyM.preserves_outcome _) fun _ => PyM.preserves_outcome _
      · refine PyM.preserves_bind ?_ fun _ => PyM.preserves_raise _
        unfold unlinkTemporary
        refine PyM.preserves_tryExcept (PyM.preserves_outcome _) fun e => ?_
        split
        · exact PyM.preserves_pure _
        · exact PyM.preserves_raise _

theorem pairCommit_sameLight (o : PairOutcomes) (candidateId : String)
    (previous : Option TuyaDeviceConfig) (d : TuyaDeviceConfig) :
    SameLight s (pairCommit C o candidateId previous d s).2 := by
  have h : PyM.Preserves (SameLight s) (pairCommit C o candidateId previous d) := by
    unfold pairCommit
    refine PyM.preserves_bind (savePairingState_sameLight o candidateId d) fun _ => ?_
    exact PyM.preserves_bind (PyM.preserves_modify fun t ht => ht) fun _ =>
      PyM.preserves_modify fun t ht => ht
  exact h s ⟨rfl, rfl, rfl⟩

theorem notify_driver (answer : Nat → Except PyErr Unit) (callbacks : List Nat) :
    (notify answer callbacks s).2 = s := by
  have h : PyM.Preserves (fun t => t = s) (notify answer callbacks) := by
    induction callbacks with
    | nil => exact PyM.preserves_pure _
    | cons callback callbacks ih =>
      refine PyM.preserves_bind (PyM.preserves_tryExcept (PyM.preserves_outcome _) fun e => ?_)
        fun _ => ih
      split
      · exact PyM.preserves_pure _
      · exact PyM.preserves_raise _
  exact h s rfl

/-- Only the subscribers come after the state of a push, and they do not touch the driver. -/
theorem handleStatus_driver (answer : Nat → Except PyErr Unit) (sessionKey : Option Bytes)
    (frame : TuyaFrame) :
    (handleStatus C J answer sessionKey frame s).2 = (statusState C J sessionKey frame s).2 := by
  unfold handleStatus statusState applyStatus
  rw [PyM.get_bind, PyM.get_bind]
  cases hd : deviceOf s with
  | error e => rfl
  | ok d =>
    rw [PyM.outcome_ok_bind, PyM.outcome_ok_bind]
    cases decodePayload C frame d.link.protocolVersion (keyBytes d.link) sessionKey with
    | error e => rfl
    | ok decoded =>
      rw [PyM.outcome_ok_bind, PyM.outcome_ok_bind]
      cases d.dps with
      | none =>
        dsimp only
        rw [PyM.map_apply, PyM.map_apply]
      | some m =>
        dsimp only
        cases hp : orIgnore (pushedState J d m (withoutRetcode decoded)) s with
        | mk r t =>
          cases r with
          | error e => rw [PyM.bind_error hp, PyM.bind_error hp]
          | ok made =>
            rw [PyM.bind_ok hp, PyM.bind_ok hp]
            cases made with
            | none => rfl
            | some st => exact notify_driver answer _

end Effects

/-! ### What a step does -/

section Steps

variable (C : TuyaCrypto) (J : JsonLib) (ipAddress : String → Option IpAddress)

/-- The steps by what they do to the device, the store and the last state. -/
inductive Moves (s : LifeState) : LifeEvent → LifeState → Prop
  /-- Nothing but the connection and the phase of a pairing changes, and what discovery keeps. -/
  | idles (e : LifeEvent) (t : TuyaState) (ht : SameLight s.driver t) (peer : Option String)
      (hpeer : ∀ x, peer = some x → s.sender = some x) (switching : Option Switching) :
      Moves s e { s with driver := t, peer := peer, switching := switching }
  /-- An operation that replaces the store, if it does anything. -/
  | works (e : LifeEvent) (reply : Except PyErr Dps) (made : Option LightState) (t : TuyaState)
      (ht : Effect s.driver (replacing reply) made t) (peer : Option String)
      (hpeer : ∀ x, peer = some x → s.sender = some x) (switching : Option Switching) :
      Moves s e { s.after (replacing reply) made t with peer := peer, switching := switching }
  | pushes (sessionKey : Option Bytes) (frame : TuyaFrame) (x : String) (hx : s.peer = some x) :
      Moves s (.push sessionKey frame) (pushStep C J s sessionKey frame)
  | switches (candidateId : String) (d : TuyaDeviceConfig)
      (hd : pairTarget ipAddress s.driver candidateId = .ok d) (w : Switching) :
      Moves s (.pairBegin candidateId (.ok ()))
        { s with driver := switchTo d s.driver, peer := none, switching := some w }
  | rollsBack (w : Switching) (hw : s.switching = some w) :
      Moves s (.pairRollback (.ok ()))
        { s with driver := rollBack w.previous w.previousLight s.driver, peer := none,
                 switching := none }

variable {C J ipAddress}

theorem peerAfter_sender {s : LifeState} {connected : Bool} {x : String}
    (h : s.peerAfter connected = some x) : s.sender = some x := by
  unfold LifeState.peerAfter at h
  split at h
  · exact h
  · cases h

theorem sender_of_peer {s : LifeState} {x : String} (h : s.peer = some x) : s.sender = some x := by
  unfold LifeState.sender
  rw [h]
  rfl

theorem after_sameLight (s : LifeState) (report : Report) (made : Option LightState)
    {t u : TuyaState} (h : SameLight t u) :
    { s.after report made t with driver := u } = s.after report made u := by
  have hsources : ∀ owner, sourcesOf u owner = sourcesOf t owner := fun owner => by
    unfold sourcesOf
    rw [h.1, h.2.1]
  unfold LifeState.after
  rw [hsources]

/-- The poll of a pairing and what follows it are one operation that replaces the store. -/
theorem pairPollStep_works (s : LifeState) (w : Switching) (o : PairOutcomes) :
    ∃ made t switching, Effect s.driver
        (replacing (polledDps J s.driver (some w.device.deviceId) o.exchange)) made t ∧
      pairPollStep C J s w o = { s.after (replacing
        (polledDps J s.driver (some w.device.deviceId) o.exchange)) made t with
          switching := switching } := by
  have hpoll := effect_poll (J := J) (s := s.driver) (some w.device.deviceId) o.exchange
  unfold pairPollStep
  dsimp only
  cases hr : (pollState J (some w.device.deviceId) o.exchange s.driver).1 with
  | error e => exact ⟨_, _, _, hpoll, rfl⟩
  | ok st =>
    have hsame := pairCommit_sameLight (C := C)
      (s := (pollStep J s (some w.device.deviceId) o.exchange).driver) o w.candidateId w.previous
      w.device
    dsimp only
    split
    · next t hc =>
      rw [hc] at hsame
      refine ⟨_, t, none, hpoll.trans hsame.1 hsame.2.1 hsame.2.2, ?_⟩
      rw [← after_sameLight s _ _ hsame]
      rfl
    · next e t hc =>
      rw [hc] at hsame
      refine ⟨_, t, some { w with phase := .failing }, hpoll.trans hsame.1 hsame.2.1 hsame.2.2, ?_⟩
      rw [← after_sameLight s _ _ hsame]
      rfl

/-- A step outside a pairing. -/
theorem step_moves_alone {s t : LifeState} {e : LifeEvent} (hw : s.switching = none)
    (h : step C J ipAddress s e = some t) : Moves C J ipAddress s e t := by
  have hself : SameLight s.driver s.driver := ⟨rfl, rfl, rfl⟩
  cases e with
  | push sessionKey frame =>
    simp only [step] at h
    obtain ⟨x, hx, rfl⟩ := Option.map_eq_some_iff.mp h
    exact .pushes sessionKey frame x hx
  | connect connected =>
    simp only [step, hw] at h
    cases h
    exact .idles _ s.driver hself _ (fun x hx => peerAfter_sender hx) none
  | disconnect =>
    simp only [step, hw] at h
    cases h
    exact .idles _ s.driver hself none nofun none
  | discover scan =>
    simp only [step, hw] at h
    cases h
    exact .idles _ _ (discover_sameLight scan) _ (fun x hx => sender_of_peer hx) none
  | poll deviceId reply connected =>
    simp only [step, hw] at h
    cases h
    exact .works _ _ _ _ (effect_poll deviceId reply) _ (fun x hx => peerAfter_sender hx) s.switching
  | write deviceId op o connected =>
    simp only [step, hw] at h
    cases h
    exact .works _ _ _ _ (effect_write deviceId op o) _ (fun x hx => peerAfter_sender hx) s.switching
  | inspect now reply connected =>
    simp only [step, hw] at h
    cases h
    exact .works _ _ _ _ (effect_inspect now reply) _ (fun x hx => peerAfter_sender hx) s.switching
  | pairBegin candidateId disconnected =>
    simp only [step, hw] at h
    split at h
    · cases h
      exact .idles _ s.driver hself s.peer (fun x hx => sender_of_peer hx) s.switching
    · cases h
      exact .idles _ s.driver hself none nofun none
    · next d hd =>
      cases h
      exact .switches candidateId d hd _
  | pairConnect connected => simp only [step, hw] at h; cases h
  | pairPoll o => simp only [step, hw] at h; cases h
  | pairRollback disconnected => simp only [step, hw] at h; cases h

/-- A step while a pairing is in progress. -/
theorem step_moves_pairing {s t : LifeState} {e : LifeEvent} {w : Switching}
    (hw : s.switching = some w) (h : step C J ipAddress s e = some t) :
    Moves C J ipAddress s e t := by
  have hself : SameLight s.driver s.driver := ⟨rfl, rfl, rfl⟩
  cases e with
  | push sessionKey frame =>
    simp only [step] at h
    obtain ⟨x, hx, rfl⟩ := Option.map_eq_some_iff.mp h
    exact .pushes sessionKey frame x hx
  | pairConnect connected =>
    simp only [step, hw] at h
    split at h
    · cases h
      exact .idles _ s.driver hself _ (fun x hx => hx) _
    · cases h
      exact .idles _ s.driver hself none nofun _
    · cases h
  | pairPoll o =>
    simp only [step, hw] at h
    split at h
    · cases h
      obtain ⟨made, t, switching, ht, heq⟩ := pairPollStep_works (C := C) (J := J) s w o
      rw [heq]
      exact .works _ _ made t ht s.peer (fun x hx => sender_of_peer hx) switching
    · cases h
  | pairRollback disconnected =>
    simp only [step, hw] at h
    split at h
    · cases h
      exact .rollsBack w hw
    · cases h
      exact .idles _ s.driver hself none nofun none
    · cases h
  | connect connected => simp only [step, hw] at h; cases h
  | disconnect => simp only [step, hw] at h; cases h
  | discover scan => simp only [step, hw] at h; cases h
  | poll deviceId reply connected => simp only [step, hw] at h; cases h
  | write deviceId op o connected => simp only [step, hw] at h; cases h
  | inspect now reply connected => simp only [step, hw] at h; cases h
  | pairBegin candidateId disconnected => simp only [step, hw] at h; cases h

theorem step_moves {s t : LifeState} {e : LifeEvent} (h : step C J ipAddress s e = some t) :
    Moves C J ipAddress s e t := by
  cases hw : s.switching with
  | none => exact step_moves_alone hw h
  | some w => exact step_moves_pairing hw h

end Steps

/-! ### The counter -/

/-- The last state holds the highest revision of the device. -/
structure Counted (s : LifeState) : Prop where
  increase : RevisionsIncrease s
  last : ∀ st d, s.driver.state = some st → s.driver.device = some d →
    ∀ b ∈ s.built, b.state.deviceId = d.deviceId → b.state.stateRevision ≤ st.stateRevision
  fresh : ∀ d, s.driver.state = none → s.driver.device = some d → NeverBuilt s d.deviceId

theorem counted_start (t : TuyaState) : Counted (start t) where
  increase := List.Pairwise.nil
  last _ _ _ _ b hb := by cases hb
  fresh _ _ _ b hb := by cases hb

/-- Where neither the device, the last state nor the history changes, the counter is kept. -/
theorem Counted.congr {s t : LifeState} (h : Counted s) (hd : t.driver.device = s.driver.device)
    (hs : t.driver.state = s.driver.state) (hb : t.built = s.built) : Counted t where
  increase := by
    unfold RevisionsIncrease
    rw [hb]
    exact h.increase
  last st d hst hdev := by
    rw [hs] at hst
    rw [hd] at hdev
    rw [hb]
    exact h.last st d hst hdev
  fresh d hst hdev := by
    rw [hs] at hst
    rw [hd] at hdev
    unfold NeverBuilt
    rw [hb]
    exact h.fresh d hst hdev

/-- The revision of the next state is above every earlier one of its device. -/
theorem Counted.revisioned_lt {s : LifeState} (h : Counted s) {d : TuyaDeviceConfig}
    (hd : s.driver.device = some d) (mapped : LightState) :
    ∀ b ∈ s.built, b.state.deviceId = d.deviceId →
      b.state.stateRevision < (revisioned s.driver.state mapped).stateRevision := by
  intro b hb hid
  cases hs : s.driver.state with
  | none => exact absurd hid (h.fresh d hs hd b hb)
  | some st =>
    have hle := h.last st d hs hd b hb hid
    have hpos := st.revision_ok
    show b.state.stateRevision < ((st.stateRevision.toNat + 1 : Nat) : Int)
    omega

theorem Counted.after {s : LifeState} (h : Counted s) {report : Report} {made : Option LightState}
    {t : TuyaState} (ht : Effect s.driver report made t) : Counted (s.after report made t) := by
  cases made with
  | none => exact h.congr ht.device ht.state (List.append_nil _)
  | some st =>
    obtain ⟨d, m, mapped, hd, -, hmap, rfl⟩ := ht.reads st rfl
    have hlt := h.revisioned_lt hd mapped
    have hid : (revisioned s.driver.state mapped).deviceId = d.deviceId :=
      (revisioned_deviceId _ _).trans (stateFromDps_deviceId hmap)
    have hstate : (s.after report (some (revisioned s.driver.state mapped)) t).driver.state =
        some (revisioned s.driver.state mapped) := ht.state
    refine ⟨?_, ?_, ?_⟩
    · show List.Pairwise _ (s.built ++ [_])
      rw [List.pairwise_append]
      refine ⟨h.increase, List.pairwise_singleton _ _, fun a ha b hb hab => ?_⟩
      cases List.mem_singleton.mp hb
      exact hlt a ha (hab.trans hid)
    · intro st' d' hst' hd' b hb hbid
      rw [hstate] at hst'
      cases hst'
      have hd'' : d' = d := by
        have hdev : t.device = some d' := hd'
        rw [ht.device, hd] at hdev
        exact (Option.some.inj hdev).symm
      subst hd''
      rcases List.mem_append.mp hb with hb | hb
      · exact le_of_lt (hlt b hb hbid)
      · cases List.mem_singleton.mp hb
        exact le_rfl
    · intro d' hst'
      rw [hstate] at hst'
      cases hst'

/-- A device that never had a state may start its counter anew. -/
theorem Counted.turnTo {s t : LifeState} (h : Counted s) (hs : t.driver.state = none)
    (hb : t.built = s.built) (hnew : ∀ d, t.driver.device = some d → NeverBuilt s d.deviceId) :
    Counted t where
  increase := by
    unfold RevisionsIncrease
    rw [hb]
    exact h.increase
  last st d hst := by
    rw [hs] at hst
    cases hst
  fresh d _ hd := by
    unfold NeverBuilt
    rw [hb]
    exact hnew d hd

section Counter

variable {C : TuyaCrypto} {J : JsonLib} {ipAddress : String → Option IpAddress}

theorem step_counted {s t : LifeState} {e : LifeEvent} (h : Counted s) (hc : NotReset ipAddress s e)
    (hs : step C J ipAddress s e = some t) : Counted t := by
  cases step_moves hs with
  | idles e t ht peer hpeer switching => exact h.congr ht.1 ht.2.2 rfl
  | works e reply made t ht peer hpeer switching => exact (h.after ht).congr rfl rfl rfl
  | pushes sessionKey frame x hx => exact h.after (effect_push sessionKey frame)
  | switches candidateId d hd w =>
    refine h.turnTo rfl rfl fun d' hd' => ?_
    cases hd'
    exact hc d hd
  | rollsBack w hw => exact h.turnTo rfl rfl fun d hd => hc w hw d hd

/-- What the condition leaves out does go wrong: the first state after the counter was forgotten does
not have a higher revision than those before. -/
theorem reset_goes_back {s : LifeState} {report : Report} {st : LightState} {t : TuyaState}
    {d : TuyaDeviceConfig} (ht : Effect s.driver report (some st) t)
    (hs : s.driver.state = none) (hd : s.driver.device = some d)
    (hbuilt : ∃ b ∈ s.built, b.state.deviceId = d.deviceId) :
    ¬ RevisionsIncrease (s.after report (some st) t) := by
  obtain ⟨b, hb, hid⟩ := hbuilt
  obtain ⟨d', m, mapped, hd', -, hmap, rfl⟩ := ht.reads st rfl
  rw [hs] at *
  cases hd.symm.trans hd'
  intro h
  have hpair := (List.pairwise_append.mp h).2.2 b hb _ (List.mem_singleton.mpr rfl)
    (hid.trans (stateFromDps_deviceId hmap).symm)
  have hzero : (revisioned none mapped).stateRevision = 0 := rfl
  change b.state.stateRevision < (revisioned none mapped).stateRevision at hpair
  rw [hzero] at hpair
  exact absurd b.state.revision_ok (not_le.mpr hpair)

/-- A pairing that cannot connect turns the driver back, without its last state. -/
theorem run_failed_pairing {s : LifeState} {candidateId : String} {d : TuyaDeviceConfig}
    (hw : s.switching = none) (hd : pairTarget ipAddress s.driver candidateId = .ok d) (e : PyErr) :
    Runs.run (step C J ipAddress) s
        [.pairBegin candidateId (.ok ()), .pairConnect (.error e), .pairRollback (.ok ())] =
      some { s with
        driver := rollBack s.driver.device s.driver.pairedLightId (switchTo d s.driver)
        peer := none
        switching := none } := by
  simp only [Runs.run, step, hw, hd]

/-! ## Main result -/

variable (C J ipAddress)

/-- **Revisions increase over the life of a device**, in every run in which no pairing turns the
driver to a device that has had a state. -/
theorem revisions_increase (t : TuyaState) (es : List LifeEvent)
    (h : Runs.Meets (step C J ipAddress) (NotReset ipAddress) (start t) es) :
    Runs.Always (step C J ipAddress) RevisionsIncrease (start t) es := by
  refine Runs.always_of_inv_meets (I := Counted) ?_ ?_ es (counted_start t) h
  · intro s e s' hi hc hs
    exact step_counted hi hc hs
  · intro s hi
    exact hi.increase

end Counter

/-! ## A pairing that fails -/

/-- The lamp, after a scan that has found another one. -/
def lampBeside (C : TuyaCrypto) : TuyaState := { foundDigit C with device := some Commands.lamp }

theorem pairTarget_digit {C : TuyaCrypto} {s : TuyaState}
    (hp : s.pairing = some ⟨lampLink, lampMapping⟩)
    (hd : s.discovered = Dict.empty.set (candidateIdOf C "0123456789") digitItem) :
    pairTarget privateAddress s (candidateIdOf C "0123456789") = .ok digitLamp := by
  unfold pairTarget
  rw [hd, Dict.get?_set_self, hp]
  rfl

/-- The lamp reports that it is off. -/
def pollLamp : LifeEvent := .poll (some Commands.lamp.deviceId) (.ok offReply) true

/-- Whenever the lamp is polled, the reply makes a state for it, with a revision that is not above
the earlier ones if the counter was forgotten. -/
theorem step_pollLamp {s : LifeState} (hw : s.switching = none)
    (hd : s.driver.device = some Commands.lamp) :
    ∃ t, step .plain lampLib.toJsonLib privateAddress s pollLamp = some t ∧
      t.switching = none ∧ t.driver.device = some Commands.lamp ∧
      t.driver.pairing = s.driver.pairing ∧ t.driver.discovered = s.driver.discovered ∧
      (∃ b ∈ t.built, b.state.deviceId = Commands.lamp.deviceId) ∧
      (s.driver.state = none → (∃ b ∈ s.built, b.state.deviceId = Commands.lamp.deviceId) →
        ¬ RevisionsIncrease t) := by
  obtain ⟨hdps, mapped, hmap⟩ := offReply_maps Commands.lamp.deviceId (by decide)
  obtain ⟨u, hu⟩ := pollState_ok lampLib.toJsonLib hd rfl hdps hmap
  have heffect := effect_poll (J := lampLib.toJsonLib) (s := s.driver) (some Commands.lamp.deviceId)
    (.ok offReply)
  have hkept := pollState_frame (I := fun u => u.pairing = s.driver.pairing ∧
    u.discovered = s.driver.discovered) lampLib.toJsonLib (fun _ _ h => h) (fun _ _ h => h)
    (fun _ _ h => h) (some Commands.lamp.deviceId) (.ok offReply) s.driver ⟨rfl, rfl⟩
  rw [hu] at heffect hkept
  have hid : (revisioned s.driver.state mapped).deviceId = Commands.lamp.deviceId :=
    (revisioned_deviceId _ _).trans (stateFromDps_deviceId hmap)
  have hpoll : pollStep lampLib.toJsonLib s (some Commands.lamp.deviceId) (.ok offReply) =
      s.after (replacing (polledDps lampLib.toJsonLib s.driver (some Commands.lamp.deviceId)
        (.ok offReply))) (some (revisioned s.driver.state mapped)) u := by
    unfold pollStep
    rw [hu]
    rfl
  have hstep : step .plain lampLib.toJsonLib privateAddress s pollLamp = some { pollStep
      lampLib.toJsonLib s (some Commands.lamp.deviceId) (.ok offReply) with
        peer := s.peerAfter true } := by
    simp only [step, pollLamp, hw]
  rw [hpoll] at hstep
  refine ⟨_, hstep, hw, heffect.device.trans hd, hkept.1, hkept.2,
    ⟨_, List.mem_append_right _ (List.mem_singleton.mpr rfl), hid⟩, ?_⟩
  intro hs hbuilt
  exact reset_goes_back heffect hs hd hbuilt

theorem shelf_id : isDiscoveryId "shelf-lamp-1" = true := by decide

/-- The lamp, after a scan that has found the one on the shelf. -/
def besideShelf : TuyaState :=
  { foundDigit .plain with
    device := some Commands.lamp
    discovered := Dict.empty.set (candidateIdOf .plain "shelf-lamp-1")
      ⟨⟨"shelf-lamp-1", shelf_id⟩, "192.168.1.23"⟩ }

/-- Two states of the lamp, and after the first pairing with the shelf lamp three of that. -/
def shelfPairing : List LifeEvent :=
  [pollLamp, .write (some Commands.lamp.deviceId) .turnOff Commands.acknowledgedOnly true,
    .pairBegin (candidateIdOf .plain "shelf-lamp-1") (.ok ()), .pairConnect (.ok ()), .pairPoll allWell,
    .push none ⟨0, commandStatus, pkcs7Pad offReply⟩, .disconnect,
    .poll (some "shelf-lamp-1") (.ok offReply) true]

theorem revisions_increase_shelf :
    (Runs.run (step .plain lampLib.toJsonLib privateAddress) (start besideShelf) shelfPairing).map
        (fun s => s.built.map fun b => (b.state.deviceId, b.state.stateRevision)) =
      some [("bf1234567890abcdef", 0), ("bf1234567890abcdef", 1), ("shelf-lamp-1", 0),
        ("shelf-lamp-1", 1), ("shelf-lamp-1", 2)] ∧
      Runs.Always (step .plain lampLib.toJsonLib privateAddress) RevisionsIncrease (start besideShelf)
        shelfPairing :=
  ⟨by decide +kernel, revisions_increase _ _ _ _ _ (by decide +kernel)⟩

/-- The lamp is polled, the pairing with another lamp fails, and the next state of the lamp has
revision 0 again. -/
theorem revision_repeated :
    ¬ Runs.Always (step .plain lampLib.toJsonLib privateAddress) RevisionsIncrease
      (start (lampBeside .plain))
      [pollLamp, .pairBegin (candidateIdOf .plain "0123456789") (.ok ()),
        .pairConnect (.error ⟨.TimeoutError, ""⟩), .pairRollback (.ok ()), pollLamp] := by
  intro h
  obtain ⟨s₁, hfirst, hw, hdevice, hpairing, hdiscovered, hbuilt, -⟩ :=
    step_pollLamp (s := start (lampBeside .plain)) rfl rfl
  have hfailed := run_failed_pairing (C := .plain) (J := lampLib.toJsonLib) hw
    (pairTarget_digit (C := .plain) hpairing hdiscovered) ⟨.TimeoutError, ""⟩
  obtain ⟨s₂, hs₂⟩ : ∃ s₂, s₂ = { s₁ with
    driver := rollBack s₁.driver.device s₁.driver.pairedLightId (switchTo digitLamp s₁.driver)
    peer := none
    switching := none } := ⟨_, rfl⟩
  rw [← hs₂] at hfailed
  obtain ⟨s₃, hlast, -, -, -, -, -, hlower⟩ := step_pollLamp (s := s₂) (by rw [hs₂])
    (by rw [hs₂]; exact hdevice)
  have hrun : Runs.run (step .plain lampLib.toJsonLib privateAddress) (start (lampBeside .plain))
      (pollLamp :: ([.pairBegin (candidateIdOf .plain "0123456789") (.ok ()),
        .pairConnect (.error ⟨.TimeoutError, ""⟩), .pairRollback (.ok ())] ++ [pollLamp])) =
          some s₃ := by
    rw [Runs.run_cons, hfirst, Option.bind_some, Runs.run_append hfailed, Runs.run_cons, hlast]
    rfl
  exact hlower (by rw [hs₂]; rfl) (by rw [hs₂]; exact hbuilt) (Runs.always_run h hrun)

end Linker.Life
