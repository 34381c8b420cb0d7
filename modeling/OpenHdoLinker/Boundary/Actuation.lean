import OpenHdoLinker.Tuya.Confirmed
import OpenHdoLinker.Tuya.Failures
import OpenHdoLinker.Tuya.Life

/-!
# What makes the linker write to the lamp

A boundary over the Tuya driver in all its traffic: messages of the server of any type, the polls
of the publisher and the pushes of the device.  A control request is a call of `_exchange` with
`COMMAND_CONTROL` or `COMMAND_CONTROL_NEW`; the driver records every call.  What its retry loop
then sends (the frame, again for each retry, or nothing without a connection) is not told apart.

    controls t = controls s ++ the requests of the actuating commands, in order   (controls_exact)

A command actuates (`Actuates`) when it is admitted, has a new idempotency key and comes to data
points the bound device has; its request carries these and nothing else.  No scan, no pairing, no
poll, no push and no repeated command writes to the lamp, and no key is acted upon twice.
-/

namespace Linker.Actuation

open Py

/-! ## Algorithm -/

/-- A message of the server, a poll of the publisher or a push of the device, with what the
surroundings answer. -/
inductive Event
  | message (m : Envelope) (timedOut : Bool) (scan : Except PyErr (List DiscoveryItem))
      (pairing : PairOutcomes) (write : WriteOutcomes)
  | poll (reply : Except PyErr Bytes)
  | push (sessionKey : Option Bytes) (frame : TuyaFrame)

section Machine

variable (L : PyLib) (config : LinkerConfig) (stamps : Nat → Stamp)
variable (C : TuyaCrypto) (ipAddress : String → Option IpAddress)

def step (s : System TuyaState) : Event → Option (System TuyaState)
  | .message m timedOut scan pairing write =>
    some (handle L config stamps (tuyaDriver C L.toJsonLib ipAddress scan pairing write) timedOut m
      s).2
  | .poll reply =>
    some { s with driver := (pollState L.toJsonLib s.boundary.deviceId reply s.driver).2 }
  | .push sessionKey frame =>
    some { s with driver := (Life.statusState C L.toJsonLib sessionKey frame s.driver).2 }

end Machine

/-! ## Statement -/

/-- The command of a request is one that writes data points. -/
def isControl (r : Nat × Json) : Bool := r.1 = commandControl ∨ r.1 = commandControlNew

/-- The control exchanges the driver has begun. -/
def controls (t : TuyaState) : List (Nat × Json) := t.requests.filter isControl

/-- One control request, and the command it was made for. -/
structure Written where
  key : String
  command : Envelope
  request : Nat × Json

/-- What a command writes to a device. -/
def controlOf (d : TuyaDeviceConfig) (now : Int) (values : List (Nat × Json)) : Nat × Json :=
  (controlCommand d.link.protocolVersion, controlBody d now values)

/-- The event is a command that is admitted, new, and comes to data points of the bound device. -/
inductive Actuates (L : PyLib) (s : System TuyaState) : Event → Written → Prop
  | command {m : Envelope} {timedOut : Bool} {scan : Except PyErr (List DiscoveryItem)}
      {pairing : PairOutcomes} {write : WriteOutcomes} {metadata : CommandMetadata}
      {op : Operation} {d : TuyaDeviceConfig} {mapping : TuyaDpMapping}
      {values : List (Nat × Json)}
      (hcommand : m.type ≠ "discovery.start" ∧ m.type ≠ "pairing.start")
      (hadmitted : admitCommand L s.boundary.lightId m = .ok (.ok metadata))
      (hnew : s.boundary.journal.get? metadata.idempotencyKey = none)
      (hplan : planOperation m = .ok op) (hdevice : s.driver.device = some d)
      (hbound : s.boundary.deviceId = some d.deviceId) (hmapping : d.dps = some mapping)
      (hvalues : Commands.writtenValues mapping op = .ok values) :
      Actuates L s (.message m timedOut scan pairing write)
        ⟨metadata.idempotencyKey, m, controlOf d write.now values⟩

section Statement

variable (L : PyLib) (config : LinkerConfig) (stamps : Nat → Stamp)
variable (C : TuyaCrypto) (ipAddress : String → Option IpAddress)

/-- A run with the actuations of its events, one for each that actuates, in order. -/
inductive Trace : System TuyaState → List Event → List Written → System TuyaState → Prop
  | nil {s} : Trace s [] [] s
  | silent {s t u e es as} (hstep : step L config stamps C ipAddress s e = some t)
      (hsilent : ∀ a, ¬ Actuates L s e a) (hrest : Trace t es as u) : Trace s (e :: es) as u
  | acts {s t u e es a as} (hstep : step L config stamps C ipAddress s e = some t)
      (ha : Actuates L s e a) (hrest : Trace t es as u) : Trace s (e :: es) (a :: as) u

/-- The device's answers to a command fail with ordinary exceptions: nobody cancels it. -/
def Event.Completes : Event → Prop
  | .message _ _ _ _ write => Raises IsOrdinary write.ack ∧ Raises IsOrdinary write.reply
  | _ => True

end Statement

/-! ## Lemmas -/

/-! ### What makes no control request -/

section Silent

variable {cs : List (Nat × Json)} (C : TuyaCrypto) (J : JsonLib)

theorem exchange_silent {command : Nat} {body : Json} (h : isControl (command, body) = false)
    (answer : Except PyErr Bytes) :
    PyM.Preserves (fun t => controls t = cs) (exchange command body answer) := by
  refine PyM.preserves_bind (PyM.preserves_modify ?_) fun _ => PyM.preserves_outcome _
  intro t ht
  show (t.requests ++ [(command, body)]).filter isControl = cs
  rw [List.filter_append, List.filter_cons_of_neg (by rw [h]; decide), List.filter_nil,
    List.append_nil]
  exact ht

theorem checkDevice_silent (deviceId : Option String) :
    PyM.Preserves (fun t => controls t = cs) (checkDevice deviceId) := by
  refine PyM.preserves_bind PyM.preserves_get fun s => ?_
  refine PyM.preserves_bind (PyM.preserves_outcome _) fun d => ?_
  split
  · exact PyM.preserves_pure _
  · exact PyM.preserves_raise _

/-- A poll asks for data points. -/
theorem pollState_silent (deviceId : Option String) (reply : Except PyErr Bytes) :
    PyM.Preserves (fun t => controls t = cs) (pollState J deviceId reply) := by
  have hpoll : ∀ (version : ProtocolVersion) (body : Json),
      isControl (pollCommand version, body) = false := by
    intro version body
    cases version <;> rfl
  refine PyM.preserves_bind (checkDevice_silent _) fun d => ?_
  refine PyM.preserves_bind (PyM.preserves_outcome _) fun m => ?_
  refine PyM.preserves_bind (exchange_silent (hpoll _ _) reply) fun payload => ?_
  refine PyM.preserves_bind (PyM.preserves_outcome _) fun dps => ?_
  refine PyM.preserves_bind (PyM.preserves_modify fun _ h => h) fun _ => ?_
  refine PyM.preserves_bind PyM.preserves_get fun s => ?_
  refine PyM.preserves_bind (PyM.preserves_outcome _) fun state => ?_
  exact PyM.preserves_bind (PyM.preserves_modify fun _ h => h) fun _ => PyM.preserves_pure _

/-- **Frame rule of a push.**  It touches the store and the last state only. -/
theorem statusState_frame {I : TuyaState → Prop} (hraw : ∀ s dps, I s → I { s with rawDps := dps })
    (hstate : ∀ s st, I s → I { s with state := some st }) (sessionKey : Option Bytes)
    (frame : TuyaFrame) : PyM.Preserves I (Life.statusState C J sessionKey frame) := by
  have hmerge : ∀ payload, PyM.Preserves I (mergeDps J payload) :=
    fun payload => PyM.preserves_bind (PyM.preserves_outcome _) fun dps =>
      PyM.preserves_modify fun s h => hraw s _ h
  have hignore : ∀ {α : Type} (m : PyM TuyaState α), PyM.Preserves I m →
      PyM.Preserves I (orIgnore m) := by
    intro α m hm
    refine PyM.preserves_tryExcept (PyM.preserves_map _ hm) fun e => ?_
    split
    · exact PyM.preserves_pure _
    · exact PyM.preserves_raise _
  refine PyM.preserves_bind PyM.preserves_get fun s => ?_
  refine PyM.preserves_bind (PyM.preserves_outcome _) fun d => ?_
  refine PyM.preserves_bind (PyM.preserves_outcome _) fun decoded => ?_
  split
  · exact PyM.preserves_map _ (hignore _ (hmerge _))
  · refine PyM.preserves_bind (hignore _ ?_) fun state => ?_
    · refine PyM.preserves_bind (hmerge _) fun _ => ?_
      refine PyM.preserves_bind PyM.preserves_get fun s => ?_
      exact PyM.preserves_bind (PyM.preserves_outcome _) fun st => PyM.preserves_pure _
    · split
      · exact PyM.preserves_pure _
      · exact PyM.preserves_bind (PyM.preserves_modify fun s h => hstate s _ h) fun _ =>
          PyM.preserves_pure _

/-- **Frame rule of a scan.**  It touches what has been discovered. -/
theorem discover_frame {I : TuyaState → Prop}
    (hdiscovered : ∀ s items, I s → I { s with discovered := items })
    (scan : Except PyErr (List DiscoveryItem)) : PyM.Preserves I (discover C scan) := by
  refine PyM.preserves_bind (PyM.preserves_modify fun s h => hdiscovered s _ h) fun _ => ?_
  refine PyM.preserves_bind PyM.preserves_get fun s => ?_
  split
  · exact PyM.preserves_pure _
  · refine PyM.preserves_bind (PyM.preserves_outcome _) fun found => ?_
    refine PyM.preserves_mapM _ fun item _ => ?_
    exact PyM.preserves_bind (PyM.preserves_modify fun s h => hdiscovered s _ h) fun _ =>
      PyM.preserves_outcome _

theorem statusState_silent (sessionKey : Option Bytes) (frame : TuyaFrame) :
    PyM.Preserves (fun t => controls t = cs) (Life.statusState C J sessionKey frame) :=
  statusState_frame C J (fun _ _ h => h) (fun _ _ h => h) sessionKey frame

theorem discover_silent (scan : Except PyErr (List DiscoveryItem)) :
    PyM.Preserves (fun t => controls t = cs) (discover C scan) :=
  discover_frame C (fun _ _ h => h) scan

theorem savePairingState_silent (o : PairOutcomes) (candidateId : String) (d : TuyaDeviceConfig) :
    PyM.Preserves (fun t => controls t = cs) (savePairingState C o candidateId d) := by
  refine PyM.preserves_bind PyM.preserves_get fun s => ?_
  split
  · exact PyM.preserves_pure _
  · split
    · exact PyM.preserves_raise _
    · refine PyM.preserves_bind (PyM.preserves_outcome _) fun _ => ?_
      refine PyM.preserves_bind (PyM.preserves_outcome _) fun _ => ?_
      refine PyM.preserves_bind (PyM.preserves_tryExcept ?_ fun e => ?_) fun _ =>
        PyM.preserves_modify fun _ h => h
      · exact PyM.preserves_bind (PyM.preserves_outcome _) fun _ => PyM.preserves_outcome _
      · refine PyM.preserves_bind ?_ fun _ => PyM.preserves_raise _
        refine PyM.preserves_tryExcept (PyM.preserves_outcome _) fun e' => ?_
        split
        · exact PyM.preserves_pure _
        · exact PyM.preserves_raise _

/-- A pairing polls the candidate and writes nothing to it. -/
theorem pair_silent (ipAddress : String → Option IpAddress) (o : PairOutcomes)
    (candidateId : String) :
    PyM.Preserves (fun t => controls t = cs) (pair C J ipAddress o candidateId) := by
  refine PyM.preserves_bind PyM.preserves_get fun s => ?_
  split
  · exact PyM.preserves_raise _
  · split
    · exact PyM.preserves_raise _
    · refine PyM.preserves_bind (PyM.preserves_outcome _) fun d => ?_
      refine PyM.preserves_bind (PyM.preserves_outcome _) fun _ => ?_
      refine PyM.preserves_bind (PyM.preserves_modify fun _ h => h) fun _ => ?_
      refine PyM.preserves_bind (PyM.preserves_tryExcept ?_ fun e => ?_) fun _ => ?_
      · refine PyM.preserves_bind (PyM.preserves_outcome _) fun _ => ?_
        refine PyM.preserves_bind (pollState_silent J _ _) fun _ => ?_
        refine PyM.preserves_bind (savePairingState_silent C o _ _) fun _ => ?_
        refine PyM.preserves_bind (PyM.preserves_modify fun _ h => h) fun _ => ?_
        exact PyM.preserves_modify fun _ h => h
      · refine PyM.preserves_bind (PyM.preserves_outcome _) fun _ => ?_
        exact PyM.preserves_bind (PyM.preserves_modify fun _ h => h) fun _ => PyM.preserves_raise _
      · refine PyM.preserves_bind PyM.preserves_get fun t => ?_
        exact PyM.preserves_bind (PyM.preserves_outcome _) fun _ => PyM.preserves_pure _

end Silent

/-! ### What one command writes -/

section Write

variable {J : JsonLib} {w : WriteOutcomes} {deviceId : Option String} {s : TuyaState}
  {values : TuyaDpMapping → Except PyErr (List (Nat × Json))}

/-- The data points a write comes to, on the driver as it is. -/
def ComesTo (s : TuyaState) (deviceId : Option String)
    (values : TuyaDpMapping → Except PyErr (List (Nat × Json))) (d : TuyaDeviceConfig)
    (vs : List (Nat × Json)) : Prop :=
  s.device = some d ∧ deviceId = some d.deviceId ∧ ∃ m, d.dps = some m ∧ values m = .ok vs

/-- A write that comes to data points makes one control request, with these. -/
theorem writeCommand_control {d : TuyaDeviceConfig} {vs : List (Nat × Json)}
    (h : ComesTo s deviceId values d vs) :
    controls (writeCommand J w deviceId values s).2 = controls s ++ [controlOf d w.now vs] := by
  obtain ⟨hd, rfl, m, hm, hvs⟩ := h
  have hmo : mappingOf d = .ok m := by unfold mappingOf; rw [hm]
  have hcontrol : isControl (controlOf d w.now vs) = true := by
    unfold controlOf controlCommand isControl
    split
    · rfl
    · rfl
  have hsent : controls { s with requests := s.requests ++ [controlOf d w.now vs] } =
      controls s ++ [controlOf d w.now vs] := by
    show (s.requests ++ [controlOf d w.now vs]).filter isControl = _
    rw [List.filter_append, List.filter_cons_of_pos hcontrol, List.filter_nil]
    rfl
  unfold writeCommand setValues
  rw [PyM.bind_ok (checkDevice_configured s d hd), hmo, PyM.outcome_ok_bind, hvs,
    PyM.outcome_ok_bind, PyM.bind_apply, exchange_apply]
  cases w.ack with
  | error e => exact hsent
  | ok ack =>
    refine PyM.bind_after (I := fun t => controls t = controls s ++ [controlOf d w.now vs])
      (pollState_silent J _ _ _ hsent) fun state => ?_
    exact PyM.preserves_bind (PyM.preserves_modify fun _ h => h) fun _ => PyM.preserves_pure _

/-- A write that comes to none makes none. -/
theorem writeCommand_silent (h : ∀ d vs, ¬ ComesTo s deviceId values d vs) :
    controls (writeCommand J w deviceId values s).2 = controls s := by
  unfold writeCommand
  rw [PyM.bind_apply]
  cases hcheck : checkDevice deviceId s with
  | mk r t =>
    cases r with
    | error e => exact (checkDevice_silent deviceId).run rfl hcheck
    | ok d =>
      obtain ⟨hd, hid, rfl⟩ := checkDevice_run_ok hcheck
      dsimp only
      cases hmap : mappingOf d with
      | error e => rfl
      | ok m =>
        rw [PyM.outcome_ok_bind]
        cases hvs : values m with
        | error e => rfl
        | ok vs => exact absurd ⟨hd, hid, m, mappingOf_eq_ok hmap, hvs⟩ (h d vs)

end Write

/-! ### One event -/

section Step

variable {L : PyLib} {config : LinkerConfig} {stamps : Nat → Stamp}
variable {C : TuyaCrypto} {ipAddress : String → Option IpAddress}

/-- What a scan and a pairing leave alone. -/
def Still (cs : List (Nat × Json)) (j : Dict String JsonObj) (s : System TuyaState) : Prop :=
  controls s.driver = cs ∧ s.boundary.journal = j

variable {cs : List (Nat × Json)} {j : Dict String JsonObj}

theorem newEnvelope_still (type : String) (correlation : Option Uuid) (payload : JsonObj) :
    PyM.Preserves (Still cs j) (newEnvelope config stamps type correlation payload) :=
  newEnvelope_preserves config stamps (fun _ h => h) _ _ _

theorem handlePairing_still (timedOut : Bool) (scan : Except PyErr (List DiscoveryItem))
    (o : PairOutcomes) (w : WriteOutcomes) (m : Envelope) :
    PyM.Preserves (Still cs j)
      (handlePairing L config stamps (tuyaDriver C L.toJsonLib ipAddress scan o w) timedOut m) := by
  have hcompleted : ∀ sid candidateId status error, PyM.Preserves (Still cs j)
      (pairingCompleted (D := TuyaState) config stamps m sid candidateId status error) := by
    intro sid candidateId status error
    exact PyM.preserves_bind PyM.preserves_get fun s => newEnvelope_still _ _ _
  have hpair : ∀ candidateId, PyM.Preserves (Still cs j)
      (System.onDriver (pair C L.toJsonLib ipAddress o candidateId)) := fun candidateId =>
    PyM.preserves_zoom (K := fun t => controls t = cs) _ _ (fun _ h => h.1)
      (fun _ _ h hk => ⟨hk, h.2⟩) (pair_silent C L.toJsonLib ipAddress o candidateId)
  have hwait : ∀ candidateId, PyM.Preserves (Still cs j) (PyM.waitFor timedOut
      (System.onDriver (pair C L.toJsonLib ipAddress o candidateId))) := by
    intro candidateId
    refine PyM.preserves_tryExcept (hpair candidateId) fun e => ?_
    split
    · exact PyM.preserves_raise _
    · exact PyM.preserves_raise _
  refine PyM.preserves_bind (PyM.preserves_outcome _) fun r => ?_
  obtain ⟨sid, candidateId, timeout⟩ := r
  refine PyM.preserves_bind (PyM.preserves_tryExcept ?_ fun e => ?_) fun failure => ?_
  · show PyM.Preserves (Still cs j) (PyM.waitFor timedOut
      (System.onDriver (pair C L.toJsonLib ipAddress o candidateId)) >>= _)
    refine PyM.preserves_bind (hwait candidateId) fun result => ?_
    refine PyM.preserves_bind (PyM.preserves_outcome _) fun bound => ?_
    exact PyM.preserves_bind (PyM.preserves_modify fun _ h => h) fun _ => PyM.preserves_pure _
  · exact PyM.preserves_map _ (PyM.preserves_outcome _)
  · cases failure with
    | some text => exact PyM.preserves_bind (hcompleted _ _ _ _) fun _ => PyM.preserves_pure _
    | none => exact PyM.preserves_bind (hcompleted _ _ _ _) fun _ => PyM.preserves_pure _

theorem handleDiscovery_still (timedOut : Bool) (scan : Except PyErr (List DiscoveryItem))
    (o : PairOutcomes) (w : WriteOutcomes) (m : Envelope) :
    PyM.Preserves (Still cs j)
      (handleDiscovery L config stamps (tuyaDriver C L.toJsonLib ipAddress scan o w) timedOut m) :=
  handleDiscovery_preserves L config stamps (K := fun t => controls t = cs) (fun _ h => h.1)
    (fun _ _ h hk => ⟨hk, h.2⟩) (fun _ h => h) (fun _ => discover_silent C scan) m

theorem resultEnvelope_still (command : Envelope) (payload : JsonObj) (s : System TuyaState) :
    (resultEnvelope config stamps command payload s).2.driver = s.driver ∧
      (resultEnvelope config stamps command payload s).2.boundary = s.boundary := by
  obtain ⟨r, hr, -⟩ := resultEnvelope_ok config stamps command payload s
  rw [hr]
  exact ⟨rfl, rfl⟩

/-- What a light command does to the driver: nothing, or the operation it plans. -/
theorem handleCommand_driver (L : PyLib) (config : LinkerConfig) (stamps : Nat → Stamp)
    (driver : VendorRgbDriver TuyaState) (m : Envelope) (s : System TuyaState) :
    (∃ metadata op, admitCommand L s.boundary.lightId m = .ok (.ok metadata) ∧
      s.boundary.journal.get? metadata.idempotencyKey = none ∧ planOperation m = .ok op ∧
      (handleCommand L config stamps driver m s).2.driver =
        (runOperation driver s.boundary.deviceId metadata.commandId op s.driver).2 ∧
      (Raises IsOrdinary
          (runOperation driver s.boundary.deviceId metadata.commandId op s.driver).1 →
        ((handleCommand L config stamps driver m s).2.boundary.journal.get?
          metadata.idempotencyKey).isSome)) ∨
    ((∀ metadata op, admitCommand L s.boundary.lightId m = .ok (.ok metadata) →
        s.boundary.journal.get? metadata.idempotencyKey = none → planOperation m ≠ .ok op) ∧
      (handleCommand L config stamps driver m s).2.driver = s.driver) := by
  unfold handleCommand
  rw [PyM.get_bind]
  cases hfound : admitCommand L s.boundary.lightId m with
  | error e => exact .inr ⟨nofun, rfl⟩
  | ok admitted =>
    rw [PyM.outcome_ok_bind]
    cases admitted with
    | error payload => exact .inr ⟨nofun, (resultEnvelope_still m payload s).1⟩
    | ok metadata =>
      dsimp only
      cases hj : s.boundary.journal.get? metadata.idempotencyKey with
      | some cached =>
        refine .inr ⟨?_, (resultEnvelope_still m _ s).1⟩
        rintro metadata' op ⟨⟩ hnone
        rw [hj] at hnone
        cases hnone
      | none =>
        dsimp only
        cases hplan : planOperation m with
        | error e =>
          refine .inr ⟨?_, ?_⟩
          · intro _ _ _ _ h
            cases h
          · obtain ⟨r, hr, -⟩ :=
              resultEnvelope_ok config stamps m (invalidCommand metadata e.text) s
            rw [execute_invalid config stamps driver hplan, PyM.bind_ok hr]
            rfl
        | ok op =>
          refine .inl ⟨metadata, op, rfl, hj, rfl, ?_⟩
          cases hrun : runOperation driver s.boundary.deviceId metadata.commandId op s.driver with
          | mk r d =>
            by_cases ho : Raises IsOrdinary r
            · obtain ⟨r', hr', -⟩ :=
                resultEnvelope_ok config stamps m (driverPayload metadata r) { s with driver := d }
              have hex := (execute_answered config stamps driver hplan hrun ho).trans hr'
              rw [PyM.bind_ok hex]
              refine ⟨rfl, fun _ => ?_⟩
              show ((s.boundary.journal.setDefault metadata.idempotencyKey r'.payload).get?
                metadata.idempotencyKey).isSome
              unfold Dict.setDefault
              rw [hj]
              simp [Dict.get?_set_self]
            · have hno := ho
              unfold Raises at hno
              push Not at hno
              obtain ⟨e, rfl, he⟩ := hno
              rw [PyM.bind_error (execute_raised config stamps driver hplan hrun he)]
              exact ⟨rfl, fun h => absurd h ho⟩

/-- A key that is in the journal stays there. -/
theorem handleCommand_journal {driver : VendorRgbDriver TuyaState} {m : Envelope}
    (s : System TuyaState) {k : String} (h : (s.boundary.journal.get? k).isSome) :
    ((handleCommand L config stamps driver m s).2.boundary.journal.get? k).isSome := by
  cases hr : handleCommand L config stamps driver m s with
  | mk r t =>
    cases r with
    | error e => rw [handleCommand_error L config stamps driver hr]; exact h
    | ok r =>
      rcases handleCommand_run_ok L config stamps driver hr with
        ⟨_, -, -, hb⟩ | ⟨md, -, ⟨_, -, -, hb⟩ | ⟨-, -, hj⟩⟩
      · rw [hb]; exact h
      · rw [hb]; exact h
      · show (t.boundary.journal.get? k).isSome
        rw [hj, Dict.get?_set]
        split
        · rfl
        · exact h

/-- **What one event does**: it makes the control request of its command, whose key is in the
journal from then on, or none; and no key leaves the journal. -/
theorem step_spec {s t : System TuyaState} {e : Event}
    (h : step L config stamps C ipAddress s e = some t) :
    (∀ k, (s.boundary.journal.get? k).isSome → (t.boundary.journal.get? k).isSome) ∧
    ((∃ a, Actuates L s e a ∧ controls t.driver = controls s.driver ++ [a.request] ∧
        s.boundary.journal.get? a.key = none ∧
        (e.Completes → (t.boundary.journal.get? a.key).isSome)) ∨
      ((∀ a, ¬ Actuates L s e a) ∧ controls t.driver = controls s.driver)) := by
  cases e with
  | poll reply =>
    cases h
    refine ⟨fun _ h => h, .inr ⟨?_, ?_⟩⟩
    · rintro a ⟨⟩
    · exact pollState_silent L.toJsonLib _ reply s.driver rfl
  | push sessionKey frame =>
    cases h
    refine ⟨fun _ h => h, .inr ⟨?_, ?_⟩⟩
    · rintro a ⟨⟩
    · exact statusState_silent C L.toJsonLib sessionKey frame s.driver rfl
  | message m timedOut scan pairing write =>
    have hstill : ∀ {α : Type} {x : PyM (System TuyaState) α}, (m.type = "discovery.start" ∨
        m.type = "pairing.start") → t = (x s).2 → PyM.Preserves
          (Still (controls s.driver) s.boundary.journal) x →
        (∀ k, (s.boundary.journal.get? k).isSome → (t.boundary.journal.get? k).isSome) ∧
        (∀ a, ¬ Actuates L s (.message m timedOut scan pairing write) a) ∧
        controls t.driver = controls s.driver := by
      intro α x htype ht hx
      obtain ⟨hc, hj⟩ := hx s ⟨rfl, rfl⟩
      subst ht
      refine ⟨fun k hk => by rw [hj]; exact hk, ?_, hc⟩
      rintro a ⟨hcommand⟩
      rcases htype with h | h
      · exact hcommand.1 h
      · exact hcommand.2 h
    unfold step handle at h
    dsimp only at h
    by_cases hd : m.type = "discovery.start"
    · rw [if_pos hd] at h
      obtain ⟨h1, h2⟩ := hstill (.inl hd) (Option.some.inj h).symm
        (PyM.preserves_map _ (handleDiscovery_still timedOut scan pairing write m))
      exact ⟨h1, .inr h2⟩
    · rw [if_neg hd] at h
      by_cases hp : m.type = "pairing.start"
      · rw [if_pos hp] at h
        obtain ⟨h1, h2⟩ := hstill (.inr hp) (Option.some.inj h).symm
          (PyM.preserves_map _ (handlePairing_still timedOut scan pairing write m))
        exact ⟨h1, .inr h2⟩
      · rw [if_neg hp] at h
        cases h
        rw [PyM.map_apply]
        refine ⟨fun k hk => handleCommand_journal s hk, ?_⟩
        rcases handleCommand_driver L config stamps
          (tuyaDriver C L.toJsonLib ipAddress scan pairing write) m s with
          ⟨metadata, op, hfound, hnew, hplan, hdriver, hkey⟩ | ⟨hno, hdriver⟩
        · rw [Commands.runOperation_tuyaDriver] at hdriver hkey
          rw [hdriver]
          by_cases hcomes : ∃ d vs, ComesTo s.driver s.boundary.deviceId
            (fun mapping => Commands.writtenValues mapping op) d vs
          · obtain ⟨d, vs, hcomes⟩ := hcomes
            obtain ⟨hdev, hbound, mapping, hmapping, hvs⟩ := id hcomes
            refine .inl ⟨_, .command ⟨hd, hp⟩ hfound hnew hplan hdev hbound hmapping hvs,
              writeCommand_control hcomes, hnew, ?_⟩
            rintro ⟨hack, hreply⟩
            exact hkey (writeCommand_raises (fun _ he => he.ordinary) L.toJsonLib _
              (fun mapping => writtenValues_dataError mapping op) hack hreply s.driver)
          · refine .inr ⟨?_, writeCommand_silent fun d vs hc => hcomes ⟨d, vs, hc⟩⟩
            rintro a ⟨-, hfound', hnew', hplan', hdev, hbound, hmapping, hvs⟩
            rw [hfound] at hfound'
            cases hfound'
            rw [hplan] at hplan'
            cases hplan'
            exact hcomes ⟨_, _, hdev, hbound, _, hmapping, hvs⟩
        · rw [hdriver]
          refine .inr ⟨?_, rfl⟩
          rintro a ⟨-, hfound, hnew, hplan, -⟩
          exact hno _ _ hfound hnew hplan

end Step

/-! ## Main result -/

/-- **The lamp is written to by commands only, once for each key.**  Whatever the server, the
publisher and the device do, in any order, the control exchanges begun are those of the events that
actuate, one each, in order; as long as nobody cancels a command no two of them have one key. -/
theorem controls_exact (L : PyLib) (config : LinkerConfig) (stamps : Nat → Stamp) (C : TuyaCrypto)
    (ipAddress : String → Option IpAddress) (s : System TuyaState) (es : List Event) :
    ∃ t as, Runs.run (step L config stamps C ipAddress) s es = some t ∧
      Trace L config stamps C ipAddress s es as t ∧
      controls t.driver = controls s.driver ++ as.map Written.request ∧
      ((∀ e ∈ es, e.Completes) → (as.map Written.key).Nodup ∧
        ∀ a ∈ as, s.boundary.journal.get? a.key = none) := by
  induction es generalizing s with
  | nil =>
    refine ⟨s, [], rfl, .nil, (List.append_nil _).symm, fun _ => ⟨List.nodup_nil, ?_⟩⟩
    intro a ha
    exact absurd ha List.not_mem_nil
  | cons e es ih =>
    obtain ⟨t, hstep⟩ : ∃ t, step L config stamps C ipAddress s e = some t := by
      cases e <;> exact ⟨_, rfl⟩
    obtain ⟨u, as, hrun, htrace, hcontrols, hkeys⟩ := ih t
    have hrun' : Runs.run (step L config stamps C ipAddress) s (e :: es) = some u := by
      rw [Runs.run_cons, hstep]
      exact hrun
    obtain ⟨hkeep, h⟩ := step_spec hstep
    -- a key that is new after the event was new before it
    have hnew : ∀ {k}, t.boundary.journal.get? k = none → s.boundary.journal.get? k = none := by
      intro k hk
      by_contra hs
      have := hkeep k (Option.isSome_iff_ne_none.mpr hs)
      rw [hk] at this
      cases this
    rcases h with ⟨a, ha, hwrite, hfresh, hstored⟩ | ⟨hsilent, hsame⟩
    · refine ⟨u, a :: as, hrun', .acts hstep ha htrace, ?_, fun hall => ?_⟩
      · rw [hcontrols, hwrite, List.append_assoc]
        rfl
      · obtain ⟨he, hes⟩ := List.forall_mem_cons.mp hall
        obtain ⟨hnodup, hfree⟩ := hkeys hes
        refine ⟨List.nodup_cons.mpr ⟨?_, hnodup⟩, ?_⟩
        · intro hmem
          obtain ⟨b, hb, hkey⟩ := List.mem_map.mp hmem
          have hin := hstored he
          rw [← hkey, hfree b hb] at hin
          cases hin
        · intro b hb
          rcases List.mem_cons.mp hb with rfl | hb
          · exact hfresh
          · exact hnew (hfree b hb)
    · refine ⟨u, as, hrun', .silent hstep hsilent htrace, by rw [hcontrols, hsame], fun hall => ?_⟩
      obtain ⟨hnodup, hfree⟩ := hkeys (List.forall_mem_cons.mp hall).2
      exact ⟨hnodup, fun b hb => hnew (hfree b hb)⟩

end Linker.Actuation
