import OpenHdoLinker.ServerClient.Receive
import OpenHdoLinker.Tuya.Life

/-!
# The states on the wire

One server session over a Tuya driver.  The publisher polls, the reader task hands it
the states of status pushes, and the receiver runs the commands of the server; each of
them has at most one message waiting for `_send_lock`, which serves them in the order
they came.  Nothing awaits between the state a task made and its place in that order,
but for the receiver: it sends the result of a command first, and reports the state of
an applied one, fresh or from the journal, when the result is out.

    Meets step Current s es → Always step NeverBack s es        (reports_never_go_back)
-/

namespace Linker.Reports

open Py ServerClient

/-! ## Algorithm -/

inductive Sender
  | publisher
  | reader
  | receiver
deriving DecidableEq

/-- A message in line for `_send_lock`. -/
structure Outgoing where
  sender : Sender
  message : Envelope

/-- Where the receive loop stands. -/
inductive Receiver
  | waiting
  /-- It sends one of several messages; the others come after it. -/
  | sending (rest : List Envelope)
  | sendingResult (result : Envelope)
  | ended

/-- `queue`: the sends in line for the lock, the first one holds it.  `subscribed`: the callback of
the publisher is registered with the driver. -/
structure Session where
  system : System TuyaState
  queue : List Outgoing
  receiver : Receiver
  subscribed : Bool

/-- `deliver`: the receiver has a message, with what the driver meets in serving it.  `sent`: the
first send in line ends.  `dropped`: the send of a task raises or is cancelled. -/
inductive Event
  | deliver (message : Envelope) (timedOut : Bool) (scan : Except PyErr (List DiscoveryItem))
      (w : WriteOutcomes)
  | poll (reply : Except PyErr Bytes)
  | push (sessionKey : Option Bytes) (frame : TuyaFrame)
  | subscribe
  | unsubscribe
  | sent
  | dropped (sender : Sender)

/-- The state `_receive` reports after a result. -/
def appliedState (result : Envelope) : Option JsonObj :=
  if (getItem result.payload "status").str? = some "applied" then
    (getItem result.payload "state").obj?
  else none

namespace Session

/-- None of the sends in line is the sender's. -/
def free (s : Session) (sender : Sender) : Bool := s.queue.all fun m => m.sender ≠ sender

def enqueue (s : Session) (sender : Sender) (m : Envelope) : Session :=
  { s with queue := s.queue ++ [⟨sender, m⟩] }

def withDriver (s : Session) (t : TuyaState) : Session :=
  { s with system := { s.system with driver := t } }

end Session

section Machine

variable (L : PyLib) (config : LinkerConfig) (stamps : Nat → Stamp)
variable (C : TuyaCrypto) (ipAddress : String → Option IpAddress) (o : PairOutcomes)

/-- `boundary.state(state)`. -/
def stateReport (state : LightState) : PyM (System TuyaState) Envelope := do
  let s ← PyM.get
  let payload ← PyM.outcome (state.toPayload s.boundary.lightId)
  newEnvelope config stamps "light.state.reported" none payload

/-- `publish(state)`, up to its place in the line. -/
def publish (s : Session) (sender : Sender) (state : LightState) : Session :=
  match stateReport config stamps state s.system with
  | (.ok m, t) => { s with system := t }.enqueue sender m
  | (.error _, t) => { s with system := t }

/-- A poll of the publisher. -/
def pollStep (s : Session) (reply : Except PyErr Bytes) : Session :=
  match pollState L.toJsonLib s.system.boundary.deviceId reply s.system.driver with
  | (.ok state, t) => publish config stamps (s.withDriver t) .publisher state
  | (.error _, t) => s.withDriver t

/-- `_handle_status` with the callback of the publisher. -/
def pushStep (s : Session) (sessionKey : Option Bytes) (frame : TuyaFrame) : Session :=
  match Life.statusState C L.toJsonLib sessionKey frame s.system.driver with
  | (.ok (some state), t) =>
    if s.subscribed then publish config stamps (s.withDriver t) .reader state else s.withDriver t
  | (.ok none, t) => s.withDriver t
  | (.error _, t) => s.withDriver t

/-- `except (KeyError, TypeError, ValueError)` of `_receive`; another exception ends the loop. -/
def refuse (s : Session) (e : PyErr) : Session :=
  if e.isAny requestErrors then s else { s with receiver := .ended }

/-- `_send_many(websocket, messages)`, up to the next await. -/
def sendNext (s : Session) : List Envelope → Session
  | [] => { s with receiver := .waiting }
  | m :: rest => { s.enqueue .receiver m with receiver := .sending rest }

/-- `_receive(websocket, raw)` on a decoded message, up to its first send.  The session has no
pairings. -/
def deliverStep (s : Session) (message : Envelope) (timedOut : Bool)
    (scan : Except PyErr (List DiscoveryItem)) (w : WriteOutcomes) : Option Session :=
  let driver := tuyaDriver C L.toJsonLib ipAddress scan o w
  if message.type = "discovery.start" then
    match handleDiscovery L config stamps driver timedOut message s.system with
    | (.ok messages, t) => some (sendNext { s with system := t } messages)
    | (.error e, t) => some (refuse { s with system := t } e)
  else if message.type = "pairing.start" then none
  else if "light.command.".isPrefixOf message.type = false then some s
  else
    match handleCommand L config stamps driver message s.system with
    | (.ok result, t) =>
      some { { s with system := t }.enqueue .receiver result with receiver := .sendingResult result }
    | (.error e, t) => some (refuse { s with system := t } e)

/-- The receiver after one of its messages is out. -/
def goOn (s : Session) : Session :=
  match s.receiver with
  | .sending rest => sendNext s rest
  | .sendingResult result =>
    match appliedState result with
    | none => { s with receiver := .waiting }
    | some state =>
      match newEnvelope config stamps "light.state.reported" none state s.system with
      | (.ok m, t) => sendNext { s with system := t } [m]
      | (.error _, t) => { s with system := t, receiver := .ended }
  | .waiting => s
  | .ended => s

def step (s : Session) : Event → Option Session
  | .deliver message timedOut scan w =>
    match s.receiver with
    | .waiting => deliverStep L config stamps C ipAddress o s message timedOut scan w
    | _ => none
  | .poll reply => if s.free .publisher then some (pollStep L config stamps s reply) else none
  | .push sessionKey frame =>
    if s.free .reader then some (pushStep L config stamps C s sessionKey frame) else none
  | .subscribe => some { s with subscribed := true }
  | .unsubscribe => some { s with subscribed := false }
  | .sent =>
    match s.queue with
    | [] => none
    | m :: rest =>
      let t := { s with
        system := { s.system with sent := s.system.sent ++ [m.message] }
        queue := rest }
      some (if m.sender = .receiver then goOn config stamps t else t)
  | .dropped sender =>
    let t := { s with queue := s.queue.filter fun m => m.sender ≠ sender }
    some (if sender = .receiver then { t with receiver := .ended } else t)

/-- The session has begun: nothing is on its wire. -/
def start (system : System TuyaState) : Session := ⟨{ system with sent := [] }, [], .waiting, false⟩

end Machine

/-! ## Statement -/

/-- The revision a `light.state.reported` envelope carries. -/
def revision? (m : Envelope) : Option Int :=
  if m.type = "light.state.reported" then (getItem m.payload "state_revision").int? else none

def reported (messages : List Envelope) : List Int := messages.filterMap revision?

/-- The revisions on the wire do not decrease. -/
def NeverBack (s : Session) : Prop := (reported s.system.sent).Pairwise (· ≤ ·)

/-- The messages on the wire and those in line. -/
def handedOver (s : Session) : List Envelope := s.system.sent ++ s.queue.map Outgoing.message

/-- The revision of the next state of the driver. -/
def nextRevision (t : TuyaState) : Int :=
  match t.state with
  | none => 0
  | some st => st.stateRevision + 1

/-- No higher revision has been handed over, and the driver has counted past this one. -/
def Newest (s : Session) (r : Int) : Prop :=
  (∀ x ∈ reported (handedOver s), x ≤ r) ∧ r < nextRevision s.system.driver

/-- The first send in line is that of an applied result, whose state has this revision. -/
def ResultFirst (s : Session) (r : Int) : Prop :=
  ∃ m rest result state, s.queue = m :: rest ∧ m.sender = .receiver ∧
    s.receiver = .sendingResult result ∧ appliedState result = some state ∧
    (getItem state "state_revision").int? = some r

/-- When the result of an applied command goes out, its state is still the newest. -/
def Current (s : Session) : Event → Prop
  | .sent => ∀ r, ResultFirst s r → Newest s r
  | _ => True

/-- The revision of `ResultFirst`. -/
def resultRevision? (s : Session) : Option Int :=
  match s.queue, s.receiver with
  | m :: _, .sendingResult result =>
    if m.sender = .receiver then
      (appliedState result).bind fun state => (getItem state "state_revision").int?
    else none
  | _, _ => none

theorem resultRevision?_eq_some (s : Session) (r : Int) :
    resultRevision? s = some r ↔ ResultFirst s r := by
  unfold resultRevision? ResultFirst
  constructor
  · intro h
    split at h
    · next m rest result hq hr =>
      split at h
      · next hm =>
        obtain ⟨state, hstate, hrev⟩ := Option.bind_eq_some_iff.mp h
        exact ⟨m, rest, result, state, hq, hm, hr, hstate, hrev⟩
      · cases h
    · cases h
  · rintro ⟨m, rest, result, state, hq, hm, hr, hstate, hrev⟩
    rw [hq, hr]
    dsimp only
    rw [if_pos hm, hstate, Option.bind_some, hrev]

instance (s : Session) (r : Int) : Decidable (Newest s r) := inferInstanceAs (Decidable (_ ∧ _))

theorem newest_iff (s : Session) :
    (∀ r ∈ resultRevision? s, Newest s r) ↔ ∀ r, ResultFirst s r → Newest s r :=
  forall_congr' fun r => imp_congr_left (resultRevision?_eq_some s r)

instance (s : Session) : DecidablePred (Current s)
  | .sent => decidable_of_iff _ (newest_iff s)
  | .deliver _ _ _ _ | .poll _ | .push _ _ | .subscribe | .unsubscribe | .dropped _ => isTrue trivial

/-! ## Lemmas -/

/-! ### The counter of the driver -/

/-- A state that an operation makes takes the next revision. -/
theorem effect_counts {s t : TuyaState} {report : Life.Report} {st : LightState}
    (h : Life.Effect s report (some st) t) :
    st.stateRevision = nextRevision s ∧ nextRevision t = nextRevision s + 1 := by
  obtain ⟨d, m, mapped, -, -, -, rfl⟩ := h.reads st rfl
  have hstate : t.state = some (revisioned s.state mapped) := h.state
  have hrev : (revisioned s.state mapped).stateRevision = nextRevision s := by
    unfold revisioned nextRevision
    cases s.state with
    | none => rfl
    | some last =>
      have hpos := last.revision_ok
      show ((last.stateRevision.toNat + 1 : Nat) : Int) = last.stateRevision + 1
      omega
  refine ⟨hrev, ?_⟩
  rw [← hrev]
  unfold nextRevision
  rw [hstate]

theorem effect_mono {s t : TuyaState} {report : Life.Report} {made : Option LightState}
    (h : Life.Effect s report made t) : nextRevision s ≤ nextRevision t := by
  cases made with
  | none =>
    have hstate : t.state = s.state := h.state
    unfold nextRevision
    rw [hstate]
  | some st =>
    rw [(effect_counts h).2]
    omega

/-- The driver's call for an operation of the boundary. -/
def lightOp : Operation → LightOp
  | .turnOn => .turnOn none none none
  | .turnOff => .turnOff
  | .setBrightness n => .setBrightness n
  | .setRgb c => .setRgb c

section Steps

variable {L : PyLib} {config : LinkerConfig} {stamps : Nat → Stamp}
variable {C : TuyaCrypto} {ipAddress : String → Option IpAddress} {o : PairOutcomes}

theorem runOperation_driverCall (scan : Except PyErr (List DiscoveryItem)) (w : WriteOutcomes)
    (deviceId : Option String) (commandId : Uuid) (op : Operation) :
    runOperation (tuyaDriver C L.toJsonLib ipAddress scan o w) deviceId commandId op =
      driverCall L.toJsonLib w deviceId (lightOp op) := by
  cases op <;> rfl

/-- A request of the server leaves the wire alone, and the counter does not go back. -/
def Kept (s t : System TuyaState) : Prop :=
  t.sent = s.sent ∧ nextRevision s.driver ≤ nextRevision t.driver

variable (L config stamps C ipAddress o) in
theorem handleDiscovery_kept (timedOut : Bool) (message : Envelope)
    (scan : Except PyErr (List DiscoveryItem)) (w : WriteOutcomes) (s : System TuyaState) :
    Kept s (handleDiscovery L config stamps (tuyaDriver C L.toJsonLib ipAddress scan o w) timedOut
      message s).2 := by
  have h : PyM.Preserves (Kept s) (handleDiscovery L config stamps
      (tuyaDriver C L.toJsonLib ipAddress scan o w) timedOut message) := by
    refine handleDiscovery_preserves (K := fun d => nextRevision s.driver ≤ nextRevision d) L config
      stamps (fun _ ht => ht.2) (fun _ _ ht hd => ⟨ht.1, hd⟩) (fun _ ht => ht) ?_ message
    intro c d hd
    have hstate : (discover C scan d).2.state = d.state := (Life.discover_sameLight scan).2.2
    show nextRevision s.driver ≤ nextRevision (discover C scan d).2
    unfold nextRevision at hd ⊢
    rw [hstate]
    exact hd
  exact h s ⟨rfl, le_refl _⟩

variable (L config stamps C ipAddress o) in
theorem handleCommand_kept (message : Envelope) (scan : Except PyErr (List DiscoveryItem))
    (w : WriteOutcomes) (s : System TuyaState) :
    Kept s (handleCommand L config stamps (tuyaDriver C L.toJsonLib ipAddress scan o w) message
      s).2 := by
  have h : PyM.Preserves (Kept s) (handleCommand L config stamps
      (tuyaDriver C L.toJsonLib ipAddress scan o w) message) := by
    refine handleCommand_preserves (K := fun d => nextRevision s.driver ≤ nextRevision d) L config
      stamps (fun _ ht => ht.2) (fun _ _ ht hd => ⟨ht.1, hd⟩) (fun _ ht => ht) (fun _ _ ht => ht) ?_
      message
    intro deviceId commandId op d hd
    rw [runOperation_driverCall]
    exact le_trans hd (effect_mono (Life.effect_write deviceId (lightOp op) w))
  exact h s ⟨rfl, le_refl _⟩

/-! ### The messages -/

theorem revision?_of_type {m : Envelope} {type : String} (h : m.type = type)
    (ht : type ≠ "light.state.reported") : revision? m = none := by
  unfold revision?
  rw [h, if_neg ht]

theorem handleDiscovery_silent (timedOut : Bool) (message : Envelope)
    (driver : VendorRgbDriver TuyaState) :
    PyM.Returns (fun ms => ∀ m ∈ ms, revision? m = none)
      (handleDiscovery L config stamps driver timedOut message) := by
  intro s ms hms m hm
  rcases handleDiscovery_types L config stamps message s ms hms m hm with ht | ht
  · exact revision?_of_type ht (by decide)
  · exact revision?_of_type ht (by decide)

theorem handleCommand_silent (message : Envelope) (driver : VendorRgbDriver TuyaState) :
    PyM.Returns (fun m => revision? m = none) (handleCommand L config stamps driver message) := by
  intro s m hm
  exact revision?_of_type (handleCommand_type L config stamps message s m hm) (by decide)

section Reports

variable (config stamps)

/-- A state that has a payload is reported with its revision. -/
theorem stateReport_ok {state : LightState} {s : System TuyaState} {payload : JsonObj}
    (hp : state.toPayload s.boundary.lightId = .ok payload) :
    ∃ m, stateReport config stamps state s = (.ok m, { s with built := s.built + 1 }) ∧
      revision? m = some state.stateRevision := by
  obtain ⟨m, hm, hpayload, htype⟩ := newEnvelope_ok config stamps "light.state.reported" none payload
    (by decide) s
  refine ⟨m, ?_, ?_⟩
  · unfold stateReport
    rw [PyM.get_bind, hp, PyM.outcome_ok_bind, hm]
  · unfold revision?
    rw [if_pos htype, hpayload, LightState.toPayload_revision hp]
    rfl

theorem stateReport_error {state : LightState} {s : System TuyaState} {e : PyErr}
    (hp : state.toPayload s.boundary.lightId = .error e) :
    stateReport config stamps state s = (.error e, s) := by
  unfold stateReport
  rw [PyM.get_bind, hp]
  rfl

end Reports

/-! ### The line -/

theorem reported_append (a b : List Envelope) : reported (a ++ b) = reported a ++ reported b :=
  List.filterMap_append

theorem reported_singleton (m : Envelope) : reported [m] = (revision? m).toList := by
  cases h : revision? m with
  | none => exact List.filterMap_cons_none h
  | some r => exact List.filterMap_cons_some h

theorem handedOver_enqueue (s : Session) (sender : Sender) (m : Envelope) :
    handedOver (s.enqueue sender m) = handedOver s ++ [m] := by
  unfold handedOver Session.enqueue
  rw [List.map_append, ← List.append_assoc]
  rfl

theorem handedOver_sendNext (s : Session) (m : Envelope) (rest : List Envelope) :
    handedOver (sendNext s (m :: rest)) = handedOver s ++ [m] :=
  handedOver_enqueue s .receiver m

/-- What has been handed over rises, and the driver has counted past it. -/
structure Ordered (s : Session) : Prop where
  rises : (reported (handedOver s)).Pairwise (· ≤ ·)
  below : ∀ x ∈ reported (handedOver s), x < nextRevision s.system.driver
  rest : ∀ rest, s.receiver = .sending rest → ∀ m ∈ rest, revision? m = none

theorem ordered_start (system : System TuyaState) : Ordered (start system) where
  rises := List.Pairwise.nil
  below := nofun
  rest := nofun

theorem Ordered.neverBack {s : Session} (h : Ordered s) : NeverBack s := by
  have hrises := h.rises
  unfold handedOver at hrises
  rw [reported_append] at hrises
  exact (List.pairwise_append.mp hrises).1

/-- Fewer messages, and a counter further on. -/
theorem Ordered.sublist {s t : Session} (h : Ordered s)
    (hm : (handedOver t).Sublist (handedOver s))
    (hn : nextRevision s.system.driver ≤ nextRevision t.system.driver)
    (hr : ∀ rest, t.receiver = .sending rest → ∀ m ∈ rest, revision? m = none) : Ordered t where
  rises := h.rises.sublist (hm.filterMap revision?)
  below x hx := lt_of_lt_of_le (h.below x ((hm.filterMap revision?).subset hx)) hn
  rest := hr

theorem Ordered.congr {s t : Session} (h : Ordered s) (hm : handedOver t = handedOver s)
    (hn : nextRevision s.system.driver ≤ nextRevision t.system.driver)
    (hr : ∀ rest, t.receiver = .sending rest → ∀ m ∈ rest, revision? m = none) : Ordered t :=
  h.sublist (by rw [hm]) hn hr

theorem Ordered.enqueue {s : Session} (h : Ordered s) (sender : Sender) {m : Envelope}
    (hm : ∀ r, revision? m = some r → Newest s r) : Ordered (s.enqueue sender m) := by
  have hmore : reported (handedOver (s.enqueue sender m)) =
      reported (handedOver s) ++ (revision? m).toList := by
    rw [handedOver_enqueue, reported_append, reported_singleton]
  refine ⟨?_, ?_, h.rest⟩
  · rw [hmore, List.pairwise_append]
    refine ⟨h.rises, ?_, ?_⟩
    · cases revision? m with
      | none => exact List.Pairwise.nil
      | some r => exact List.pairwise_singleton _ r
    · intro x hx r hr
      exact (hm r (Option.mem_toList.mp hr)).1 x hx
  · intro x hx
    rw [hmore] at hx
    rcases List.mem_append.mp hx with hx | hx
    · exact h.below x hx
    · exact (hm x (Option.mem_toList.mp hx)).2

theorem Ordered.sendNext_cons {s : Session} (h : Ordered s) {m : Envelope} {rest : List Envelope}
    (hm : ∀ r, revision? m = some r → Newest s r) (hrest : ∀ m ∈ rest, revision? m = none) :
    Ordered (sendNext s (m :: rest)) := by
  refine (h.enqueue .receiver hm).congr rfl (le_refl _) ?_
  rintro _ ⟨⟩
  exact hrest

theorem Ordered.sendNext {s : Session} (h : Ordered s) {messages : List Envelope}
    (hms : ∀ m ∈ messages, revision? m = none) : Ordered (sendNext s messages) := by
  cases messages with
  | nil => exact h.congr rfl (le_refl _) nofun
  | cons m rest =>
    refine h.sendNext_cons ?_ fun m hm => hms m (List.mem_cons_of_mem _ hm)
    intro r hr
    rw [hms m List.mem_cons_self] at hr
    cases hr

/-- A task publishes the state it has just made. -/
theorem Ordered.publish {s : Session} (h : Ordered s) {report : Life.Report} {st : LightState}
    {t : TuyaState} (ht : Life.Effect s.system.driver report (some st) t) (sender : Sender) :
    Ordered (publish config stamps (s.withDriver t) sender st) := by
  obtain ⟨hst, hnext⟩ := effect_counts ht
  have hd : Ordered (s.withDriver t) := h.congr rfl (effect_mono ht) h.rest
  unfold Reports.publish
  cases hp : st.toPayload (s.withDriver t).system.boundary.lightId with
  | ok payload =>
    obtain ⟨m, hm, hrev⟩ := stateReport_ok config stamps hp
    rw [hm]
    have hbuilt : Ordered { s.withDriver t with
        system := { (s.withDriver t).system with built := s.system.built + 1 } } :=
      hd.congr rfl (le_refl _) hd.rest
    refine hbuilt.enqueue sender ?_
    intro r hr
    rw [hrev] at hr
    cases hr
    refine ⟨fun x hx => ?_, ?_⟩
    · rw [hst]
      exact le_of_lt (h.below x hx)
    · show st.stateRevision < nextRevision t
      omega
  | error e =>
    rw [stateReport_error config stamps hp]
    exact hd.congr rfl (le_refl _) hd.rest

/-! ### The steps -/

theorem Ordered.pollStep {s : Session} (h : Ordered s) (reply : Except PyErr Bytes) :
    Ordered (pollStep L config stamps s reply) := by
  have ht := Life.effect_poll (J := L.toJsonLib) (s := s.system.driver) s.system.boundary.deviceId
    reply
  unfold Reports.pollStep
  split
  · next state t hp =>
    rw [hp] at ht
    exact h.publish ht .publisher
  · next e t hp =>
    rw [hp] at ht
    exact h.congr rfl (effect_mono ht) h.rest

theorem Ordered.pushStep {s : Session} (h : Ordered s) (sessionKey : Option Bytes)
    (frame : TuyaFrame) : Ordered (pushStep L config stamps C s sessionKey frame) := by
  have ht := Life.effect_push (C := C) (J := L.toJsonLib) (s := s.system.driver) sessionKey frame
  unfold Reports.pushStep
  split
  · next state t hp =>
    rw [hp] at ht
    split
    · exact h.publish ht .reader
    · exact h.congr rfl (effect_mono ht) h.rest
  · next t hp =>
    rw [hp] at ht
    exact h.congr rfl (effect_mono ht) h.rest
  · next e t hp =>
    rw [hp] at ht
    exact h.congr rfl (effect_mono ht) h.rest

/-- The system after a request that does not report. -/
theorem Ordered.kept {s : Session} (h : Ordered s) {t : System TuyaState} (ht : Kept s.system t) :
    Ordered { s with system := t } := by
  refine h.congr ?_ ht.2 h.rest
  unfold handedOver
  rw [ht.1]

theorem Ordered.refuse {s : Session} (h : Ordered s) (e : PyErr) : Ordered (refuse s e) := by
  unfold Reports.refuse
  split
  · exact h
  · exact h.congr rfl (le_refl _) nofun

theorem Ordered.deliverStep {s t : Session} {message : Envelope} {timedOut : Bool}
    {scan : Except PyErr (List DiscoveryItem)} {w : WriteOutcomes} (h : Ordered s)
    (hs : deliverStep L config stamps C ipAddress o s message timedOut scan w = some t) :
    Ordered t := by
  unfold Reports.deliverStep at hs
  dsimp only at hs
  split at hs
  · have hkept := handleDiscovery_kept L config stamps C ipAddress o timedOut message scan w s.system
    split at hs
    · next messages u hr =>
      rw [hr] at hkept
      cases hs
      refine (h.kept hkept).sendNext ?_
      exact handleDiscovery_silent timedOut message _ s.system messages (by rw [hr])
    · next e u hr =>
      rw [hr] at hkept
      cases hs
      exact (h.kept hkept).refuse e
  · split at hs
    · cases hs
    · split at hs
      · cases hs
        exact h
      · have hkept := handleCommand_kept L config stamps C ipAddress o message scan w s.system
        split at hs
        · next result u hr =>
          rw [hr] at hkept
          cases hs
          refine ((h.kept hkept).enqueue .receiver ?_).congr rfl (le_refl _) nofun
          intro r hrev
          rw [handleCommand_silent message _ s.system result (by rw [hr])] at hrev
          cases hrev
        · next e u hr =>
          rw [hr] at hkept
          cases hs
          exact (h.kept hkept).refuse e

variable (config stamps) in
/-- The state of an applied result is handed over when the result is out. -/
theorem goOn_result {s : Session} {result : Envelope} {state : JsonObj}
    (hr : s.receiver = .sendingResult result) (hstate : appliedState result = some state) :
    ∃ m, goOn config stamps s =
        sendNext { s with system := { s.system with built := s.system.built + 1 } } [m] ∧
      revision? m = (getItem state "state_revision").int? := by
  obtain ⟨m, hm, hpayload, htype⟩ := newEnvelope_ok config stamps "light.state.reported" none state
    (by decide) s.system
  refine ⟨m, ?_, ?_⟩
  · simp only [goOn, hr, hstate, hm]
  · unfold revision?
    rw [if_pos htype, hpayload]

/-- The receiver goes on after a message; `hc` is about the state of an applied result. -/
theorem Ordered.goOn {s : Session} (h : Ordered s)
    (hc : ∀ result state r, s.receiver = .sendingResult result → appliedState result = some state →
      (getItem state "state_revision").int? = some r → Newest s r) :
    Ordered (goOn config stamps s) := by
  cases hr : s.receiver with
  | waiting =>
    simp only [Reports.goOn, hr]
    exact h
  | ended =>
    simp only [Reports.goOn, hr]
    exact h
  | sending rest =>
    simp only [Reports.goOn, hr]
    exact h.sendNext (h.rest rest hr)
  | sendingResult result =>
    cases hstate : appliedState result with
    | none =>
      simp only [Reports.goOn, hr, hstate]
      exact h.congr rfl (le_refl _) nofun
    | some state =>
      obtain ⟨m, hm, hrev⟩ := goOn_result config stamps hr hstate
      have hbuilt : Ordered { s with system := { s.system with built := s.system.built + 1 } } :=
        h.congr rfl (le_refl _) h.rest
      rw [hm]
      refine hbuilt.sendNext_cons ?_ fun m hm => absurd hm List.not_mem_nil
      intro r hr'
      exact hc result state r hr hstate (hrev ▸ hr')

theorem handedOver_sent {s : Session} {m : Outgoing} {rest : List Outgoing}
    (hq : s.queue = m :: rest) :
    handedOver { s with
      system := { s.system with sent := s.system.sent ++ [m.message] }, queue := rest } =
        handedOver s := by
  unfold handedOver
  rw [hq, List.map_cons, List.append_assoc]
  rfl

theorem step_ordered {s t : Session} {e : Event} (h : Ordered s) (hc : Current s e)
    (hs : step L config stamps C ipAddress o s e = some t) : Ordered t := by
  cases e with
  | deliver message timedOut scan w =>
    simp only [step] at hs
    split at hs
    · exact h.deliverStep hs
    · cases hs
  | poll reply =>
    simp only [step] at hs
    split at hs
    · cases hs
      exact h.pollStep reply
    · cases hs
  | push sessionKey frame =>
    simp only [step] at hs
    split at hs
    · cases hs
      exact h.pushStep sessionKey frame
    · cases hs
  | subscribe =>
    cases hs
    exact h.congr rfl (le_refl _) h.rest
  | unsubscribe =>
    cases hs
    exact h.congr rfl (le_refl _) h.rest
  | sent =>
    simp only [step] at hs
    split at hs
    · cases hs
    · next m rest hq =>
      have hm := handedOver_sent hq
      have ht := h.congr hm (le_refl _) h.rest
      cases hs
      split
      · next hsender =>
        refine ht.goOn fun result state r hr hstate hrev => ?_
        have hnew := hc r ⟨m, rest, result, state, hq, hsender, hr, hstate, hrev⟩
        exact ⟨by rw [hm]; exact hnew.1, hnew.2⟩
      · exact ht
  | dropped sender =>
    simp only [step] at hs
    have hsub : (handedOver { s with queue := s.queue.filter fun m => m.sender ≠ sender }).Sublist
        (handedOver s) :=
      (List.Sublist.refl _).append (List.filter_sublist.map Outgoing.message)
    cases hs
    split
    · exact h.sublist hsub (le_refl _) nofun
    · exact h.sublist hsub (le_refl _) h.rest

/-! ### A report that is not the newest -/

variable (L config stamps C ipAddress o)

/-- The receiver has nothing more to hand over: the first message in line goes out. -/
theorem sent_idle {s : Session} {m : Outgoing} {rest : List Outgoing} (hq : s.queue = m :: rest)
    (hr : s.receiver = .waiting ∨ s.receiver = .sending []) :
    ∃ t, step L config stamps C ipAddress o s .sent = some t ∧ t.queue = rest ∧
      handedOver t = handedOver s ∧ (t.receiver = .waiting ∨ t.receiver = .sending []) := by
  have hm := handedOver_sent hq
  simp only [step, hq]
  split
  · rcases hr with hr | hr
    · refine ⟨_, rfl, ?_, ?_, ?_⟩
      · simp only [goOn, hr]
      · simp only [goOn, hr]
        exact hm
      · simp only [goOn, hr, true_or]
    · refine ⟨_, rfl, ?_, ?_, ?_⟩
      · simp only [goOn, hr, sendNext]
      · simp only [goOn, hr, sendNext]
        exact hm
      · simp only [goOn, hr, sendNext, true_or]
  · exact ⟨_, rfl, rfl, hm, hr⟩

/-- The whole line goes out in its order. -/
theorem run_drain {s : Session} (hr : s.receiver = .waiting ∨ s.receiver = .sending []) :
    ∃ u, Runs.run (step L config stamps C ipAddress o) s (List.replicate s.queue.length .sent) =
      some u ∧ u.system.sent = handedOver s := by
  obtain ⟨queue, hq⟩ : ∃ queue, s.queue = queue := ⟨_, rfl⟩
  induction queue generalizing s with
  | nil =>
    refine ⟨s, by rw [hq]; rfl, ?_⟩
    unfold handedOver
    rw [hq, List.map_nil, List.append_nil]
  | cons m rest ih =>
    obtain ⟨t, hstep, htq, hto, htr⟩ := sent_idle L config stamps C ipAddress o hq hr
    obtain ⟨u, hrun, hu⟩ := ih htr htq
    refine ⟨u, ?_, hu.trans hto⟩
    rw [hq, List.length_cons, List.replicate_succ, Runs.run_cons, hstep, ← htq]
    exact hrun

/-- When the result goes out, the report of its state takes its place at the end of the line. -/
theorem ResultFirst.sent {s : Session} {r : Int} (h : ResultFirst s r) :
    ∃ t report, step L config stamps C ipAddress o s .sent = some t ∧ revision? report = some r ∧
      handedOver t = handedOver s ++ [report] ∧ t.queue.length = s.queue.length ∧
      t.receiver = .sending [] := by
  obtain ⟨m, rest, result, state, hq, hm, hr, hstate, hrev⟩ := h
  obtain ⟨report, hgo, hreport⟩ := goOn_result config stamps (s := { s with
    system := { s.system with sent := s.system.sent ++ [m.message] }, queue := rest }) hr hstate
  refine ⟨sendNext { s with
      system := { s.system with sent := s.system.sent ++ [m.message], built := s.system.built + 1 }
      queue := rest } [report], report, ?_, hreport.trans hrev, ?_, ?_, rfl⟩
  · simp only [step, hq]
    rw [if_pos hm, hgo]
  · rw [← handedOver_sent hq, handedOver_sendNext]
    rfl
  · rw [hq]
    exact List.length_append

/-- `appliedState` is what `reportApplied` reports. -/
theorem reportApplied_some {result : Envelope} {state : JsonObj}
    (h : appliedState result = some state) :
    reportApplied (D := TuyaState) config stamps result =
      newEnvelope config stamps "light.state.reported" none state >>= send := by
  unfold appliedState at h
  unfold reportApplied
  split at h
  · next happlied => rw [if_pos happlied, h]
  · cases h

theorem reportApplied_none {result : Envelope} (h : appliedState result = none) :
    reportApplied (D := TuyaState) config stamps result = pure () := by
  unfold appliedState at h
  unfold reportApplied
  split at h
  · next happlied => rw [if_pos happlied, h]
  · next hother => rw [if_neg hother]

/-- A result whose sends nothing disturbs: the session does what `_receive` does with it. -/
theorem run_undisturbed {s : Session} {result : Envelope} (hq : s.queue = [⟨.receiver, result⟩])
    (hr : s.receiver = .sendingResult result) :
    ∃ es t, Runs.run (step L config stamps C ipAddress o) s es = some t ∧ t.queue = [] ∧
      t.receiver = .waiting ∧
      t.system = ((send result >>= fun _ => reportApplied config stamps result) s.system).2 := by
  cases hstate : appliedState result with
  | none =>
    refine ⟨[.sent], { s with
      system := { s.system with sent := s.system.sent ++ [result] }, queue := [],
      receiver := .waiting }, ?_, rfl, rfl, ?_⟩
    · simp only [Runs.run, step, hq, goOn, hr, hstate, if_true]
    · rw [reportApplied_none config stamps hstate]
      rfl
  | some state =>
    obtain ⟨m, hm, -⟩ := newEnvelope_ok config stamps "light.state.reported" none state (by decide)
      { s.system with sent := s.system.sent ++ [result] }
    refine ⟨[.sent, .sent], { s with
      system := { s.system with
        sent := s.system.sent ++ [result] ++ [m], built := s.system.built + 1 }
      queue := [], receiver := .waiting }, ?_, rfl, rfl, ?_⟩
    · simp only [Runs.run, step, hq, goOn, hr, hstate, hm, sendNext, Session.enqueue, if_true,
        List.nil_append]
    · rw [reportApplied_some config stamps hstate]
      unfold send
      rw [PyM.modify_bind, PyM.bind_ok hm]
      rfl

/-- What the condition leaves out does go wrong: a result goes out after a report with a higher
revision was handed over, and when the line has gone out the wire has both, the higher one first. -/
theorem stale_report_goes_back {s : Session} {r x : Int} (h : ResultFirst s r)
    (hx : x ∈ reported (handedOver s)) (hlt : r < x) :
    ∃ u, Runs.run (step L config stamps C ipAddress o) s
        (.sent :: List.replicate s.queue.length .sent) = some u ∧ ¬ NeverBack u := by
  obtain ⟨t, report, hstep, hreport, hover, hlength, hr⟩ := h.sent L config stamps C ipAddress o
  obtain ⟨u, hrun, hu⟩ := run_drain L config stamps C ipAddress o (s := t) (Or.inr hr)
  refine ⟨u, ?_, ?_⟩
  · rw [Runs.run_cons, hstep, ← hlength]
    exact hrun
  · intro hnever
    unfold NeverBack at hnever
    rw [hu, hover, reported_append, reported_singleton, hreport] at hnever
    have hle := (List.pairwise_append.mp hnever).2.2 x hx r (Option.mem_toList.mpr rfl)
    omega

end Steps

/-! ## Main result -/

/-- **Reported revisions never go back on the wire**, in every run in which the state of an applied
command is still the newest when its result is out. -/
theorem reports_never_go_back (L : PyLib) (config : LinkerConfig) (stamps : Nat → Stamp)
    (C : TuyaCrypto) (ipAddress : String → Option IpAddress) (o : PairOutcomes)
    (system : System TuyaState) (es : List Event)
    (h : Runs.Meets (step L config stamps C ipAddress o) Current (start system) es) :
    Runs.Always (step L config stamps C ipAddress o) NeverBack (start system) es := by
  refine Runs.always_of_inv_meets (I := Ordered) ?_ ?_ es (ordered_start system) h
  · intro s e s' hi hc hs
    exact step_ordered hi hc hs
  · intro s hi
    exact hi.neverBack

/-! ## A lamp that is polled while a result is on its way -/

section Lamp

variable {L : PyLib} {config : LinkerConfig} {stamps : Nat → Stamp}
variable {C : TuyaCrypto} {ipAddress : String → Option IpAddress} {o : PairOutcomes}

theorem commandTypes_dispatch {type : String} (h : type ∈ commandTypes) :
    type ≠ "discovery.start" ∧ type ≠ "pairing.start" ∧ "light.command.".isPrefixOf type = true := by
  simp only [commandTypes, List.mem_cons, List.not_mem_nil, or_false] at h
  rcases h with rfl | rfl | rfl
  · exact ⟨by decide, by decide, by simp [String.isPrefixOf]⟩
  · exact ⟨by decide, by decide, by simp [String.isPrefixOf]⟩
  · exact ⟨by decide, by decide, by simp [String.isPrefixOf]⟩

theorem appliedState_applied {result : Envelope} {md : CommandMetadata} {st : LightState}
    {payload : JsonObj} (hresult : result.payload = statePayload md st)
    (hp : st.toPayload (some md.lightId) = .ok payload) : appliedState result = some payload := by
  unfold appliedState
  rw [hresult]
  unfold statePayload
  rw [hp]
  rfl

/-- A new command that the driver serves: its result is first in line, and the newest. -/
theorem deliver_applied {s : Session} {message : Envelope} (timedOut : Bool)
    (scan : Except PyErr (List DiscoveryItem)) {w : WriteOutcomes} {md : CommandMetadata}
    {op : Operation} {st : LightState} {t : TuyaState} {payload : JsonObj} (hq : s.queue = [])
    (hr : s.receiver = .waiting) (htype : message.type ∈ commandTypes)
    (hadm : admitCommand L s.system.boundary.lightId message = .ok (.ok md))
    (hfresh : s.system.boundary.journal.get? md.idempotencyKey = none)
    (hplan : planOperation message = .ok op)
    (hrun : driverCall L.toJsonLib w s.system.boundary.deviceId (lightOp op) s.system.driver =
      (.ok st, t))
    (hp : st.toPayload (some md.lightId) = .ok payload) :
    ∃ u, step L config stamps C ipAddress o s (.deliver message timedOut scan w) = some u ∧
      ResultFirst u st.stateRevision ∧ u.queue.length = 1 ∧
      reported (handedOver u) = reported (handedOver s) ∧ u.system.driver = t ∧
      u.system.boundary.deviceId = s.system.boundary.deviceId ∧
      u.system.boundary.lightId = s.system.boundary.lightId := by
  obtain ⟨hdiscovery, hpairing, hlight⟩ := commandTypes_dispatch htype
  obtain ⟨result, hresult, hpayload⟩ := handleCommand_fresh L config stamps
    (tuyaDriver C L.toJsonLib ipAddress scan o w) hadm hfresh hplan
    (by rw [runOperation_driverCall]; exact hrun)
  have hsilent := handleCommand_silent message _ s.system result (by rw [hresult])
  refine ⟨{ { s with system := { s.system with
        boundary := { s.system.boundary with
          journal := s.system.boundary.journal.setDefault md.idempotencyKey result.payload }
        driver := t
        built := s.system.built + 1 } }.enqueue .receiver result with
      receiver := .sendingResult result }, ?_, ⟨⟨.receiver, result⟩, [], result, payload, ?_, rfl, rfl,
    appliedState_applied hpayload hp, ?_⟩, ?_, ?_, rfl, rfl, rfl⟩
  · simp only [step, hr, deliverStep, hdiscovery, hpairing, hlight, hresult, if_false,
      Bool.true_eq_false]
  · show s.queue ++ [_] = [_]
    rw [hq]
    rfl
  · rw [LightState.toPayload_revision hp]
    rfl
  · show (s.queue ++ [_]).length = 1
    rw [hq]
    rfl
  · show reported (handedOver (s.enqueue .receiver result)) = _
    rw [handedOver_enqueue, reported_append, reported_singleton, hsilent]
    exact List.append_nil _

/-- A poll that maps is in line behind the others. -/
theorem poll_reported {s : Session} {reply : Except PyErr Bytes} {st : LightState} {t : TuyaState}
    {payload : JsonObj} (hfree : s.free .publisher = true)
    (hpoll : pollState L.toJsonLib s.system.boundary.deviceId reply s.system.driver = (.ok st, t))
    (hp : st.toPayload s.system.boundary.lightId = .ok payload) :
    ∃ m u, step L config stamps C ipAddress o s (.poll reply) = some u ∧
      u.queue = s.queue ++ [⟨.publisher, m⟩] ∧ u.receiver = s.receiver ∧
      reported (handedOver u) = reported (handedOver s) ++ [st.stateRevision] := by
  obtain ⟨m, hm, hrev⟩ := stateReport_ok config stamps (s := (s.withDriver t).system) hp
  refine ⟨m, { s.withDriver t with
    system := { (s.withDriver t).system with built := s.system.built + 1 } }.enqueue .publisher m,
    ?_, rfl, rfl, ?_⟩
  · simp only [step, hfree, if_true, pollStep, hpoll, publish, hm]
    rfl
  · rw [handedOver_enqueue, reported_append, reported_singleton, hrev]
    rfl

theorem ResultFirst.unique {s : Session} {r r' : Int} (h : ResultFirst s r)
    (h' : ResultFirst s r') : r = r' := by
  obtain ⟨-, -, result, state, -, -, hres, hstate, hrev⟩ := h
  obtain ⟨-, -, result', state', -, -, hres', hstate', hrev'⟩ := h'
  cases hres.symm.trans hres'
  cases hstate.symm.trans hstate'
  exact Option.some.inj (hrev.symm.trans hrev')

theorem ResultFirst.more {s t : Session} {r : Int} {later : List Outgoing} (h : ResultFirst s r)
    (hq : t.queue = s.queue ++ later) (hr : t.receiver = s.receiver) : ResultFirst t r := by
  obtain ⟨m, rest, result, state, hmr, hm, hres, hstate, hrev⟩ := h
  exact ⟨m, rest ++ later, result, state, by rw [hq, hmr]; rfl, hm, hr.trans hres, hstate, hrev⟩

end Lamp

def lampSystem : System TuyaState :=
  ⟨⟨some "light.desk", some Commands.lamp.deviceId, none, Dict.empty⟩, Commands.lampState, 0, []⟩

/-- The lamp serves the command. -/
theorem lamp_served : ∃ st t payload,
    driverCall lampLib.toJsonLib Commands.acknowledgedOnly (some Commands.lamp.deviceId)
      (lightOp .turnOn) Commands.lampState = (.ok st, t) ∧
    st.toPayload (some "light.desk") = .ok payload ∧ t.device = some Commands.lamp ∧
    nextRevision t = st.stateRevision + 1 := by
  obtain ⟨hdps, mapped, hmap⟩ := offReply_maps Commands.lamp.deviceId (by decide)
  obtain ⟨t, ht⟩ : ∃ t, driverCall lampLib.toJsonLib Commands.acknowledgedOnly
      (some Commands.lamp.deviceId) (lightOp .turnOn) Commands.lampState =
        (.ok (revisioned Commands.lampState.state mapped), t) := by
    rw [driverCall_eq]
    exact Commands.writeCommand_ok (d := Commands.lamp) (m := lampMapping) rfl rfl rfl rfl rfl hdps
      hmap
  obtain ⟨payload, hp⟩ := revisioned_toPayload hmap Commands.lampState.state (some "light.desk")
  have heffect := Life.effect_write (J := lampLib.toJsonLib) (s := Commands.lampState)
    (some Commands.lamp.deviceId) (lightOp .turnOn) Commands.acknowledgedOnly
  rw [ht] at heffect
  obtain ⟨hrev, hnext⟩ := effect_counts heffect
  refine ⟨_, t, payload, ht, hp, heffect.device, ?_⟩
  rw [hnext, hrev]

/-- The command is delivered: its result is first in line and nothing is reported yet. -/
theorem lamp_delivered : ∃ u r,
    step lampLib .default (fun _ => Stamp.zero) .plain privateAddress allWell (start lampSystem)
      (.deliver Commands.powerOn false (.ok []) Commands.acknowledgedOnly) = some u ∧
    ResultFirst u r ∧ u.queue.length = 1 ∧ u.free .publisher = true ∧
    reported (handedOver u) = [] ∧ nextRevision u.system.driver = r + 1 ∧ u.system.driver.device = some Commands.lamp ∧
    u.system.boundary.deviceId = some Commands.lamp.deviceId ∧
    u.system.boundary.lightId = some "light.desk" := by
  obtain ⟨st, t, payload, hrun, hp, hdevice, hnext⟩ := lamp_served
  obtain ⟨u, hstep, hfirst, hlength, hreported, hdriver, hid, hlight⟩ :=
    deliver_applied (L := lampLib) (C := .plain) (s := start lampSystem) false (.ok []) rfl rfl
      (by decide) Commands.powerOn_admitted rfl rfl hrun hp
  refine ⟨u, st.stateRevision, hstep, hfirst, hlength, ?_, hreported, ?_, ?_, hid, hlight⟩
  · obtain ⟨m, rest, -, -, hq, hm, -⟩ := hfirst
    rw [hq, List.length_cons] at hlength
    unfold Session.free
    rw [hq, List.length_eq_zero_iff.mp (Nat.succ.inj hlength)]
    simp [hm]
  · rw [hdriver, hnext]
  · rw [hdriver, hdevice]

/-- `light.command.power` under another key. -/
def keyed (key : String) : Envelope :=
  { Commands.powerOn with
    payload := [("light_id", .str "light.desk"), ("command_id", .str Stamp.zero.id.str),
      ("idempotency_key", .str key), ("power", .bool true)] }

/-- The status frame the lamp pushes. -/
def offPush : TuyaFrame := ⟨0, commandStatus, pkcs7Pad offReply⟩

/-- A command, a poll, a push, another command and its redelivery, each report on the wire before the
next state is made. -/
def evening : List Event :=
  [.subscribe, .deliver (keyed "k1") false (.ok []) Commands.acknowledgedOnly, .sent, .sent,
    .poll (.ok offReply), .sent, .push none offPush, .sent,
    .deliver (keyed "k2") false (.ok []) Commands.acknowledgedOnly, .sent, .sent,
    .deliver (keyed "k2") false (.ok []) Commands.acknowledgedOnly, .sent, .sent]

theorem reports_never_go_back_evening :
    (Runs.run (step lampLib .default (fun _ => Stamp.zero) .plain privateAddress allWell)
        (start lampSystem) evening).map (fun s => reported s.system.sent) = some [0, 1, 2, 3, 3] ∧
      Runs.Always (step lampLib .default (fun _ => Stamp.zero) .plain privateAddress allWell) NeverBack
        (start lampSystem) evening :=
  ⟨by decide +kernel, reports_never_go_back _ _ _ _ _ _ _ _ (by decide +kernel)⟩

/-- The lamp is polled while the result of a command is being sent: its state is reported with
revision 1, and then the state of the command with revision 0. -/
theorem report_goes_back :
    ¬ Runs.Always (step lampLib .default (fun _ => Stamp.zero) .plain privateAddress allWell)
      NeverBack (start lampSystem)
      [.deliver Commands.powerOn false (.ok []) Commands.acknowledgedOnly, .poll (.ok offReply),
        .sent, .sent, .sent] := by
  intro h
  obtain ⟨s₁, r, hdeliver, hfirst, hlength, hfree, hreported, hnext, hdevice, hid, hlight⟩ :=
    lamp_delivered
  obtain ⟨hdps, mapped, hmap⟩ := offReply_maps Commands.lamp.deviceId (by decide)
  obtain ⟨t, ht⟩ := pollState_ok lampLib.toJsonLib hdevice rfl hdps hmap
  obtain ⟨payload, hp⟩ := revisioned_toPayload hmap s₁.system.driver.state (some "light.desk")
  have heffect := Life.effect_poll (J := lampLib.toJsonLib) (s := s₁.system.driver)
    (some Commands.lamp.deviceId) (.ok offReply)
  rw [ht] at heffect
  have hhigher := (effect_counts heffect).1
  rw [← hid] at ht
  rw [← hlight] at hp
  obtain ⟨m, s₂, hpoll, hqueue, hreceiver, hmore⟩ := poll_reported (L := lampLib)
    (C := .plain) hfree ht hp
  obtain ⟨u, hrun, hback⟩ := stale_report_goes_back lampLib .default (fun _ => Stamp.zero) .plain
    privateAddress allWell (hfirst.more hqueue hreceiver)
    (by rw [hmore]; exact List.mem_append_right _ (List.mem_singleton.mpr rfl))
    (show r < _ by rw [hhigher, hnext]; omega)
  rw [hqueue, List.length_append, hlength] at hrun
  refine hback (Runs.always_run h ?_)
  rw [Runs.run_cons, hdeliver, Option.bind_some, Runs.run_cons, hpoll]
  exact hrun

end Linker.Reports
