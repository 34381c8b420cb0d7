import Mathlib.Data.List.Forall2
import OpenHdoLinker.Boundary.Handle
import OpenHdoLinker.Lib.Runs

/-!
# The binding follows the reported pairings

What the boundary answers to `discovery.start` and `pairing.start`, for any driver:
candidates and one completion, or one completion, and what the three fields that bind it
to a light are afterwards.  Whoever reads the completions knows what the boundary will
register (`announced`).

    Always (step L config stamps driver) (Reported …) (start s) es   (binding_follows_reports)
-/

namespace Linker.Answers

open Py

/-! ## Algorithm -/

/-- A call of `handle`: the message, whether `wait_for` ends the driver's call, the system before
it and after it, and its outcome. -/
structure Exchange (D : Type) where
  message : Envelope
  timedOut : Bool
  before : System D
  outcome : Except PyErr (Envelope ⊕ List Envelope)
  after : System D

structure State (D : Type) where
  system : System D
  log : List (Exchange D)

section Machine

variable {D : Type} (L : PyLib) (config : LinkerConfig) (stamps : Nat → Stamp)
variable (driver : VendorRgbDriver D)

def exchange (timedOut : Bool) (m : Envelope) (s : System D) : Exchange D :=
  ⟨m, timedOut, s, (handle L config stamps driver timedOut m s).1,
    (handle L config stamps driver timedOut m s).2⟩

/-- The next message is handled. -/
def step (s : State D) (e : Bool × Envelope) : Option (State D) :=
  let x := exchange L config stamps driver e.1 e.2 s.system
  some ⟨x.after, s.log ++ [x]⟩

def start (s : System D) : State D := ⟨s, []⟩

end Machine

/-! ## Statement -/

/-- The message belongs to the request and its session. -/
structure Belongs (start : Envelope) (sessionId : Uuid) (m : Envelope) : Prop where
  correlation : m.correlationId = some start.id
  session : m.payload.lookup "session_id" = some (.str sessionId.str)

/-- The last message of a request, with its status. -/
structure IsCompletion (type : String) (start : Envelope) (sessionId : Uuid) (status : String)
    (m : Envelope) : Prop extends Belongs start sessionId m where
  type : m.type = type
  status : m.payload.lookup "status" = some (.str status)

structure IsCandidate (start : Envelope) (sessionId : Uuid) (m : Envelope) : Prop
    extends Belongs start sessionId m where
  type : m.type = "discovery.candidate"

def NoDevice (m : Envelope) : Prop := m.payload.lookup "device" = none

/-- The answers to an accepted `discovery.start`. -/
inductive DiscoveryAnswer (start : Envelope) (sessionId : Uuid) : List Envelope → Prop
  | completed (candidates : List Envelope) (done : Envelope)
      (hcandidates : ∀ m ∈ candidates, IsCandidate start sessionId m ∧ NoDevice m)
      (hdone : IsCompletion "discovery.completed" start sessionId "completed" done)
      (hdevice : NoDevice done) : DiscoveryAnswer start sessionId (candidates ++ [done])
  | failed (done : Envelope)
      (hdone : IsCompletion "discovery.completed" start sessionId "failed" done)
      (hdevice : NoDevice done) : DiscoveryAnswer start sessionId [done]

/-- The completed pairing names a device, with the requested candidate id. -/
structure IsPaired (start : Envelope) (sessionId : Uuid) (candidateId : String)
    (d : DeviceDescriptor) (m : Envelope) : Prop
    extends IsCompletion "pairing.completed" start sessionId "completed" m where
  candidate : m.payload.lookup "candidate_id" = some (.str candidateId)
  device : m.payload.lookup "device" = some (.obj d.toPayload)
  device_id : d.id = candidateId

structure IsUnpaired (start : Envelope) (sessionId : Uuid) (candidateId : String) (m : Envelope) :
    Prop extends IsCompletion "pairing.completed" start sessionId "failed" m where
  candidate : m.payload.lookup "candidate_id" = some (.str candidateId)
  no_device : NoDevice m

/-- The fields that bind the boundary to a light. -/
structure SameBinding (a b : BoundaryState) : Prop where
  lightId : b.lightId = a.lightId
  deviceId : b.deviceId = a.deviceId
  descriptor : b.descriptor = a.descriptor

/-- The boundary is bound to what the driver's `pair` returned. -/
structure BoundTo (b : BoundaryState) (d : DeviceDescriptor) (deviceId : String) : Prop where
  lightId : b.lightId = some d.id
  deviceId : b.deviceId = some deviceId
  descriptor : b.descriptor = some d

section Exchanges

variable {D : Type} (L : PyLib) (config : LinkerConfig) (driver : VendorRgbDriver D)

/-- The driver's call raised what `except Exception` lets through: the request was cancelled. -/
def Cancelled {α : Type} (call : Except PyErr α) (x : Exchange D) : Prop :=
  ∃ e, call = .error e ∧ ¬ IsOrdinary e ∧ x.outcome = .error e

/-- The scan that a discovery request asks the driver for. -/
def scanCall (timeoutS : Int) (timedOut : Bool) (s : System D) :
    Except PyErr (List DeviceDescriptor) :=
  match config.discovery.replaceTimeout (.finite (effectiveTimeout timeoutS)) with
  | .ok c => (PyM.waitFor timedOut (driver.discover c) s.driver).1
  | .error e => .error e

/-- What an accepted pairing request comes to. -/
inductive PairingExchange (sessionId : Uuid) (candidateId : String) (x : Exchange D) : Prop
  | cancelled (h : Cancelled (pairCall driver x.timedOut candidateId x.before.driver).1 x)
      (hsame : SameBinding x.before.boundary x.after.boundary)
  | failed (m : Envelope) (ho : x.outcome = .ok (.inr [m]))
      (hm : IsUnpaired x.message sessionId candidateId m)
      (hsame : SameBinding x.before.boundary x.after.boundary)
  | completed (m : Envelope) (d : DeviceDescriptor) (deviceId : String)
      (ho : x.outcome = .ok (.inr [m])) (hm : IsPaired x.message sessionId candidateId d m)
      (hpair : (pairCall driver x.timedOut candidateId x.before.driver).1 =
        .ok ⟨some d, some deviceId⟩)
      (hbound : BoundTo x.after.boundary d deviceId)

/-- Every accepted request is answered, and only a completed pairing touches the binding. -/
structure Sound (x : Exchange D) : Prop where
  discovery : ∀ sessionId timeoutS, discoveryRequest L x.message = .ok (sessionId, timeoutS) →
    Cancelled (scanCall config driver timeoutS x.timedOut x.before) x ∨
      ∃ ms, x.outcome = .ok (.inr ms) ∧ DiscoveryAnswer x.message sessionId ms
  pairing : ∀ sessionId candidateId timeoutS,
    pairingRequest L x.message = .ok (sessionId, candidateId, timeoutS) →
    PairingExchange driver sessionId candidateId x
  other : (∀ r, pairingRequest L x.message ≠ .ok r) →
    SameBinding x.before.boundary x.after.boundary

end Exchanges

section Reports

variable {D : Type} (L : PyLib) (config : LinkerConfig) (stamps : Nat → Stamp)
variable (driver : VendorRgbDriver D)

/-- The messages a call of `handle` returned. -/
def sentMessages (x : Exchange D) : List Envelope :=
  match x.outcome with
  | .ok (.inl m) => [m]
  | .ok (.inr ms) => ms
  | .error _ => []

/-- A reader of the messages notes the device of each completed pairing. -/
def noted (device : Option Json) (m : Envelope) : Option Json :=
  if m.type = "pairing.completed" ∧ (getItem m.payload "status").str? = some "completed" then
    m.payload.lookup "device"
  else device

/-- The device last reported as paired, or the one the boundary started with. -/
def announced (initial : Option Json) (log : List (Exchange D)) : Option Json :=
  (log.flatMap sentMessages).foldl noted initial

/-- The device `register` announces. -/
def registeredDevice (b : BoundaryState) : Option Json := b.descriptor.map fun d => .obj d.toPayload

/-- The calls of `handle` for the messages, each on the system that the one before has left. -/
def exchanges (s : System D) : List (Bool × Envelope) → List (Exchange D)
  | [] => []
  | (timedOut, m) :: es =>
    exchange L config stamps driver timedOut m s ::
      exchanges (exchange L config stamps driver timedOut m s).after es

structure Reported (initial : BoundaryState) (s : State D) : Prop where
  sound : ∀ x ∈ s.log, Sound L config driver x
  registers : ∃ m, (register config stamps s.system).1 = .ok m ∧ m.type = "link.register" ∧
    m.payload.lookup "devices" = (announced (registeredDevice initial) s.log).map fun d => .arr [d]

end Reports

/-! ## Lemmas -/

section Requests

variable {D : Type} {L : PyLib} {config : LinkerConfig} {stamps : Nat → Stamp}
variable {driver : VendorRgbDriver D} {timedOut : Bool} {start : Envelope} {s : System D}
variable {sessionId : Uuid}

/-! ### What a discovery request comes to -/

/-- The candidate message of a descriptor. -/
structure IsCandidateOf (start : Envelope) (sessionId : Uuid) (d : DeviceDescriptor) (m : Envelope) :
    Prop extends IsCandidate start sessionId m where
  candidate : m.payload.lookup "candidate_id" = some (.str d.id)
  no_device : NoDevice m

variable (config stamps) in
/-- One envelope for each element, in order. -/
theorem mapM_newEnvelope {β : Type} (type : String) (ht : isMessageType type = true)
    (correlation : Option Uuid) (payload : β → JsonObj) (l : List β) (s : System D) :
    ∃ ms, l.mapM (fun b => newEnvelope config stamps type correlation (payload b)) s =
        (.ok ms, { s with built := s.built + l.length }) ∧
      List.Forall₂ (fun b m => m.type = type ∧ m.correlationId = correlation ∧
        m.payload = payload b) l ms := by
  induction l generalizing s with
  | nil => exact ⟨[], rfl, .nil⟩
  | cons b l ih =>
    obtain ⟨ms, hms, hall⟩ := ih { s with built := s.built + 1 }
    refine ⟨ownEnvelope config type ht correlation (payload b) (stamps s.built) :: ms, ?_,
      .cons ⟨rfl, rfl, rfl⟩ hall⟩
    rw [List.mapM_cons]
    refine (PyM.bind_ok (newEnvelope_run config stamps type correlation (payload b) ht s)).trans ?_
    refine (PyM.bind_ok hms).trans ?_
    rw [List.length_cons, Nat.add_comm l.length 1, ← Nat.add_assoc]
    rfl

theorem forall₂_through {α β γ : Type} {P : α → β → Prop} {Q : β → γ → Prop} {R : α → γ → Prop}
    {as : List α} {bs : List β} {cs : List γ} (h : List.Forall₂ P as bs) (h' : List.Forall₂ Q bs cs)
    (hR : ∀ a b c, P a b → Q b c → R a c) : List.Forall₂ R as cs := by
  induction h generalizing cs with
  | nil => cases h'; exact .nil
  | cons hp _ ih =>
    cases h' with
    | cons hq hrest => exact .cons (hR _ _ _ hp hq) (ih hrest)

theorem forall₂_mem_right {α β : Type} {R : α → β → Prop} {as : List α} {bs : List β}
    (h : List.Forall₂ R as bs) {b : β} (hb : b ∈ bs) : ∃ a ∈ as, R a b := by
  induction h with
  | nil => cases hb
  | cons hab _ ih =>
    rcases List.mem_cons.mp hb with rfl | hb
    · exact ⟨_, List.mem_cons_self, hab⟩
    · obtain ⟨a, ha, hr⟩ := ih hb
      exact ⟨a, List.mem_cons_of_mem _ ha, hr⟩

theorem mapM_fromDescriptor (l : List DeviceDescriptor) :
    ∃ cs, l.mapM DiscoveryCandidate.fromDescriptor = .ok cs ∧
      List.Forall₂ (fun d (c : DiscoveryCandidate) => c.candidateId = d.id) l cs := by
  induction l with
  | nil => exact ⟨[], rfl, .nil⟩
  | cons d l ih =>
    obtain ⟨c, hc, hid⟩ := DiscoveryCandidate.fromDescriptor_ok d
    obtain ⟨cs, hcs, hall⟩ := ih
    refine ⟨c :: cs, ?_, .cons hid hall⟩
    rw [List.mapM_cons, hc, hcs]
    rfl

variable (stamps) in
/-- The scan returned: one candidate for each descriptor, in order, and a completion. -/
theorem handleDiscovery_found {timeoutS : Int} {c : DiscoveryConfig} {ds : List DeviceDescriptor}
    {d : D} (hreq : discoveryRequest L start = .ok (sessionId, timeoutS))
    (hc : config.discovery.replaceTimeout (.finite (effectiveTimeout timeoutS)) = .ok c)
    (hscan : PyM.waitFor timedOut (driver.discover c) s.driver = (.ok ds, d)) :
    ∃ ms done built, handleDiscovery L config stamps driver timedOut start s =
        (.ok (ms ++ [done]), { s with driver := d, built := built }) ∧
      List.Forall₂ (IsCandidateOf start sessionId) ds ms ∧
      IsCompletion "discovery.completed" start sessionId "completed" done ∧ NoDevice done := by
  obtain ⟨cs, hcs, hids⟩ := mapM_fromDescriptor ds
  obtain ⟨ms, hms, hall⟩ := mapM_newEnvelope config stamps
    "discovery.candidate" (by decide) (some start.id)
    (fun c : DiscoveryCandidate => ("session_id", .str sessionId.str) :: c.toPayload) cs
    { s with driver := d }
  refine ⟨ms, ownEnvelope config "discovery.completed" (by decide) (some start.id)
    [("session_id", .str sessionId.str), ("status", .str "completed"), ("error", errorText none)]
    (stamps (s.built + cs.length)), s.built + cs.length + 1, ?_, ?_, ?_, rfl⟩
  · unfold handleDiscovery
    rw [hreq, PyM.outcome_ok_bind]
    dsimp only
    rw [hc, PyM.outcome_ok_bind]
    refine (PyM.bind_ok (PyM.tryExcept_ok (show _ = (Except.ok (Except.ok cs),
      ({ s with driver := d } : System D)) from ?_))).trans ?_
    · unfold System.onDriver
      rw [PyM.waitFor_zoom, PyM.bind_ok (PyM.zoom_apply hscan), hcs]
      rfl
    · refine (PyM.bind_ok hms).trans ?_
      refine (PyM.bind_ok (newEnvelope_run config stamps "discovery.completed" (some start.id) _
        (by decide) _)).trans ?_
      rfl
  · refine forall₂_through hids hall ?_
    rintro d c m hid ⟨htype, hcorr, hpayload⟩
    refine ⟨⟨⟨hcorr, ?_⟩, htype⟩, ?_, ?_⟩
    · rw [hpayload]
      rfl
    · rw [hpayload, ← hid]
      rfl
    · unfold NoDevice
      rw [hpayload]
      rfl
  · exact ⟨⟨rfl, rfl⟩, rfl, rfl⟩

variable (stamps) in
/-- The scan failed: one completion says so, or the exception goes on. -/
theorem handleDiscovery_failed {timeoutS : Int} {c : DiscoveryConfig} {e : PyErr} {d : D}
    (hreq : discoveryRequest L start = .ok (sessionId, timeoutS))
    (hc : config.discovery.replaceTimeout (.finite (effectiveTimeout timeoutS)) = .ok c)
    (hscan : PyM.waitFor timedOut (driver.discover c) s.driver = (.error e, d)) :
    (¬ IsOrdinary e ∧ handleDiscovery L config stamps driver timedOut start s =
      (.error e, { s with driver := d })) ∨
    ∃ done, handleDiscovery L config stamps driver timedOut start s =
        (.ok [done], { s with driver := d, built := s.built + 1 }) ∧
      IsCompletion "discovery.completed" start sessionId "failed" done ∧ NoDevice done := by
  have hbody : System.onDriver (PyM.waitFor timedOut (driver.discover c)) s =
      (.error e, { s with driver := d }) := PyM.zoom_apply hscan
  unfold handleDiscovery
  rw [hreq, PyM.outcome_ok_bind]
  dsimp only
  rw [hc, PyM.outcome_ok_bind]
  unfold System.onDriver at *
  rw [PyM.waitFor_zoom]
  by_cases he : IsOrdinary e
  · right
    obtain ⟨text, htext⟩ := discoveryFailure_ok he
    refine ⟨ownEnvelope config "discovery.completed" (by decide) (some start.id)
      [("session_id", .str sessionId.str), ("status", .str "failed"),
        ("error", errorText (some text))] (stamps s.built), ?_, ⟨⟨rfl, rfl⟩, rfl, rfl⟩, rfl⟩
    refine (PyM.bind_ok (show _ = (Except.ok (Except.error text),
      ({ s with driver := d } : System D)) from ?_)).trans ?_
    · rw [PyM.tryExcept_error (PyM.bind_error hbody), htext]
      rfl
    · exact (PyM.bind_ok (newEnvelope_run config stamps "discovery.completed" (some start.id) _
        (by decide) _)).trans rfl
  · left
    refine ⟨he, PyM.bind_error ?_⟩
    rw [PyM.tryExcept_error (PyM.bind_error hbody), discoveryFailure_uncaught he]
    rfl

/-! ### What a pairing request comes to -/

variable {candidateId : String} {timeoutS : Int} {d : D}

variable (config stamps) in
/-- The completion of a pairing that failed names no device. -/
theorem pairingCompleted_failed (start : Envelope) (sessionId : Uuid) (candidateId text : String)
    (s : System D) :
    ∃ m, ((fun m => [m]) <$> pairingCompleted config stamps start sessionId candidateId "failed"
        (some text)) s = (.ok [m], { s with built := s.built + 1 }) ∧
      IsUnpaired start sessionId candidateId m := by
  have hrun := newEnvelope_run config stamps "pairing.completed" (some start.id)
    [("session_id", .str sessionId.str), ("candidate_id", .str candidateId),
      ("status", .str "failed"), ("error", errorText (some text))] (by decide) s
  refine ⟨_, Eq.trans ?_ (congrArg (fun r => ((fun m => [m]) <$> r.1, r.2)) hrun), ?_⟩
  · unfold pairingCompleted
    rw [PyM.map_apply, PyM.get_bind]
    cases s.boundary.descriptor with
    | none => rfl
    | some a =>
      dsimp only
      rw [if_neg (by decide)]
      rfl
  · exact ⟨⟨⟨rfl, rfl⟩, rfl, rfl⟩, rfl, rfl⟩

variable (config stamps) in
/-- The completion of a pairing that succeeded names the device the boundary is bound to. -/
theorem pairingCompleted_paired (start : Envelope) (sessionId : Uuid) (candidateId : String)
    {a : DeviceDescriptor} (ha : s.boundary.descriptor = some a) (hid : a.id = candidateId) :
    ∃ m, ((fun m => [m]) <$> pairingCompleted config stamps start sessionId candidateId "completed"
        none) s = (.ok [m], { s with built := s.built + 1 }) ∧
      IsPaired start sessionId candidateId a m := by
  have hrun := newEnvelope_run config stamps "pairing.completed" (some start.id)
    [("session_id", .str sessionId.str), ("candidate_id", .str candidateId),
      ("status", .str "completed"), ("error", errorText none), ("device", .obj a.toPayload)]
    (by decide) s
  refine ⟨_, Eq.trans ?_ (congrArg (fun r => ((fun m => [m]) <$> r.1, r.2)) hrun), ?_⟩
  · unfold pairingCompleted
    rw [PyM.map_apply, PyM.get_bind, ha]
    dsimp only
    rw [if_pos rfl]
    rfl
  · exact ⟨⟨⟨rfl, rfl⟩, rfl, rfl⟩, rfl, rfl, hid⟩

theorem requestHead_type {type noun : String} {fields : List String} {start : Envelope}
    (h : requestHead type noun fields start = .ok ()) : start.type = type := by
  unfold requestHead at h
  dsimp only at h
  split at h
  · cases h
  · next ht => exact not_not.mp ht

theorem discoveryRequest_type {r : Uuid × Int} (h : discoveryRequest L start = .ok r) :
    start.type = "discovery.start" := by
  obtain ⟨_, hhead, -⟩ := bind_eq_ok h
  exact requestHead_type hhead

theorem pairingRequest_type {r : Uuid × String × Int} (h : pairingRequest L start = .ok r) :
    start.type = "pairing.start" := by
  obtain ⟨_, hhead, -⟩ := bind_eq_ok h
  exact requestHead_type hhead

end Requests

/-! ### One exchange -/

section Exchanges

variable {D : Type} {L : PyLib} {config : LinkerConfig} {stamps : Nat → Stamp}
variable {driver : VendorRgbDriver D} {timedOut : Bool} {m : Envelope} {s : System D}

theorem sameBinding_refl (b : BoundaryState) : SameBinding b b := ⟨rfl, rfl, rfl⟩

theorem exchange_discovery (ht : m.type = "discovery.start") {r : Except PyErr (List Envelope)}
    {t : System D} (h : handleDiscovery L config stamps driver timedOut m s = (r, t)) :
    exchange L config stamps driver timedOut m s = ⟨m, timedOut, s, .inr <$> r, t⟩ := by
  unfold exchange handle
  rw [if_pos ht, PyM.map_apply, h]

theorem exchange_pairing (ht : m.type = "pairing.start") {r : Except PyErr (List Envelope)}
    {t : System D} (h : handlePairing L config stamps driver timedOut m s = (r, t)) :
    exchange L config stamps driver timedOut m s = ⟨m, timedOut, s, .inr <$> r, t⟩ := by
  unfold exchange handle
  rw [if_neg (by rw [ht]; decide), if_pos ht, PyM.map_apply, h]

theorem exchange_command (hd : m.type ≠ "discovery.start") (hp : m.type ≠ "pairing.start")
    {r : Except PyErr Envelope} {t : System D}
    (h : handleCommand L config stamps driver m s = (r, t)) :
    exchange L config stamps driver timedOut m s = ⟨m, timedOut, s, .inl <$> r, t⟩ := by
  unfold exchange handle
  rw [if_neg hd, if_neg hp, PyM.map_apply, h]

variable (L config stamps driver timedOut m s)

theorem discovery_answered {sessionId : Uuid} {timeoutS : Int}
    (hreq : discoveryRequest L m = .ok (sessionId, timeoutS)) :
    Cancelled (scanCall config driver timeoutS timedOut s)
        (exchange L config stamps driver timedOut m s) ∨
      ∃ ms, (exchange L config stamps driver timedOut m s).outcome = .ok (.inr ms) ∧
        DiscoveryAnswer m sessionId ms := by
  obtain ⟨c, hc⟩ := replaceTimeout_ok config.discovery timeoutS
  have ht := discoveryRequest_type hreq
  cases hscan : PyM.waitFor timedOut (driver.discover c) s.driver with
  | mk r d =>
    have hcall : scanCall config driver timeoutS timedOut s = r := by
      unfold scanCall
      rw [hc]
      dsimp only
      rw [hscan]
    cases r with
    | ok ds =>
      obtain ⟨ms, done, built, hrun, hall, hdone, hdevice⟩ :=
        handleDiscovery_found stamps hreq hc hscan
      right
      refine ⟨ms ++ [done], ?_, .completed ms done ?_ hdone hdevice⟩
      · rw [exchange_discovery ht hrun]
        rfl
      · intro m' hm'
        obtain ⟨d', -, hcand⟩ := forall₂_mem_right hall hm'
        exact ⟨hcand.toIsCandidate, hcand.no_device⟩
    | error e =>
      rcases handleDiscovery_failed stamps hreq hc hscan with
        ⟨he, hrun⟩ | ⟨done, hrun, hdone, hdevice⟩
      · left
        refine ⟨e, hcall, he, ?_⟩
        rw [exchange_discovery ht hrun]
        rfl
      · right
        refine ⟨[done], ?_, .failed done hdone hdevice⟩
        rw [exchange_discovery ht hrun]
        rfl

theorem pairing_answered {sessionId : Uuid} {candidateId : String} {timeoutS : Int}
    (hreq : pairingRequest L m = .ok (sessionId, candidateId, timeoutS)) :
    PairingExchange driver sessionId candidateId (exchange L config stamps driver timedOut m s) := by
  have ht := pairingRequest_type hreq
  cases hcall : pairCall driver timedOut candidateId s.driver with
  | mk r d =>
    cases r with
    | error e =>
      rcases handlePairing_refuses config stamps hreq (pairAttempt_raised hcall) with
        ⟨he, hrun⟩ | ⟨text, hrun⟩
      · rw [exchange_pairing ht hrun]
        exact .cancelled ⟨e, congrArg Prod.fst hcall, he, rfl⟩ (sameBinding_refl _)
      · obtain ⟨m', hm', hun⟩ := pairingCompleted_failed config stamps m sessionId candidateId text
          { s with driver := d }
        rw [exchange_pairing ht (hrun.trans hm')]
        exact .failed m' rfl hun (sameBinding_refl _)
    | ok result =>
      cases hres : pairingResult candidateId result with
      | error e =>
        have he : IsOrdinary e := pairingResult_raises candidateId result e hres
        rcases handlePairing_refuses config stamps hreq (pairAttempt_refused hcall hres) with
          ⟨hne, -⟩ | ⟨text, hrun⟩
        · exact absurd he hne
        · obtain ⟨m', hm', hun⟩ := pairingCompleted_failed config stamps m sessionId candidateId
            text { s with driver := d }
          rw [exchange_pairing ht (hrun.trans hm')]
          exact .failed m' rfl hun (sameBinding_refl _)
      | ok bound =>
        obtain ⟨a, deviceId⟩ := bound
        obtain ⟨rfl, hid, -⟩ := pairingResult_ok hres
        have hrun := handlePairing_attempted config stamps hreq (pairAttempt_bound hcall hres)
        obtain ⟨m', hm', hpaired⟩ := pairingCompleted_paired config stamps m sessionId candidateId
          (s := { s with
            driver := d
            boundary := ⟨some a.id, some deviceId, some a, s.boundary.journal⟩ }) rfl hid
        rw [exchange_pairing ht (hrun.trans hm')]
        exact .completed m' a deviceId rfl hpaired (congrArg Prod.fst hcall) ⟨rfl, rfl, rfl⟩

/-- Without an accepted pairing request the binding stays. -/
theorem other_keeps (hreq : ∀ r, pairingRequest L m ≠ .ok r) :
    SameBinding s.boundary (exchange L config stamps driver timedOut m s).after.boundary := by
  let I : System D → Prop := fun t => SameBinding s.boundary t.boundary
  by_cases hd : m.type = "discovery.start"
  · have hkeep : I (handleDiscovery L config stamps driver timedOut m s).2 :=
      handleDiscovery_preserves (K := fun _ => True) L config stamps (fun _ _ => trivial)
        (fun _ _ h _ => h) (fun _ h => h) (fun _ _ _ => trivial) m s (sameBinding_refl _)
    cases h : handleDiscovery L config stamps driver timedOut m s with
    | mk r t =>
      rw [h] at hkeep
      rw [exchange_discovery hd h]
      exact hkeep
  · by_cases hp : m.type = "pairing.start"
    · cases hr : pairingRequest L m with
      | ok r => exact absurd hr (hreq r)
      | error e =>
        rw [exchange_pairing hp (handlePairing_invalid L config stamps driver hr)]
        exact sameBinding_refl _
    · have hkeep : I (handleCommand L config stamps driver m s).2 :=
        handleCommand_preserves (K := fun _ => True) L config stamps (fun _ _ => trivial)
          (fun _ _ h _ => h) (fun _ h => h) (fun _ _ h => ⟨h.lightId, h.deviceId, h.descriptor⟩)
          (fun _ _ _ _ _ => trivial) m s (sameBinding_refl _)
      cases h : handleCommand L config stamps driver m s with
      | mk r t =>
        rw [h] at hkeep
        rw [exchange_command hd hp h]
        exact hkeep

theorem exchange_sound : Sound L config driver (exchange L config stamps driver timedOut m s) where
  discovery _ _ hreq := discovery_answered L config stamps driver timedOut m s hreq
  pairing _ _ _ hreq := pairing_answered L config stamps driver timedOut m s hreq
  other hreq := other_keeps L config stamps driver timedOut m s hreq

/-! ### What a reader of the messages notes -/

/-- Nothing but an accepted pairing request is answered with a completed pairing. -/
theorem other_silent (hreq : ∀ r, pairingRequest L m ≠ .ok r) :
    ∀ m' ∈ sentMessages (exchange L config stamps driver timedOut m s),
      m'.type ≠ "pairing.completed" := by
  by_cases hd : m.type = "discovery.start"
  · cases h : handleDiscovery L config stamps driver timedOut m s with
    | mk r t =>
      rw [exchange_discovery hd h]
      cases r with
      | error e => exact fun m' hm' => absurd hm' List.not_mem_nil
      | ok ms =>
        intro m' hm'
        have hret := handleDiscovery_types L config stamps m s ms (congrArg Prod.fst h) m' hm'
        rcases hret with ht | ht
        · rw [ht]
          decide
        · rw [ht]
          decide
  · by_cases hp : m.type = "pairing.start"
    · cases hr : pairingRequest L m with
      | ok r => exact absurd hr (hreq r)
      | error e =>
        rw [exchange_pairing hp (handlePairing_invalid L config stamps driver hr)]
        exact fun m' hm' => absurd hm' List.not_mem_nil
    · cases h : handleCommand L config stamps driver m s with
      | mk r t =>
        rw [exchange_command hd hp h]
        cases r with
        | error e => exact fun m' hm' => absurd hm' List.not_mem_nil
        | ok result =>
          intro m' hm'
          rw [List.mem_singleton.mp hm',
            handleCommand_type L config stamps m s result (congrArg Prod.fst h)]
          decide

omit L config stamps driver timedOut m s in
theorem foldl_noted_silent {ms : List Envelope} (h : ∀ m ∈ ms, m.type ≠ "pairing.completed")
    (device : Option Json) : ms.foldl noted device = device := by
  induction ms with
  | nil => rfl
  | cons m ms ih =>
    obtain ⟨hm, hms⟩ := List.forall_mem_cons.mp h
    rw [List.foldl_cons, show noted device m = device from if_neg fun hc => hm hc.1]
    exact ih hms

omit L config stamps driver timedOut m s in
theorem SameBinding.registeredDevice {a b : BoundaryState} (h : SameBinding a b) :
    registeredDevice b = registeredDevice a := by
  unfold Answers.registeredDevice
  rw [h.descriptor]

/-- The reader knows the device the boundary is bound to. -/
theorem exchange_noted :
    (sentMessages (exchange L config stamps driver timedOut m s)).foldl noted
        (registeredDevice s.boundary) =
      registeredDevice (exchange L config stamps driver timedOut m s).after.boundary := by
  cases hreq : pairingRequest L m with
  | error e =>
    have hnone : ∀ r, pairingRequest L m ≠ .ok r := by
      rw [hreq]
      exact nofun
    rw [foldl_noted_silent (other_silent L config stamps driver timedOut m s hnone),
      (other_keeps L config stamps driver timedOut m s hnone).registeredDevice]
  | ok request =>
    obtain ⟨sessionId, candidateId, timeoutS⟩ := request
    unfold sentMessages
    cases pairing_answered L config stamps driver timedOut m s hreq with
    | cancelled h hsame =>
      obtain ⟨e, -, -, ho⟩ := h
      rw [ho, hsame.registeredDevice]
      rfl
    | failed m' ho hm hsame =>
      rw [ho, hsame.registeredDevice]
      refine if_neg ?_
      rintro ⟨-, hstatus⟩
      unfold getItem at hstatus
      rw [hm.status] at hstatus
      exact absurd (Option.some.inj hstatus) (by decide)
    | completed m' d deviceId ho hm hpair hbound =>
      rw [ho]
      unfold registeredDevice
      rw [hbound.descriptor]
      refine (if_pos ⟨hm.type, ?_⟩).trans hm.device
      unfold getItem
      rw [hm.status]
      rfl

end Exchanges

/-! ## Main result -/

section Machine

variable {D : Type} (L : PyLib) (config : LinkerConfig) (stamps : Nat → Stamp)
variable (driver : VendorRgbDriver D)

theorem register_devices (s : System D) :
    ∃ m, (register config stamps s).1 = .ok m ∧ m.type = "link.register" ∧
      m.payload.lookup "devices" = (registeredDevice s.boundary).map fun d => .arr [d] := by
  unfold register registeredDevice
  rw [PyM.get_bind, newEnvelope_run config stamps "link.register" none _ (by decide)]
  refine ⟨_, rfl, rfl, ?_⟩
  cases s.boundary.descriptor with
  | none => rfl
  | some d => rfl

/-- The log has one entry for each message. -/
theorem run_log (s : State D) (es : List (Bool × Envelope)) :
    ∃ t, Runs.run (step L config stamps driver) s es = some t ∧
      t.log = s.log ++ exchanges L config stamps driver s.system es := by
  induction es generalizing s with
  | nil => exact ⟨s, rfl, (List.append_nil _).symm⟩
  | cons e es ih =>
    obtain ⟨timedOut, m⟩ := e
    let x := exchange L config stamps driver timedOut m s.system
    obtain ⟨t, hrun, hlog⟩ := ih ⟨x.after, s.log ++ [x]⟩
    refine ⟨t, hrun, ?_⟩
    rw [hlog, List.append_assoc]
    rfl

/-- **The binding follows the reports**, for every driver and every sequence of messages: each
accepted request that is not cancelled is answered by one completion after its candidates, the
three fields of the binding change together and only with a completed pairing, and the boundary
registers the device last reported as paired. -/
theorem binding_follows_reports (s : System D) (es : List (Bool × Envelope)) :
    (∃ t, Runs.run (step L config stamps driver) (start s) es = some t ∧
      t.log = exchanges L config stamps driver s es) ∧
    Runs.Always (step L config stamps driver) (Reported L config stamps driver s.boundary)
      (start s) es := by
  refine ⟨run_log L config stamps driver (start s) es, ?_⟩
  refine Runs.always_of_inv (I := fun t => (∀ x ∈ t.log, Sound L config driver x) ∧
    announced (registeredDevice s.boundary) t.log = registeredDevice t.system.boundary)
    ?_ ?_ es ⟨fun x hx => absurd hx List.not_mem_nil, rfl⟩
  · rintro t ⟨timedOut, m⟩ _ ⟨hsound, hnoted⟩ ht
    cases ht
    refine ⟨?_, ?_⟩
    · exact List.forall_mem_append.mpr ⟨hsound,
        List.forall_mem_singleton.mpr (exchange_sound L config stamps driver timedOut m t.system)⟩
    · unfold announced at *
      rw [List.flatMap_append, List.foldl_append, hnoted, List.flatMap_singleton]
      exact exchange_noted L config stamps driver timedOut m t.system
  · rintro t ⟨hsound, hnoted⟩
    refine ⟨hsound, ?_⟩
    rw [hnoted]
    exact register_devices config stamps t.system

end Machine

end Linker.Answers
