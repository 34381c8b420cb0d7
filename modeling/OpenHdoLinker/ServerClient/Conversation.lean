import OpenHdoLinker.ServerClient.Reports
import OpenHdoLinker.Boundary.Answers
import OpenHdoLinker.Boundary.Rebinding
import OpenHdoLinker.StartUp

/-!
# What the server knows of the light

The connections of a linker, one after the other, over any driver.  Each begins with
`link.register`; then the receiver answers requests and the publisher and the reader task
of the driver report states, all through the line of `_send_lock`.  Messages get lost with
their connection, and a pairing may complete when nobody is there to be told.

Whoever reads the messages of a connection in order knows the light (`view`): the device
registered, or the one last reported as paired, as long as the receiver runs.

    Named s.boundary → Always (step L config stamps driver) Synced (start s) es
                                                                  (conversation_synced)
-/

namespace Linker.Conversation

open Py Answers

/-! ## Algorithm -/

inductive Sender
  /-- `_session`, which registers. -/
  | session
  | publisher
  | reader
  | receiver
deriving DecidableEq

structure Outgoing where
  sender : Sender
  message : Envelope

/-- Where the tasks of a session stand, by their receive loop. -/
inductive Phase
  | offline
  /-- `register()` is being sent; the tasks come after it. -/
  | registering
  | waiting
  /-- The receiver sends one of several messages; the others come after it. -/
  | sending (rest : List Envelope)
  | sendingResult (result : Envelope)
  /-- The receiver has raised or was cancelled. -/
  | ended

/-- `queue`: the sends in line for `_send_lock`, the first one holds it.  `wire`: sent and on the
way.  `received`: what has arrived on this connection. -/
structure State (D : Type) where
  system : System D
  received : List Outgoing
  wire : List Outgoing
  queue : List Outgoing
  phase : Phase

/-- `deliver`: a message of the server is handled; a task that publishes meanwhile comes before
it, with the binding it finds.  `abandoned`: the send of a task raises or is cancelled, after or
before the message was written. -/
inductive Event (D : Type)
  | connect
  | deliver (message : Envelope) (timedOut : Bool)
  | publish (sender : Sender) (state : LightState)
  | driverMoves (driver : D)
  | sent
  | received
  | abandoned (sender : Sender) (written : Bool)
  | lost

section Machine

variable {D : Type} (L : PyLib) (config : LinkerConfig) (stamps : Nat → Stamp)
variable (driver : VendorRgbDriver D)

/-- `boundary.control_enabled`. -/
def controlEnabled (b : BoundaryState) : Bool := b.lightId.isSome && b.deviceId.isSome

/-- `boundary.state(state)`. -/
def reportState (state : LightState) : PyM (System D) Envelope := do
  let s ← PyM.get
  let payload ← PyM.outcome (state.toPayload s.boundary.lightId)
  newEnvelope config stamps "light.state.reported" none payload

namespace State

def enqueue (s : State D) (sender : Sender) (m : Envelope) : State D :=
  { s with queue := s.queue ++ [⟨sender, m⟩] }

/-- `_send_many(websocket, messages)`, up to the next await. -/
def sendNext (s : State D) : List Envelope → State D
  | [] => { s with phase := .waiting }
  | m :: rest => { s.enqueue .receiver m with phase := .sending rest }

/-- `except (KeyError, TypeError, ValueError)` of `_receive`; another exception ends the loop. -/
def refuse (s : State D) (e : PyErr) : State D :=
  if e.isAny requestErrors then s else { s with phase := .ended }

/-- `publish(state)`, up to its place in the line. -/
def publish (s : State D) (sender : Sender) (state : LightState) : State D :=
  match reportState config stamps state s.system with
  | (.ok m, t) => { s with system := t }.enqueue sender m
  | (.error _, t) => { s with system := t }

/-- `_receive(websocket, raw)` on a decoded message, up to its first send. -/
def deliver (s : State D) (message : Envelope) (timedOut : Bool) : State D :=
  if message.type = "discovery.start" ∨ message.type = "pairing.start" ∨
      "light.command.".isPrefixOf message.type = true then
    let x := Answers.exchange L config stamps driver timedOut message s.system
    match x.outcome with
    | .ok (.inr messages) => { s with system := x.after }.sendNext messages
    | .ok (.inl result) =>
      { { s with system := x.after }.enqueue .receiver result with phase := .sendingResult result }
    | .error e => { s with system := x.after }.refuse e
  else s

/-- The session after its own message is out, or the receiver after one of its messages is. -/
def goOn (s : State D) : State D :=
  match s.phase with
  | .registering => { s with phase := .waiting }
  | .sending rest => s.sendNext rest
  | .sendingResult result =>
    match Reports.appliedState result with
    | none => { s with phase := .waiting }
    | some state =>
      match newEnvelope config stamps "light.state.reported" none state s.system with
      | (.ok m, t) => { s with system := t }.sendNext [m]
      | (.error _, t) => { s with system := t, phase := .ended }
  | .offline => s
  | .waiting => s
  | .ended => s

/-- The sender awaits nothing any more; what it had in line is gone, or partly written. -/
def abandon (s : State D) (sender : Sender) (written : Bool) : State D :=
  let t := { s with queue := s.queue.filter fun o => o.sender ≠ sender }
  match s.queue with
  | o :: _ => if written ∧ o.sender = sender then { t with wire := s.wire ++ [o] } else t
  | [] => t

end State

/-- A task of the driver's states: it publishes as soon as the boundary has a light. -/
def Sender.isTask : Sender → Bool
  | .publisher => true
  | .reader => true
  | .session => false
  | .receiver => false

/-- The tasks of the session are there. -/
def Phase.isServing : Phase → Bool
  | .offline => false
  | .registering => false
  | .waiting => true
  | .sending _ => true
  | .sendingResult _ => true
  | .ended => true

/-- The task is at its work: the session registers, the others come after it. -/
def Sender.isRunning : Sender → Phase → Bool
  | .session, .registering => true
  | .session, _ => false
  | .receiver, .waiting => true
  | .receiver, .sending _ => true
  | .receiver, .sendingResult _ => true
  | .receiver, _ => false
  | .publisher, phase => phase.isServing
  | .reader, phase => phase.isServing

/-- Where the session stands when a task of it has raised. -/
def Phase.without (phase : Phase) : Sender → Phase
  -- `_session` raises before it starts the tasks
  | .session => .offline
  | .receiver => .ended
  | .publisher => phase
  | .reader => phase

def step (s : State D) : Event D → Option (State D)
  | .connect =>
    match s.phase with
    | .offline =>
      match register config stamps s.system with
      | (.ok m, t) => some ⟨t, [], [], [⟨.session, m⟩], .registering⟩
      | (.error _, t) => some { s with system := t }
    | _ => none
  | .deliver message timedOut =>
    match s.phase with
    | .waiting => some (s.deliver L config stamps driver message timedOut)
    -- the request was being served when the connection broke
    | .offline =>
      let x := Answers.exchange L config stamps driver timedOut message s.system
      some { s with system := x.after }
    | _ => none
  | .publish sender state =>
    if sender.isTask ∧ s.phase.isServing ∧ controlEnabled s.system.boundary then
      some (s.publish config stamps sender state)
    else none
  | .driverMoves d => some { s with system := { s.system with driver := d } }
  | .sent =>
    match s.queue with
    | [] => none
    | o :: rest =>
      let t := { s with queue := rest, wire := s.wire ++ [o] }
      some (if o.sender.isTask then t else t.goOn config stamps)
  | .received =>
    match s.wire with
    | [] => none
    | o :: rest => some { s with wire := rest, received := s.received ++ [o] }
  | .abandoned sender written =>
    if sender.isRunning s.phase then
      some { s.abandon sender written with phase := s.phase.without sender }
    else none
  | .lost => some ⟨s.system, [], [], [], .offline⟩

def start (s : System D) : State D := ⟨s, [], [], [], .offline⟩

end Machine

/-! ## Statement -/

/-- The device a registration announces. -/
def registered (m : Envelope) : Option Json :=
  match m.payload.lookup "devices" with
  | some (.arr [d]) => some d
  | _ => none

/-- A reader of the messages: a registration tells the device, and a completed pairing. -/
def heard (device : Option Json) (m : Envelope) : Option Json :=
  if m.type = "link.register" then registered m else noted device m

def view (messages : List Outgoing) : Option Json :=
  messages.foldl (fun device o => heard device o.message) none

/-- The id of the device. -/
def lightOf (device : Option Json) : Option Json := do
  let d ← device
  let fields ← d.obj?
  fields.lookup "id"

/-- What a task hands over is as `P` asks, after the device that the messages before it tell of. -/
def Attributed (P : Option Json → Envelope → Prop) : Option Json → List Outgoing → Prop
  | _, [] => True
  | device, o :: os =>
    (o.sender.isTask = true → P device o.message) ∧ Attributed P (heard device o.message) os

/-- A report of the light of the device. -/
def Told (device : Option Json) (m : Envelope) : Prop :=
  m.type = "light.state.reported" ∧ lightOf device = m.payload.lookup "light_id" ∧
    lightOf device ≠ none

/-- A report of that light, or of the one the boundary is bound to. -/
def ToldOrBound (b : BoundaryState) (device : Option Json) (m : Envelope) : Prop :=
  Told device m ∨ Told (registeredDevice b) m

/-- A registration first, and only there. -/
def Opened (l : List Outgoing) : Prop :=
  ∃ o os, l = o :: os ∧ o.message.type = "link.register" ∧
    ∀ p ∈ os, p.message.type ≠ "link.register"

variable {D : Type}

/-- Everything handed over on this connection, in its order. -/
def handed (s : State D) : List Outgoing := s.received ++ s.wire ++ s.queue

/-- What a connection carries begins with its registration.  While the receiver runs, its reader
knows the light the boundary is bound to, and the reports are of the light told of before them.
When the receiver has ended, the result of a pairing may be lost with it. -/
structure Synced (s : State D) : Prop where
  opening : s.phase ≠ .offline → Opened (handed s)
  view : s.phase ≠ .offline → s.phase ≠ .ended →
    view (handed s) = registeredDevice s.system.boundary
  attributed : s.phase ≠ .offline → s.phase ≠ .ended → Attributed Told none (handed s)
  afterwards : s.phase = .ended → Attributed (ToldOrBound s.system.boundary) none (handed s)

/-- The light the boundary serves is the one it describes. -/
def Named (b : BoundaryState) : Prop := b.lightId = b.descriptor.map DeviceDescriptor.id

/-! ## Lemmas -/

/-! ### The reader -/

/-- A message that says nothing of the device. -/
def Silent (m : Envelope) : Prop := m.type ≠ "link.register" ∧ m.type ≠ "pairing.completed"

theorem silent_of_type {m : Envelope} (type : String) (h : m.type = type)
    (hr : type ≠ "link.register") (hp : type ≠ "pairing.completed") : Silent m :=
  ⟨h ▸ hr, h ▸ hp⟩

theorem Silent.heard {m : Envelope} (h : Silent m) (device : Option Json) :
    heard device m = device := by
  unfold Conversation.heard noted
  rw [if_neg h.1, if_neg fun hc => h.2 hc.1]

theorem foldl_heard_silent {ms : List Envelope} (h : ∀ m ∈ ms, Silent m) (device : Option Json) :
    ms.foldl heard device = device := by
  induction ms with
  | nil => rfl
  | cons m ms ih =>
    obtain ⟨hm, hms⟩ := List.forall_mem_cons.mp h
    rw [List.foldl_cons, hm.heard]
    exact ih hms

theorem view_concat (l : List Outgoing) (o : Outgoing) :
    view (l ++ [o]) = heard (view l) o.message := by
  unfold view
  rw [List.foldl_append]
  rfl

theorem attributed_append (P : Option Json → Envelope → Prop) (l l' : List Outgoing)
    (device : Option Json) :
    Attributed P device (l ++ l') ↔ Attributed P device l ∧
      Attributed P (l.foldl (fun d o => heard d o.message) device) l' := by
  induction l generalizing device with
  | nil => simp [Attributed]
  | cons o os ih =>
    show _ ∧ Attributed P _ (os ++ l') ↔ (_ ∧ _) ∧ _
    rw [ih, and_assoc]
    rfl

/-- Without some of the silent messages, the reader knows the same. -/
theorem foldl_heard_filter {p : Outgoing → Bool} {l : List Outgoing}
    (h : ∀ o ∈ l, p o = false → Silent o.message) (device : Option Json) :
    (l.filter p).foldl (fun d o => heard d o.message) device =
      l.foldl (fun d o => heard d o.message) device := by
  induction l generalizing device with
  | nil => rfl
  | cons o os ih =>
    obtain ⟨ho, hos⟩ := List.forall_mem_cons.mp h
    by_cases hp : p o = true
    · rw [List.filter_cons_of_pos hp]
      exact ih hos _
    · rw [List.filter_cons_of_neg hp, ih hos, List.foldl_cons,
        (ho (Bool.eq_false_iff.mpr hp)).heard]

theorem attributed_filter {P : Option Json → Envelope → Prop} {p : Outgoing → Bool}
    {l : List Outgoing} (h : ∀ o ∈ l, p o = false → Silent o.message) (device : Option Json)
    (ha : Attributed P device l) : Attributed P device (l.filter p) := by
  induction l generalizing device with
  | nil => exact trivial
  | cons o os ih =>
    obtain ⟨ho, hos⟩ := List.forall_mem_cons.mp h
    by_cases hp : p o = true
    · rw [List.filter_cons_of_pos hp]
      exact ⟨ha.1, ih hos _ ha.2⟩
    · rw [List.filter_cons_of_neg hp]
      have hrest := ha.2
      rw [(ho (Bool.eq_false_iff.mpr hp)).heard] at hrest
      exact ih hos _ hrest

theorem attributed_imp {P Q : Option Json → Envelope → Prop} (h : ∀ device m, P device m → Q device m)
    {l : List Outgoing} {device : Option Json} (ha : Attributed P device l) :
    Attributed Q device l := by
  induction l generalizing device with
  | nil => exact trivial
  | cons o os ih => exact ⟨fun ho => h _ _ (ha.1 ho), ih ha.2⟩

/-! ### What is handed over -/

theorem Opened.concat {l : List Outgoing} (h : Opened l) {o : Outgoing}
    (ho : o.message.type ≠ "link.register") : Opened (l ++ [o]) := by
  obtain ⟨x, xs, rfl, hx, hxs⟩ := h
  refine ⟨x, xs ++ [o], rfl, hx, ?_⟩
  exact List.forall_mem_append.mpr ⟨hxs, List.forall_mem_singleton.mpr ho⟩

theorem Opened.filter {l l' : List Outgoing} {p : Outgoing → Bool} (h : Opened (l ++ l'))
    (hp : ∀ o ∈ l', p o = false → o.message.type ≠ "link.register") :
    Opened (l ++ l'.filter p) := by
  obtain ⟨o, os, hl, ho, hos⟩ := h
  cases l with
  | cons x xs =>
    obtain ⟨rfl, rfl⟩ := List.cons.inj hl
    refine ⟨x, xs ++ l'.filter p, rfl, ho, fun q hq => hos q ?_⟩
    exact List.mem_append.mpr ((List.mem_append.mp hq).imp id fun hf => (List.mem_filter.mp hf).1)
  | nil =>
    rw [List.nil_append] at hl
    subst hl
    have hkeep : p o = true := by
      cases hpo : p o with
      | true => rfl
      | false => exact absurd ho (hp o List.mem_cons_self hpo)
    refine ⟨o, os.filter p, List.filter_cons_of_pos hkeep, ho, fun q hq => ?_⟩
    exact hos q (List.mem_filter.mp hq).1

/-- Registrations are the session's, and the tasks only report. -/
structure Senders (l : List Outgoing) : Prop where
  registrations : ∀ o ∈ l, o.sender ≠ .session → o.message.type ≠ "link.register"
  tasks : ∀ o ∈ l, o.sender.isTask = true → Silent o.message

theorem Senders.concat {l : List Outgoing} (h : Senders l) {o : Outgoing}
    (hr : o.message.type ≠ "link.register") (ht : o.sender.isTask = true → Silent o.message) :
    Senders (l ++ [o]) where
  registrations := List.forall_mem_append.mpr
    ⟨h.registrations, List.forall_mem_singleton.mpr fun _ => hr⟩
  tasks := List.forall_mem_append.mpr ⟨h.tasks, List.forall_mem_singleton.mpr ht⟩

theorem Senders.subset {l l' : List Outgoing} (h : Senders l) (hs : ∀ o ∈ l', o ∈ l) : Senders l' where
  registrations := fun o ho => h.registrations o (hs o ho)
  tasks := fun o ho => h.tasks o (hs o ho)

/-- What a task gives up says nothing of the device. -/
theorem Senders.silent {l l' : List Outgoing} (h : Senders (l ++ l')) {sender : Sender}
    (hsender : sender.isTask = true) :
    ∀ o ∈ l', decide (o.sender ≠ sender) = false → Silent o.message := by
  intro o ho hd
  refine h.tasks o (List.mem_append_right l ho) ?_
  rw [not_not.mp (of_decide_eq_false hd)]
  exact hsender

/-- The messages of a connection follow the binding. -/
structure Follows (b : BoundaryState) (l : List Outgoing) : Prop where
  opening : Opened l
  view : view l = registeredDevice b
  attributed : Attributed Told none l
  senders : Senders l

/-- The receiver hands over a message that tells of the binding there is now. -/
theorem Follows.receiver {b b' : BoundaryState} {l : List Outgoing} (h : Follows b l) {m : Envelope}
    (hm : m.type ≠ "link.register")
    (hview : heard (registeredDevice b) m = registeredDevice b') :
    Follows b' (l ++ [⟨.receiver, m⟩]) where
  opening := h.opening.concat hm
  view := by rw [view_concat, h.view, hview]
  attributed := (attributed_append _ _ _ _).mpr
    ⟨h.attributed, fun hr => absurd hr Bool.false_ne_true, trivial⟩
  senders := h.senders.concat hm fun hr => absurd hr Bool.false_ne_true

theorem Told.silent {device : Option Json} {m : Envelope} (h : Told device m) : Silent m :=
  silent_of_type _ h.1 (by decide) (by decide)

/-- A task hands over a report that names the light of the binding. -/
theorem Follows.task {b : BoundaryState} {l : List Outgoing} (h : Follows b l) {sender : Sender}
    {m : Envelope} (hm : Told (registeredDevice b) m) : Follows b (l ++ [⟨sender, m⟩]) where
  opening := h.opening.concat hm.silent.1
  view := by rw [view_concat, hm.silent.heard, h.view]
  attributed := by
    refine (attributed_append _ _ _ _).mpr ⟨h.attributed, fun _ => ?_, trivial⟩
    rw [show l.foldl _ none = registeredDevice b from h.view]
    exact hm
  senders := h.senders.concat hm.silent.1 fun _ => hm.silent

/-- Sends of a task that are given up change nothing. -/
theorem Follows.without {b : BoundaryState} {l l' : List Outgoing} {sender : Sender}
    (h : Follows b (l ++ l')) (hsender : sender.isTask = true) :
    Follows b (l ++ l'.filter fun o => o.sender ≠ sender) := by
  have hs := h.senders.silent hsender
  refine ⟨h.opening.filter fun o ho hp => (hs o ho hp).1, ?_, ?_, h.senders.subset fun o ho => ?_⟩
  · rw [← h.view]
    unfold Conversation.view
    rw [List.foldl_append, List.foldl_append, foldl_heard_filter hs]
  · obtain ⟨hl, hl'⟩ := (attributed_append _ _ _ _).mp h.attributed
    exact (attributed_append _ _ _ _).mpr ⟨hl, attributed_filter hs _ hl'⟩
  · exact List.mem_append.mpr ((List.mem_append.mp ho).imp id fun hf => (List.mem_filter.mp hf).1)

/-! ### The receiver ends -/

/-- What a connection carries once its receiver has ended. -/
structure Trails (b : BoundaryState) (l : List Outgoing) : Prop where
  opening : Opened l
  attributed : Attributed (ToldOrBound b) none l
  senders : Senders l

theorem Follows.trails {b : BoundaryState} {l : List Outgoing} (h : Follows b l) : Trails b l :=
  ⟨h.opening, attributed_imp (fun _ _ => .inl) h.attributed, h.senders⟩

theorem Trails.task {b : BoundaryState} {l : List Outgoing} (h : Trails b l) {sender : Sender}
    {m : Envelope} (hm : Told (registeredDevice b) m) : Trails b (l ++ [⟨sender, m⟩]) where
  opening := h.opening.concat hm.silent.1
  attributed := (attributed_append _ _ _ _).mpr ⟨h.attributed, fun _ => .inr hm, trivial⟩
  senders := h.senders.concat hm.silent.1 fun _ => hm.silent

theorem Trails.without {b : BoundaryState} {l l' : List Outgoing} {sender : Sender}
    (h : Trails b (l ++ l')) (hsender : sender.isTask = true) :
    Trails b (l ++ l'.filter fun o => o.sender ≠ sender) := by
  have hs := h.senders.silent hsender
  refine ⟨h.opening.filter fun o ho hp => (hs o ho hp).1, ?_, h.senders.subset fun o ho => ?_⟩
  · obtain ⟨hl, hl'⟩ := (attributed_append _ _ _ _).mp h.attributed
    exact (attributed_append _ _ _ _).mpr ⟨hl, attributed_filter hs _ hl'⟩
  · exact List.mem_append.mpr ((List.mem_append.mp ho).imp id fun hf => (List.mem_filter.mp hf).1)

/-- Of two messages in line, one is a task's. -/
def OneOwn (queue : List Outgoing) : Prop :=
  queue.Pairwise fun a b => a.sender.isTask = true ∨ b.sender.isTask = true

/-- The reports that stand after the lost message are of the light it told of. -/
theorem attributed_bound {b : BoundaryState} {q : List Outgoing}
    (htasks : ∀ o ∈ q, o.sender.isTask = true) (hs : ∀ o ∈ q, Silent o.message)
    {device : Option Json} (ha : Attributed Told (registeredDevice b) q) :
    Attributed (ToldOrBound b) device q := by
  induction q generalizing device with
  | nil => exact trivial
  | cons o os ih =>
    obtain ⟨ho, hos⟩ := List.forall_mem_cons.mp htasks
    obtain ⟨hso, hsos⟩ := List.forall_mem_cons.mp hs
    have hrest := ha.2
    rw [hso.heard] at hrest
    exact ⟨fun hr => .inr (ha.1 hr), ih hos hsos hrest⟩

/-- The message of the receiver is lost from the line: what it told of is the binding. -/
theorem attributed_without_receiver {b : BoundaryState} {q : List Outgoing} (hone : OneOwn q)
    (hs : ∀ o ∈ q, o.sender.isTask = true → Silent o.message) {device : Option Json}
    (ha : Attributed Told device q)
    (hview : q.foldl (fun d o => heard d o.message) device = registeredDevice b) :
    Attributed (ToldOrBound b) device (q.filter fun o => o.sender ≠ .receiver) := by
  induction q generalizing device with
  | nil => exact trivial
  | cons o os ih =>
    obtain ⟨hhead, hrest⟩ := List.pairwise_cons.mp hone
    obtain ⟨-, hsos⟩ := List.forall_mem_cons.mp hs
    by_cases ho : o.sender = .receiver
    · -- only tasks stand behind the receiver
      have htasks : ∀ p ∈ os, p.sender.isTask = true := fun p hp =>
        (hhead p hp).resolve_left (by rw [ho]; exact Bool.false_ne_true)
      have hsilent : ∀ p ∈ os, Silent p.message := fun p hp => hsos p hp (htasks p hp)
      have hkept : os.filter (fun p => p.sender ≠ .receiver) = os := by
        refine List.filter_eq_self.mpr fun p hp => decide_eq_true fun hr => ?_
        have ht := htasks p hp
        rw [hr] at ht
        exact absurd ht Bool.false_ne_true
      rw [List.filter_cons_of_neg (by simp [ho]), hkept]
      have hbound : heard device o.message = registeredDevice b := by
        rw [← hview, List.foldl_cons, ← List.foldl_map,
          foldl_heard_silent (List.forall_mem_map.mpr hsilent)]
      have hlate := ha.2
      rw [hbound] at hlate
      exact attributed_bound htasks hsilent hlate
    · rw [List.filter_cons_of_pos (by simp [ho])]
      exact ⟨fun hr => .inl (ha.1 hr), ih hrest hsos ha.2 hview⟩

/-- The receiver gives up the message it has in line. -/
theorem Follows.without_receiver {b : BoundaryState} {l q : List Outgoing} (h : Follows b (l ++ q))
    (hone : OneOwn q) : Trails b (l ++ q.filter fun o => o.sender ≠ .receiver) := by
  refine ⟨h.opening.filter fun o ho hd => ?_, ?_, h.senders.subset fun o ho => ?_⟩
  · refine h.senders.registrations o (List.mem_append_right l ho) ?_
    rw [not_not.mp (of_decide_eq_false hd)]
    nofun
  · obtain ⟨hl, hq⟩ := (attributed_append _ _ _ _).mp h.attributed
    have hview := h.view
    unfold Conversation.view at hview
    rw [List.foldl_append] at hview
    refine (attributed_append _ _ _ _).mpr ⟨attributed_imp (fun _ _ => .inl) hl, ?_⟩
    exact attributed_without_receiver hone
      (fun o ho => h.senders.tasks o (List.mem_append_right l ho)) hq hview
  · exact List.mem_append.mpr ((List.mem_append.mp ho).imp id fun hf => (List.mem_filter.mp hf).1)

/-! ### One message handled -/

section Exchanges

variable {D : Type} {L : PyLib} {config : LinkerConfig} {stamps : Nat → Stamp}
variable {driver : VendorRgbDriver D} {timedOut : Bool} {m : Envelope} {s : System D}

theorem Named.same {a b : BoundaryState} (h : Named a) (hs : SameBinding a b) : Named b := by
  unfold Named at *
  rw [hs.lightId, hs.descriptor, h]

variable (L config stamps driver timedOut m s)

omit s in
/-- The three fields of the binding change together. -/
theorem Named.exchange {s : System D} (h : Named s.boundary) :
    Named (Answers.exchange L config stamps driver timedOut m s).after.boundary := by
  have hx := exchange_sound L config stamps driver timedOut m s
  cases hreq : pairingRequest L m with
  | error e =>
    refine h.same (hx.other fun r hr => ?_)
    exact absurd (hreq.symm.trans hr) (by simp)
  | ok r =>
    obtain ⟨sessionId, candidateId, timeoutS⟩ := r
    cases hx.pairing sessionId candidateId timeoutS hreq with
    | cancelled _ hsame => exact h.same hsame
    | failed _ _ _ hsame => exact h.same hsame
    | completed _ d _ _ _ _ hbound =>
      unfold Named
      rw [hbound.lightId, hbound.descriptor]
      rfl

/-- The answers to a request are no registrations, and all but the first say nothing of the
device. -/
theorem answers_types :
    let ms := sentMessages (Answers.exchange L config stamps driver timedOut m s)
    (∀ a ∈ ms, a.type ≠ "link.register") ∧ ∀ a ∈ ms.tail, Silent a := by
  have hone : ∀ a : Envelope, a.type ≠ "link.register" →
      (∀ x ∈ [a], x.type ≠ "link.register") ∧ ∀ x ∈ [a].tail, Silent x := fun a ha =>
    ⟨List.forall_mem_singleton.mpr ha, fun x hx => absurd hx List.not_mem_nil⟩
  have hnil : (∀ x ∈ ([] : List Envelope), x.type ≠ "link.register") ∧
      ∀ x ∈ ([] : List Envelope).tail, Silent x :=
    ⟨fun x hx => absurd hx List.not_mem_nil, fun x hx => absurd hx List.not_mem_nil⟩
  by_cases hd : m.type = "discovery.start"
  · cases h : handleDiscovery L config stamps driver timedOut m s with
    | mk r t =>
      rw [exchange_discovery hd h]
      cases r with
      | error e => exact hnil
      | ok ms =>
        have hs : ∀ a ∈ ms, Silent a := fun a ha =>
          (handleDiscovery_types L config stamps m s ms (congrArg Prod.fst h) a ha).elim
            (fun ht => silent_of_type _ ht (by decide) (by decide))
            (fun ht => silent_of_type _ ht (by decide) (by decide))
        exact ⟨fun a ha => (hs a ha).1, fun a ha => hs a (List.mem_of_mem_tail ha)⟩
  · by_cases hp : m.type = "pairing.start"
    · cases hreq : pairingRequest L m with
      | error e =>
        rw [exchange_pairing hp (handlePairing_invalid L config stamps driver hreq)]
        exact hnil
      | ok request =>
        obtain ⟨sessionId, candidateId, timeoutS⟩ := request
        unfold sentMessages
        cases pairing_answered L config stamps driver timedOut m s hreq with
        | cancelled h _ =>
          obtain ⟨e, -, -, ho⟩ := h
          rw [ho]
          exact hnil
        | failed a ho ha _ =>
          rw [ho]
          exact hone a (by rw [ha.type]; decide)
        | completed a d deviceId ho ha _ _ =>
          rw [ho]
          exact hone a (by rw [ha.type]; decide)
    · cases h : handleCommand L config stamps driver m s with
      | mk r t =>
        rw [exchange_command hd hp h]
        cases r with
        | error e => exact hnil
        | ok result =>
          refine hone result ?_
          rw [handleCommand_type L config stamps m s result (congrArg Prod.fst h)]
          decide

/-- Whoever knew the light knows it again after the answers. -/
theorem foldl_heard_answers :
    (sentMessages (Answers.exchange L config stamps driver timedOut m s)).foldl heard
        (registeredDevice s.boundary) =
      registeredDevice (Answers.exchange L config stamps driver timedOut m s).after.boundary := by
  rw [← exchange_noted L config stamps driver timedOut m s]
  refine List.foldl_ext _ _ _ fun device a ha => ?_
  exact if_neg ((answers_types L config stamps driver timedOut m s).1 a ha)

end Exchanges

/-! ### The steps -/

/-- The serving session's invariant.  The session or the receiver has one message in line, and a
receiver that waits has none. -/
structure Serves (s : State D) : Prop where
  follows : Follows s.system.boundary (handed s)
  rest : ∀ rest, s.phase = .sending rest → ∀ m ∈ rest, Silent m
  line : OneOwn s.queue
  idle : s.phase = .waiting → ∀ o ∈ s.queue, o.sender.isTask = true

/-- The boundary serves the light it describes, and a session that goes on has told so. -/
structure Inv (s : State D) : Prop where
  named : Named s.system.boundary
  serves : s.phase ≠ .offline → s.phase ≠ .ended → Serves s
  trails : s.phase = .ended → Trails s.system.boundary (handed s)

theorem Inv.synced {s : State D} (h : Inv s) : Synced s where
  opening := fun ho => by
    by_cases he : s.phase = .ended
    · exact (h.trails he).opening
    · exact (h.serves ho he).follows.opening
  view := fun ho he => (h.serves ho he).follows.view
  attributed := fun ho he => (h.serves ho he).follows.attributed
  afterwards := fun he => (h.trails he).attributed

/-! ### The start -/

theorem descriptor_id {driver : TuyaState} {lightId : String} {d : DeviceDescriptor}
    (h : descriptor driver (some lightId) = .ok d) : d.id = lightId := by
  unfold descriptor at h
  obtain ⟨device, -, h⟩ := bind_eq_ok h
  obtain ⟨raw, -, h⟩ := bind_eq_ok h
  dsimp only at h
  unfold DeviceDescriptor.replaceId DeviceDescriptor.init at h
  split at h
  · split at h
    · split at h
      · split at h
        · cases h
          rfl
        · cases h
      · cases h
    · cases h
  · cases h

theorem named_init (d : DeviceDescriptor) (deviceId : Option String) :
    Named (.init (some d.id) deviceId (some d)) := by
  show orElseText (some d.id) (some d.id) = some d.id
  unfold orElseText
  dsimp only
  exact ite_self _

/-- The boundary of the process serves the light it describes, in both modes. -/
theorem startUp_named (C : TuyaCrypto) (P : Settings.StartLib) {config : Settings.RuntimeConfig}
    {file : Option StateFile} {b : BoundaryState} {driver : TuyaState}
    (h : StartUp.startUp C P config file = .ok (b, driver)) : Named b := by
  unfold StartUp.startUp at h
  split at h
  · unfold Restart.startUp at h
    obtain ⟨d, -, h⟩ := bind_eq_ok h
    split at h
    · cases h
      rfl
    · obtain ⟨device, -, h⟩ := bind_eq_ok h
      obtain ⟨announced, hannounced, h⟩ := bind_eq_ok h
      cases h
      rw [← descriptor_id hannounced]
      exact named_init announced _
  · split at h
    · obtain ⟨d, -, h⟩ := bind_eq_ok h
      obtain ⟨announced, hannounced, h⟩ := bind_eq_ok h
      cases h
      rw [← descriptor_id hannounced]
      exact named_init announced _
    · cases h

theorem inv_start {s : System D} (h : Named s.boundary) : Inv (start s) :=
  ⟨h, fun ho => absurd rfl ho, nofun⟩

section Steps

variable {L : PyLib} {config : LinkerConfig} {stamps : Nat → Stamp}
variable {driver : VendorRgbDriver D}

theorem handed_enqueue (s : State D) (sender : Sender) (m : Envelope) :
    handed (s.enqueue sender m) = handed s ++ [⟨sender, m⟩] := by
  unfold handed State.enqueue
  simp only [List.append_assoc]

theorem oneOwn_concat {q : List Outgoing} (hq : ∀ o ∈ q, o.sender.isTask = true) (o : Outgoing) :
    OneOwn (q ++ [o]) := by
  refine List.pairwise_append.mpr ⟨?_, List.pairwise_singleton _ _, fun a ha _ _ => .inl (hq a ha)⟩
  exact List.pairwise_of_forall_mem_list fun a ha _ _ => .inl (hq a ha)

theorem OneOwn.task {q : List Outgoing} (h : OneOwn q) {o : Outgoing}
    (ho : o.sender.isTask = true) : OneOwn (q ++ [o]) := by
  refine List.pairwise_append.mpr ⟨h, List.pairwise_singleton _ _, fun _ _ b hb => .inr ?_⟩
  rw [List.mem_singleton.mp hb]
  exact ho

/-- The receiver hands over a message, and none of its own is in line. -/
theorem Serves.enqueue {s : State D} {b : BoundaryState} (h : Follows b (handed s))
    (hq : ∀ o ∈ s.queue, o.sender.isTask = true) {m : Envelope} (hm : m.type ≠ "link.register")
    (hview : heard (registeredDevice b) m = registeredDevice s.system.boundary) {phase : Phase}
    (hp : phase ≠ .waiting) (hrest : ∀ rest, phase = .sending rest → ∀ m ∈ rest, Silent m) :
    Serves { s.enqueue .receiver m with phase := phase } where
  follows := by
    show Follows s.system.boundary (handed (s.enqueue .receiver m))
    rw [handed_enqueue]
    exact h.receiver hm hview
  rest := hrest
  line := oneOwn_concat hq _
  idle := fun hw => absurd hw hp

/-- The receiver has answers to hand over, the first of which may tell of a new light. -/
theorem Follows.answers {s : State D} {b : BoundaryState} (h : Follows b (handed s))
    (hq : ∀ o ∈ s.queue, o.sender.isTask = true) {ms : List Envelope}
    (htypes : (∀ a ∈ ms, a.type ≠ "link.register") ∧ ∀ a ∈ ms.tail, Silent a)
    (hview : ms.foldl heard (registeredDevice b) = registeredDevice s.system.boundary) :
    Serves (s.sendNext ms) := by
  cases ms with
  | nil => exact ⟨⟨h.opening, h.view.trans hview, h.attributed, h.senders⟩, nofun,
      List.pairwise_of_forall_mem_list fun a ha _ _ => .inl (hq a ha), fun _ => hq⟩
  | cons m rest =>
    have hrest : ∀ a ∈ rest, Silent a := htypes.2
    refine Serves.enqueue h hq (htypes.1 m List.mem_cons_self) ?_ nofun fun r hr => ?_
    · rw [← hview, List.foldl_cons, foldl_heard_silent hrest]
    · cases hr
      exact hrest

/-- The receiver goes on to the next of its messages, which say nothing of the device. -/
theorem Serves.sendNext {s : State D} (h : Follows s.system.boundary (handed s))
    (hq : ∀ o ∈ s.queue, o.sender.isTask = true) {ms : List Envelope} (hms : ∀ m ∈ ms, Silent m) :
    Serves (s.sendNext ms) :=
  h.answers hq ⟨fun a ha => (hms a ha).1, fun a ha => hms a (List.mem_of_mem_tail ha)⟩
    (foldl_heard_silent hms _)

theorem Inv.deliver {s : State D} (h : Inv s) (hw : s.phase = .waiting) (m : Envelope)
    (timedOut : Bool) : Inv (s.deliver L config stamps driver m timedOut) := by
  have hs : Serves s := h.serves (by rw [hw]; nofun) (by rw [hw]; nofun)
  have hn := h.named.exchange L config stamps driver timedOut m
  have hview := foldl_heard_answers L config stamps driver timedOut m s.system
  have htypes := answers_types L config stamps driver timedOut m s.system
  unfold State.deliver
  split
  · dsimp only
    unfold sentMessages at hview htypes
    generalize Answers.exchange L config stamps driver timedOut m s.system = x at *
    split
    next ms ho =>
      rw [ho] at hview htypes
      refine ⟨by cases ms <;> exact hn, fun _ _ => ?_, fun he => ?_⟩
      · exact Follows.answers (s := { s with system := x.after }) hs.follows (hs.idle hw) htypes hview
      · cases ms <;> exact absurd he nofun
    next result ho =>
      rw [ho] at hview htypes
      refine ⟨hn, fun _ _ => ?_, nofun⟩
      exact Serves.enqueue (s := { s with system := x.after }) hs.follows (hs.idle hw)
        (htypes.1 result List.mem_cons_self) hview nofun nofun
    next e ho =>
      rw [ho] at hview
      have ht : Follows x.after.boundary (handed s) :=
        ⟨hs.follows.opening, hs.follows.view.trans hview, hs.follows.attributed, hs.follows.senders⟩
      unfold State.refuse
      split
      · exact ⟨hn, fun _ _ => ⟨ht, hs.rest, hs.line, hs.idle⟩, fun he => absurd (hw.symm.trans he) nofun⟩
      · exact ⟨hn, fun _ he => absurd rfl he, fun _ => ht.trails⟩
  · exact h

/-- What `boundary.state(state)` is. -/
theorem reportState_ok {state : LightState} {s : System D} {m : Envelope} {t : System D}
    (h : reportState config stamps state s = (.ok m, t)) :
    t.boundary = s.boundary ∧ m.type = "light.state.reported" ∧
      ∃ payload, state.toPayload s.boundary.lightId = .ok payload ∧ m.payload = payload := by
  unfold reportState at h
  rw [PyM.get_bind] at h
  cases hp : state.toPayload s.boundary.lightId with
  | error e =>
    rw [hp] at h
    cases h
  | ok payload =>
    rw [hp, PyM.outcome_ok_bind, newEnvelope_run config stamps _ _ _ (by decide)] at h
    cases h
    exact ⟨rfl, rfl, payload, rfl, rfl⟩

theorem reportState_error {state : LightState} {s : System D} {e : PyErr} {t : System D}
    (h : reportState config stamps state s = (.error e, t)) : t = s := by
  unfold reportState at h
  rw [PyM.get_bind] at h
  cases hp : state.toPayload s.boundary.lightId with
  | error e' =>
    rw [hp] at h
    cases h
    rfl
  | ok payload =>
    rw [hp, PyM.outcome_ok_bind, newEnvelope_run config stamps _ _ _ (by decide)] at h
    cases h

/-- A payload names the light it is made for. -/
theorem toPayload_lightId {state : LightState} {light : String} (hl : light ≠ "") {p : JsonObj}
    (h : state.toPayload (some light) = .ok p) : p.lookup "light_id" = some (.str light) := by
  unfold LightState.toPayload at h
  split at h
  · cases h
    show some (Json.str (if light = "" then state.deviceId else light)) = _
    rw [if_neg hl]
  · cases h

/-- The report of a task names the light the boundary is bound to. -/
theorem reportState_told {state : LightState} {s : System D} {m : Envelope} {t : System D}
    (h : reportState config stamps state s = (.ok m, t)) (hn : Named s.boundary)
    (hc : controlEnabled s.boundary = true) : Told (registeredDevice s.boundary) m := by
  obtain ⟨-, htype, payload, hpayload, hm⟩ := reportState_ok h
  unfold Named at hn
  cases hd : s.boundary.descriptor with
  | none =>
    rw [hd] at hn
    unfold controlEnabled at hc
    rw [hn] at hc
    exact absurd hc Bool.false_ne_true
  | some d =>
    rw [hd] at hn
    have hl : lightOf (registeredDevice s.boundary) = some (.str d.id) := by
      unfold registeredDevice
      rw [hd]
      rfl
    rw [hn] at hpayload
    have hpl := toPayload_lightId (isIdentifier_length d.id d.id_ok).1 hpayload
    refine ⟨htype, ?_, ?_⟩
    · rw [hl, hm, hpl]
    · rw [hl]
      nofun

/-- A task reports a state under the light the boundary is bound to. -/
theorem Inv.publish {s : State D} (h : Inv s) {sender : Sender} (hsender : sender.isTask = true)
    (state : LightState) (hc : controlEnabled s.system.boundary = true) :
    Inv (s.publish config stamps sender state) := by
  unfold State.publish
  split
  next m t hrun =>
    have htold := reportState_told hrun h.named hc
    obtain ⟨hb, -⟩ := reportState_ok hrun
    rw [← hb] at htold
    refine ⟨hb ▸ h.named, fun ho he => ?_, fun he => ?_⟩
    · have hs := h.serves ho he
      refine ⟨?_, hs.rest, hs.line.task hsender, fun hw => ?_⟩
      · show Follows t.boundary (handed (s.enqueue sender m))
        rw [handed_enqueue]
        exact (hb ▸ hs.follows : Follows t.boundary (handed s)).task htold
      · exact List.forall_mem_append.mpr ⟨hs.idle hw, List.forall_mem_singleton.mpr hsender⟩
    · show Trails t.boundary (handed (s.enqueue sender m))
      rw [handed_enqueue]
      exact (hb ▸ h.trails he : Trails t.boundary (handed s)).task htold
  next e t hrun =>
    cases reportState_error hrun
    exact h

/-- The next message, or the state of an applied result, is handed over. -/
theorem Inv.goOn {s : State D} (h : Inv s)
    (htasks : s.phase ≠ .offline → s.phase ≠ .ended → ∀ o ∈ s.queue, o.sender.isTask = true) :
    Inv (s.goOn config stamps) := by
  unfold State.goOn
  cases hp : s.phase with
  | registering =>
    have hs := h.serves (by rw [hp]; nofun) (by rw [hp]; nofun)
    have hq := htasks (by rw [hp]; nofun) (by rw [hp]; nofun)
    exact ⟨h.named, fun _ _ => ⟨hs.follows, nofun, hs.line, fun _ => hq⟩, nofun⟩
  | sending rest =>
    have hs := h.serves (by rw [hp]; nofun) (by rw [hp]; nofun)
    have hq := htasks (by rw [hp]; nofun) (by rw [hp]; nofun)
    refine ⟨?_, fun _ _ => Serves.sendNext hs.follows hq (hs.rest rest hp), fun he => ?_⟩
    · cases rest <;> exact h.named
    · cases rest <;> cases he
  | sendingResult result =>
    have hs := h.serves (by rw [hp]; nofun) (by rw [hp]; nofun)
    have hq := htasks (by rw [hp]; nofun) (by rw [hp]; nofun)
    dsimp only
    split
    · exact ⟨h.named, fun _ _ => ⟨hs.follows, nofun, hs.line, fun _ => hq⟩, nofun⟩
    next state _ =>
      rw [newEnvelope_run config stamps _ _ _ (by decide)]
      refine ⟨h.named, fun _ _ => Serves.sendNext (s := { s with
        system := { s.system with built := s.system.built + 1 }
        phase := .sendingResult result }) hs.follows hq ?_, nofun⟩
      exact List.forall_mem_singleton.mpr
        (silent_of_type "light.state.reported" rfl (by decide) (by decide))
  | offline => exact h
  | waiting => exact h
  | ended => exact h

/-- What a session has handed over counts, not where it is on its way. -/
theorem Inv.moved {s t : State D} (h : Inv s) (hb : t.system.boundary = s.system.boundary)
    (hp : t.phase = s.phase) (hh : handed t = handed s) (hq : t.queue.Sublist s.queue) : Inv t := by
  refine ⟨hb ▸ h.named, fun ho he => ?_, fun he => ?_⟩
  · have hs := h.serves (hp ▸ ho) (hp ▸ he)
    refine ⟨?_, fun r hr => hs.rest r (hp ▸ hr), hs.line.sublist hq,
      fun hw o hmem => hs.idle (hp ▸ hw) o (hq.subset hmem)⟩
    rw [hb, hh]
    exact hs.follows
  · rw [hb, hh]
    exact h.trails (hp ▸ he)

/-- What is handed over when the send of a task is given up: its message is written, or lost. -/
theorem handed_abandon (s : State D) (sender : Sender) (written : Bool) :
    ∃ l q, handed s = l ++ q ∧ q.Sublist s.queue ∧
      handed (s.abandon sender written) = l ++ q.filter fun o => o.sender ≠ sender := by
  have hplain : ∃ l q, handed s = l ++ q ∧ q.Sublist s.queue ∧
      handed { s with queue := s.queue.filter fun o => o.sender ≠ sender } =
        l ++ q.filter fun o => o.sender ≠ sender :=
    ⟨s.received ++ s.wire, s.queue, rfl, List.Sublist.refl _, rfl⟩
  unfold State.abandon
  split
  next o rest hq =>
    split
    next hw =>
      refine ⟨s.received ++ (s.wire ++ [o]), rest, ?_, hq ▸ List.sublist_cons_self o rest, ?_⟩
      · unfold handed
        rw [hq]
        simp only [List.append_assoc, List.singleton_append]
      · unfold handed
        dsimp only
        rw [hq, List.filter_cons_of_neg (by simp [hw.2])]
    next => exact hplain
  next => exact hplain

theorem abandon_rest (s : State D) (sender : Sender) (written : Bool) :
    (s.abandon sender written).system = s.system ∧ (s.abandon sender written).phase = s.phase ∧
      (s.abandon sender written).queue.Sublist s.queue := by
  unfold State.abandon
  split
  · split
    · exact ⟨rfl, rfl, List.filter_sublist⟩
    · exact ⟨rfl, rfl, List.filter_sublist⟩
  · exact ⟨rfl, rfl, List.filter_sublist⟩

/-- The send of a task is given up. -/
theorem Inv.abandon {s : State D} (h : Inv s) {sender : Sender} (hsender : sender.isTask = true)
    (written : Bool) : Inv (s.abandon sender written) := by
  obtain ⟨l, q, hs, hq, ht⟩ := handed_abandon s sender written
  obtain ⟨hsystem, hphase, hqueue⟩ := abandon_rest s sender written
  refine ⟨hsystem ▸ h.named, fun ho he => ?_, fun he => ?_⟩
  · have hold := h.serves (hphase ▸ ho) (hphase ▸ he)
    refine ⟨?_, fun r hr => hold.rest r (hphase ▸ hr), hold.line.sublist hqueue,
      fun hw o hmem => hold.idle (hphase ▸ hw) o (hqueue.subset hmem)⟩
    rw [hsystem, ht]
    exact (hs ▸ hold.follows).without hsender
  · rw [hsystem, ht]
    exact (hs ▸ h.trails (hphase ▸ he)).without hsender

/-- The receiver ends, with its message written or lost. -/
theorem Inv.ended {s : State D} (h : Inv s) (ho : s.phase ≠ .offline) (he : s.phase ≠ .ended)
    (written : Bool) : Inv { s.abandon .receiver written with phase := .ended } := by
  obtain ⟨l, q, hs, hq, ht⟩ := handed_abandon s .receiver written
  obtain ⟨hsystem, -, -⟩ := abandon_rest s .receiver written
  have hold := h.serves ho he
  refine ⟨hsystem ▸ h.named, fun _ hne => absurd rfl hne, fun _ => ?_⟩
  show Trails (s.abandon .receiver written).system.boundary (handed (s.abandon .receiver written))
  rw [hsystem, ht]
  exact (hs ▸ hold.follows).without_receiver (hold.line.sublist hq)

/-- A registration tells the light the boundary is bound to. -/
theorem register_told {s t : System D} {m : Envelope}
    (h : register config stamps s = (.ok m, t)) :
    t.boundary = s.boundary ∧ Follows s.boundary [⟨.session, m⟩] := by
  obtain ⟨m', hm', htype, hdevices⟩ := register_devices config stamps s
  rw [h] at hm'
  cases hm'
  have hb : t.boundary = s.boundary := by
    unfold register at h
    rw [PyM.get_bind, newEnvelope_run config stamps _ _ _ (by decide)] at h
    cases h
    rfl
  refine ⟨hb, ⟨_, [], rfl, htype, fun p hp => absurd hp List.not_mem_nil⟩, ?_, ?_, ?_⟩
  · show heard none m = registeredDevice s.boundary
    unfold heard registered
    rw [if_pos htype, hdevices]
    cases registeredDevice s.boundary with
    | none => rfl
    | some d => rfl
  · exact ⟨fun hr => absurd hr Bool.false_ne_true, trivial⟩
  · exact ⟨List.forall_mem_singleton.mpr fun hr => absurd rfl hr,
      List.forall_mem_singleton.mpr fun hr => absurd hr Bool.false_ne_true⟩

theorem step_inv {s t : State D} {e : Event D} (h : Inv s)
    (ht : step L config stamps driver s e = some t) : Inv t := by
  cases e with
  | connect =>
    unfold step at ht
    dsimp only at ht
    split at ht
    next =>
      split at ht
      next m u hrun =>
        cases ht
        obtain ⟨hb, htold⟩ := register_told hrun
        exact ⟨hb ▸ h.named, fun _ _ => ⟨hb ▸ htold, nofun, List.pairwise_singleton _ _, nofun⟩, nofun⟩
      next e u hrun =>
        obtain ⟨m, hm, -⟩ := register_devices config stamps s.system
        rw [hrun] at hm
        cases hm
    next => cases ht
  | deliver message timedOut =>
    unfold step at ht
    dsimp only at ht
    split at ht
    next hw =>
      cases ht
      exact h.deliver hw message timedOut
    next ho =>
      cases ht
      exact ⟨h.named.exchange L config stamps driver timedOut message, fun hne => absurd ho hne,
        fun he => absurd (ho.symm.trans he) nofun⟩
    next => cases ht
  | publish sender state =>
    unfold step at ht
    dsimp only at ht
    split at ht
    next hc =>
      cases ht
      exact h.publish hc.1 state hc.2.2
    next => cases ht
  | driverMoves d =>
    cases ht
    exact h.moved rfl rfl rfl (List.Sublist.refl _)
  | sent =>
    unfold step at ht
    dsimp only at ht
    split at ht
    next => cases ht
    next o rest hq =>
      cases ht
      have hmoved : Inv { s with queue := rest, wire := s.wire ++ [o] } := by
        refine h.moved rfl rfl ?_ (hq ▸ List.sublist_cons_self o rest)
        unfold handed
        rw [hq]
        simp only [List.append_assoc, List.singleton_append]
      split
      · exact hmoved
      next ho =>
        refine hmoved.goOn fun hoff hend p hp => ?_
        have hline := (h.serves hoff hend).line
        rw [hq] at hline
        exact ((List.pairwise_cons.mp hline).1 p hp).resolve_left ho
  | received =>
    unfold step at ht
    dsimp only at ht
    split at ht
    next => cases ht
    next o rest hw =>
      cases ht
      refine h.moved rfl rfl ?_ (List.Sublist.refl _)
      unfold handed
      rw [hw]
      simp only [List.append_assoc, List.singleton_append]
  | abandoned sender written =>
    unfold step at ht
    dsimp only at ht
    split at ht
    next hrunning =>
      cases ht
      have hn : Named (s.abandon sender written).system.boundary := by
        rw [(abandon_rest s sender written).1]
        exact h.named
      cases sender with
      | session => exact ⟨hn, fun ho => absurd rfl ho, nofun⟩
      | receiver =>
        refine h.ended (fun ho => ?_) (fun he => ?_) written
        · rw [ho] at hrunning
          exact absurd hrunning Bool.false_ne_true
        · rw [he] at hrunning
          exact absurd hrunning Bool.false_ne_true
      | publisher => exact (abandon_rest s .publisher written).2.1 ▸ h.abandon rfl written
      | reader => exact (abandon_rest s .reader written).2.1 ▸ h.abandon rfl written
    next => cases ht
  | lost =>
    cases ht
    exact ⟨h.named, fun ho => absurd rfl ho, nofun⟩

end Steps

/-! ## Main results -/

section Main

variable (L : PyLib) (config : LinkerConfig) (stamps : Nat → Stamp) (driver : VendorRgbDriver D)

/-- **The server knows the light**, for every driver and in every run of connections, requests,
reports, losses and pairings that complete while nobody listens: what a connection carries begins
with its one registration; while the receiver runs, it tells whoever reads it in order exactly the
light the boundary is bound to, and every report of a task names the light told of before it; a
report after the receiver has ended names that light or the one the boundary is bound to. -/
theorem conversation_synced (s : System D) (hs : Named s.boundary) (es : List (Event D)) :
    Runs.Always (step L config stamps driver) Synced (start s) es :=
  Runs.always_of_inv (I := Inv) (fun _ _ _ h ht => step_inv h ht) (fun _ h => h.synced) es
    (inv_start hs)

/-- When nothing is on its way, the server knows the light. -/
theorem Synced.settled {s : State D} (h : Synced s) (ho : s.phase ≠ .offline)
    (he : s.phase ≠ .ended) (hw : s.wire = []) (hq : s.queue = []) :
    Conversation.view s.received = registeredDevice s.system.boundary := by
  have hview := h.view ho he
  unfold handed at hview
  rw [hw, hq, List.append_nil, List.append_nil] at hview
  exact hview

/-- Whatever was lost: the next registration that arrives tells the light. -/
theorem resynchronises (s : State D) :
    ∃ t, Runs.run (step L config stamps driver) s [.lost, .connect, .sent, .received] = some t ∧
      t.system.boundary = s.system.boundary ∧
      view t.received = registeredDevice t.system.boundary := by
  cases hrun : register config stamps s.system with
  | mk r u =>
    cases r with
    | error e =>
      obtain ⟨m, hm, -⟩ := register_devices config stamps s.system
      rw [hrun] at hm
      cases hm
    | ok m =>
      obtain ⟨hb, htold⟩ := register_told hrun
      refine ⟨⟨u, [⟨.session, m⟩], [], [], .waiting⟩, ?_, hb, ?_⟩
      · have hconnect : step L config stamps driver ⟨s.system, [], [], [], .offline⟩ .connect =
            some ⟨u, [], [], [⟨.session, m⟩], .registering⟩ := by
          unfold step
          dsimp only
          rw [hrun]
        rw [Runs.run_cons, show step L config stamps driver s .lost = some _ from rfl,
          Option.bind_some, Runs.run_cons, hconnect]
        rfl
      · rw [hb]
        exact htold.view

end Main

/-! ## A desk light -/

theorem desk_modes : ["RGB"] ≠ [] ∧ ∀ m ∈ ["RGB"], m ∈ supportedModes := by decide

theorem desk_nodup : ["RGB"].Nodup := by decide

def deskLight : DeviceDescriptor :=
  ⟨"light.desk", "Desk", ["RGB"], rfl, by decide, desk_modes, desk_nodup⟩

def deskSystem : System Nat :=
  ⟨.init (some deskLight.id) (some "bf01") (some deskLight), 0, 0, []⟩

theorem desk_id : "bf01" ≠ "" := by decide

/-- Every pairing succeeds, with the lamp on the shelf. -/
def shelfDriver : VendorRgbDriver Nat :=
  { ServerClient.countingDriver (.error ServerClient.unreachable) with
    pair := some fun _ => pure Calls.shelfPaired }

/-- The lamp on the shelf is paired and its result is lost with the receiver; its reader task still
reports, before the connection ends. -/
def lostResult : List (Event Nat) :=
  [.connect, .sent, .received, .publish .publisher (Calls.lit "bf01" desk_id), .sent, .received,
    .deliver Calls.pairShelf false, .publish .reader Calls.litState, .abandoned .receiver false,
    .sent, .received]

/-- What has arrived on the connection. -/
def arrivals (es : List (Event Nat)) : Option (List (String × Option String)) :=
  (Runs.run (step lampLib .default ServerClient.idleStamps shelfDriver) (start deskSystem) es).map
    fun s => s.received.map fun o => (o.message.type, (getItem o.message.payload "light_id").str?)

theorem conversation_synced_desk :
    arrivals lostResult = some [("link.register", none), ("light.state.reported", some "light.desk"),
        ("light.state.reported", some "light.shelf")] ∧
      Runs.Always (step lampLib .default ServerClient.idleStamps shelfDriver) Synced
        (start deskSystem) (lostResult ++ [.lost, .connect, .sent, .received]) :=
  ⟨by decide +kernel, conversation_synced _ _ _ _ deskSystem (named_init deskLight (some "bf01")) _⟩

end Linker.Conversation
