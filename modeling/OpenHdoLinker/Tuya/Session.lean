import OpenHdoLinker.Tuya.Frame
import OpenHdoLinker.Lib.Runs
import Mathlib.Logic.Function.Basic

/-!
# The connection of the driver, await by await

`connect`, `disconnect` and `_exchange` of one driver, run by any number of
callers.  A caller runs without interruption from one await to the next
(`Segment`), so a run is the list of the awaits that complete or raise, in any
order.  A caller that publishes calls under the client's `_driver_lock`; a command
calls `_exchange` alone; every exchange holds the driver's `_send_lock`.

`_reader` is assigned and cleared together with `_writer`, so one field stands for
both.  What the network does is the choice of the events: connections are lost and
reader tasks end at any time.
-/

namespace Linker.Session

/-! ## Algorithm -/

/-- Who awaits a `connect`: the caller itself, or an attempt of its exchange. -/
inductive Call
  | direct
  | exchange (attempt : Nat)
deriving DecidableEq

/-- What follows a `disconnect`: nothing, the next attempt of an exchange, or the exception of the
`connect` that it cleans up after.  `caught` says whether `_exchange` would catch that exception. -/
inductive Next
  | finished
  | retry (attempt : Nat)
  | raise (call : Call) (caught : Bool)
deriving DecidableEq

/-- The await a caller is suspended at. -/
inductive Pc
  | idle
  /-- `async with self._send_lock`. -/
  | lock
  /-- `asyncio.open_connection`. -/
  | opening (call : Call)
  /-- `_negotiate_session`: the first write, the response read from a connection, the last write. -/
  | greeting (call : Call)
  | response (connection : Nat) (call : Call)
  | finishing (connection : Nat) (call : Call)
  /-- `_exchange`: the write of the request, its future, the pause between attempts. -/
  | draining (attempt : Nat)
  | answer (attempt : Nat)
  | backoff (attempt : Nat)
  /-- `disconnect`: the cancelled reader task, `wait_closed`. -/
  | waiting (task : Nat) (next : Next)
  | closing (next : Next)
deriving DecidableEq

/-- The key a frame is encrypted or signed with: the local key of the device, or the session key
derived on a connection. -/
inductive Key
  | device
  | session (connection : Nat)
deriving DecidableEq

structure SentFrame where
  connection : Nat
  encryptedWith : Key
  signedWith : Key
deriving DecidableEq

/-- The fields the callers share, and what has happened to connections and reader tasks.  The
session key is the connection its response was read from. -/
structure Link where
  writer : Option Nat
  readerTask : Option Nat
  sessionKey : Option Nat
  connections : Nat
  closed : List Nat
  lost : List Nat
  tasks : Nat
  alive : List Nat
  frames : List SentFrame

/-- What a caller does up to its next await. -/
abbrev Segment : Type := Link → Link × Pc

/-- `self._writer`, if it is not closing. -/
def Link.live (x : Link) : Option Nat :=
  match x.writer with
  | some c => if c ∈ x.closed ∨ c ∈ x.lost then none else some c
  | none => none

section Segments

variable (version : ProtocolVersion) (retries : Nat)

def leave : Segment := fun x => (x, .idle)

/-- The second half of `disconnect`; `after` runs at once if there is no writer to close. -/
def dropWriter (next : Next) (after : Segment) : Segment := fun x =>
  match x.writer with
  | some c => ({ x with writer := none, sessionKey := none, closed := c :: x.closed }, .closing next)
  | none => after { x with sessionKey := none }

def disconnect (next : Next) (after : Segment) : Segment := fun x =>
  match x.readerTask with
  | some t => ({ x with readerTask := none }, .waiting t next)
  | none => dropWriter next after x

def retry (attempt : Nat) : Segment := fun x =>
  if attempt < retries then (x, .backoff attempt) else leave x

/-- The `except` clause of an attempt. -/
def recover (attempt : Nat) : Segment := disconnect (.retry attempt) (retry retries attempt)

def raiseTo (call : Call) (caught : Bool) : Segment :=
  match call with
  | .direct => leave
  | .exchange attempt => if caught then recover retries attempt else leave

def resume : Next → Segment
  | .finished => leave
  | .retry attempt => retry retries attempt
  | .raise call caught => raiseTo retries call caught

/-- `except BaseException` of `connect`. -/
def giveUp (call : Call) (caught : Bool) : Segment :=
  disconnect (.raise call caught) (raiseTo retries call caught)

/-- `key = self._session_key if … and self._session_key else self.device.key_bytes`. -/
def integrityKey (x : Link) : Key :=
  match x.sessionKey with
  | some c => if version = .v34 then .session c else .device
  | none => .device

def payloadKey (x : Link) : Key :=
  if version = .v34 then
    match x.sessionKey with
    | some c => .session c
    | none => .device
  else .device

/-- An attempt writes its request, or finds the connection gone. -/
def request (attempt : Nat) : Segment := fun x =>
  match x.live with
  | some c =>
    ({ x with frames := x.frames ++ [⟨c, payloadKey version x, integrityKey version x⟩] },
      .draining attempt)
  | none => recover retries attempt x

def established : Call → Segment
  | .direct => leave
  | .exchange attempt => request version retries attempt

def connect (call : Call) : Segment := fun x =>
  match x.live with
  | some _ => established version retries call x
  | none => (x, .opening call)

def connected (call : Call) : Segment := fun x =>
  established version retries call
    { x with readerTask := some x.tasks, alive := x.tasks :: x.alive, tasks := x.tasks + 1 }

/-- `_write` in `_negotiate_session`, suspended at `pc`. -/
def negotiationWrite (call : Call) (pc : Pc) : Segment := fun x =>
  match x.live with
  | some _ => (x, pc)
  | none => giveUp retries call true x

def opened (call : Call) : Segment := fun x =>
  let x := { x with writer := some x.connections, connections := x.connections + 1,
                    sessionKey := none }
  if version = .v34 then negotiationWrite retries call (.greeting call) x
  else connected version retries call x

def readResponse (call : Call) : Segment := fun x =>
  match x.writer with
  | some c => (x, .response c call)
  | none => giveUp retries call true x

/-- The session key is set and `connect` goes on. -/
def derived (connection : Nat) (call : Call) : Segment := fun x =>
  connected version retries call { x with sessionKey := some connection }

def completed : Pc → Option Segment
  | .opening call => some (opened version retries call)
  | .greeting call => some (readResponse retries call)
  | .response c call => some (negotiationWrite retries call (.finishing c call))
  | .finishing c call => some (derived version retries c call)
  | .draining attempt => some fun x => (x, .answer attempt)
  | .answer _ => some leave
  | .backoff attempt => some (connect version retries (.exchange (attempt + 1)))
  | .waiting _ next => some (dropWriter next (resume retries next))
  | .closing next => some (resume retries next)
  | .idle | .lock => none

/-- What follows an await that raises.  Waiting for a lock, for a pause or for the reader task
raises a cancellation only. -/
def failed (caught : Bool) : Pc → Option Segment
  | .opening call => some (raiseTo retries call caught)
  | .greeting call | .response _ call | .finishing _ call => some (giveUp retries call caught)
  | .draining attempt | .answer attempt => some (raiseTo retries (.exchange attempt) caught)
  | .closing (.raise call _) => some (raiseTo retries call caught)
  | .closing _ => some leave
  | .lock | .backoff _ | .waiting _ _ => if caught then none else some leave
  | .idle => none

end Segments

/-- `gather` on the reader task answers, even to a cancellation, once the task is done. -/
def Pc.ready (x : Link) : Pc → Bool
  | .waiting t _ => t ∉ x.alive
  | _ => true

section Step

variable {ι : Type} [DecidableEq ι]

structure State (ι : Type) where
  pc : ι → Pc
  sendLock : Option ι
  driverLock : Option ι
  link : Link

inductive Event (ι : Type)
  | connect (i : ι)
  | disconnect (i : ι)
  | exchange (i : ι)
  | acquire (i : ι)
  | ok (i : ι)
  | otherFrame (i : ι)
  | fail (i : ι) (caught : Bool)
  | lose (connection : Nat)
  | readerEnds (task : Nat)

/-- A caller runs a segment; a call that is over releases the locks it holds. -/
def State.run (s : State ι) (i : ι) (segment : Segment) : State ι :=
  let r := segment s.link
  let release (lock : Option ι) := if r.2 = .idle ∧ lock = some i then none else lock
  ⟨Function.update s.pc i r.2, release s.sendLock, release s.driverLock, r.1⟩

variable (version : ProtocolVersion) (retries : Nat) (publishes : ι → Bool)

def step (s : State ι) : Event ι → Option (State ι)
  | .connect i =>
    if publishes i = true ∧ s.pc i = .idle ∧ s.driverLock = none then
      some ({ s with driverLock := some i }.run i (connect version retries .direct))
    else none
  | .disconnect i =>
    if publishes i = true ∧ s.pc i = .idle ∧ s.driverLock = none then
      some ({ s with driverLock := some i }.run i (disconnect .finished leave))
    else none
  | .exchange i =>
    if s.pc i = .idle ∧ (publishes i = true → s.driverLock = none) then
      some ({ s with driverLock := if publishes i = true then some i else s.driverLock }.run i
        fun x => (x, .lock))
    else none
  | .acquire i =>
    if s.pc i = .lock ∧ s.sendLock = none then
      some ({ s with sendLock := some i }.run i (connect version retries (.exchange 0)))
    else none
  | .ok i =>
    if (s.pc i).ready s.link = true then (completed version retries (s.pc i)).map (s.run i) else none
  | .otherFrame i =>
    match s.pc i with
    | .response _ call => some (s.run i (readResponse retries call))
    | _ => none
  | .fail i caught =>
    if (s.pc i).ready s.link = true then (failed retries caught (s.pc i)).map (s.run i) else none
  | .lose c => some { s with link := { s.link with lost := c :: s.link.lost } }
  | .readerEnds t =>
    some { s with link := { s.link with alive := s.link.alive.filter (· ≠ t) } }

def start : State ι := ⟨fun _ => .idle, none, none, ⟨none, none, none, 0, [], [], 0, [], []⟩⟩

/-! ## Phases -/

/-- A `connect` call of the caller is suspended. -/
def Pc.InConnect : Pc → Prop
  | .opening _ | .greeting _ | .response _ _ | .finishing _ _ => True
  | .waiting _ (.raise _ _) | .closing (.raise _ _) => True
  | _ => False

def Pc.Busy : Pc → Prop
  | .opening _ | .greeting _ | .response _ _ | .finishing _ _ => True
  | _ => False

/-- A `connect` of the caller has opened a connection that is neither ready nor dropped. -/
def Pc.Unready : Pc → Prop
  | .greeting _ | .response _ _ | .finishing _ _ => True
  | .waiting _ (.raise _ _) => True
  | _ => False

/-- A `connect` of the caller is suspended with its connection still to come, or not ready. -/
def Pc.Pending : Pc → Prop
  | .opening _ => True
  | .greeting _ | .response _ _ | .finishing _ _ => True
  | .waiting _ (.raise _ _) => True
  | _ => False

def AtMostOne (P : Pc → Prop) (pc : ι → Pc) : Prop := ∀ i j, P (pc i) → P (pc j) → i = j

/-- The caller is about to look at the connection for an attempt of its exchange. -/
def BeginsAttempt (s : State ι) : Event ι → Prop
  | .acquire _ => True
  | .ok i => ∃ a, s.pc i = .backoff a
  | _ => False

def StartsConnect (s : State ι) (e : Event ι) : Prop :=
  s.link.live = none ∧ (BeginsAttempt s e ∨ ∃ i, e = .connect i)

instance : DecidablePred Pc.Busy
  | .opening _ | .greeting _ | .response _ _ | .finishing _ _ => isTrue trivial
  | .idle | .lock | .draining _ | .answer _ | .backoff _ | .waiting _ _ | .closing _ => isFalse id

instance : DecidablePred Pc.Pending
  | .opening _ | .greeting _ | .response _ _ | .finishing _ _ | .waiting _ (.raise _ _) => isTrue trivial
  | .idle | .lock | .draining _ | .answer _ | .backoff _ | .closing _ | .waiting _ .finished
  | .waiting _ (.retry _) => isFalse id

theorem Pc.isBackoff_iff (p : Pc) : (p matches .backoff _) = true ↔ ∃ a, p = .backoff a := by
  cases p <;> simp

theorem Event.isConnect_iff {κ : Type} (e : Event κ) :
    (e matches .connect _) = true ↔ ∃ i, e = .connect i := by
  cases e <;> simp

instance (s : State ι) : DecidablePred (BeginsAttempt s)
  | .acquire _ => isTrue trivial
  | .ok i => decidable_of_iff _ (s.pc i).isBackoff_iff
  | .connect _ | .disconnect _ | .exchange _ | .otherFrame _ | .fail _ _ | .lose _ | .readerEnds _ =>
    isFalse id

instance (s : State ι) (e : Event ι) : Decidable (StartsConnect s e) :=
  haveI := decidable_of_iff _ e.isConnect_iff
  inferInstanceAs (Decidable (_ ∧ (_ ∨ _)))

/-! ## Lemmas -/

variable {version retries publishes}

/-- A point reached after an update is the new one or an old one. -/
theorem of_update {P : Pc → Prop} {pc : ι → Pc} {i j : ι} {p : Pc}
    (h : P (Function.update pc i p j)) : P p ∨ P (pc j) := by
  by_cases hji : j = i
  · rw [hji, Function.update_self] at h
    exact Or.inl h
  · rw [Function.update_of_ne hji] at h
    exact Or.inr h

theorem AtMostOne.set {P : Pc → Prop} {pc : ι → Pc} (h : AtMostOne P pc) (i : ι) {p : Pc}
    (hp : P p → ∀ j, ¬ P (pc j)) : AtMostOne P (Function.update pc i p) := by
  intro j k hj hk
  by_cases hji : j = i
  · by_cases hki : k = i
    · rw [hji, hki]
    · rw [hji, Function.update_self] at hj
      rw [Function.update_of_ne hki] at hk
      exact absurd hk (hp hj k)
  · rw [Function.update_of_ne hji] at hj
    by_cases hki : k = i
    · rw [hki, Function.update_self] at hk
      exact absurd hj (hp hk j)
    · rw [Function.update_of_ne hki] at hk
      exact h j k hj hk

/-- Once the only caller has left, nobody is there. -/
theorem AtMostOne.nobody {P : Pc → Prop} {pc : ι → Pc} (h : AtMostOne P pc) {i : ι} (hi : P (pc i))
    (hidle : ¬ P .idle) (j : ι) : ¬ P (Function.update pc i .idle j) := by
  intro hj
  by_cases hji : j = i
  · rw [hji, Function.update_self] at hj
    exact hidle hj
  · rw [Function.update_of_ne hji] at hj
    exact hji (h j i hj hi)

theorem live_writer {x : Link} {c : Nat} (h : x.live = some c) : x.writer = some c := by
  unfold Link.live at h
  split at h
  · next c' hc =>
    split at h
    · cases h
    · cases h; exact hc
  · cases h

/-! ### Cleanup

An invariant is followed from one await of a caller to the next: `I x` holds while the caller runs,
`J x p` once it is suspended at `p`.  The segments of `disconnect` and of what follows it are the
same for every invariant. -/

/-- The segment, run in `x`, leads to an await where `J` holds. -/
def Leads (J : Link → Pc → Prop) (segment : Segment) (x : Link) : Prop :=
  J (segment x).1 (segment x).2

/-- What an invariant owes to the cleanup segments.  `I₀` is what is left of `I` while the
connection in `_writer` is not ready. -/
structure Cleanup (I₀ I : Link → Prop) (J : Link → Pc → Prop) : Prop where
  weaken : ∀ {x}, I x → I₀ x
  idle : ∀ {x}, I x → J x .idle
  backoff : ∀ {x} a, I x → J x (.backoff a)
  taken : ∀ {x} t n, ¬ Pc.Unready (.waiting t n) → I x → J { x with readerTask := none } (.waiting t n)
  dropped : ∀ {x} c n, x.writer = some c → I₀ x →
    J { x with writer := none, sessionKey := none, closed := c :: x.closed } (.closing n)
  gone : ∀ {x}, x.writer = none → I₀ x → I { x with sessionKey := none }

section Cleanup

variable {I₀ I : Link → Prop} {J : Link → Pc → Prop} {x : Link}

theorem Cleanup.leave (h : Cleanup I₀ I J) (hx : I x) : Leads J leave x := h.idle hx

theorem Cleanup.retry (h : Cleanup I₀ I J) (hx : I x) (a : Nat) : Leads J (retry retries a) x := by
  unfold Leads Session.retry
  split
  · exact h.backoff a hx
  · exact h.idle hx

theorem Cleanup.dropWriter (h : Cleanup I₀ I J) (hx : I₀ x) {n : Next} {after : Segment}
    (hafter : ∀ y, I y → Leads J after y) : Leads J (dropWriter n after) x := by
  unfold Leads Session.dropWriter
  cases hc : x.writer with
  | none =>
    have hgone := h.gone hc hx
    rw [hc] at hgone
    exact hafter _ hgone
  | some c => exact h.dropped c n hc hx

theorem Cleanup.disconnect (h : Cleanup I₀ I J) (hx : I₀ x) {n : Next} {after : Segment}
    (htaken : ∀ t, J { x with readerTask := none } (.waiting t n))
    (hafter : ∀ y, I y → Leads J after y) : Leads J (disconnect n after) x := by
  unfold Leads Session.disconnect
  cases x.readerTask with
  | some t => exact htaken t
  | none => exact h.dropWriter hx hafter

theorem Cleanup.recover (h : Cleanup I₀ I J) (hx : I x) (a : Nat) :
    Leads J (recover retries a) x :=
  h.disconnect (h.weaken hx) (fun t => h.taken t _ id hx) fun _ hy => h.retry hy a

theorem Cleanup.raiseTo (h : Cleanup I₀ I J) (hx : I x) (call : Call) (caught : Bool) :
    Leads J (raiseTo retries call caught) x := by
  unfold Session.raiseTo
  cases call with
  | direct => exact h.leave hx
  | exchange a =>
    cases caught with
    | true => exact h.recover hx a
    | false => exact h.leave hx

theorem Cleanup.resume (h : Cleanup I₀ I J) (hx : I x) (n : Next) :
    Leads J (resume retries n) x := by
  cases n with
  | finished => exact h.leave hx
  | retry a => exact h.retry hx a
  | raise call caught => exact h.raiseTo hx call caught

theorem Cleanup.giveUp (h : Cleanup I₀ I J) (hx : I₀ x) (call : Call) (caught : Bool)
    (htaken : ∀ t, J { x with readerTask := none } (.waiting t (.raise call caught))) :
    Leads J (giveUp retries call caught) x :=
  h.disconnect hx htaken fun _ hy => h.raiseTo hy call caught

end Cleanup

/-! ### Steps -/

theorem failed_cases {p : Pc} {caught : Bool} {segment : Segment}
    (h : failed retries caught p = some segment) :
    (∃ call, segment = giveUp retries call caught ∧ p.Pending) ∨
    (∃ call, segment = raiseTo retries call caught ∧ ¬ p.Unready) ∨
    (segment = leave ∧ (p.Unready → ∃ t call c, p = .waiting t (.raise call c))) := by
  -- waiting for a lock, a pause or a reader task: a cancellation
  have hcancel : ∀ {x : Option Segment}, x = (if caught then none else some leave) →
      x = some segment → segment = leave := by
    rintro x rfl hx
    cases caught with
    | true => cases hx
    | false => exact (Option.some.inj hx).symm
  cases p with
  | opening call => cases h; exact Or.inr (Or.inl ⟨call, rfl, id⟩)
  | greeting call => cases h; exact Or.inl ⟨call, rfl, trivial⟩
  | response c call => cases h; exact Or.inl ⟨call, rfl, trivial⟩
  | finishing c call => cases h; exact Or.inl ⟨call, rfl, trivial⟩
  | draining a => cases h; exact Or.inr (Or.inl ⟨.exchange a, rfl, id⟩)
  | answer a => cases h; exact Or.inr (Or.inl ⟨.exchange a, rfl, id⟩)
  | closing n =>
    cases n with
    | finished => cases h; exact Or.inr (Or.inr ⟨rfl, fun hu => hu.elim⟩)
    | retry a => cases h; exact Or.inr (Or.inr ⟨rfl, fun hu => hu.elim⟩)
    | raise call _ => cases h; exact Or.inr (Or.inl ⟨call, rfl, id⟩)
  | idle => cases h
  | lock => exact Or.inr (Or.inr ⟨hcancel rfl h, fun hu => hu.elim⟩)
  | backoff a => exact Or.inr (Or.inr ⟨hcancel rfl h, fun hu => hu.elim⟩)
  | waiting t n =>
    refine Or.inr (Or.inr ⟨hcancel rfl h, fun hu => ?_⟩)
    cases n with
    | raise call c => exact ⟨t, call, c, rfl⟩
    | _ => exact hu.elim

variable (version retries) in
inductive Does (s : State ι) : Event ι → ι → Segment → Prop
  | connect (i : ι) : s.pc i = .idle → Does s (.connect i) i (connect version retries .direct)
  | disconnect (i : ι) : s.pc i = .idle → Does s (.disconnect i) i (disconnect .finished leave)
  | exchange (i : ι) : s.pc i = .idle → Does s (.exchange i) i fun x => (x, .lock)
  | acquire (i : ι) : s.pc i = .lock →
      Does s (.acquire i) i (connect version retries (.exchange 0))
  | ok (i : ι) (segment : Segment) : (s.pc i).ready s.link = true →
      completed version retries (s.pc i) = some segment → Does s (.ok i) i segment
  | otherFrame (i : ι) (c : Nat) (call : Call) : s.pc i = .response c call →
      Does s (.otherFrame i) i (readResponse retries call)
  | fail (i : ι) (caught : Bool) (segment : Segment) : (s.pc i).ready s.link = true →
      failed retries caught (s.pc i) = some segment → Does s (.fail i caught) i segment

/-- A step is a segment of one caller, or an event of the network. -/
theorem step_cases {s s' : State ι} {e : Event ι}
    (h : step version retries publishes s e = some s') :
    (∃ i segment, Does version retries s e i segment ∧
      s'.pc = Function.update s.pc i (segment s.link).2 ∧ s'.link = (segment s.link).1) ∨
    (∃ c, e = .lose c ∧ s'.pc = s.pc ∧ s'.link = { s.link with lost := c :: s.link.lost }) ∨
    ∃ t, e = .readerEnds t ∧ s'.pc = s.pc ∧
      s'.link = { s.link with alive := s.link.alive.filter (· ≠ t) } := by
  cases e with
  | connect i =>
    simp only [step] at h
    split at h
    · next hg =>
      cases h
      exact Or.inl ⟨i, _, .connect i hg.2.1, rfl, rfl⟩
    · cases h
  | disconnect i =>
    simp only [step] at h
    split at h
    · next hg =>
      cases h
      exact Or.inl ⟨i, _, .disconnect i hg.2.1, rfl, rfl⟩
    · cases h
  | exchange i =>
    simp only [step] at h
    split at h
    · next hg =>
      cases h
      exact Or.inl ⟨i, _, .exchange i hg.1, rfl, rfl⟩
    · cases h
  | acquire i =>
    simp only [step] at h
    split at h
    · next hg =>
      cases h
      exact Or.inl ⟨i, _, .acquire i hg.1, rfl, rfl⟩
    · cases h
  | ok i =>
    simp only [step] at h
    split at h
    · next hg =>
      obtain ⟨segment, hseg, rfl⟩ := Option.map_eq_some_iff.mp h
      exact Or.inl ⟨i, segment, .ok i segment hg hseg, rfl, rfl⟩
    · cases h
  | otherFrame i =>
    simp only [step] at h
    split at h
    · next c call hpc =>
      cases h
      exact Or.inl ⟨i, _, .otherFrame i c call hpc, rfl, rfl⟩
    · cases h
  | fail i caught =>
    simp only [step] at h
    split at h
    · next hg =>
      obtain ⟨segment, hseg, rfl⟩ := Option.map_eq_some_iff.mp h
      exact Or.inl ⟨i, segment, .fail i caught segment hg hseg, rfl, rfl⟩
    · cases h
  | lose c =>
    cases h
    exact Or.inr (Or.inl ⟨c, rfl, rfl, rfl⟩)
  | readerEnds t =>
    cases h
    exact Or.inr (Or.inr ⟨t, rfl, rfl, rfl⟩)

end Step

end Linker.Session
