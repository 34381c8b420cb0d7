import OpenHdoLinker.Lib.Correlation
import OpenHdoLinker.Tuya.Exchange
import OpenHdoLinker.Tuya.Session

/-!
# Which frame answers which request

Any number of calls of `_exchange`, `connect` and `disconnect` on one driver, and the
reader tasks they start, each run without interruption from one await to the next.
Connections are lost, awaits raise and callers are cancelled at any time, and the
frames read are arbitrary.  The sequence numbers given out, to requests and to
negotiations, are the requests of a `Correlation.Table`; `_pending` is its table of
entries, and a future is what has become of a request.

As long as fewer than `2 ^ 32` numbers have been given out, an exchange that returns
was completed by a frame with the number of its own request, which no other request
has, read after that number was given out; no frame completes two requests.

    every run : AnswersOwn     (replies_answer_their_own)
-/

namespace Linker.Replies

open Py Correlation
open Session (Call Next)
open Exchange (keyBytes verifiedResponse sessionKeyOf)

/-! ## Algorithm -/

/-- The reader leaves status frames alone when it looks for a request. -/
def IsReply (f : TuyaFrame) : Prop := f.command ≠ commandStatus

instance : DecidablePred IsReply := fun f => inferInstanceAs (Decidable (f.command ≠ commandStatus))

/-- `_sequence`, `_pending` and the futures in it, and what has been given out and read so far. -/
structure Book (ι : Type) where
  sequence : Nat
  table : Table TuyaFrame.sequence IsReply ι
  sequence_ok : sequence = table.requests.length % 2 ^ 32
  numbers_ok : ∀ k r, table.requests[k]? = some r → r.key = (k + 1) % 2 ^ 32

namespace Book

variable {ι : Type}

def start : Book ι := ⟨0, .empty, rfl, nofun⟩

theorem next_sequence (b : Book ι) :
    (b.sequence + 1) % 2 ^ 32 = (b.table.requests.length + 1) % 2 ^ 32 := by
  rw [b.sequence_ok, Nat.mod_add_mod]

theorem next_numbers (b : Book ι) (owner : ι) : ∀ k r,
    (b.table.issue ((b.sequence + 1) % 2 ^ 32) owner).requests[k]? = some r →
      r.key = (k + 1) % 2 ^ 32 := by
  intro k r hk
  rcases Nat.lt_trichotomy k b.table.requests.length with h | h | h
  · exact b.numbers_ok k r ((List.getElem?_append_left h).symm.trans hk)
  · subst h
    cases List.getElem?_concat_length.symm.trans hk
    exact b.next_sequence
  · have hlt := lt_of_getElem? hk
    simp only [Table.issue, List.length_append, List.length_singleton] at hlt
    omega

/-- `_next_sequence()` of a negotiation. -/
def next (b : Book ι) (owner : ι) : Book ι where
  sequence := (b.sequence + 1) % 2 ^ 32
  table := b.table.issue ((b.sequence + 1) % 2 ^ 32) owner
  sequence_ok := by
    rw [b.next_sequence]
    simp [Table.issue]
  numbers_ok := b.next_numbers owner

/-- `sequence = self._next_sequence()` and `self._pending[sequence] = _Pending(future)`. -/
def enter (b : Book ι) (owner : ι) : Book ι where
  sequence := (b.sequence + 1) % 2 ^ 32
  table := b.table.enter ((b.sequence + 1) % 2 ^ 32) owner
  sequence_ok := (b.next owner).sequence_ok
  numbers_ok := b.next_numbers owner

/-- `self._pending.pop(sequence, None)`. -/
def forget (b : Book ι) (sequence : Nat) : Book ι :=
  ⟨b.sequence, b.table.forget sequence, b.sequence_ok, b.numbers_ok⟩

/-- Every future in `_pending` that is not done gets an exception, and `_pending` is cleared. -/
def clear (b : Book ι) : Book ι := ⟨b.sequence, b.table.clear, b.sequence_ok, b.numbers_ok⟩

/-- A caller that stops waiting cancels its future. -/
def abandon (b : Book ι) (future : Nat) : Book ι :=
  ⟨b.sequence, b.table.fail (· = future), b.sequence_ok, b.numbers_ok⟩

/-- A frame is read: `self._pending.pop(frame.sequence, None)` and `set_result`, unless it is a status
frame. -/
def receive (b : Book ι) (f : TuyaFrame) : Book ι where
  sequence := b.sequence
  table := b.table.receive f
  sequence_ok := by
    rw [b.table.receive_requests]
    exact b.sequence_ok
  numbers_ok := by
    rw [b.table.receive_requests]
    exact b.numbers_ok

end Book

/-- The locals `sequence` and `future` of an attempt. -/
structure Issued where
  sequence : Nat
  future : Nat
deriving DecidableEq

/-- The await a caller is suspended at. -/
inductive Pc
  | idle
  /-- `async with self._send_lock`. -/
  | lock
  /-- `asyncio.open_connection`. -/
  | opening (call : Call)
  /-- `_negotiate_session`: the first write, the response, the last write with the key it leads to. -/
  | greeting (call : Call)
  | response (call : Call)
  | finishing (sessionKey : Bytes) (call : Call)
  /-- `_exchange`: the write of the request, its future, the pause between attempts. -/
  | draining (attempt : Nat) (issued : Issued)
  | answer (attempt : Nat) (issued : Issued)
  | backoff (attempt : Nat)
  /-- `disconnect`: the cancelled reader task, `wait_closed`. -/
  | waiting (task : Nat) (next : Next)
  | closing (next : Next)
  | done
deriving DecidableEq

/-- A reader task: created or inside `_handle_status`, at `_read_frame`, or done. -/
inductive Reader
  | suspended
  | reading
  | ended
deriving DecidableEq

/-- An exchange that returned: its caller, the request that was answered, the frame read, the bytes. -/
structure Return (ι : Type) where
  caller : ι
  request : Nat
  frame : Nat
  payload : Bytes

/-- The fields the callers share; `_reader` is assigned and cleared together with `_writer`. -/
structure Link (ι : Type) where
  writer : Option Nat
  readerTask : Option Nat
  sessionKey : Option Bytes
  connections : Nat
  closed : List Nat
  lost : List Nat
  readers : List Reader
  book : Book ι
  returned : List (Return ι)

/-- What a caller does up to its next await. -/
abbrev Segment (ι : Type) : Type := Link ι → Link ι × Pc

section Segments

variable {ι : Type}

/-- `self._writer`, if it is not closing. -/
def Link.live (x : Link ι) : Option Nat :=
  match x.writer with
  | some c => if c ∈ x.closed ∨ c ∈ x.lost then none else some c
  | none => none

/-- The call is over. -/
def leave : Segment ι := fun x => (x, .done)

/-- The second half of `disconnect`; `after` runs at once if there is no writer to close. -/
def dropWriter (next : Next) (after : Segment ι) : Segment ι := fun x =>
  match x.writer with
  | some c =>
    ({ x with writer := none, sessionKey := none, closed := c :: x.closed, book := x.book.clear },
      .closing next)
  | none => after { x with sessionKey := none, book := x.book.clear }

/-- `disconnect()`. -/
def disconnect (next : Next) (after : Segment ι) : Segment ι := fun x =>
  match x.readerTask with
  | some t => ({ x with readerTask := none }, .waiting t next)
  | none => dropWriter next after x

variable (C : TuyaCrypto) (d : TuyaLink) (i : ι)

/-- The end of the `except` clause of an attempt. -/
def retry (attempt : Nat) : Segment ι := fun x =>
  if attempt < d.retries then (x, .backoff attempt) else leave x

/-- The `except` clause of an attempt, once the request is out of `_pending`. -/
def recover (attempt : Nat) : Segment ι := disconnect (.retry attempt) (retry d attempt)

/-- An attempt with a sequence number raises; `caught` says whether its `except` clause lists the
exception. -/
def giveBack (attempt : Nat) (issued : Issued) (caught : Bool) : Segment ι := fun x =>
  if caught then recover d attempt { x with book := x.book.forget issued.sequence } else leave x

/-- `connect` raises to its caller. -/
def raiseTo (call : Call) (caught : Bool) : Segment ι :=
  match call with
  | .direct => leave
  | .exchange attempt => if caught then recover d attempt else leave

/-- `disconnect` returns. -/
def resume : Next → Segment ι
  | .finished => leave
  | .retry attempt => retry d attempt
  | .raise call caught => raiseTo d call caught

/-- `except BaseException` of `connect`. -/
def giveUp (call : Call) (caught : Bool) : Segment ι :=
  disconnect (.raise call caught) (raiseTo d call caught)

/-- An attempt takes a number and writes its request, or finds the connection gone. -/
def request (attempt : Nat) : Segment ι := fun x =>
  let y := { x with book := x.book.enter i }
  let issued : Issued := ⟨y.book.sequence, x.book.table.requests.length⟩
  match x.live with
  | some _ => (y, .draining attempt issued)
  | none => giveBack d attempt issued true y

/-- `connect` returns to its caller. -/
def established : Call → Segment ι
  | .direct => leave
  | .exchange attempt => request d i attempt

/-- `connect()`. -/
def connect (call : Call) : Segment ι := fun x =>
  match x.live with
  | some _ => established d i call x
  | none => (x, .opening call)

/-- The end of `connect`: the reader task. -/
def connected (call : Call) : Segment ι := fun x =>
  established d i call
    { x with readerTask := some x.readers.length, readers := x.readers ++ [.suspended] }

/-- A number and a `_write` in `_negotiate_session`, suspended at `pc`. -/
def negotiationWrite (call : Call) (pc : Pc) : Segment ι := fun x =>
  match x.live with
  | some _ => ({ x with book := x.book.next i }, pc)
  | none => giveUp d call true { x with book := x.book.next i }

/-- `open_connection` returned. -/
def opened (call : Call) : Segment ι := fun x =>
  let y := { x with writer := some x.connections, connections := x.connections + 1,
                    sessionKey := none }
  if d.protocolVersion = .v34 then negotiationWrite d i call (.greeting call) y
  else connected d i call y

/-- The loop head of `_read_frame_until`. -/
def readResponse (call : Call) : Segment ι := fun x =>
  match x.writer with
  | some _ => (x, .response call)
  | none => giveUp d call true x

/-- A response frame with this payload was read. -/
def responded (call : Call) (payload : Bytes) : Segment ι :=
  match verifiedResponse C d payload with
  | .ok remote => negotiationWrite d i call (.finishing (sessionKeyOf C d remote) call)
  | .error e => giveUp d call (e.isAny exchangeErrors)

/-- The session key is set and `connect` goes on. -/
def derived (sessionKey : Bytes) (call : Call) : Segment ι := fun x =>
  connected d i call { x with sessionKey := some sessionKey }

/-- The future of an attempt has its frame, the one read as number `m`. -/
def answered (attempt : Nat) (issued : Issued) (m : Nat) (f : TuyaFrame) : Segment ι := fun x =>
  match decodePayload C f d.protocolVersion (keyBytes d) x.sessionKey with
  | .ok decoded =>
    leave { x with returned := x.returned ++ [⟨i, issued.future, m, withoutRetcode decoded⟩] }
  | .error e => giveBack d attempt issued (e.isAny exchangeErrors) x

/-- What follows an await that completes and brings nothing. -/
def completed : Pc → Option (Segment ι)
  | .opening call => some (opened d i call)
  | .greeting call => some (readResponse d call)
  | .finishing sessionKey call => some (derived d i sessionKey call)
  | .draining attempt issued => some fun x => (x, .answer attempt issued)
  | .backoff attempt => some (connect d i (.exchange (attempt + 1)))
  | .waiting _ next => some (dropWriter next (resume d next))
  | .closing next => some (resume d next)
  | .idle | .lock | .response _ | .answer _ _ | .done => none

/-- What follows an await that raises.  Waiting for the lock, for a pause or for the reader task
raises a cancellation only. -/
def failed (caught : Bool) : Pc → Option (Segment ι)
  | .opening call => some (raiseTo d call caught)
  | .greeting call | .response call | .finishing _ call => some (giveUp d call caught)
  | .draining attempt issued => some (giveBack d attempt issued caught)
  | .answer attempt issued => some fun x =>
    giveBack d attempt issued caught { x with book := x.book.abandon issued.future }
  | .closing (.raise call _) => some (raiseTo d call caught)
  | .closing _ => some leave
  | .lock | .backoff _ | .waiting _ _ => if caught then none else some leave
  | .idle | .done => none

end Segments

/-! ### The reader tasks -/

section Readers

variable {ι : Type}

/-- `while self._reader is not None`. -/
def loopHead (task : Nat) (x : Link ι) : Link ι :=
  { x with readers := x.readers.set task (if x.writer = none then .ended else .reading) }

/-- `_read_frame` returned a frame. -/
def frameRead (task : Nat) (f : TuyaFrame) (x : Link ι) : Link ι :=
  let y := { x with book := x.book.receive f }
  if f.command = commandStatus then { y with readers := y.readers.set task .suspended }
  else loopHead task y

/-- `except Exception` of `_reader_loop`. -/
def readerFails (task : Nat) (x : Link ι) : Link ι :=
  { x with readers := x.readers.set task .ended, book := x.book.clear }

end Readers

section Step

variable {ι : Type} [DecidableEq ι] (C : TuyaCrypto) (d : TuyaLink)

structure State (ι : Type) where
  pc : ι → Pc
  sendLock : Option ι
  link : Link ι

/-- `gather` on the reader task answers, even to a cancellation, once the task is done. -/
def Pc.ready (x : Link ι) : Pc → Bool
  | .waiting t _ => x.readers[t]? ≠ some .suspended ∧ x.readers[t]? ≠ some .reading
  | _ => true

inductive Event (ι : Type)
  | connect (i : ι)
  | disconnect (i : ι)
  | exchange (i : ι)
  | acquire (i : ι)
  | ok (i : ι)
  | otherFrame (i : ι)
  | responded (i : ι) (payload : Bytes)
  | answered (i : ι)
  | fail (i : ι) (caught : Bool)
  | lose (connection : Nat)
  | readerResumes (task : Nat)
  | frameRead (task : Nat) (f : TuyaFrame)
  | readerFails (task : Nat)
  | readerCancelled (task : Nat)

/-- A caller runs a segment; a call that is over releases the lock it holds. -/
def State.run (s : State ι) (i : ι) (segment : Segment ι) : State ι :=
  let r := segment s.link
  ⟨Function.update s.pc i r.2, if r.2 = .done ∧ s.sendLock = some i then none else s.sendLock, r.1⟩

def step (s : State ι) : Event ι → Option (State ι)
  | .connect i => if s.pc i = .idle then some (s.run i (connect d i .direct)) else none
  | .disconnect i => if s.pc i = .idle then some (s.run i (disconnect .finished leave)) else none
  | .exchange i => if s.pc i = .idle then some (s.run i fun x => (x, .lock)) else none
  | .acquire i =>
    if s.pc i = .lock ∧ s.sendLock = none then
      some ({ s with sendLock := some i }.run i (connect d i (.exchange 0)))
    else none
  | .ok i => if (s.pc i).ready s.link = true then (completed d i (s.pc i)).map (s.run i) else none
  | .otherFrame i =>
    match s.pc i with
    | .response call => some (s.run i (readResponse d call))
    | _ => none
  | .responded i payload =>
    match s.pc i with
    | .response call => some (s.run i (responded C d i call payload))
    | _ => none
  | .answered i =>
    match s.pc i with
    | .answer attempt issued =>
      match s.link.book.table.outcome issued.future with
      | .settled m =>
        s.link.book.table.messages[m]?.map fun f => s.run i (answered C d i attempt issued m f)
      | _ => none
    | _ => none
  | .fail i caught =>
    if (s.pc i).ready s.link = true then (failed d caught (s.pc i)).map (s.run i) else none
  | .lose c => some { s with link := { s.link with lost := c :: s.link.lost } }
  | .readerResumes t =>
    if s.link.readers[t]? = some .suspended then some { s with link := loopHead t s.link } else none
  | .frameRead t f =>
    if s.link.readers[t]? = some .reading then some { s with link := frameRead t f s.link }
    else none
  | .readerFails t =>
    if s.link.readers[t]? = some .suspended ∨ s.link.readers[t]? = some .reading then
      some { s with link := readerFails t s.link }
    else none
  | .readerCancelled t =>
    some { s with link := { s.link with readers := s.link.readers.set t .ended } }

def start : State ι := ⟨fun _ => .idle, none, ⟨none, none, none, 0, [], [], [], .start, []⟩⟩

end Step

/-! ## Statement -/

section Statement

variable {ι : Type}

/-- An exchange that returned was completed by a frame that is no status frame, read after the number
of its request was given out and carrying it; no other request has that number, and the bytes are
those of the frame. -/
structure AnsweredBy (C : TuyaCrypto) (d : TuyaLink) (t : Table TuyaFrame.sequence IsReply ι)
    (e : Return ι) (r : Request Nat ι) (f : TuyaFrame) : Prop where
  request : t.requests[e.request]? = some r
  owner : r.owner = e.caller
  frame : t.messages[e.frame]? = some f
  command : f.command ≠ commandStatus
  sequence : f.sequence = r.key
  later : r.before ≤ e.frame
  alone : ∀ (k : Nat) (r' : Request Nat ι), t.requests[k]? = some r' → r'.key = f.sequence →
    k = e.request
  payload : ∃ sessionKey decoded,
    decodePayload C f d.protocolVersion (keyBytes d) sessionKey = .ok decoded ∧
      e.payload = withoutRetcode decoded

/-- Every exchange that returned was answered by its own frame, and no frame completes the future of
two requests or the exchanges of two calls. -/
structure AnswersOwn (C : TuyaCrypto) (d : TuyaLink) (s : State ι) : Prop where
  own : ∀ e ∈ s.link.returned, ∃ r f, AnsweredBy C d s.link.book.table e r f
  futures : ∀ k k' m, s.link.book.table.outcome k = .settled m →
    s.link.book.table.outcome k' = .settled m → k = k'
  frames : (s.link.returned.map Return.frame).Nodup

end Statement

/-! ## Lemmas -/

/-! ### The numbers given out -/

section Numbers

variable {ι : Type}

/-- Until the counter wraps around, a number is given out once. -/
theorem Book.numbers_distinct (b : Book ι) (hb : b.table.requests.length < 2 ^ 32) {k k' : Nat}
    {r r' : Request Nat ι} (hk : b.table.requests[k]? = some r)
    (hk' : b.table.requests[k']? = some r') (h : r.key = r'.key) : k = k' := by
  have hlt := lt_of_getElem? hk
  have hlt' := lt_of_getElem? hk'
  rw [b.numbers_ok k r hk, b.numbers_ok k' r' hk', Nat.mod_eq_of_lt (by omega),
    Nat.mod_eq_of_lt (by omega)] at h
  omega

end Numbers

/-! ### From one await to the next -/

section Leads

variable {ι : Type} {C : TuyaCrypto} {d : TuyaLink} {i : ι}

/-- The locals of an attempt that has a number. -/
def Pc.issued : Pc → Option Issued
  | .draining _ issued | .answer _ issued => some issued
  | _ => none

/-- Nothing given out, read or returned is lost. -/
structure Keeps (x y : Link ι) : Prop where
  table : x.book.table.Extends y.book.table
  returned : y.returned = x.returned

/-- From `x` caller `i` gets to this await: what was there is kept, and a number it holds is its
own. -/
structure Leads (i : ι) (x : Link ι) (r : Link ι × Pc) : Prop where
  keeps : Keeps x r.1
  owns : ∀ issued, r.2.issued = some issued → r.1.book.table.Owns issued.future i

variable {x y : Link ι}

theorem Keeps.refl (x : Link ι) : Keeps x x := ⟨.refl _, rfl⟩

theorem Keeps.next (h : Keeps x y) (i : ι) : Keeps x { y with book := y.book.next i } :=
  ⟨h.table.trans (y.book.table.extends_issue _ _), h.returned⟩

theorem Keeps.enter (h : Keeps x y) (i : ι) : Keeps x { y with book := y.book.enter i } :=
  ⟨h.table.trans (y.book.table.extends_enter _ _), h.returned⟩

theorem Keeps.forget (h : Keeps x y) (n : Nat) : Keeps x { y with book := y.book.forget n } :=
  ⟨h.table.trans (y.book.table.extends_forget _), h.returned⟩

theorem Keeps.clear (h : Keeps x y) : Keeps x { y with book := y.book.clear } :=
  ⟨h.table.trans y.book.table.extends_clear, h.returned⟩

theorem Keeps.abandon (h : Keeps x y) (k : Nat) : Keeps x { y with book := y.book.abandon k } :=
  ⟨h.table.trans (y.book.table.extends_fail _), h.returned⟩

theorem Keeps.receive (h : Keeps x y) (f : TuyaFrame) :
    Keeps x { y with book := y.book.receive f } :=
  ⟨h.table.trans (y.book.table.extends_receive _), h.returned⟩

/-- The fields of the connection and of the reader tasks do not count. -/
theorem Keeps.fields (h : Keeps x y) (writer readerTask : Option Nat) (sessionKey : Option Bytes)
    (connections : Nat) (closed lost : List Nat) (readers : List Reader) :
    Keeps x ⟨writer, readerTask, sessionKey, connections, closed, lost, readers, y.book, y.returned⟩ :=
  ⟨h.table, h.returned⟩

/-- An await without a number. -/
theorem Keeps.leads (h : Keeps x y) {pc : Pc} (hpc : pc.issued = none) : Leads i x (y, pc) := by
  refine ⟨h, ?_⟩
  intro issued hissued
  rw [hpc] at hissued
  cases hissued

theorem leave_leads (h : Keeps x y) : Leads i x (leave y) := h.leads rfl

theorem retry_leads (h : Keeps x y) (attempt : Nat) : Leads i x (retry d attempt y) := by
  unfold retry
  split
  · exact h.leads rfl
  · exact leave_leads h

theorem dropWriter_leads (h : Keeps x y) {next : Next} {after : Segment ι}
    (hafter : ∀ z, Keeps x z → Leads i x (after z)) : Leads i x (dropWriter next after y) := by
  unfold dropWriter
  split
  · exact (h.clear.fields _ _ _ _ _ _ _).leads rfl
  · exact hafter _ (h.clear.fields _ _ _ _ _ _ _)

theorem disconnect_leads (h : Keeps x y) {next : Next} {after : Segment ι}
    (hafter : ∀ z, Keeps x z → Leads i x (after z)) : Leads i x (disconnect next after y) := by
  unfold disconnect
  split
  · exact (h.fields _ _ _ _ _ _ _).leads rfl
  · exact dropWriter_leads h hafter

theorem recover_leads (h : Keeps x y) (attempt : Nat) : Leads i x (recover d attempt y) := by
  apply disconnect_leads h
  intro z hz
  exact retry_leads hz attempt

theorem giveBack_leads (h : Keeps x y) (attempt : Nat) (issued : Issued) (caught : Bool) :
    Leads i x (giveBack d attempt issued caught y) := by
  unfold giveBack
  split
  · exact recover_leads (h.forget _) attempt
  · exact leave_leads h

theorem raiseTo_leads (h : Keeps x y) (call : Call) (caught : Bool) :
    Leads i x (raiseTo d call caught y) := by
  cases call with
  | direct => exact leave_leads h
  | exchange attempt =>
    cases caught with
    | true => exact recover_leads h attempt
    | false => exact leave_leads h

theorem resume_leads (h : Keeps x y) (next : Next) : Leads i x (resume d next y) := by
  cases next with
  | finished => exact leave_leads h
  | retry attempt => exact retry_leads h attempt
  | raise call caught => exact raiseTo_leads h call caught

theorem giveUp_leads (h : Keeps x y) (call : Call) (caught : Bool) :
    Leads i x (giveUp d call caught y) := by
  apply disconnect_leads h
  intro z hz
  exact raiseTo_leads hz call caught

/-- The number an attempt takes is its caller's. -/
theorem request_leads (h : Keeps x y) (attempt : Nat) : Leads i x (request d i attempt y) := by
  unfold request
  dsimp only
  split
  · refine ⟨h.enter i, ?_⟩
    rintro issued ⟨⟩
    exact y.book.table.enter_owns _ i
  · exact giveBack_leads (h.enter i) attempt _ true

theorem established_leads (h : Keeps x y) (call : Call) : Leads i x (established d i call y) := by
  cases call with
  | direct => exact leave_leads h
  | exchange attempt => exact request_leads h attempt

theorem connect_leads (h : Keeps x y) (call : Call) : Leads i x (connect d i call y) := by
  unfold connect
  split
  · exact established_leads h call
  · exact h.leads rfl

theorem connected_leads (h : Keeps x y) (call : Call) : Leads i x (connected d i call y) :=
  established_leads (h.fields _ _ _ _ _ _ _) call

theorem negotiationWrite_leads (h : Keeps x y) (call : Call) {pc : Pc} (hpc : pc.issued = none) :
    Leads i x (negotiationWrite d i call pc y) := by
  unfold negotiationWrite
  split
  · exact (h.next i).leads hpc
  · exact giveUp_leads (h.next i) call true

theorem opened_leads (h : Keeps x y) (call : Call) : Leads i x (opened d i call y) := by
  have hnew := h.fields (some y.connections) y.readerTask none (y.connections + 1) y.closed y.lost
    y.readers
  unfold opened
  dsimp only
  split
  · exact negotiationWrite_leads hnew call rfl
  · exact connected_leads hnew call

theorem readResponse_leads (h : Keeps x y) (call : Call) : Leads i x (readResponse d call y) := by
  unfold readResponse
  split
  · exact h.leads rfl
  · exact giveUp_leads h call true

theorem responded_leads (h : Keeps x y) (call : Call) (payload : Bytes) :
    Leads i x (responded C d i call payload y) := by
  unfold responded
  cases verifiedResponse C d payload with
  | ok remote => exact negotiationWrite_leads h call rfl
  | error e => exact giveUp_leads h call _

theorem derived_leads (h : Keeps x y) (sessionKey : Bytes) (call : Call) :
    Leads i x (derived d i sessionKey call y) := connected_leads (h.fields _ _ _ _ _ _ _) call

/-- An await that completes and brings nothing. -/
theorem completed_leads {pc : Pc} {segment : Segment ι} (h : completed d i pc = some segment)
    (hpc : ∀ issued, pc.issued = some issued → x.book.table.Owns issued.future i) :
    Leads i x (segment x) := by
  have hx := Keeps.refl x
  cases pc with
  | opening call => cases h; exact opened_leads hx call
  | greeting call => cases h; exact readResponse_leads hx call
  | finishing sessionKey call => cases h; exact derived_leads hx sessionKey call
  | draining attempt issued =>
    cases h
    exact ⟨hx, hpc⟩
  | backoff attempt => cases h; exact connect_leads hx _
  | waiting t next => cases h; exact dropWriter_leads hx fun z hz => resume_leads hz next
  | closing next => cases h; exact resume_leads hx next
  | idle => cases h
  | lock => cases h
  | response call => cases h
  | answer attempt issued => cases h
  | done => cases h

theorem failed_leads {pc : Pc} {caught : Bool} {segment : Segment ι}
    (h : failed d caught pc = some segment) : Leads i x (segment x) := by
  have hx := Keeps.refl x
  -- waiting for the lock, a pause or a reader task: a cancellation
  have hcancel : ∀ {o : Option (Segment ι)}, o = (if caught then none else some leave) →
      o = some segment → Leads i x (segment x) := by
    rintro o rfl ho
    cases caught with
    | true => cases ho
    | false => cases ho; exact leave_leads hx
  cases pc with
  | opening call => cases h; exact raiseTo_leads hx call caught
  | greeting call => cases h; exact giveUp_leads hx call caught
  | response call => cases h; exact giveUp_leads hx call caught
  | finishing sessionKey call => cases h; exact giveUp_leads hx call caught
  | draining attempt issued => cases h; exact giveBack_leads hx attempt issued caught
  | answer attempt issued =>
    cases h
    exact giveBack_leads (hx.abandon _) attempt issued caught
  | closing next =>
    cases next with
    | finished => cases h; exact leave_leads hx
    | retry attempt => cases h; exact leave_leads hx
    | raise call _ => cases h; exact raiseTo_leads hx call caught
  | lock => exact hcancel rfl h
  | backoff attempt => exact hcancel rfl h
  | waiting t next => exact hcancel rfl h
  | idle => cases h
  | done => cases h

end Leads

/-! ### Steps -/

section Steps

variable {ι : Type} {C : TuyaCrypto} {d : TuyaLink} {s : State ι} {i : ι} {e : Event ι}

variable (C d) in
/-- The segments the events of one caller run, an answered exchange apart. -/
inductive Does (s : State ι) : Event ι → ι → Segment ι → Prop
  | connect (i : ι) : s.pc i = .idle → Does s (.connect i) i (connect d i .direct)
  | disconnect (i : ι) : s.pc i = .idle → Does s (.disconnect i) i (disconnect .finished leave)
  | exchange (i : ι) : s.pc i = .idle → Does s (.exchange i) i fun x => (x, .lock)
  | acquire (i : ι) : s.pc i = .lock → Does s (.acquire i) i (connect d i (.exchange 0))
  | ok (i : ι) (segment : Segment ι) : completed d i (s.pc i) = some segment →
      Does s (.ok i) i segment
  | otherFrame (i : ι) (call : Call) : s.pc i = .response call →
      Does s (.otherFrame i) i (readResponse d call)
  | responded (i : ι) (call : Call) (payload : Bytes) : s.pc i = .response call →
      Does s (.responded i payload) i (responded C d i call payload)
  | fail (i : ι) (caught : Bool) (segment : Segment ι) : failed d caught (s.pc i) = some segment →
      Does s (.fail i caught) i segment

theorem Does.not_done {segment : Segment ι} (h : Does C d s e i segment) : s.pc i ≠ .done := by
  intro hi
  cases h with
  | connect _ hpc => rw [hi] at hpc; cases hpc
  | disconnect _ hpc => rw [hi] at hpc; cases hpc
  | exchange _ hpc => rw [hi] at hpc; cases hpc
  | acquire _ hpc => rw [hi] at hpc; cases hpc
  | ok _ _ hsegment => rw [hi] at hsegment; cases hsegment
  | otherFrame _ _ hpc => rw [hi] at hpc; cases hpc
  | responded _ _ _ hpc => rw [hi] at hpc; cases hpc
  | fail _ _ _ hsegment => rw [hi] at hsegment; cases hsegment

theorem Does.leads {segment : Segment ι} (h : Does C d s e i segment)
    (hpc : ∀ issued, (s.pc i).issued = some issued → s.link.book.table.Owns issued.future i) :
    Leads i s.link (segment s.link) := by
  have hx := Keeps.refl s.link
  cases h with
  | connect _ _ => exact connect_leads hx _
  | disconnect _ _ => exact disconnect_leads hx fun z hz => leave_leads hz
  | exchange _ _ => exact hx.leads rfl
  | acquire _ _ => exact connect_leads hx _
  | ok _ _ hsegment => exact completed_leads hsegment hpc
  | otherFrame _ call _ => exact readResponse_leads hx call
  | responded _ call payload _ => exact responded_leads hx call payload
  | fail _ _ _ hsegment => exact failed_leads hsegment

/-- The network and the reader tasks leave the connection to the callers. -/
structure Reads (x y : Link ι) : Prop where
  keeps : Keeps x y
  writer : y.writer = x.writer
  connections : y.connections = x.connections
  closed : y.closed = x.closed

theorem frameRead_reads (task : Nat) (f : TuyaFrame) (x : Link ι) : Reads x (frameRead task f x) := by
  have hread := (Keeps.refl x).receive f
  unfold frameRead
  dsimp only
  split
  · exact ⟨hread.fields _ _ _ _ _ _ _, rfl, rfl, rfl⟩
  · exact ⟨hread.fields _ _ _ _ _ _ _, rfl, rfl, rfl⟩

/-- A step is a segment of one caller, the answer to an exchange, or an event of the network or of a
reader task. -/
theorem step_cases [DecidableEq ι] {s' : State ι} (h : step C d s e = some s') :
    (∃ i segment lock, Does C d s e i segment ∧ s' = { s with sendLock := lock }.run i segment) ∨
    (∃ i attempt issued m f, e = .answered i ∧ s.pc i = .answer attempt issued ∧
      s.link.book.table.outcome issued.future = .settled m ∧
      s.link.book.table.messages[m]? = some f ∧ s' = s.run i (answered C d i attempt issued m f)) ∨
    ∃ y, Reads s.link y ∧ s' = { s with link := y } := by
  have hx := Keeps.refl s.link
  cases e with
  | connect i =>
    obtain ⟨hi, ⟨⟩⟩ := Option.ite_none_right_eq_some.mp h
    exact Or.inl ⟨i, _, _, .connect i hi, rfl⟩
  | disconnect i =>
    obtain ⟨hi, ⟨⟩⟩ := Option.ite_none_right_eq_some.mp h
    exact Or.inl ⟨i, _, _, .disconnect i hi, rfl⟩
  | exchange i =>
    obtain ⟨hi, ⟨⟩⟩ := Option.ite_none_right_eq_some.mp h
    exact Or.inl ⟨i, _, _, .exchange i hi, rfl⟩
  | acquire i =>
    obtain ⟨⟨hi, -⟩, ⟨⟩⟩ := Option.ite_none_right_eq_some.mp h
    exact Or.inl ⟨i, _, _, .acquire i hi, rfl⟩
  | ok i =>
    obtain ⟨-, h⟩ := Option.ite_none_right_eq_some.mp h
    obtain ⟨segment, hsegment, rfl⟩ := Option.map_eq_some_iff.mp h
    exact Or.inl ⟨i, segment, s.sendLock, .ok i segment hsegment, rfl⟩
  | otherFrame i =>
    simp only [step] at h
    split at h
    · next call hi =>
      cases h
      exact Or.inl ⟨i, _, s.sendLock, .otherFrame i call hi, rfl⟩
    · cases h
  | responded i payload =>
    simp only [step] at h
    split at h
    · next call hi =>
      cases h
      exact Or.inl ⟨i, _, s.sendLock, .responded i call payload hi, rfl⟩
    · cases h
  | answered i =>
    simp only [step] at h
    split at h
    · next attempt issued hi =>
      split at h
      · next m hm =>
        obtain ⟨f, hf, rfl⟩ := Option.map_eq_some_iff.mp h
        exact Or.inr (Or.inl ⟨i, attempt, issued, m, f, rfl, hi, hm, hf, rfl⟩)
      · cases h
    · cases h
  | fail i caught =>
    obtain ⟨-, h⟩ := Option.ite_none_right_eq_some.mp h
    obtain ⟨segment, hsegment, rfl⟩ := Option.map_eq_some_iff.mp h
    exact Or.inl ⟨i, segment, s.sendLock, .fail i caught segment hsegment, rfl⟩
  | lose c =>
    cases h
    refine Or.inr (Or.inr ⟨_, ?_, rfl⟩)
    exact ⟨hx.fields _ _ _ _ _ _ _, rfl, rfl, rfl⟩
  | readerResumes t =>
    obtain ⟨-, ⟨⟩⟩ := Option.ite_none_right_eq_some.mp h
    refine Or.inr (Or.inr ⟨_, ?_, rfl⟩)
    exact ⟨hx.fields _ _ _ _ _ _ _, rfl, rfl, rfl⟩
  | frameRead t f =>
    obtain ⟨-, ⟨⟩⟩ := Option.ite_none_right_eq_some.mp h
    exact Or.inr (Or.inr ⟨_, frameRead_reads t f s.link, rfl⟩)
  | readerFails t =>
    obtain ⟨-, ⟨⟩⟩ := Option.ite_none_right_eq_some.mp h
    refine Or.inr (Or.inr ⟨_, ?_, rfl⟩)
    exact ⟨hx.clear.fields _ _ _ _ _ _ _, rfl, rfl, rfl⟩
  | readerCancelled t =>
    cases h
    refine Or.inr (Or.inr ⟨_, ?_, rfl⟩)
    exact ⟨hx.fields _ _ _ _ _ _ _, rfl, rfl, rfl⟩

end Steps

/-! ### The invariant -/

section Invariant

variable {ι : Type} {C : TuyaCrypto} {d : TuyaLink}

/-- The request of an exchange that returned is its caller's, and the frame it returned settled it. -/
structure Completed (C : TuyaCrypto) (d : TuyaLink) (t : Table TuyaFrame.sequence IsReply ι)
    (e : Return ι) : Prop where
  owns : t.Owns e.request e.caller
  settled : t.outcome e.request = .settled e.frame
  payload : ∃ f sessionKey decoded, t.messages[e.frame]? = some f ∧
    decodePayload C f d.protocolVersion (keyBytes d) sessionKey = .ok decoded ∧
      e.payload = withoutRetcode decoded

theorem Completed.mono {t t' : Table TuyaFrame.sequence IsReply ι} {e : Return ι}
    (h : Completed C d t e) (he : t.Extends t') : Completed C d t' e := by
  obtain ⟨f, sessionKey, decoded, hf, hdecoded, hpayload⟩ := h.payload
  exact ⟨h.owns.mono he, he.settled _ _ h.settled,
    f, sessionKey, decoded, getElem?_of_prefix he.messages hf, hdecoded, hpayload⟩

structure Inv (C : TuyaCrypto) (d : TuyaLink) (s : State ι) : Prop where
  holds : ∀ i issued, (s.pc i).issued = some issued → s.link.book.table.Owns issued.future i
  finished : ∀ e ∈ s.link.returned, s.pc e.caller = .done
  completed : ∀ e ∈ s.link.returned, Completed C d s.link.book.table e
  once : (s.link.returned.map Return.caller).Nodup

variable {s : State ι}

/-- The network and the reader tasks. -/
theorem Inv.link (hs : Inv C d s) {y : Link ι} (h : Keeps s.link y) :
    Inv C d { s with link := y } where
  holds i issued hi := (hs.holds i issued hi).mono h.table
  finished e he := hs.finished e (h.returned ▸ he)
  completed e he := (hs.completed e (h.returned ▸ he)).mono h.table
  once := by
    rw [h.returned]
    exact hs.once

variable [DecidableEq ι]

theorem run_pc_self (s : State ι) (i : ι) (segment : Segment ι) :
    (s.run i segment).pc i = (segment s.link).2 := Function.update_self ..

theorem run_pc_of_ne (s : State ι) {i j : ι} (h : j ≠ i) (segment : Segment ι) :
    (s.run i segment).pc j = s.pc j := Function.update_of_ne h ..

/-- A caller whose call is not over runs to its next await. -/
theorem Inv.run (hs : Inv C d s) {i : ι} (hi : s.pc i ≠ .done) {segment : Segment ι}
    (h : Leads i s.link (segment s.link)) : Inv C d (s.run i segment) where
  holds := by
    intro j issued hj
    by_cases hji : j = i
    · subst hji
      rw [run_pc_self] at hj
      exact h.owns issued hj
    · rw [run_pc_of_ne s hji] at hj
      exact (hs.holds j issued hj).mono h.keeps.table
  finished := by
    intro e he
    have he' : e ∈ s.link.returned := h.keeps.returned ▸ he
    have hei : e.caller ≠ i := by
      intro hei
      exact hi (hei ▸ hs.finished e he')
    rw [run_pc_of_ne s hei]
    exact hs.finished e he'
  completed e he := (hs.completed e (h.keeps.returned ▸ he)).mono h.keeps.table
  once := by
    show ((segment s.link).1.returned.map Return.caller).Nodup
    rw [h.keeps.returned]
    exact hs.once

/-- A call returns what its future was completed with. -/
theorem Inv.answered (hs : Inv C d s) {i : ι} {attempt m : Nat} {issued : Issued} {f : TuyaFrame}
    (hi : s.pc i = .answer attempt issued)
    (hm : s.link.book.table.outcome issued.future = .settled m)
    (hf : s.link.book.table.messages[m]? = some f) :
    Inv C d (s.run i (answered C d i attempt issued m f)) := by
  have hnot : s.pc i ≠ .done := by
    rw [hi]
    exact nofun
  have howns : s.link.book.table.Owns issued.future i := hs.holds i issued (by rw [hi]; rfl)
  cases hdecode : decodePayload C f d.protocolVersion (keyBytes d) s.link.sessionKey with
  | error e =>
    apply hs.run hnot
    unfold Replies.answered
    rw [hdecode]
    exact giveBack_leads (.refl _) attempt issued _
  | ok decoded =>
    have hrun : Replies.answered C d i attempt issued m f s.link =
        ({ s.link with
            returned := s.link.returned ++ [⟨i, issued.future, m, withoutRetcode decoded⟩] },
          .done) := by
      unfold Replies.answered
      rw [hdecode]
      rfl
    have hlink : (s.run i (Replies.answered C d i attempt issued m f)).link =
        { s.link with
          returned := s.link.returned ++ [⟨i, issued.future, m, withoutRetcode decoded⟩] } :=
      congrArg Prod.fst hrun
    constructor
    case holds =>
      rw [hlink]
      intro j issued' hj
      by_cases hji : j = i
      · rw [hji, run_pc_self, hrun] at hj
        cases hj
      · rw [run_pc_of_ne s hji] at hj
        exact hs.holds j issued' hj
    case finished =>
      rw [hlink]
      intro e he
      by_cases hei : e.caller = i
      · rw [hei, run_pc_self, hrun]
      · rw [run_pc_of_ne s hei]
        rcases List.mem_append.mp he with he | he
        · exact hs.finished e he
        · cases List.mem_singleton.mp he
          exact absurd rfl hei
    case completed =>
      rw [hlink]
      intro e he
      rcases List.mem_append.mp he with he | he
      · exact hs.completed e he
      · cases List.mem_singleton.mp he
        exact ⟨howns, hm, f, _, decoded, hf, hdecode, rfl⟩
    case once =>
      rw [hlink, List.map_append]
      refine List.Nodup.append hs.once (List.nodup_singleton _) ?_
      intro c hc hci
      cases List.mem_singleton.mp hci
      obtain ⟨e, he, rfl⟩ := List.mem_map.mp hc
      exact hnot (hs.finished e he)

theorem Inv.step (hs : Inv C d s) {e : Event ι} {s' : State ι} (h : step C d s e = some s') :
    Inv C d s' := by
  rcases step_cases h with ⟨i, segment, lock, hdoes, rfl⟩ | ⟨i, attempt, issued, m, f, -, hi, hm, hf, rfl⟩ |
    ⟨y, hreads, rfl⟩
  · have hlocked : Inv C d { s with sendLock := lock } :=
      ⟨hs.holds, hs.finished, hs.completed, hs.once⟩
    exact hlocked.run hdoes.not_done (hdoes.leads (hs.holds i))
  · exact hs.answered hi hm hf
  · exact hs.link hreads.keeps

omit [DecidableEq ι] in
theorem Inv.start : Inv C d (start : State ι) := ⟨nofun, nofun, nofun, List.nodup_nil⟩

omit [DecidableEq ι] in
/-- The frame that settled a request, seen from the exchange that returned it. -/
theorem Inv.answeredBy (hs : Inv C d s) (hb : s.link.book.table.requests.length < 2 ^ 32)
    {e : Return ι} (he : e ∈ s.link.returned) :
    ∃ r f, AnsweredBy C d s.link.book.table e r f := by
  obtain ⟨howns, hsettled, f, sessionKey, decoded, hf, hdecoded, hpayload⟩ := hs.completed e he
  obtain ⟨r, f', hr, hf', hreply, hkey, hbefore⟩ := s.link.book.table.settled_ok _ _ hsettled
  cases hf.symm.trans hf'
  obtain ⟨r', hr', howner⟩ := howns
  cases hr.symm.trans hr'
  refine ⟨r, f, hr, howner, hf, hreply, hkey, hbefore, ?_, sessionKey, decoded, hdecoded, hpayload⟩
  intro k r' hk hk'
  exact s.link.book.numbers_distinct hb hk hr (hk'.trans hkey)

omit [DecidableEq ι] in
theorem Inv.frames (hs : Inv C d s) : (s.link.returned.map Return.frame).Nodup := by
  refine List.Nodup.map_on ?_ (List.Nodup.of_map _ hs.once)
  intro e he e' he' hframe
  have h := hs.completed e he
  have h' := hs.completed e' he'
  have hrequest : e.request = e'.request :=
    s.link.book.table.once _ _ e.frame h.settled (hframe ▸ h'.settled)
  have hcaller : e.caller = e'.caller := by
    have howns := h.owns
    rw [hrequest] at howns
    exact howns.unique h'.owns
  exact List.inj_on_of_nodup_map hs.once he he' hcaller

end Invariant

/-! ## Main result -/

/-- Along every run, as long as the sequence numbers have not wrapped around, an exchange that returns
was answered by the frame of its own request. -/
theorem replies_answer_their_own {ι : Type} [DecidableEq ι] (C : TuyaCrypto) (d : TuyaLink)
    (events : List (Event ι)) :
    Runs.Always (step C d)
      (fun s => s.link.book.table.requests.length < 2 ^ 32 → AnswersOwn C d s) start events := by
  refine Runs.always_of_inv (fun s e s' hs h => Inv.step hs h) ?_ events Inv.start
  intro s hs hb
  exact ⟨fun e he => hs.answeredBy hb he, s.link.book.table.once, hs.frames⟩

/-- A status frame with the number of the request and a reply to another one come first. -/
example :
    (Runs.run (step .plain lampLink) (start : State Unit)
      [.exchange (), .acquire (), .ok (), .ok (), .readerResumes 0, .frameRead 0 ⟨1, commandStatus, []⟩,
        .readerResumes 0, .frameRead 0 ⟨7, commandDpQuery, []⟩,
        .frameRead 0 ⟨1, commandDpQuery, aesEncrypt .plain offReply (keyBytes lampLink)⟩,
        .answered ()]).map
      (fun s => s.link.returned.map fun e => (e.request, e.frame, e.payload)) =
        some [(0, 2, offReply)] := by decide +kernel

end Linker.Replies
