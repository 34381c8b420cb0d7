import OpenHdoLinker.Lib.Locking

/-!
# The locks of the process

Every coroutine of the linker by what it does with locks and tasks: the client's `_send_lock`
and `_driver_lock`, the boundary's `_command_lock` and the driver's `_send_lock`, the tasks of a
session and the reader tasks of the driver.  What a coroutine computes is left out: an `if` is a
choice, a call that may raise is one too, and an await may be cancelled.

`disconnect` waits for the reader task, under any lock but `_send_lock` of the client, and the
reader task waits for that lock only, when it publishes.  So locks and tasks are ranked:

    _command_lock, _driver_lock < driver's _send_lock < reader tasks < client's _send_lock

    Always (step linker) (fun s => Exclusive s ∧ NoCircle linker s) (start linker client) es
                                                                        (locks_sound)
-/

namespace Linker.Locks

open Locking

/-! ## Algorithm -/

/-- `_command_lock` of the boundary, `_driver_lock` of the client, and the `_send_lock` of the driver
and that of the client. -/
inductive Lock
  | command
  | driver
  | exchange
  | wire
deriving DecidableEq

/-- The tasks of the process, those of a session by its number. -/
inductive TaskId
  | client
  | receiver (session : Nat)
  | stopper (session : Nat)
  | publisher (session : Nat)
  | reader (number : Nat)
deriving DecidableEq

abbrev Coroutine : Type := Prog Lock TaskId

def steps : List Coroutine → Coroutine
  | [] => .skip
  | p :: ps => .seq p (steps ps)

/-- Code without an await that may raise. -/
def mayRaise : Coroutine := .either .skip .fail

/-- `if …: p`. -/
def perhaps (p : Coroutine) : Coroutine := .either p .skip

/-! ### The driver -/

/-- `await asyncio.gather(task, …)` for a reader task. -/
def joinReader : TaskId → Coroutine
  | .reader n => .join (.reader n)
  | _ => .skip

/-- `asyncio.create_task(self._reader_loop())`. -/
def spawnReader : TaskId → Coroutine
  | .reader n => .spawn (.reader n)
  | _ => .skip

/-- `disconnect()`: the reader task, then `writer.wait_closed()`. -/
def disconnect : Coroutine := steps [perhaps (.any joinReader), perhaps .await]

/-- `_negotiate_session()`: a write, the frames up to the response, its verification, a write. -/
def negotiateSession : Coroutine := steps [.await, .loop .await, mayRaise, .await]

def connect : Coroutine :=
  perhaps (steps [.await,
    .tryExcept (steps [perhaps negotiateSession, .any spawnReader]) (steps [disconnect, .fail])])

/-- One attempt of `_exchange`: the write, the reply, its decoding. -/
def attempt : Coroutine :=
  .tryExcept (steps [perhaps connect, .await, .await, mayRaise]) (steps [disconnect, perhaps .await])

def exchange : Coroutine := .locked .exchange (steps [.loop attempt, mayRaise])

def pollState : Coroutine := steps [mayRaise, exchange, mayRaise]

def lightOperation : Coroutine := steps [mayRaise, exchange, pollState]

/-- `subscribe_state(device_id, callback)` and the function it returns do not wait. -/
def subscribeState : Coroutine := mayRaise

def pair : Coroutine :=
  steps [mayRaise, disconnect,
    .tryExcept (steps [connect, pollState, mayRaise]) (steps [disconnect, .fail]), mayRaise]

/-! ### The boundary -/

/-- `handle_discovery(start)`; the scan is in a thread. -/
def handleDiscovery : Coroutine := steps [mayRaise, .tryExcept .await .skip]

def handlePairing : Coroutine := steps [mayRaise, .tryExcept pair .skip]

def execute : Coroutine := perhaps (.tryExcept lightOperation .skip)

/-- `handle(command)` on a light command; the journal does not wait. -/
def handleCommand : Coroutine := steps [mayRaise, perhaps (.locked .command (perhaps execute))]

/-! ### The client -/

def send : Coroutine := .locked .wire .await

def sendMany : Coroutine := .loop send

def publish : Coroutine := steps [mayRaise, send]

/-- `_receive(websocket, raw)`: a discovery, a pairing, a light command, or nothing. -/
def receive : Coroutine :=
  .either
    (.either (steps [.tryExcept handleDiscovery .skip, sendMany])
      (steps [.tryExcept (.locked .driver handlePairing) .skip, sendMany]))
    (.either (steps [.tryExcept handleCommand .skip, send, perhaps send]) mayRaise)

def receiveLoop : Coroutine := .loop (steps [.await, receive])

def publishing : Coroutine :=
  steps [.locked .driver (steps [connect, subscribeState, pollState]), publish,
    .loop (steps [.await, .locked .driver pollState, publish])]

def publishStates : Coroutine :=
  .loop (.either .await
    (steps [
      .tryFinally (.tryExcept publishing .skip)
        (steps [perhaps (.locked .driver mayRaise), .locked .driver disconnect]),
      .await]))

def session (n : Nat) : Coroutine :=
  steps [send, .spawn (.receiver n), .spawn (.stopper n), .spawn (.publisher n),
    .tryFinally (steps [.await, perhaps (steps [.join (.receiver n), mayRaise])])
      (steps [.join (.receiver n), .join (.stopper n), .join (.publisher n),
        .locked .driver disconnect])]

def anySession : TaskId → Coroutine
  | .receiver n => session n
  | _ => .skip

/-- `run(stop)`: a connection, its session and the end of the connection, then the delay. -/
def run : Coroutine :=
  .loop (steps [.tryExcept (steps [.await, .tryFinally (.any anySession) .await]) .skip, .await])

def handleStatus : Coroutine := steps [mayRaise, .loop (.tryExcept publish .skip)]

def readerLoop : Coroutine := .tryExcept (.loop (steps [.await, perhaps handleStatus])) .skip

/-- What each task runs; `client` is `cli._run`. -/
def linker : TaskId → Coroutine
  | .client => steps [run, disconnect]
  | .receiver _ => receiveLoop
  | .stopper _ => .await
  | .publisher _ => publishStates
  | .reader _ => readerLoop

/-! ## Lemmas -/

/-- The order of the locks, the tasks that take them, and the tasks that join others. -/
def ranks : Ranks Lock TaskId where
  lock
    | .command => 0
    | .driver => 1
    | .exchange => 2
    | .wire => 3
  top := 4
  lock_lt l := by cases l <;> decide
  floor
    | .reader _ => 3
    | _ => 0
  depth
    | .client => 2
    | .reader _ => 0
    | _ => 1

section Ordered

variable {t : TaskId} {b : Nat}

theorem ordered_mayRaise : Ordered ranks t b mayRaise := ⟨trivial, trivial⟩

theorem ordered_perhaps {p : Coroutine} (h : Ordered ranks t b p) : Ordered ranks t b (perhaps p) :=
  ⟨h, trivial⟩

/-! The driver waits for a reader task under any lock but the one that task takes. -/

theorem ordered_disconnect (ht : 0 < ranks.depth t) (hb : b ≤ 3) : Ordered ranks t b disconnect := by
  have hjoin : Ordered ranks t b (.any joinReader) := by
    intro u
    cases u with
    | reader n => exact ⟨hb, ht⟩
    | _ => trivial
  exact ⟨ordered_perhaps hjoin, ordered_perhaps trivial, trivial⟩

theorem ordered_connect (ht : 0 < ranks.depth t) (hb : b ≤ 3) : Ordered ranks t b connect := by
  have hspawn : Ordered ranks t b (.any spawnReader) := by
    intro u
    cases u <;> trivial
  have hnegotiate : Ordered ranks t b negotiateSession :=
    ⟨trivial, trivial, ordered_mayRaise, trivial, trivial⟩
  have hopen : Ordered ranks t b
      (.tryExcept (steps [perhaps negotiateSession, .any spawnReader]) (steps [disconnect, .fail])) :=
    ⟨⟨ordered_perhaps hnegotiate, hspawn, trivial⟩, ordered_disconnect ht hb, trivial, trivial⟩
  exact ordered_perhaps ⟨trivial, hopen, trivial⟩

theorem ordered_attempt (ht : 0 < ranks.depth t) (hb : b ≤ 3) : Ordered ranks t b attempt :=
  ⟨⟨ordered_perhaps (ordered_connect ht hb), trivial, trivial, ordered_mayRaise, trivial⟩,
    ordered_disconnect ht hb, ordered_perhaps trivial, trivial⟩

theorem ordered_exchange (ht : 0 < ranks.depth t) (hb : b ≤ 2) : Ordered ranks t b exchange :=
  ⟨hb, ordered_attempt ht (Nat.le_refl 3), ordered_mayRaise, trivial⟩

theorem ordered_pollState (ht : 0 < ranks.depth t) (hb : b ≤ 2) : Ordered ranks t b pollState :=
  ⟨ordered_mayRaise, ordered_exchange ht hb, ordered_mayRaise, trivial⟩

theorem ordered_lightOperation (ht : 0 < ranks.depth t) (hb : b ≤ 2) :
    Ordered ranks t b lightOperation :=
  ⟨ordered_mayRaise, ordered_exchange ht hb, ordered_pollState ht hb, trivial⟩

theorem ordered_pair (ht : 0 < ranks.depth t) (hb : b ≤ 2) : Ordered ranks t b pair := by
  have hdisconnect := ordered_disconnect ht (Nat.le_succ_of_le hb)
  have hverify : Ordered ranks t b (steps [connect, pollState, mayRaise]) :=
    ⟨ordered_connect ht (Nat.le_succ_of_le hb), ordered_pollState ht hb, ordered_mayRaise, trivial⟩
  exact ⟨ordered_mayRaise, hdisconnect, ⟨hverify, hdisconnect, trivial, trivial⟩, ordered_mayRaise,
    trivial⟩

/-! ### The boundary and the client -/

theorem ordered_handleCommand (ht : 0 < ranks.depth t) : Ordered ranks t 0 handleCommand := by
  have hexecute : Ordered ranks t 1 execute :=
    ordered_perhaps ⟨ordered_lightOperation ht (by decide), trivial⟩
  exact ⟨ordered_mayRaise, ordered_perhaps ⟨Nat.le_refl 0, ordered_perhaps hexecute⟩, trivial⟩

theorem ordered_handlePairing (ht : 0 < ranks.depth t) (hb : b ≤ 2) :
    Ordered ranks t b handlePairing :=
  ⟨ordered_mayRaise, ⟨ordered_pair ht hb, trivial⟩, trivial⟩

/-- What runs under `_driver_lock`, taken without another lock. -/
theorem ordered_locked_driver {p : Coroutine} (h : Ordered ranks t 2 p) :
    Ordered ranks t 0 (.locked .driver p) :=
  ⟨Nat.zero_le _, h⟩

theorem ordered_send (hb : b ≤ 3) : Ordered ranks t b send := ⟨hb, trivial⟩

theorem ordered_publish (hb : b ≤ 3) : Ordered ranks t b publish :=
  ⟨ordered_mayRaise, ordered_send hb, trivial⟩

theorem ordered_receive (ht : 0 < ranks.depth t) : Ordered ranks t 0 receive := by
  have hsend : Ordered ranks t 0 send := ordered_send (Nat.zero_le _)
  have hdiscovery : Ordered ranks t 0 (.tryExcept handleDiscovery .skip) :=
    ⟨⟨ordered_mayRaise, ⟨trivial, trivial⟩, trivial⟩, trivial⟩
  have hpairing : Ordered ranks t 0 (.tryExcept (.locked .driver handlePairing) .skip) :=
    ⟨ordered_locked_driver (ordered_handlePairing ht (Nat.le_refl 2)), trivial⟩
  have hcommand : Ordered ranks t 0 (.tryExcept handleCommand .skip) :=
    ⟨ordered_handleCommand ht, trivial⟩
  exact ⟨⟨⟨hdiscovery, hsend, trivial⟩, ⟨hpairing, hsend, trivial⟩⟩,
    ⟨hcommand, hsend, ordered_perhaps hsend, trivial⟩, ordered_mayRaise⟩

theorem ordered_publishStates (ht : 0 < ranks.depth t) : Ordered ranks t 0 publishStates := by
  have hpoll : Ordered ranks t 2 pollState := ordered_pollState ht (Nat.le_refl 2)
  have hpublish : Ordered ranks t 0 publish := ordered_publish (Nat.zero_le _)
  have hfirst : Ordered ranks t 2 (steps [connect, subscribeState, pollState]) :=
    ⟨ordered_connect ht (by decide), ordered_mayRaise, hpoll, trivial⟩
  have hpublishing : Ordered ranks t 0 publishing :=
    ⟨ordered_locked_driver hfirst, hpublish, ⟨trivial, ordered_locked_driver hpoll, hpublish, trivial⟩,
      trivial⟩
  have hfinal : Ordered ranks t 0
      (steps [perhaps (.locked .driver mayRaise), .locked .driver disconnect]) :=
    ⟨ordered_perhaps (ordered_locked_driver ordered_mayRaise),
      ordered_locked_driver (ordered_disconnect ht (by decide)), trivial⟩
  exact ⟨trivial, ⟨⟨hpublishing, trivial⟩, hfinal⟩, trivial, trivial⟩

/-- The client joins the tasks of its session, which come before it. -/
theorem ordered_session (n : Nat) : Ordered ranks .client 0 (session n) := by
  have hjoin {u : TaskId} (hu : ranks.depth u < 2) : Ordered ranks .client 0 (.join u) :=
    ⟨Nat.zero_le _, hu⟩
  have hreceiver := hjoin (u := .receiver n) (Nat.lt_succ_self 1)
  have hstopper := hjoin (u := .stopper n) (Nat.lt_succ_self 1)
  have hpublisher := hjoin (u := .publisher n) (Nat.lt_succ_self 1)
  have hfinal : Ordered ranks .client 0 (.locked .driver disconnect) :=
    ordered_locked_driver (ordered_disconnect (by decide) (by decide))
  exact ⟨ordered_send (Nat.zero_le _), trivial, trivial, trivial,
    ⟨⟨trivial, ordered_perhaps ⟨hreceiver, ordered_mayRaise, trivial⟩, trivial⟩,
      hreceiver, hstopper, hpublisher, hfinal, trivial⟩, trivial⟩

theorem ordered_run : Ordered ranks .client 0 run := by
  have hany : Ordered ranks .client 0 (.any anySession) := by
    intro u
    cases u with
    | receiver n => exact ordered_session n
    | _ => trivial
  exact ⟨⟨⟨trivial, ⟨hany, trivial⟩, trivial⟩, trivial⟩, trivial, trivial⟩

theorem ordered_linker (t : TaskId) : Ordered ranks t (ranks.floor t) (linker t) := by
  cases t with
  | client => exact ⟨ordered_run, ordered_disconnect (by decide) (by decide), trivial⟩
  | receiver n => exact ⟨trivial, ordered_receive Nat.one_pos, trivial⟩
  | stopper n => trivial
  | publisher n => exact ordered_publishStates Nat.one_pos
  | reader n =>
    have hstatus : Ordered ranks (.reader n) 3 handleStatus :=
      ⟨ordered_mayRaise, ⟨ordered_publish (Nat.le_refl 3), trivial⟩, trivial⟩
    exact ⟨⟨trivial, ordered_perhaps hstatus, trivial⟩, trivial⟩

end Ordered

/-! ## Main result -/

/-- **The locks of the process.**  In every state of every run at most one task is inside a section
of each lock, and whoever waits for a lock or a task waits, in the end, for one that can go on. -/
theorem locks_sound (es : List (TaskId × Act TaskId)) :
    Runs.Always (step linker) (fun s => Exclusive s ∧ NoCircle linker s) (start linker .client) es :=
  sound_of_ordered ordered_linker .client es

end Linker.Locks
