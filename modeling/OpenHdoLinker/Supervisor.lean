import OpenHdoLinker.Lib.PyJson
import OpenHdoLinker.Lib.Runs
import Mathlib.Algebra.Order.Field.Rat
import Mathlib.Tactic.Linarith

/-!
# The reconnect supervisor

`ConnectionSupervisor.run` as a machine over await points.  The driver decides how
`connect`, `on_connected` and `disconnect` end, a signal handler may set the stop
event at any moment, and the timer of a wait may fire before or after that.

After a failed attempt the driver is disconnected in a `try` whose `finally` holds
the wait.  A `disconnect` that raises is still followed by the wait, and then leaves
`run`: the handler it is raised in is no part of the `try` that catches.

    Always (step p) (KeepsTrying p) (start p stop) events ↔
      Meets (step p) StopFirst (start p stop) events     (run_keeps_trying_iff)
-/

namespace Linker.Supervisor

open Py Runs

/-! ## Delays -/

/-- `class ReconnectPolicy`, which checks nothing. -/
structure ReconnectPolicy where
  initialS : PyFloat
  maximumS : PyFloat

/-- `0 < initial_s <= maximum_s`. -/
structure ReconnectPolicy.Ordered (p : ReconnectPolicy) : Prop where
  pos : (PyFloat.finite 0).lt p.initialS = true
  ordered : p.initialS.le p.maximumS = true

def twice : PyFloat → PyFloat
  | .finite q => .finite (q * 2)
  | x => x

/-- `min(x, y)`, which is `x` unless `y` is less. -/
def pyMin (x y : PyFloat) : PyFloat := if y.lt x then y else x

def ReconnectPolicy.next (p : ReconnectPolicy) (delay : PyFloat) : PyFloat :=
  pyMin (twice delay) p.maximumS

def ReconnectPolicy.InRange (p : ReconnectPolicy) (delay : PyFloat) : Prop :=
  p.initialS.le delay = true ∧ delay.le p.maximumS = true

/-! ## The machine -/

/-- Where `run` is suspended.  A wait keeps the exception of the `disconnect` before it, and in
`expired` its timer has fired and the task has not been resumed yet. -/
inductive RunPc
  | head
  | connecting
  | notifying
  | connected
  | disconnecting
  | waiting (pending : Option PyErr)
  | expired (pending : Option PyErr)
  | returned
  | raised (error : PyErr)

inductive Outcome
  | connected
  | failed
deriving DecidableEq

/-- The state of `run`, with the attempts so far, the last one first. -/
structure RunState where
  pc : RunPc
  delay : PyFloat
  stop : Bool
  lastError : Option String
  attempts : Nat
  outcomes : List Outcome

/-- `raises` is the call that is awaited; `cancelled` a wait for the stop event that is. -/
inductive RunEvent
  | setStop
  | test
  | succeeds
  | raises (error : PyErr)
  | timerFires
  | resume
  | cancelled

def start (p : ReconnectPolicy) (stop : Bool) : RunState := ⟨.head, p.initialS, stop, none, 0, []⟩

/-- `except asyncio.CancelledError` and `except Exception as error` of the loop body. -/
def handle (s : RunState) (error : PyErr) : RunState :=
  if error.isA .CancelledError then { s with pc := .raised error }
  else if error.isA .Exception then
    { s with pc := .disconnecting, lastError := some error.text, attempts := s.attempts + 1,
             outcomes := .failed :: s.outcomes }
  else { s with pc := .raised error }

/-- After the wait the pending exception leaves `run`. -/
def afterWait (p : ReconnectPolicy) (s : RunState) : Option PyErr → RunState
  | some error => { s with pc := .raised error }
  | none => { s with pc := .head, delay := p.next s.delay }

def cancelledError : PyErr := ⟨.CancelledError, ""⟩

def step (p : ReconnectPolicy) (s : RunState) (e : RunEvent) : Option RunState :=
  match s.pc, e with
  | _, .setStop => some { s with stop := true }
  | .head, .test => some { s with pc := if s.stop then .returned else .connecting }
  | .connecting, .succeeds => some { s with pc := .notifying, lastError := none, attempts := 0,
                                            outcomes := .connected :: s.outcomes }
  | .connecting, .raises error => some (handle s error)
  | .notifying, .succeeds => some { s with pc := .connected }
  | .notifying, .raises error => some (handle s error)
  | .connected, .resume => if s.stop then some { s with pc := .returned } else none
  | .connected, .cancelled => some (handle s cancelledError)
  | .disconnecting, .succeeds => some { s with pc := .waiting none }
  | .disconnecting, .raises error => some { s with pc := .waiting (some error) }
  | .waiting pending, .timerFires => some { s with pc := .expired pending }
  -- a set event completes the wait, whether or not its timer is still running
  | .waiting pending, .resume => if s.stop then some (afterWait p s pending) else none
  | .expired pending, .resume => some (afterWait p s pending)
  | .waiting _, .cancelled => some { s with pc := .raised cancelledError }
  | .expired _, .cancelled => some { s with pc := .raised cancelledError }
  | _, _ => none

/-! ## Statement -/

/-- The calls raise ordinary exceptions only, and nobody cancels the task. -/
def RunEvent.Ordinary : RunEvent → Prop
  | .raises error => IsOrdinary error
  | .cancelled => False
  | _ => True

def failuresSince : List Outcome → Nat
  | .failed :: outcomes => failuresSince outcomes + 1
  | _ => 0

/-- What the supervisor promises of every state of a run. -/
structure KeepsTrying (p : ReconnectPolicy) (s : RunState) : Prop where
  no_return : s.pc = .returned → s.stop = true
  no_raise : ∀ error, s.pc = .raised error → s.stop = true
  wait_range : ∀ pending, s.pc = .waiting pending → p.InRange s.delay
  counts : s.attempts = failuresSince s.outcomes

/-- Stop is set before a wait after a failed `disconnect` ends. -/
def StopFirst (s : RunState) (e : RunEvent) : Prop :=
  e = .resume → ∀ error, s.pc = .expired (some error) → s.stop = true

/-! ## Lemmas -/

theorem le_twice {x : PyFloat} (h : (PyFloat.finite 0).lt x = true) : x.le (twice x) = true := by
  cases x with
  | finite q =>
    have hq : 0 < q := by simpa [PyFloat.lt] using h
    have hle : q ≤ q * 2 := by linarith
    simpa [PyFloat.le, PyFloat.lt, twice] using hle
  | inf => rfl
  | _ => cases h

/-- A minimum of two numbers is one of them, and at most the second. -/
theorem pyMin_le {x y z : PyFloat} (hzx : z.le x = true) (hzy : z.le y = true) :
    z.le (pyMin x y) = true ∧ (pyMin x y).le y = true := by
  obtain ⟨-, hx, -⟩ := PyFloat.le_iff.mp hzx
  obtain ⟨-, hy, -⟩ := PyFloat.le_iff.mp hzy
  unfold pyMin
  cases hlt : y.lt x with
  | true => 
    refine ⟨hzy, PyFloat.le_iff.mpr ⟨hy, hy, ?_⟩⟩
    cases y <;> simp [PyFloat.lt]
  | false => exact ⟨hzx, PyFloat.le_iff.mpr ⟨hx, hy, hlt⟩⟩

theorem ReconnectPolicy.Ordered.initial_inRange {p : ReconnectPolicy} (hp : p.Ordered) :
    p.InRange p.initialS := by
  obtain ⟨hinitial, -, -⟩ := PyFloat.le_iff.mp hp.ordered
  refine ⟨PyFloat.le_iff.mpr ⟨hinitial, hinitial, ?_⟩, hp.ordered⟩
  cases p.initialS <;> simp [PyFloat.lt]

theorem ReconnectPolicy.Ordered.next_inRange {p : ReconnectPolicy} (hp : p.Ordered)
    {delay : PyFloat} (h : p.InRange delay) : p.InRange (p.next delay) := by
  have hpos : (PyFloat.finite 0).lt delay = true := PyFloat.lt_of_lt_of_le hp.pos h.1
  exact pyMin_le (PyFloat.le_trans h.1 (le_twice hpos)) hp.ordered

structure Inv (p : ReconnectPolicy) (s : RunState) : Prop where
  no_return : s.pc = .returned → s.stop = true
  no_raise : ∀ error, s.pc = .raised error → s.stop = true
  range : p.InRange s.delay
  counts : s.attempts = failuresSince s.outcomes

theorem inv_start {p : ReconnectPolicy} (hp : p.Ordered) (stop : Bool) : Inv p (start p stop) :=
  ⟨nofun, nofun, hp.initial_inRange, rfl⟩

theorem handle_inv {p : ReconnectPolicy} {s : RunState} {error : PyErr} (ho : IsOrdinary error)
    (h : Inv p s) : Inv p (handle s error) := by
  have hcaught : error.isA .Exception = true := ho
  unfold handle
  rw [ho.not_cancelled, if_neg Bool.false_ne_true, if_pos hcaught]
  exact ⟨nofun, nofun, h.range, congrArg (· + 1) h.counts⟩

/-- Whoever is stopped may leave. -/
theorem afterWait_inv {p : ReconnectPolicy} (hp : p.Ordered) {s : RunState} {pending : Option PyErr}
    (hstop : ∀ error, pending = some error → s.stop = true) (h : Inv p s) :
    Inv p (afterWait p s pending) := by
  cases pending with
  | none => exact ⟨nofun, nofun, hp.next_inRange h.range, h.counts⟩
  | some error => exact ⟨nofun, fun _ _ => hstop error rfl, h.range, h.counts⟩

theorem step_inv {p : ReconnectPolicy} (hp : p.Ordered) (s : RunState) (e : RunEvent) (s' : RunState)
    (h : Inv p s) (ho : e.Ordinary) (hc : StopFirst s e) (hs : step p s e = some s') : Inv p s' := by
  cases e with
  | setStop => cases hs; exact ⟨fun _ => rfl, fun _ _ => rfl, h.range, h.counts⟩
  | test =>
    cases hpc : s.pc <;> simp only [step, hpc, Option.some.injEq, reduceCtorEq] at hs
    subst hs
    cases hstop : s.stop with
    | true => exact ⟨fun _ => rfl, nofun, h.range, h.counts⟩
    | false => exact ⟨nofun, nofun, h.range, h.counts⟩
  | succeeds =>
    cases hpc : s.pc <;> simp only [step, hpc, Option.some.injEq, reduceCtorEq] at hs
    · subst hs; exact ⟨nofun, nofun, h.range, rfl⟩
    · subst hs; exact ⟨nofun, nofun, h.range, h.counts⟩
    · subst hs; exact ⟨nofun, nofun, h.range, h.counts⟩
  | raises error =>
    cases hpc : s.pc <;> simp only [step, hpc, Option.some.injEq, reduceCtorEq] at hs
    · subst hs; exact handle_inv ho h
    · subst hs; exact handle_inv ho h
    · subst hs; exact ⟨nofun, nofun, h.range, h.counts⟩
  | timerFires =>
    cases hpc : s.pc <;> simp only [step, hpc, Option.some.injEq, reduceCtorEq] at hs
    subst hs; exact ⟨nofun, nofun, h.range, h.counts⟩
  | resume =>
    cases hpc : s.pc <;> simp only [step, hpc, Option.some.injEq, reduceCtorEq] at hs
    · split at hs
      · next hstop => cases hs; exact ⟨fun _ => hstop, nofun, h.range, h.counts⟩
      · cases hs
    · split at hs
      · next hstop => cases hs; exact afterWait_inv hp (fun _ _ => hstop) h
      · cases hs
    · next pending =>
      subst hs
      refine afterWait_inv hp ?_ h
      rintro error rfl
      exact hc rfl error hpc
  | cancelled => cases ho

theorem inv_keepsTrying {p : ReconnectPolicy} (s : RunState) (h : Inv p s) : KeepsTrying p s :=
  ⟨h.no_return, h.no_raise, fun _ _ => h.range, h.counts⟩

/-- A wait that ends first hands on the exception of the `disconnect`. -/
theorem step_breaks {p : ReconnectPolicy} (s : RunState) (e : RunEvent) (s' : RunState)
    (hs : step p s e = some s') (h : KeepsTrying p s') : StopFirst s e := by
  rintro rfl error hpc
  simp only [step, hpc, Option.some.injEq] at hs
  subst hs
  exact h.no_raise error rfl

/-! ## Main results -/

/-- **The reconnect supervisor gives up only when told to**, exactly along the runs in which stop is
set before the wait after a failed `disconnect` ends. -/
theorem run_keeps_trying_iff {p : ReconnectPolicy} (hp : p.Ordered) (stop : Bool)
    (events : List RunEvent) (hordinary : ∀ e ∈ events, e.Ordinary) :
    Always (step p) (KeepsTrying p) (start p stop) events ↔
      Meets (step p) StopFirst (start p stop) events :=
  always_iff_meets_of (step_inv hp) inv_keepsTrying (fun s e s' _ _ hs h => step_breaks s e s' hs h)
    events hordinary (inv_start hp stop)

def defaultPolicy : ReconnectPolicy := ⟨.finite 1, .finite 30⟩

theorem defaultPolicy_ordered : defaultPolicy.Ordered := ⟨rfl, rfl⟩

def refused : PyErr := ⟨.OSError, "connection refused"⟩

/-- A refused connection, and a `disconnect` that fails too. -/
def lostEvents : List RunEvent :=
  [.test, .raises refused, .raises refused, .timerFires, .resume]

theorem lostEvents_ordinary : ∀ e ∈ lostEvents, e.Ordinary := by
  have hrefused : IsOrdinary refused := rfl
  simp [lostEvents, RunEvent.Ordinary, hrefused]

/-- One refused connection and a failed `disconnect` end the supervisor, stop unset. -/
theorem disconnect_ends_run : ¬ ∀ (p : ReconnectPolicy), p.Ordered → ∀ (stop : Bool)
    (events : List RunEvent), (∀ e ∈ events, e.Ordinary) →
      Always (step p) (KeepsTrying p) (start p stop) events := by
  intro h
  have hr : run (step defaultPolicy) (start defaultPolicy false) lostEvents =
      some ⟨.raised refused, .finite 1, false, some "connection refused", 1, [.failed]⟩ := rfl
  cases (always_run (h defaultPolicy defaultPolicy_ordered false lostEvents lostEvents_ordinary)
    hr).no_raise refused rfl

def retriedEvents : List RunEvent :=
  [.test, .raises refused, .succeeds, .timerFires, .resume, .test, .succeeds]

theorem retriedEvents_ordinary : ∀ e ∈ retriedEvents, e.Ordinary := by
  have hrefused : IsOrdinary refused := rfl
  simp [retriedEvents, RunEvent.Ordinary, hrefused]

/-- The supervisor tries again after the delay. -/
theorem retried_keeps_trying :
    Always (step defaultPolicy) (KeepsTrying defaultPolicy) (start defaultPolicy false) retriedEvents := by
  refine (run_keeps_trying_iff defaultPolicy_ordered false retriedEvents retriedEvents_ordinary).mpr ?_
  refine meets_cons rfl nofun (meets_cons rfl nofun (meets_cons rfl nofun (meets_cons rfl nofun ?_)))
  refine meets_cons rfl (fun _ error hpc => ?_) (meets_cons rfl nofun (meets_cons rfl nofun trivial))
  cases hpc

end Linker.Supervisor
