import OpenHdoLinker.Lib.Runs
import Mathlib.Data.Rat.Defs
import Mathlib.Algebra.Order.Field.Rat
import Mathlib.Tactic.Linarith

/-!
# The reconnect loop of the server client

`LinkerServerClient.run` as a machine over await points.  The network decides
how each connection goes, a signal handler may set the stop event at any moment,
and the timer of a wait may fire before or after that.

`_wait_or_stop` answers `True` when the event was set.  `run` leaves its loop on
the other answer, so a reconnect delay that runs out ends the process instead of
starting the next attempt.

    Always (step d) (Reconnects d) (start d stop) events ↔
      Meets (step d) StopFirst (start d stop) events          (run_reconnects_iff)
-/

namespace Linker

/-- The delays of the reconnect loop, in seconds, as `LinkerConfig` checks them. -/
structure ReconnectDelays where
  initialS : ℚ
  maxS : ℚ
  initial_pos : 0 < initialS
  initial_le_max : initialS ≤ maxS

/-- `min(delay * 2, self.reconnect_max_s)`. -/
def ReconnectDelays.next (d : ReconnectDelays) (delay : ℚ) : ℚ := min (delay * 2) d.maxS

theorem ReconnectDelays.next_range (d : ReconnectDelays) (delay : ℚ) (h : d.initialS ≤ delay) :
    d.initialS ≤ d.next delay ∧ d.next delay ≤ d.maxS := by
  have hpos := d.initial_pos
  exact ⟨le_min (by linarith) d.initial_le_max, min_le_right _ _⟩

/-! ## `_wait_or_stop` -/

/-- How `asyncio.wait_for(stop.wait(), timeout)` ends. -/
inductive Waited
  | set
  | timedOut
deriving DecidableEq, Repr

def waitOrStop : Waited → Bool
  | .set => true
  | .timedOut => false

end Linker

/-! ## The machine -/

namespace Linker.Reconnect

open Runs

/-- Where `run` is suspended.  In `expired` the timer of `_wait_or_stop` has
fired and the task has not been resumed yet. -/
inductive RunPc
  | head
  | connecting
  | session
  | closing
  | waiting
  | expired
  | returned
deriving DecidableEq, Repr

structure RunState where
  pc : RunPc
  delay : ℚ
  stop : Bool
  lastError : Option String

inductive RunEvent
  | setStop
  | test
  | connected
  | connectFailed (error : String)
  | sessionEnded
  | sessionRaised (error : String)
  | closed
  | closeRaised (error : String)
  | timerFires
  | resume

def start (d : ReconnectDelays) (stop : Bool) : RunState := ⟨.head, d.initialS, stop, none⟩

/-- `except Exception as error:` of the loop body. -/
def failed (d : ReconnectDelays) (s : RunState) (error : String) : RunState :=
  { s with pc := .waiting, lastError := some error, delay := d.next s.delay }

/-- `if not await _wait_or_stop(stop, delay): return`. -/
def afterWait (s : RunState) (w : Waited) : RunState :=
  if !waitOrStop w then { s with pc := .returned } else { s with pc := .head }

/-- One step of `run` or of its surroundings.  Leaving `async with` awaits the
closing handshake, which may raise after `delay` was reset. -/
def step (d : ReconnectDelays) (s : RunState) (e : RunEvent) : Option RunState :=
  match s.pc, e with
  | _, .setStop => some { s with stop := true }
  | .head, .test => some { s with pc := if s.stop then .returned else .connecting }
  | .connecting, .connected => some { s with pc := .session, lastError := none }
  | .connecting, .connectFailed error => some (failed d s error)
  | .session, .sessionEnded => some { s with pc := .closing, delay := d.initialS }
  | .session, .sessionRaised error => some (failed d s error)
  | .closing, .closed => some { s with pc := .waiting }
  | .closing, .closeRaised error => some (failed d s error)
  | .waiting, .timerFires => some { s with pc := .expired }
  -- a set event completes the wait, whether or not its timer is still running
  | .waiting, .resume => if s.stop then some (afterWait s .set) else none
  | .expired, .resume => some (afterWait s .timedOut)
  | _, _ => none

/-- The events that end a connection, or an attempt at one. -/
def RunEvent.endsConnection : RunEvent → Bool
  | .connectFailed _ | .sessionRaised _ | .closed | .closeRaised _ => true
  | _ => false

/-- What the loop promises of every state of a run. -/
structure Reconnects (d : ReconnectDelays) (s : RunState) : Prop where
  returns_on_stop : s.pc = .returned → s.stop = true
  waits : ∀ e s', e.endsConnection = true → step d s e = some s' → s'.pc = .waiting
  delay_range : s.pc = .waiting → d.initialS ≤ s.delay ∧ s.delay ≤ d.maxS
  tries_again : s.stop = false → ∀ s', step d s .resume = some s' →
    ∃ s'', step d s' .test = some s'' ∧ s''.pc = .connecting

/-- Stop is set before the timer of a reconnect wait fires. -/
def StopFirst (s : RunState) (e : RunEvent) : Prop := e = .timerFires → s.stop = true

/-! ## Lemmas -/

/-- The invariant of the runs whose waits all end by stop. -/
structure Inv (d : ReconnectDelays) (s : RunState) : Prop where
  expired : s.pc = .expired → s.stop = true
  returned : s.pc = .returned → s.stop = true
  range : d.initialS ≤ s.delay ∧ s.delay ≤ d.maxS

theorem inv_start (d : ReconnectDelays) (stop : Bool) : Inv d (start d stop) :=
  ⟨nofun, nofun, le_refl _, d.initial_le_max⟩

theorem failed_inv (d : ReconnectDelays) (s : RunState) (error : String) (h : Inv d s) :
    Inv d (failed d s error) :=
  ⟨nofun, nofun, d.next_range s.delay h.range.1⟩

/-- A step that meets `StopFirst` keeps the invariant. -/
theorem step_inv (d : ReconnectDelays) (s : RunState) (e : RunEvent) (s' : RunState)
    (h : Inv d s) (hc : StopFirst s e) (hs : step d s e = some s') : Inv d s' := by
  cases e with
  | setStop => cases hs; exact ⟨fun _ => rfl, fun _ => rfl, h.range⟩
  | test =>
    cases hpc : s.pc <;> simp only [step, hpc, Option.some.injEq, reduceCtorEq] at hs
    subst hs
    cases hstop : s.stop with
    | true => exact ⟨nofun, fun _ => rfl, h.range⟩
    | false => exact ⟨nofun, nofun, h.range⟩
  | connected | closed =>
    cases hpc : s.pc <;> simp only [step, hpc, Option.some.injEq, reduceCtorEq] at hs
    subst hs; exact ⟨nofun, nofun, h.range⟩
  | sessionEnded =>
    cases hpc : s.pc <;> simp only [step, hpc, Option.some.injEq, reduceCtorEq] at hs
    subst hs; exact ⟨nofun, nofun, le_refl _, d.initial_le_max⟩
  | connectFailed error | sessionRaised error | closeRaised error =>
    cases hpc : s.pc <;> simp only [step, hpc, Option.some.injEq, reduceCtorEq] at hs
    subst hs; exact failed_inv d s error h
  | timerFires =>
    cases hpc : s.pc <;> simp only [step, hpc, Option.some.injEq, reduceCtorEq] at hs
    subst hs; exact ⟨fun _ => hc rfl, nofun, h.range⟩
  | resume =>
    cases hpc : s.pc <;> simp only [step, hpc, Option.some.injEq, reduceCtorEq] at hs
    · split at hs
      · cases hs; exact ⟨nofun, nofun, h.range⟩
      · cases hs
    · subst hs; exact ⟨nofun, fun _ => h.expired hpc, h.range⟩

theorem ends_waits (d : ReconnectDelays) (s : RunState) (e : RunEvent) (s' : RunState)
    (he : e.endsConnection = true) (hs : step d s e = some s') : s'.pc = .waiting := by
  cases e with
  | connectFailed _ | sessionRaised _ | closed | closeRaised _ =>
    cases hpc : s.pc <;> simp only [step, hpc, Option.some.injEq, reduceCtorEq] at hs
    subst hs; rfl
  | _ => cases he

theorem inv_reconnects (d : ReconnectDelays) (s : RunState) (h : Inv d s) : Reconnects d s := by
  refine ⟨h.returned, ends_waits d s, fun _ => h.range, fun hstop s' hs => ?_⟩
  cases hpc : s.pc <;> simp only [step, hpc, hstop, Option.some.injEq, reduceCtorEq] at hs
  · cases hs
  · have := h.expired hpc
    rw [hstop] at this; cases this

/-- A timer that fires first leaves a state from which `run` returns. -/
theorem timer_breaks (d : ReconnectDelays) (s : RunState) (e : RunEvent) (s' : RunState)
    (hs : step d s e = some s') (h : Reconnects d s') : StopFirst s e := by
  rintro rfl
  cases hpc : s.pc <;> simp only [step, hpc, Option.some.injEq, reduceCtorEq] at hs
  subst hs
  cases hstop : s.stop with
  | true => rfl
  | false =>
    obtain ⟨s'', ht, -⟩ := h.tries_again hstop _ rfl
    cases ht

/-! ## Main results -/

/-- **Exactly when the client keeps reconnecting.**  Along a run the reconnect
loop keeps its promise if and only if stop is set before the timer of each
reconnect wait fires. -/
theorem run_reconnects_iff (d : ReconnectDelays) (stop : Bool) (events : List RunEvent) :
    Always (step d) (Reconnects d) (start d stop) events ↔
      Meets (step d) StopFirst (start d stop) events :=
  always_iff_meets (step_inv d) (inv_reconnects d)
    (fun s e s' _ hs hp => timer_breaks d s e s' hs hp) events (inv_start d stop)

/-- One refused connection and one delay later `run` has returned, stop unset. -/
theorem run_returns_without_stop : ¬ ∀ (d : ReconnectDelays) (stop : Bool) (events : List RunEvent),
    Always (step d) (Reconnects d) (start d stop) events := by
  intro h
  let d : ReconnectDelays := ⟨1, 30, by norm_num, by norm_num⟩
  let events : List RunEvent := [.test, .connectFailed "connection refused", .timerFires, .resume]
  have hr : run (step d) (start d false) events =
      some ⟨.returned, d.next 1, false, some "connection refused"⟩ := rfl
  cases (always_run (h d false events) hr).returns_on_stop rfl

end Linker.Reconnect
