import OpenHdoLinker.ServerClient.Reconnect

/-!
# The state publisher of one server session

`LinkerServerClient._publish_states` as a machine over await points: the loop
that connects, subscribes and polls, the poll loop inside it, and the `finally`
block that releases the subscription and the connection.  `_driver_lock` may be
held by a pairing for any time, so each `async with` is a wait of its own.

`_session` sets the session's stop event before it cancels the publisher, so
`cancel` is an event of the stopped session only.

The poll loop reads the answer of `_wait_or_stop` the right way round, the outer
loop does not: a publisher that met one failure ends after the next delay.

    Always (step d) (Publishes d) (start d control) events ↔
      Meets (step d) EndsByStop (start d control) events      (publisher_survives_iff)
-/

namespace Linker.Publisher

open Runs

/-- Where `_publish_states` is suspended. -/
inductive PubPc
  | head
  | controlWait
  | lockConnect
  | connect
  | subscribe
  | poll
  | publish
  | pollWait
  | lockPoll
  | repoll
  | republish
  | lockUnsubscribe
  | unsubscribe
  | lockDisconnect
  | disconnect
  | backoff
  | done
deriving DecidableEq, Repr

/-- `expired`: the timer of the wait the publisher is in has fired.
`unsubscribe`: the local variable of that name is set.  `callbacks`: callbacks of
this publisher that the driver holds.  `cancelled`: a `CancelledError` is on its
way out through the `finally` block. -/
structure PubState where
  pc : PubPc
  delay : ℚ
  stop : Bool
  control : Bool
  expired : Bool
  unsubscribe : Bool
  callbacks : Nat
  cancelled : Bool
  lastError : Option String

inductive PubEvent
  | setStop
  | setControl (enabled : Bool)
  | test
  | acquire
  | ok
  | raised (error : String)
  | timerFires
  | resume
  | cancel

def start (d : ReconnectDelays) (control : Bool) : PubState :=
  ⟨.head, d.initialS, false, control, false, false, 0, false, none⟩

/-- The first await of the `finally` block. -/
def PubState.enterFinally (s : PubState) : PubState :=
  { s with pc := if s.unsubscribe then .lockUnsubscribe else .lockDisconnect }

/-- `except Exception as error:`, then the `finally` block. -/
def PubState.fail (d : ReconnectDelays) (s : PubState) (error : String) : PubState :=
  { s with lastError := some error, delay := d.next s.delay }.enterFinally

def PubState.wait (s : PubState) (pc : PubPc) : PubState := { s with pc := pc, expired := false }

/-- The answer of the wait the publisher is in, once there is one. -/
def PubState.waited (s : PubState) : Option Bool :=
  if s.expired then some (waitOrStop .timedOut)
  else if s.stop then some (waitOrStop .set) else none

/-- The points inside `try` where an awaited call can raise. -/
def PubPc.calling : PubPc → Bool
  | .connect | .subscribe | .poll | .publish | .repoll | .republish => true
  | _ => false

/-- The points inside `try` where the publisher waits for the lock or the timer. -/
def PubPc.idling : PubPc → Bool
  | .lockConnect | .lockPoll | .pollWait => true
  | _ => false

/-- An awaited call returns. -/
def returned (d : ReconnectDelays) (s : PubState) : Option PubState :=
  match s.pc with
  | .connect => some { s with pc := .subscribe }
  | .subscribe => some { s with pc := .poll, unsubscribe := true, callbacks := s.callbacks + 1 }
  | .poll => some { s with pc := .publish }
  | .publish => some ({ s with delay := d.initialS }.wait .pollWait)
  | .repoll => some { s with pc := .republish }
  | .republish => some (s.wait .pollWait)
  | .unsubscribe =>
    some { s with pc := .lockDisconnect, unsubscribe := false, callbacks := s.callbacks - 1 }
  | .disconnect => some (if s.cancelled then { s with pc := .done } else s.wait .backoff)
  | _ => none

/-- `_wait_or_stop` returns to the publisher. -/
def resumed (s : PubState) : Option PubState :=
  match s.pc, s.waited with
  | .controlWait, some _ => some { s with pc := .head }
  -- `while not await _wait_or_stop(stop, self.state_poll_interval_s)`
  | .pollWait, some w => some (if !w then { s with pc := .lockPoll } else s.enterFinally)
  -- `if not await _wait_or_stop(stop, delay): return`
  | .backoff, some w => some { s with pc := if !w then .done else .head }
  | _, _ => none

def step (d : ReconnectDelays) (s : PubState) : PubEvent → Option PubState
  | .setStop => some { s with stop := true }
  | .setControl enabled => some { s with control := enabled }
  | .test =>
    if s.pc = .head then
      some (if s.stop then { s with pc := .done }
        else if s.control then { s with pc := .lockConnect } else s.wait .controlWait)
    else none
  | .acquire =>
    match s.pc with
    | .lockConnect => some { s with pc := .connect }
    | .lockPoll => some { s with pc := .repoll }
    | .lockUnsubscribe => some { s with pc := .unsubscribe }
    | .lockDisconnect => some { s with pc := .disconnect }
    | _ => none
  | .ok => returned d s
  | .raised error =>
    if s.pc.calling then some (s.fail d error)
    -- an exception inside `finally` leaves the publisher
    else if s.pc = .unsubscribe ∨ s.pc = .disconnect then some { s with pc := .done }
    else none
  | .timerFires =>
    if s.pc = .controlWait ∨ s.pc = .pollWait ∨ s.pc = .backoff then
      some { s with expired := true }
    else none
  | .resume => resumed s
  | .cancel =>
    if s.stop = false ∨ s.pc = .head ∨ s.pc = .done then none
    else if s.pc.calling ∨ s.pc.idling then some { s with cancelled := true }.enterFinally
    else some { s with pc := .done }

/-- The awaits of the `finally` block, all successful. -/
def PubState.cleanup (s : PubState) : List PubEvent :=
  if s.unsubscribe then [.acquire, .ok, .acquire, .ok] else [.acquire, .ok]

/-- What the publisher promises of every state of a run. -/
structure Publishes (d : ReconnectDelays) (s : PubState) : Prop where
  ends_on_stop : s.pc = .done → s.stop = true
  failure_waits : ∀ error s', s.pc.calling = true → step d s (.raised error) = some s' →
    ∃ s'', run (step d) s' s'.cleanup = some s'' ∧ s''.pc = .backoff ∧ s''.delay ≤ d.maxS
  tries_again : s.pc = .backoff → s.stop = false → ∀ s', step d s .resume = some s' →
    s'.pc = .head ∧ (s'.control = true → ∃ s'',
      run (step d) s' [.test, .acquire, .ok, .ok, .ok] = some s'' ∧ s''.pc = .publish)

/-- Stop is set before the timer of the delay fires, and before an exception
leaves the `finally` block. -/
def EndsByStop (s : PubState) (e : PubEvent) : Prop :=
  (e = .timerFires ∧ s.pc = .backoff) ∨
    (∃ error, e = .raised error ∧ (s.pc = .unsubscribe ∨ s.pc = .disconnect)) → s.stop = true

/-! ## Lemmas -/

/-- The `finally` block and what comes after it under a `CancelledError`. -/
def PubPc.finalizing : PubPc → Bool
  | .lockUnsubscribe | .unsubscribe | .lockDisconnect | .disconnect | .done => true
  | _ => false

/-- The invariant of the runs that meet `EndsByStop`. -/
structure Inv (d : ReconnectDelays) (s : PubState) : Prop where
  done : s.pc = .done → s.stop = true
  expired : s.pc = .backoff → s.expired = true → s.stop = true
  cancelled : s.cancelled = true → s.stop = true ∧ s.pc.finalizing = true
  range : d.initialS ≤ s.delay ∧ s.delay ≤ d.maxS

theorem inv_start (d : ReconnectDelays) (control : Bool) : Inv d (start d control) :=
  ⟨nofun, nofun, nofun, le_refl _, d.initial_le_max⟩

theorem Inv.not_cancelled {d : ReconnectDelays} {s : PubState} (h : Inv d s)
    (hf : s.pc.finalizing = false) : s.cancelled = false := by
  cases hx : s.cancelled with
  | false => rfl
  | true => rw [(h.cancelled hx).2] at hf; cases hf

/-- A publisher that was not cancelled may go to any point but the end, with the
timer of its wait not fired. -/
theorem Inv.goto {d : ReconnectDelays} {s s' : PubState} (h : Inv d s)
    (hf : s.pc.finalizing = false ∨ s'.pc.finalizing = true) (hd : s'.pc ≠ .done)
    (hb : s'.pc = .backoff → s'.expired = false) (hstop : s'.stop = s.stop)
    (hcan : s'.cancelled = s.cancelled) (hrange : d.initialS ≤ s'.delay ∧ s'.delay ≤ d.maxS) :
    Inv d s' := by
  refine ⟨fun hx => absurd hx hd, fun hx he => ?_, fun hx => ?_, hrange⟩
  · rw [hb hx] at he; cases he
  · rw [hcan] at hx
    rcases hf with hf | hf
    · rw [h.not_cancelled hf] at hx; cases hx
    · exact ⟨hstop ▸ (h.cancelled hx).1, hf⟩

/-- The end is reached with stop set. -/
theorem inv_done (d : ReconnectDelays) (s : PubState) (hpc : s.pc = .done) (hstop : s.stop = true)
    (hrange : d.initialS ≤ s.delay ∧ s.delay ≤ d.maxS) : Inv d s :=
  ⟨fun _ => hstop, fun _ _ => hstop, fun _ => ⟨hstop, by rw [hpc]; rfl⟩, hrange⟩

/-- Entering the `finally` block keeps the invariant. -/
theorem enterFinally_inv (d : ReconnectDelays) (s : PubState)
    (hc : s.cancelled = true → s.stop = true) (hr : d.initialS ≤ s.delay ∧ s.delay ≤ d.maxS) :
    Inv d s.enterFinally := by
  unfold PubState.enterFinally
  cases s.unsubscribe
  · exact ⟨nofun, nofun, fun h => ⟨hc h, rfl⟩, hr⟩
  · exact ⟨nofun, nofun, fun h => ⟨hc h, rfl⟩, hr⟩

theorem fail_inv (d : ReconnectDelays) (s : PubState) (error : String) (h : Inv d s) :
    Inv d (s.fail d error) :=
  enterFinally_inv d _ (fun hc => (h.cancelled hc).1) (d.next_range s.delay h.range.1)

theorem returned_inv (d : ReconnectDelays) (s s' : PubState) (h : Inv d s)
    (hs : returned d s = some s') : Inv d s' := by
  cases hpc : s.pc <;> simp only [returned, hpc, Option.some.injEq, reduceCtorEq] at hs
  case connect | subscribe | poll | repoll =>
    subst hs; exact h.goto (Or.inl (by rw [hpc]; rfl)) nofun nofun rfl rfl h.range
  case publish =>
    subst hs
    exact h.goto (Or.inl (by rw [hpc]; rfl)) nofun nofun rfl rfl ⟨le_refl _, d.initial_le_max⟩
  case republish =>
    subst hs; exact h.goto (Or.inl (by rw [hpc]; rfl)) nofun nofun rfl rfl h.range
  case unsubscribe =>
    subst hs; exact h.goto (Or.inr rfl) nofun nofun rfl rfl h.range
  case disconnect =>
    split at hs
    · next hx =>
      subst hs; exact inv_done d _ rfl (h.cancelled hx).1 h.range
    · next hx =>
      subst hs
      exact ⟨nofun, nofun, fun hc => absurd hc hx, h.range⟩

theorem resumed_inv (d : ReconnectDelays) (s s' : PubState) (h : Inv d s)
    (hs : resumed s = some s') : Inv d s' := by
  unfold resumed at hs
  split at hs
  · next hpc hw =>
    cases hs; exact h.goto (Or.inl (by rw [hpc]; rfl)) nofun nofun rfl rfl h.range
  · next w hpc hw =>
    cases hs
    cases w with
    | true => exact enterFinally_inv d s (fun hc => (h.cancelled hc).1) h.range
    | false => exact h.goto (Or.inl (by rw [hpc]; rfl)) nofun nofun rfl rfl h.range
  · next w hpc hw =>
    cases hs
    cases w with
    | true => exact h.goto (Or.inl (by rw [hpc]; rfl)) nofun nofun rfl rfl h.range
    | false =>
      -- only a fired timer answers `False`
      have hexp : s.expired = true := by
        unfold PubState.waited at hw
        split at hw
        · assumption
        · split at hw <;> cases hw
      exact inv_done d _ rfl (h.expired hpc hexp) h.range
  · cases hs

/-- A step that meets `EndsByStop` keeps the invariant. -/
theorem step_inv (d : ReconnectDelays) (s : PubState) (e : PubEvent) (s' : PubState)
    (h : Inv d s) (hc : EndsByStop s e) (hs : step d s e = some s') : Inv d s' := by
  cases e with
  | setStop =>
    cases hs; exact ⟨fun _ => rfl, fun _ _ => rfl, fun hx => ⟨rfl, (h.cancelled hx).2⟩, h.range⟩
  | setControl enabled => cases hs; exact ⟨h.done, h.expired, h.cancelled, h.range⟩
  | test =>
    simp only [step] at hs
    split at hs
    · next hpc =>
      have hf : s.pc.finalizing = false := by rw [hpc]; rfl
      cases hs
      split
      · next hstop => exact inv_done d _ rfl hstop h.range
      · split
        · exact h.goto (Or.inl hf) nofun nofun rfl rfl h.range
        · exact h.goto (Or.inl hf) nofun nofun rfl rfl h.range
    · cases hs
  | acquire =>
    cases hpc : s.pc <;> simp only [step, hpc, Option.some.injEq, reduceCtorEq] at hs
    case lockConnect | lockPoll =>
      subst hs; exact h.goto (Or.inl (by rw [hpc]; rfl)) nofun nofun rfl rfl h.range
    case lockUnsubscribe | lockDisconnect =>
      subst hs; exact h.goto (Or.inr rfl) nofun nofun rfl rfl h.range
  | ok => exact returned_inv d s s' h hs
  | raised error =>
    simp only [step] at hs
    split at hs
    · cases hs; exact fail_inv d s error h
    · split at hs
      · next hpc => cases hs; exact inv_done d _ rfl (hc (Or.inr ⟨error, rfl, hpc⟩)) h.range
      · cases hs
  | timerFires =>
    simp only [step] at hs
    split at hs
    · cases hs
      exact ⟨h.done, fun hb _ => hc (Or.inl ⟨rfl, hb⟩), h.cancelled, h.range⟩
    · cases hs
  | resume => exact resumed_inv d s s' h hs
  | cancel =>
    simp only [step] at hs
    split at hs
    · cases hs
    · next hg =>
      have hstop : s.stop = true := by
        cases hx : s.stop with
        | true => rfl
        | false => exact absurd (Or.inl hx) hg
      split at hs
      · cases hs; exact enterFinally_inv d _ (fun _ => hstop) h.range
      · cases hs; exact inv_done d _ rfl hstop h.range

/-- The `finally` block of a publisher that was not cancelled ends in the delay. -/
theorem cleanup_waits (d : ReconnectDelays) (s : PubState) (hc : s.cancelled = false) :
    ∃ s', run (step d) s.enterFinally s.enterFinally.cleanup = some s' ∧ s'.pc = .backoff ∧
      s'.delay = s.delay := by
  cases hu : s.unsubscribe <;>
    simp [PubState.enterFinally, PubState.cleanup, hu, run, step, returned, hc, PubState.wait]

/-- An enabled publisher at the head of its loop, stop unset, connects, subscribes
and polls when the lock is granted and the calls succeed. -/
theorem head_polls (d : ReconnectDelays) (s : PubState) (hpc : s.pc = .head)
    (hstop : s.stop = false) (hctl : s.control = true) :
    ∃ s', run (step d) s [.test, .acquire, .ok, .ok, .ok] = some s' ∧ s'.pc = .publish := by
  simp [run, step, returned, hpc, hstop, hctl]

theorem inv_publishes (d : ReconnectDelays) (s : PubState) (h : Inv d s) : Publishes d s := by
  refine ⟨h.done, fun error s' hcall hs => ?_, fun hpc hstop s' hs => ?_⟩
  · simp only [step, hcall, if_true, Option.some.injEq] at hs
    subst hs
    have hcan : s.cancelled = false := by
      apply h.not_cancelled
      cases hpc : s.pc <;> rw [hpc] at hcall <;> first | rfl | cases hcall
    obtain ⟨s'', hr, hb, hd⟩ :=
      cleanup_waits d { s with lastError := some error, delay := d.next s.delay } hcan
    exact ⟨s'', hr, hb, by rw [hd]; exact (d.next_range s.delay h.range.1).2⟩
  · have hexp : s.expired = false := by
      cases hx : s.expired with
      | false => rfl
      | true => rw [h.expired hpc hx] at hstop; cases hstop
    simp [step, resumed, hpc, PubState.waited, hexp, hstop] at hs

/-- A timer or an exception that comes first leaves a state that breaks the promise. -/
theorem early_end_breaks (d : ReconnectDelays) (s : PubState) (e : PubEvent) (s' : PubState)
    (hs : step d s e = some s') (h : Publishes d s') : EndsByStop s e := by
  rintro (⟨rfl, hpc⟩ | ⟨error, rfl, hpc⟩)
  · simp only [step, hpc, or_true, if_true, Option.some.injEq] at hs
    subst hs
    cases hstop : s.stop with
    | true => rfl
    | false =>
      have ht := (h.tries_again rfl hstop { s with pc := .done, expired := true } (by
        simp [step, resumed, PubState.waited, waitOrStop])).1
      cases ht
  · have hcall : s.pc.calling = false := by rcases hpc with hpc | hpc <;> rw [hpc] <;> rfl
    simp only [step, hcall, if_false, hpc, if_true, Option.some.injEq, Bool.false_eq_true] at hs
    subst hs
    exact h.ends_on_stop rfl

/-! ## Main results -/

/-- **Exactly when the publisher survives device failures.**  Along a run it keeps
its promise if and only if stop is set before the timer of each delay fires and
before an exception leaves its `finally` block. -/
theorem publisher_survives_iff (d : ReconnectDelays) (control : Bool) (events : List PubEvent) :
    Always (step d) (Publishes d) (start d control) events ↔
      Meets (step d) EndsByStop (start d control) events :=
  always_iff_meets (step_inv d) (inv_publishes d)
    (fun s e s' _ hs hp => early_end_breaks d s e s' hs hp) events (inv_start d control)

/-- One refused device connection and one delay later the publisher has ended. -/
theorem publisher_ends_without_stop : ¬ ∀ (d : ReconnectDelays) (control : Bool)
    (events : List PubEvent), Always (step d) (Publishes d) (start d control) events := by
  intro h
  let d : ReconnectDelays := ⟨1, 30, by norm_num, by norm_num⟩
  let events : List PubEvent := [.test, .acquire, .raised "connection refused", .acquire, .ok,
    .timerFires, .resume]
  have hr : run (step d) (start d true) events = some ⟨.done, d.next 1, false, true, true, false, 0,
      false, some "connection refused"⟩ := rfl
  cases (always_run (h d true events) hr).ends_on_stop rfl

end Linker.Publisher
