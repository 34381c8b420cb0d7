import OpenHdoLinker.Tuya.Replies

/-!
# Connected, and reported so

`connect` looks at the writer only, `health` at the writer and at the reader task.  The
reader task ends by itself at the end of the stream, at a malformed frame and at a
status it cannot decode, and leaves the writer open; `connect` then has nothing to do.

Over the machine of `Replies`: a `connect` called in any reachable state, with nobody
else running, returns to a driver that `health` calls connected exactly when it did not
find an open connection without a reader, and the connection it opened, if any, is
still there.

    health s'.link ↔ (s.link.live ≠ none → readerAlive s.link) ∧
      (s.link.live = none → s.link.connections ∉ s'.link.lost)     (connect_connected_iff)
-/

namespace Linker.Health

open Py Replies
open Session (Call Next)

/-! ## Algorithm -/

section Algorithm

variable {ι : Type}

/-- `self._reader_task is not None and not self._reader_task.done()`. -/
def readerAlive (x : Link ι) : Bool :=
  match x.readerTask with
  | some t => x.readers[t]? = some .suspended ∨ x.readers[t]? = some .reading
  | none => false

/-- `connected` in `health()`. -/
def health (x : Link ι) : Bool := x.live.isSome && readerAlive x

end Algorithm

/-! ## Statement -/

section Statement

variable {ι : Type} [DecidableEq ι] (C : TuyaCrypto) (d : TuyaLink) (i : ι)

/-- Whose event it is; the network and the reader tasks have the others. -/
def caller : Event ι → Option ι
  | .connect i | .disconnect i | .exchange i | .acquire i | .ok i | .otherFrame i | .responded i _
  | .answered i | .fail i _ => some i
  | .lose _ | .readerResumes _ | .frameRead _ _ | .readerFails _ | .readerCancelled _ => none

/-- The last await of a `connect` that caller `i` has called itself. -/
def LastAwait (s : State ι) : Prop :=
  (s.pc i = .opening .direct ∧ d.protocolVersion ≠ .v34) ∨ ∃ k, s.pc i = .finishing k .direct

/-- `connect()`, called in `s`, returns in `s'`: at once, or after the events `es`. -/
inductive Returns (s s' : State ι) : Prop
  | found (c : Nat) (hlive : s.link.live = some c) (hstep : step C d s (.connect i) = some s')
  | made (es : List (Event ι)) (t : State ι) (hlive : s.link.live = none)
      (hes : ∀ e ∈ es, ∀ j, caller e = some j → j = i)
      (hrun : Runs.run (step C d) s (.connect i :: es) = some t) (hlast : LastAwait d i t)
      (hstep : step C d t (.ok i) = some s')

/-- Nobody but caller `i` is running, and `i` neither. -/
def Quiet (s : State ι) : Prop := s.pc i = .idle ∧ ∀ j, j ≠ i → s.pc j = .idle ∨ s.pc j = .done

/-- `connect` finds no open connection without a reader, and loses none that it opens. -/
def Sound (s s' : State ι) : Prop :=
  (s.link.live ≠ none → readerAlive s.link = true) ∧
    (s.link.live = none → s.link.connections ∉ s'.link.lost)

end Statement

/-! ## Lemmas -/

/-! ### Connections are numbered -/

section Numbered

variable {ι : Type} {C : TuyaCrypto} {d : TuyaLink} {i : ι} {x : Link ι}

/-- The connections there were have smaller numbers than the next one, and the writer is not one that
was closed. -/
structure Numbered (x : Link ι) : Prop where
  closed : ∀ c ∈ x.closed, c < x.connections
  writer : ∀ c, x.writer = some c → c < x.connections ∧ c ∉ x.closed

/-- The segment keeps the numbering. -/
def Numbers (segment : Segment ι) : Prop := ∀ x, Numbered x → Numbered (segment x).1

theorem leave_numbers : Numbers (leave : Segment ι) := fun _ h => h

theorem retry_numbers (attempt : Nat) : Numbers (retry d attempt : Segment ι) := by
  intro x h
  unfold retry
  split
  · exact h
  · exact h

theorem dropWriter_numbers (next : Next) {after : Segment ι} (hafter : Numbers after) :
    Numbers (dropWriter next after) := by
  intro x h
  unfold dropWriter
  split
  · next c hc =>
    refine ⟨?_, nofun⟩
    intro n hn
    rcases List.mem_cons.mp hn with rfl | hn
    · exact (h.writer n hc).1
    · exact h.closed n hn
  · next hc =>
    apply hafter
    exact ⟨h.closed, h.writer⟩

theorem disconnect_numbers (next : Next) {after : Segment ι} (hafter : Numbers after) :
    Numbers (disconnect next after) := by
  intro x h
  unfold disconnect
  split
  · exact ⟨h.closed, h.writer⟩
  · exact dropWriter_numbers next hafter x h

theorem recover_numbers (attempt : Nat) : Numbers (recover d attempt : Segment ι) :=
  disconnect_numbers _ (retry_numbers attempt)

theorem giveBack_numbers (attempt : Nat) (issued : Issued) (caught : Bool) :
    Numbers (giveBack d attempt issued caught : Segment ι) := by
  intro x h
  unfold giveBack
  split
  · exact recover_numbers attempt _ ⟨h.closed, h.writer⟩
  · exact h

theorem raiseTo_numbers (call : Call) (caught : Bool) :
    Numbers (raiseTo d call caught : Segment ι) := by
  cases call with
  | direct => exact leave_numbers
  | exchange attempt =>
    cases caught with
    | true => exact recover_numbers attempt
    | false => exact leave_numbers

theorem resume_numbers (next : Next) : Numbers (resume d next : Segment ι) := by
  cases next with
  | finished => exact leave_numbers
  | retry attempt => exact retry_numbers attempt
  | raise call caught => exact raiseTo_numbers call caught

theorem giveUp_numbers (call : Call) (caught : Bool) : Numbers (giveUp d call caught : Segment ι) :=
  disconnect_numbers _ (raiseTo_numbers call caught)

theorem request_numbers (attempt : Nat) : Numbers (request d i attempt) := by
  intro x h
  unfold request
  dsimp only
  split
  · exact ⟨h.closed, h.writer⟩
  · exact giveBack_numbers attempt _ true _ ⟨h.closed, h.writer⟩

theorem established_numbers (call : Call) : Numbers (established d i call) := by
  cases call with
  | direct => exact leave_numbers
  | exchange attempt => exact request_numbers attempt

theorem connect_numbers (call : Call) : Numbers (connect d i call) := by
  intro x h
  unfold connect
  split
  · exact established_numbers call x h
  · exact h

theorem connected_numbers (call : Call) : Numbers (connected d i call) :=
  fun _ h => established_numbers call _ ⟨h.closed, h.writer⟩

theorem negotiationWrite_numbers (call : Call) (pc : Pc) : Numbers (negotiationWrite d i call pc) := by
  intro x h
  unfold negotiationWrite
  split
  · exact ⟨h.closed, h.writer⟩
  · exact giveUp_numbers call true _ ⟨h.closed, h.writer⟩

theorem opened_numbers (call : Call) : Numbers (opened d i call) := by
  intro x h
  have hnew : Numbered { x with writer := some x.connections, connections := x.connections + 1,
                                sessionKey := none } := by
    constructor
    · intro c hc
      exact Nat.lt_succ_of_lt (h.closed c hc)
    · rintro c ⟨⟩
      exact ⟨Nat.lt_succ_self _, fun hc => Nat.lt_irrefl _ (h.closed _ hc)⟩
  unfold opened
  dsimp only
  split
  · exact negotiationWrite_numbers call _ _ hnew
  · exact connected_numbers call _ hnew

theorem readResponse_numbers (call : Call) : Numbers (readResponse d call : Segment ι) := by
  intro x h
  unfold readResponse
  split
  · exact h
  · exact giveUp_numbers call true x h

theorem responded_numbers (call : Call) (payload : Bytes) :
    Numbers (responded C d i call payload) := by
  unfold responded
  split
  · exact negotiationWrite_numbers call _
  · exact giveUp_numbers call _

theorem completed_numbers {pc : Pc} {segment : Segment ι} (h : completed d i pc = some segment) :
    Numbers segment := by
  cases pc with
  | opening call => cases h; exact opened_numbers call
  | greeting call => cases h; exact readResponse_numbers call
  | finishing sessionKey call =>
    cases h
    exact fun x hx => connected_numbers call _ ⟨hx.closed, hx.writer⟩
  | draining attempt issued => cases h; exact fun _ hx => hx
  | backoff attempt => cases h; exact connect_numbers _
  | waiting t next => cases h; exact dropWriter_numbers next (resume_numbers next)
  | closing next => cases h; exact resume_numbers next
  | idle => cases h
  | lock => cases h
  | response call => cases h
  | answer attempt issued => cases h
  | done => cases h

theorem failed_numbers {pc : Pc} {caught : Bool} {segment : Segment ι}
    (h : Replies.failed d caught pc = some segment) : Numbers segment := by
  -- waiting for the lock, a pause or a reader task: a cancellation
  have hcancel : ∀ {o : Option (Segment ι)}, o = (if caught then none else some leave) →
      o = some segment → Numbers segment := by
    rintro o rfl ho
    cases caught with
    | true => cases ho
    | false => cases ho; exact leave_numbers
  cases pc with
  | opening call => cases h; exact raiseTo_numbers call caught
  | greeting call => cases h; exact giveUp_numbers call caught
  | response call => cases h; exact giveUp_numbers call caught
  | finishing sessionKey call => cases h; exact giveUp_numbers call caught
  | draining attempt issued => cases h; exact giveBack_numbers attempt issued caught
  | answer attempt issued =>
    cases h
    exact fun x hx => giveBack_numbers attempt issued caught _ ⟨hx.closed, hx.writer⟩
  | closing next =>
    cases next with
    | finished => cases h; exact leave_numbers
    | retry attempt => cases h; exact leave_numbers
    | raise call _ => cases h; exact raiseTo_numbers call caught
  | lock => exact hcancel rfl h
  | backoff attempt => exact hcancel rfl h
  | waiting t next => exact hcancel rfl h
  | idle => cases h
  | done => cases h

theorem answered_numbers (attempt m : Nat) (issued : Issued) (f : TuyaFrame) :
    Numbers (answered C d i attempt issued m f) := by
  intro x h
  unfold answered
  split
  · exact ⟨h.closed, h.writer⟩
  · exact giveBack_numbers attempt issued _ x h

theorem does_numbers {s : State ι} {e : Event ι} {segment : Segment ι} (h : Does C d s e i segment) :
    Numbers segment := by
  cases h with
  | connect _ _ => exact connect_numbers _
  | disconnect _ _ => exact disconnect_numbers _ leave_numbers
  | exchange _ _ => exact fun _ hx => hx
  | acquire _ _ => exact connect_numbers _
  | ok _ _ hsegment => exact completed_numbers hsegment
  | otherFrame _ call _ => exact readResponse_numbers call
  | responded _ call payload _ => exact responded_numbers call payload
  | fail _ _ _ hsegment => exact failed_numbers hsegment

variable [DecidableEq ι]

theorem numbered_step {s s' : State ι} {e : Event ι} (hs : Numbered s.link)
    (h : step C d s e = some s') : Numbered s'.link := by
  rcases step_cases h with ⟨i, segment, lock, hdoes, rfl⟩ |
    ⟨i, attempt, issued, m, f, -, -, -, -, rfl⟩ | ⟨y, hreads, rfl⟩
  · exact does_numbers hdoes s.link hs
  · exact answered_numbers attempt m issued f s.link hs
  · constructor
    · intro c hc
      rw [hreads.connections]
      exact hs.closed c (hreads.closed ▸ hc)
    · intro c hc
      rw [hreads.connections, hreads.closed]
      exact hs.writer c (hreads.writer.symm.trans hc)

/-- In every reachable state. -/
theorem numbered_run {events : List (Event ι)} {s : State ι}
    (h : Runs.run (step C d) start events = some s) : Numbered s.link := by
  have hstart : Numbered (start : State ι).link := ⟨nofun, nofun⟩
  have halways : Runs.Always (step C d) (fun s => Numbered s.link) start events :=
    Runs.always_of_inv (fun _ _ _ hs hstep => numbered_step hs hstep) (fun _ hs => hs) events hstart
  exact Runs.always_run (P := fun s => Numbered s.link) halways h

end Numbered

/-! ### The stages of a call -/

section Stages

variable {ι : Type} {C : TuyaCrypto} {d : TuyaLink} {i : ι} {n : Nat} {x : Link ι}

/-- The call raises, if it has not ended already. -/
def Over : Pc → Prop
  | .waiting _ (.raise .direct _) | .closing (.raise .direct _) | .done => True
  | _ => False

/-- A `connect` that opens connection `n`: it has yet to open it, it negotiates on it, or it is over. -/
inductive Stage (n : Nat) (x : Link ι) : Pc → Prop
  | opening (h : x.connections = n) : Stage n x (.opening .direct)
  | greeting (h : x.writer = some n) : Stage n x (.greeting .direct)
  | response (h : x.writer = some n) : Stage n x (.response .direct)
  | finishing (k : Bytes) (h : x.writer = some n) : Stage n x (.finishing k .direct)
  | ended {pc : Pc} (h : Over pc) : Stage n x pc

/-- What a caller does up to its next await keeps to the stages. -/
def Stays (n : Nat) (r : Link ι × Pc) : Prop := Stage n r.1 r.2

theorem Stage.reads {y : Link ι} {pc : Pc} (h : Stage n x pc) (hr : Reads x y) : Stage n y pc := by
  cases h with
  | opening hx => exact .opening (hr.connections.trans hx)
  | greeting hx => exact .greeting (hr.writer.trans hx)
  | response hx => exact .response (hr.writer.trans hx)
  | finishing k hx => exact .finishing k (hr.writer.trans hx)
  | ended hover => exact .ended hover

theorem dropWriter_over (caught : Bool) (x : Link ι) :
    Over (dropWriter (.raise .direct caught) (raiseTo d .direct caught) x).2 := by
  unfold dropWriter
  split
  · trivial
  · trivial

theorem giveUp_over (caught : Bool) (x : Link ι) : Over (giveUp d .direct caught x).2 := by
  unfold giveUp disconnect
  split
  · trivial
  · exact dropWriter_over caught x

theorem negotiationWrite_stays {pc : Pc} (h : ∀ b, Stage n { x with book := b } pc) :
    Stays n (negotiationWrite d i .direct pc x) := by
  unfold Stays negotiationWrite
  split
  · exact h _
  · exact .ended (giveUp_over true _)

theorem readResponse_stays (h : x.writer = some n) : Stays n (readResponse d .direct x) := by
  unfold Stays readResponse
  split
  · exact .response h
  · exact .ended (giveUp_over true x)

theorem opened_stays (h : x.connections = n) : Stays n (opened d i .direct x) := by
  unfold opened
  dsimp only
  split
  · apply negotiationWrite_stays
    intro b
    exact .greeting (congrArg some h)
  · exact .ended trivial

theorem responded_stays (payload : Bytes) (h : x.writer = some n) :
    Stays n (responded C d i .direct payload x) := by
  unfold responded
  cases Exchange.verifiedResponse C d payload with
  | ok remote =>
    apply negotiationWrite_stays
    intro b
    exact .finishing _ h
  | error e => exact .ended (giveUp_over _ x)

theorem completed_stays {pc : Pc} {segment : Segment ι} (h : completed d i pc = some segment)
    (hpc : Stage n x pc) : Stays n (segment x) := by
  cases hpc with
  | opening hx => cases h; exact opened_stays hx
  | greeting hx => cases h; exact readResponse_stays hx
  | response hx => cases h
  | finishing k hx => cases h; exact .ended trivial
  | ended hover =>
    cases pc with
    | waiting t next =>
      cases next with
      | raise call caught =>
        cases call with
        | direct => cases h; exact .ended (dropWriter_over (d := d) caught x)
        | exchange attempt => exact hover.elim
      | _ => exact hover.elim
    | closing next =>
      cases next with
      | raise call caught =>
        cases call with
        | direct => cases h; exact .ended trivial
        | exchange attempt => exact hover.elim
      | _ => exact hover.elim
    | done => cases h
    | _ => exact hover.elim

theorem failed_stays {pc : Pc} {caught : Bool} {segment : Segment ι}
    (h : Replies.failed d caught pc = some segment) (hpc : Stage n x pc) : Stays n (segment x) := by
  cases hpc with
  | opening hx => cases h; exact .ended trivial
  | greeting hx => cases h; exact .ended (giveUp_over caught x)
  | response hx => cases h; exact .ended (giveUp_over caught x)
  | finishing k hx => cases h; exact .ended (giveUp_over caught x)
  | ended hover =>
    cases pc with
    | waiting t next =>
      cases caught with
      | true => cases h
      | false => cases h; exact .ended trivial
    | closing next =>
      cases next with
      | raise call _ =>
        cases call with
        | direct => cases h; exact .ended trivial
        | exchange attempt => exact hover.elim
      | _ => exact hover.elim
    | done => cases h
    | _ => exact hover.elim

theorem does_stays {s : State ι} {e : Event ι} {segment : Segment ι} (h : Does C d s e i segment)
    (hs : Stage n s.link (s.pc i)) : Stays n (segment s.link) := by
  cases h with
  | connect _ hpc => rw [hpc] at hs; cases hs; contradiction
  | disconnect _ hpc => rw [hpc] at hs; cases hs; contradiction
  | exchange _ hpc => rw [hpc] at hs; cases hs; contradiction
  | acquire _ hpc => rw [hpc] at hs; cases hs; contradiction
  | ok _ _ hsegment => exact completed_stays hsegment hs
  | otherFrame _ call hpc =>
    rw [hpc] at hs
    cases hs with
    | response hx => exact readResponse_stays hx
    | ended hover => exact hover.elim
  | responded _ call payload hpc =>
    rw [hpc] at hs
    cases hs with
    | response hx => exact responded_stays payload hx
    | ended hover => exact hover.elim
  | fail _ _ _ hsegment => exact failed_stays hsegment hs

theorem does_caller {s : State ι} {e : Event ι} {segment : Segment ι} (h : Does C d s e i segment) :
    caller e = some i := by
  cases h <;> rfl

variable [DecidableEq ι]

/-- Nobody else runs: the caller goes through its stages. -/
theorem stage_step {s s' : State ι} {e : Event ι} (he : ∀ j, caller e = some j → j = i)
    (hs : Stage n s.link (s.pc i)) (h : step C d s e = some s') : Stage n s'.link (s'.pc i) := by
  rcases step_cases h with ⟨j, segment, lock, hdoes, rfl⟩ |
    ⟨j, attempt, issued, m, f, rfl, hj, -, -, -⟩ | ⟨y, hreads, rfl⟩
  · cases he j (does_caller hdoes)
    have hstays : Stays n (segment s.link) := does_stays hdoes hs
    rw [run_pc_self]
    exact hstays
  · cases he j rfl
    rw [hj] at hs
    cases hs with
    | ended hover => exact hover.elim
  · exact hs.reads hreads

theorem stage_run {events : List (Event ι)} {s s' : State ι}
    (he : ∀ e ∈ events, ∀ j, caller e = some j → j = i) (hs : Stage n s.link (s.pc i))
    (h : Runs.run (step C d) s events = some s') : Stage n s'.link (s'.pc i) := by
  induction events generalizing s with
  | nil => cases h; exact hs
  | cons e events ih =>
    obtain ⟨t, ht, hr⟩ := Runs.run_cons_some h
    exact ih (fun e' he' => he e' (List.mem_cons_of_mem e he'))
      (stage_step (he e List.mem_cons_self) hs ht) hr

end Stages

/-! ### The two ways to return -/

section Ways

variable {ι : Type} {C : TuyaCrypto} {d : TuyaLink} {i : ι} {s s' : State ι}

/-- A reader task that was just created has not ended. -/
theorem readerAlive_created (x : Link ι) :
    readerAlive { x with readerTask := some x.readers.length, readers := x.readers ++ [.suspended] } =
      true := by
  simp [readerAlive]

theorem live_of_writer {x : Link ι} {n : Nat} (hw : x.writer = some n) (hc : n ∉ x.closed) :
    x.live.isSome = true ↔ n ∉ x.lost := by
  simp [Link.live, hw, hc]

variable [DecidableEq ι]

theorem connect_found {c : Nat} (hidle : s.pc i = .idle) (hlive : s.link.live = some c)
    (h : step C d s (.connect i) = some s') : s'.link = s.link := by
  have hstep : step C d s (.connect i) = some (s.run i (connect d i .direct)) := if_pos hidle
  cases hstep.symm.trans h
  show (connect d i .direct s.link).1 = s.link
  unfold connect
  rw [hlive]
  rfl

theorem connect_opening (hidle : s.pc i = .idle) (hlive : s.link.live = none)
    (h : step C d s (.connect i) = some s') : s'.link = s.link ∧ s'.pc i = .opening .direct := by
  have hstep : step C d s (.connect i) = some (s.run i (connect d i .direct)) := if_pos hidle
  have hsegment : connect d i .direct s.link = (s.link, .opening .direct) := by
    unfold connect
    rw [hlive]
  cases hstep.symm.trans h
  exact ⟨congrArg Prod.fst hsegment, (run_pc_self s i _).trans (congrArg Prod.snd hsegment)⟩

/-- `connect` has opened connection `n` and returns. -/
theorem lastAwait_returns {n : Nat} (hs : Numbered s.link) (hstage : Stage n s.link (s.pc i))
    (hlast : LastAwait d i s) (h : step C d s (.ok i) = some s') :
    s'.link.writer = some n ∧ n ∉ s'.link.closed ∧ readerAlive s'.link = true := by
  obtain ⟨-, h⟩ := Option.ite_none_right_eq_some.mp h
  rcases hlast with ⟨hpc, hversion⟩ | ⟨k, hpc⟩
  · rw [hpc] at h hstage
    cases h
    cases hstage with
    | opening hn =>
      have hlink : (s.run i (opened d i .direct)).link = (connected d i .direct { s.link with
          writer := some s.link.connections, connections := s.link.connections + 1,
          sessionKey := none }).1 := by
        show (opened d i .direct s.link).1 = _
        unfold opened
        rw [if_neg hversion]
      rw [hlink]
      exact ⟨congrArg some hn, fun hc => Nat.lt_irrefl _ (hn ▸ hs.closed n hc), readerAlive_created _⟩
    | ended hover => exact hover.elim
  · rw [hpc] at h hstage
    cases h
    cases hstage with
    | finishing _ hw => exact ⟨hw, (hs.writer n hw).2, readerAlive_created _⟩
    | ended hover => exact hover.elim

end Ways

/-! ## Main result -/

/-- **Connected, and reported so**: `connect`, called alone in a reachable state, returns to a driver
that `health` calls connected if and only if it found no open connection without a reader and lost
none that it opened. -/
theorem connect_connected_iff {ι : Type} [DecidableEq ι] (C : TuyaCrypto) (d : TuyaLink)
    (events : List (Event ι)) (s s' : State ι) (i : ι)
    (hs : Runs.run (step C d) start events = some s) (hquiet : Quiet i s) (h : Returns C d i s s') :
    health s'.link = true ↔ Sound s s' := by
  cases h with
  | found c hlive hstep =>
    have hlink := connect_found hquiet.1 hlive hstep
    unfold health Sound
    rw [hlink, hlive]
    simp
  | made es t hlive hes hrun hlast hstep =>
    obtain ⟨u, hu, hrun'⟩ := Runs.run_cons_some hrun
    have hnumbered : Numbered t.link := numbered_run ((Runs.run_append hs).trans hrun)
    obtain ⟨hlink, hopening⟩ := connect_opening hquiet.1 hlive hu
    have hstage : Stage s.link.connections u.link (u.pc i) := by
      rw [hopening]
      exact .opening (congrArg Link.connections hlink)
    obtain ⟨hw, hc, halive⟩ := lastAwait_returns hnumbered (stage_run hes hstage hrun') hlast hstep
    unfold health Sound
    rw [halive, hlive, Bool.and_true, live_of_writer hw hc]
    simp

/-- The first `connect` of a driver, over a connection that stays. -/
theorem connect_first : ∃ s' : State Unit,
    Returns .plain lampLink () start s' ∧ health s'.link = true := by
  let opening : State Unit := (start : State Unit).run () (connect lampLink () .direct)
  let ready : State Unit := opening.run () (opened lampLink () .direct)
  have hreturns : Returns .plain lampLink () start ready :=
    .made [] opening rfl (List.forall_mem_nil _) rfl (Or.inl ⟨rfl, by decide⟩) rfl
  refine ⟨ready, hreturns, (connect_connected_iff .plain lampLink [] start ready () rfl
    ⟨rfl, fun _ _ => Or.inl rfl⟩ hreturns).mpr ⟨fun h => absurd rfl h, fun _ => ?_⟩⟩
  exact List.not_mem_nil

/-- The peer closes its half of the connection: the reader task ends, the writer stays open, and the
next `connect` returns without doing anything. -/
theorem connect_half_closed : ¬ ∀ (C : TuyaCrypto) (d : TuyaLink) (events : List (Event Bool))
    (s s' : State Bool) (i : Bool), Runs.run (step C d) start events = some s → Quiet i s →
    Returns C d i s s' → health s'.link = true := by
  intro h
  let events : List (Event Bool) := [.connect false, .ok false, .readerResumes 0, .readerFails 0]
  obtain ⟨s, hs⟩ : ∃ s, Runs.run (step .plain lampLink) start events = some s := ⟨_, rfl⟩
  cases hs
  refine Bool.false_ne_true (h .plain lampLink events _ _ true rfl ⟨rfl, ?_⟩ (.found 0 rfl rfl))
  intro j hj
  cases j with
  | false => exact Or.inr rfl
  | true => exact absurd rfl hj

end Linker.Health
