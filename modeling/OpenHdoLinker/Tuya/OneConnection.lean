import Mathlib.Data.Fintype.Defs
import OpenHdoLinker.Tuya.Session

/-!
# One connection at a time

`connect` looks at `_writer`, awaits, and only then assigns it; `disconnect` takes
the reader task, awaits, and only then takes the writer.  The publisher's calls
and a command's exchange hold different locks, so nothing keeps two callers out
of these windows.  While no `connect` starts inside one of them (`Exclusive`), no
connection and no reader task is left behind:

    Meets Exclusive run → Always OneConnection run      (oneConnection_of_exclusive)
-/

namespace Linker.Session

variable {ι : Type}

/-! ## Statement -/

/-- Between connects, every connection but the one in `_writer` has been closed, and there is at
most one reader task. -/
def OneConnection (s : State ι) : Prop :=
  (∀ i, ¬ (s.pc i).InConnect) →
    (∀ c, c < s.link.connections → s.link.writer ≠ some c → c ∈ s.link.closed) ∧
      s.link.alive.length ≤ 1

/-- A connection is opened only when no other call is opening or negotiating one, no lost
connection is left in `_writer`, and no reader task is still running. -/
def Exclusive (s : State ι) (e : Event ι) : Prop :=
  StartsConnect s e → (∀ i, ¬ (s.pc i).Busy) ∧ s.link.writer = none ∧ s.link.alive = []

instance [Fintype ι] (s : State ι) (e : Event ι) : Decidable (Exclusive s e) :=
  inferInstanceAs (Decidable (_ → (∀ _, ¬ _) ∧ _ ∧ _))

/-! ## Lemmas -/

structure Inv (pc : ι → Pc) (x : Link) : Prop where
  closed : ∀ c, c < x.connections → x.writer ≠ some c → c ∈ x.closed
  alive : x.alive.length ≤ 1
  busy : AtMostOne Pc.Busy pc
  noReader : ∀ i, (pc i).Busy → x.alive = []
  opening : ∀ i call, pc i = .opening call → x.writer = none

section Link

variable {pc : ι → Pc} {x : Link}

theorem inv_start : Inv (start : State ι).pc (start : State ι).link where
  closed _ h := absurd h (Nat.not_lt_zero _)
  alive := Nat.zero_le 1
  busy _ _ h := h.elim
  noReader _ h := h.elim
  opening _ _ h := by cases h

/-- The invariant does not see the session key, the frames and the lost connections. -/
theorem Inv.sessionKey (h : Inv pc x) (key : Option Nat) : Inv pc { x with sessionKey := key } :=
  ⟨h.closed, h.alive, h.busy, h.noReader, h.opening⟩

theorem Inv.frames (h : Inv pc x) (frames : List SentFrame) : Inv pc { x with frames := frames } :=
  ⟨h.closed, h.alive, h.busy, h.noReader, h.opening⟩

theorem Inv.lost (h : Inv pc x) (lost : List Nat) : Inv pc { x with lost := lost } :=
  ⟨h.closed, h.alive, h.busy, h.noReader, h.opening⟩

/-- A reader task may be taken, and may end, at any time. -/
theorem Inv.readerTask (h : Inv pc x) (t : Option Nat) : Inv pc { x with readerTask := t } :=
  ⟨h.closed, h.alive, h.busy, h.noReader, h.opening⟩

theorem Inv.readerEnds (h : Inv pc x) (t : Nat) :
    Inv pc { x with alive := x.alive.filter (· ≠ t) } := by
  refine ⟨h.closed, ?_, h.busy, ?_, h.opening⟩
  · exact le_trans (List.length_filter_le _ _) h.alive
  · intro i hi
    show x.alive.filter (· ≠ t) = []
    rw [h.noReader i hi]
    rfl

/-- The writer is closed. -/
theorem Inv.drop (h : Inv pc x) {c : Nat} (hc : x.writer = some c) :
    Inv pc { x with writer := none, sessionKey := none, closed := c :: x.closed } := by
  refine ⟨?_, h.alive, h.busy, h.noReader, fun _ _ _ => rfl⟩
  intro c' hlt _
  by_cases hcc : c' = c
  · rw [hcc]
    exact List.mem_cons_self
  · refine List.mem_cons_of_mem _ (h.closed c' hlt ?_)
    rw [hc]
    intro he
    exact hcc (Option.some.inj he).symm

/-- A new connection takes the place of none. -/
theorem Inv.opened (h : Inv pc x) (hw : x.writer = none) (hfree : ∀ j, ¬ (pc j).Busy) :
    Inv pc { x with writer := some x.connections, connections := x.connections + 1,
                    sessionKey := none } := by
  refine ⟨?_, h.alive, h.busy, h.noReader, ?_⟩
  · intro c hlt hne
    have hcc : c ≠ x.connections := fun he => hne (by rw [he])
    have hlt' : c < x.connections + 1 := hlt
    refine h.closed c (by omega) ?_
    rw [hw]
    nofun
  · intro i call hi
    exact absurd (by rw [hi]; trivial) (hfree i)

/-- A reader task is created. -/
theorem Inv.started (h : Inv pc x) (ha : x.alive = []) (hfree : ∀ j, ¬ (pc j).Busy) :
    Inv pc { x with readerTask := some x.tasks, alive := x.tasks :: x.alive,
                    tasks := x.tasks + 1 } := by
  refine ⟨h.closed, ?_, h.busy, fun i hi => absurd hi (hfree i), h.opening⟩
  show (x.tasks :: x.alive).length ≤ 1
  rw [ha]
  exact le_refl 1

end Link

/-! ### Segments

While a caller runs, its point does not count: the segments start with it at `idle`. -/

section Segments

variable [DecidableEq ι] {pc : ι → Pc} {x : Link} {i : ι}

/-- A caller comes to its next await. -/
theorem Inv.move (h : Inv pc x) (i : ι) (p : Pc)
    (hbusy : p.Busy → (∀ j, ¬ (pc j).Busy) ∧ x.alive = [])
    (hopening : ∀ call, p = .opening call → x.writer = none) : Inv (Function.update pc i p) x := by
  refine ⟨h.closed, h.alive, h.busy.set i fun hp => (hbusy hp).1, ?_, ?_⟩
  · intro j hj
    rcases of_update hj with hp | hj
    · exact (hbusy hp).2
    · exact h.noReader j hj
  · intro j call hj
    rcases of_update (P := (· = .opening call)) hj with hp | hj
    · exact hopening call hp
    · exact h.opening j call hj

/-- An await outside `connect` constrains nothing. -/
theorem Inv.quiet (h : Inv pc x) (i : ι) {p : Pc} (hp : ¬ p.Busy) :
    Inv (Function.update pc i p) x := by
  refine h.move i p (fun hb => absurd hb hp) ?_
  rintro call rfl
  exact absurd trivial hp

/-- The caller `i` runs the segment in `x`, and the invariant holds at its next await. -/
abbrev Keeps (pc : ι → Pc) (i : ι) : Segment → Link → Prop :=
  Leads fun x p => Inv (Function.update pc i p) x

theorem cleanup_inv (pc : ι → Pc) (i : ι) :
    Cleanup (Inv pc) (Inv pc) fun x p => Inv (Function.update pc i p) x where
  weaken h := h
  idle h := h.quiet i id
  backoff _ h := h.quiet i id
  taken _ _ _ h := (h.readerTask none).quiet i id
  dropped _ _ hc h := (h.drop hc).quiet i id
  gone _ h := h.sessionKey none

variable {version : ProtocolVersion} {retries : Nat}

theorem keeps_giveUp (h : Inv pc x) (call : Call) (caught : Bool) :
    Keeps pc i (giveUp retries call caught) x :=
  (cleanup_inv pc i).giveUp h call caught fun _ => (h.readerTask none).quiet i id

theorem keeps_established (h : Inv pc x) (call : Call) :
    Keeps pc i (established version retries call) x := by
  cases call with
  | direct => exact (cleanup_inv pc i).leave h
  | exchange a =>
    show Keeps pc i (request version retries a) x
    unfold Keeps Leads request
    cases x.live with
    | some c => exact (h.frames _).quiet i id
    | none => exact (cleanup_inv pc i).recover h a

/-- A `connect` that has to open a connection meets the condition. -/
theorem keeps_connect (h : Inv pc x)
    (hopen : x.live = none → (∀ j, ¬ (pc j).Busy) ∧ x.writer = none ∧ x.alive = []) (call : Call) :
    Keeps pc i (connect version retries call) x := by
  unfold Keeps Leads connect
  cases hl : x.live with
  | some c => exact keeps_established h call
  | none =>
    obtain ⟨hfree, hw, ha⟩ := hopen hl
    exact h.move i _ (fun _ => ⟨hfree, ha⟩) fun _ _ => hw

theorem keeps_connected (h : Inv pc x) (hfree : ∀ j, ¬ (pc j).Busy) (ha : x.alive = [])
    (call : Call) : Keeps pc i (connected version retries call) x :=
  keeps_established (h.started ha hfree) call

theorem keeps_negotiationWrite (h : Inv pc x) (hfree : ∀ j, ¬ (pc j).Busy) (ha : x.alive = [])
    (call : Call) {p : Pc} (hp : ∀ call, p ≠ .opening call) :
    Keeps pc i (negotiationWrite retries call p) x := by
  unfold Keeps Leads negotiationWrite
  cases x.live with
  | some c => exact h.move i p (fun _ => ⟨hfree, ha⟩) fun call he => absurd he (hp call)
  | none => exact keeps_giveUp h call true

theorem keeps_readResponse (h : Inv pc x) (hfree : ∀ j, ¬ (pc j).Busy) (ha : x.alive = [])
    (call : Call) : Keeps pc i (readResponse retries call) x := by
  unfold Keeps Leads readResponse
  cases x.writer with
  | some c => exact h.move i _ (fun _ => ⟨hfree, ha⟩) nofun
  | none => exact keeps_giveUp h call true

theorem keeps_opened (h : Inv pc x) (hfree : ∀ j, ¬ (pc j).Busy) (ha : x.alive = [])
    (hw : x.writer = none) (call : Call) : Keeps pc i (opened version retries call) x := by
  have h' := h.opened hw hfree
  unfold Keeps Leads opened
  dsimp only
  split
  · exact keeps_negotiationWrite h' hfree ha call nofun
  · exact keeps_connected h' hfree ha call

end Segments

/-! ### Steps -/

section Steps

variable [DecidableEq ι] {version : ProtocolVersion} {retries : Nat} {publishes : ι → Bool}
variable {s s' : State ι} {e : Event ι} {i : ι} {segment : Segment}

theorem completed_keeps (h : Inv s.pc s.link) (hc : Exclusive s (.ok i))
    (hseg : completed version retries (s.pc i) = some segment) :
    Keeps (Function.update s.pc i .idle) i segment s.link := by
  have h' := h.quiet i (p := .idle) id
  have hclean := cleanup_inv (Function.update s.pc i .idle) i
  -- a caller inside `connect` is the only one
  have hfree : (s.pc i).Busy → ∀ j, ¬ (Function.update s.pc i .idle j).Busy := fun hb =>
    h.busy.nobody hb id
  cases hp : s.pc i with
  | opening call =>
    rw [hp] at hseg hfree
    cases hseg
    exact keeps_opened h' (hfree trivial) (h.noReader i (by rw [hp]; trivial))
      (h.opening i call hp) call
  | greeting call =>
    rw [hp] at hseg hfree
    cases hseg
    exact keeps_readResponse h' (hfree trivial) (h.noReader i (by rw [hp]; trivial)) call
  | response c call =>
    rw [hp] at hseg hfree
    cases hseg
    exact keeps_negotiationWrite h' (hfree trivial) (h.noReader i (by rw [hp]; trivial)) call nofun
  | finishing c call =>
    rw [hp] at hseg hfree
    cases hseg
    exact keeps_connected (h'.sessionKey (some c)) (hfree trivial)
      (h.noReader i (by rw [hp]; trivial)) call
  | draining a =>
    rw [hp] at hseg
    cases hseg
    exact h'.quiet i id
  | answer a =>
    rw [hp] at hseg
    cases hseg
    exact hclean.leave h'
  | backoff a =>
    rw [hp] at hseg
    cases hseg
    refine keeps_connect h' (fun hl => ?_) _
    obtain ⟨hfree, hw, ha⟩ := hc ⟨hl, Or.inl ⟨a, hp⟩⟩
    exact ⟨fun j hj => (of_update hj).elim id (hfree j), hw, ha⟩
  | waiting t n =>
    rw [hp] at hseg
    cases hseg
    exact hclean.dropWriter h' fun _ hy => hclean.resume hy n
  | closing n =>
    rw [hp] at hseg
    cases hseg
    exact hclean.resume h' n
  | idle => rw [hp] at hseg; cases hseg
  | lock => rw [hp] at hseg; cases hseg

theorem failed_keeps {caught : Bool} (h : Inv s.pc s.link)
    (hseg : failed retries caught (s.pc i) = some segment) :
    Keeps (Function.update s.pc i .idle) i segment s.link := by
  have h' := h.quiet i (p := .idle) id
  have hclean := cleanup_inv (Function.update s.pc i .idle) i
  rcases failed_cases hseg with ⟨call, rfl, -⟩ | ⟨call, rfl, -⟩ | ⟨rfl, -⟩
  · exact keeps_giveUp h' call caught
  · exact hclean.raiseTo h' call caught
  · exact hclean.leave h'

theorem does_keeps (h : Inv s.pc s.link) (hc : Exclusive s e)
    (hd : Does version retries s e i segment) :
    Keeps (Function.update s.pc i .idle) i segment s.link := by
  have h' := h.quiet i (p := .idle) id
  have hopen : (BeginsAttempt s e ∨ ∃ j, e = .connect j) → s.link.live = none →
      (∀ j, ¬ (Function.update s.pc i .idle j).Busy) ∧ s.link.writer = none ∧ s.link.alive = [] := by
    intro hs hl
    obtain ⟨hfree, hw, ha⟩ := hc ⟨hl, hs⟩
    exact ⟨fun j hj => (of_update hj).elim id (hfree j), hw, ha⟩
  cases hd with
  | connect _ _ => exact keeps_connect h' (hopen (Or.inr ⟨i, rfl⟩)) _
  | disconnect _ _ =>
    have hclean := cleanup_inv (Function.update s.pc i .idle) i
    exact hclean.disconnect h' (fun t => hclean.taken t _ id h') fun _ hy => hclean.leave hy
  | exchange _ _ => exact h'.quiet i id
  | acquire _ _ => exact keeps_connect h' (hopen (Or.inl trivial)) _
  | ok _ _ _ hseg => exact completed_keeps h hc hseg
  | otherFrame _ c call hp =>
    have hb : (s.pc i).Busy := by rw [hp]; trivial
    exact keeps_readResponse h' (h.busy.nobody hb id) (h.noReader i hb) call
  | fail _ caught _ _ hseg => exact failed_keeps h hseg

theorem step_inv (h : Inv s.pc s.link) (hc : Exclusive s e)
    (hs : step version retries publishes s e = some s') : Inv s'.pc s'.link := by
  rcases step_cases hs with ⟨i, segment, hd, hpc, hlink⟩ | ⟨c, -, hpc, hlink⟩ | ⟨t, -, hpc, hlink⟩
  · have hk : Inv (Function.update (Function.update s.pc i .idle) i (segment s.link).2) _ :=
      does_keeps h hc hd
    rw [Function.update_idem] at hk
    rw [hpc, hlink]
    exact hk
  · rw [hpc, hlink]
    exact h.lost _
  · rw [hpc, hlink]
    exact h.readerEnds t

end Steps

/-! ## Main result -/

/-- **No connection and no reader task is left behind** in a run whose connections are opened one
after the other. -/
theorem oneConnection_of_exclusive [DecidableEq ι] (version : ProtocolVersion)
    (retries : Nat) (publishes : ι → Bool) (es : List (Event ι))
    (h : Runs.Meets (step version retries publishes) Exclusive start es) :
    Runs.Always (step version retries publishes) OneConnection start es := by
  refine Runs.always_of_inv_meets (I := fun s => Inv s.pc s.link) ?_ ?_ es inv_start h
  · intro s e s' hi hc hs
    exact step_inv hi hc hs
  · intro s hi _
    exact ⟨hi.closed, hi.alive⟩

/-- A publisher and a command: the command's exchange uses the connection of the publisher, which loses
and closes it, and the next exchange opens another. -/
def reconnection : List (Event Bool) :=
  [.connect false, .ok false, .exchange true, .acquire true, .ok true, .ok true, .lose 0,
    .disconnect false, .readerEnds 0, .ok false, .ok false, .exchange true, .acquire true, .ok true,
    .ok true, .ok true]

theorem oneConnection_of_exclusive_reconnection :
    (∃ s, Runs.run (step .v33 0 fun b => !b) start reconnection = some s ∧ s.link.connections = 2 ∧
      s.link.closed = [0] ∧ s.link.writer = some 1 ∧ s.link.alive = [1]) ∧
      Runs.Always (step .v33 0 fun b => !b) OneConnection start reconnection :=
  ⟨⟨_, rfl, rfl, rfl, rfl, rfl⟩, oneConnection_of_exclusive .v33 0 _ _ (by decide)⟩

/-- While the publisher waits for `open_connection`, a command finds no writer and connects too:
both connections are opened, nobody closes the first, and two reader tasks run. -/
theorem two_connections : ¬ Runs.Always (step .v33 0 fun b => !b) OneConnection start
    [.connect false, .exchange true, .acquire true, .ok false, .ok true] := by
  intro h
  have hend := Runs.always_run h rfl
  have hone := hend (by
    intro i
    cases i with
    | true => exact id
    | false => exact id)
  exact absurd hone.2 (by decide)

end Linker.Session
