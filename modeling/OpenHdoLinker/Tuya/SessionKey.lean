import Mathlib.Data.Fintype.Defs
import OpenHdoLinker.Tuya.Session

/-!
# The key of an application frame

`connect` publishes `_writer` before the handshake of protocol 3.4 is over, and
`_exchange` falls back to the local key while there is no session key, so an
exchange that looks at the connection of another caller's `connect` sends its
request under the local key.  While no exchange does (`Guarded`), every frame is
under the session key of its own connection:

    Meets Guarded run → Always UnderSession run      (underSession_of_guarded)
-/

namespace Linker.Session

variable {ι : Type}

/-! ## Statement -/

/-- Every request frame is encrypted and signed with the session key of its own connection. -/
def UnderSession (s : State ι) : Prop :=
  ∀ f ∈ s.link.frames,
    f.encryptedWith = .session f.connection ∧ f.signedWith = .session f.connection

/-- No attempt begins and no connection is opened while a `connect` is pending, and the cleanup of
a failed `connect` is not cancelled before it has dropped the writer. -/
structure Guarded (s : State ι) (e : Event ι) : Prop where
  pending : BeginsAttempt s e ∨ StartsConnect s e → ∀ i, ¬ (s.pc i).Pending
  cleanup : ∀ i caught t call c, e = .fail i caught → s.pc i = .waiting t (.raise call c) →
    s.link.writer = none

/-! ## Lemmas -/

theorem Pc.Unready.pending {p : Pc} (h : p.Unready) : p.Pending := by
  cases p with
  | waiting t n =>
    cases n with
    | raise _ _ => trivial
    | _ => exact h.elim
  | greeting _ => trivial
  | response _ _ => trivial
  | finishing _ _ => trivial
  | _ => exact h.elim

/-- The connection the negotiation goes on with. -/
def Pc.connection : Pc → Option Nat
  | .response c _ | .finishing c _ => some c
  | _ => none

/-- What holds even while the connection in `_writer` is not ready. -/
structure Safe (pc : ι → Pc) (x : Link) : Prop where
  pending : AtMostOne Pc.Pending pc
  response : ∀ i c, (pc i).connection = some c → x.writer = none ∨ x.writer = some c
  frames : ∀ f ∈ x.frames,
    f.encryptedWith = .session f.connection ∧ f.signedWith = .session f.connection

/-- A connection that nobody is negotiating on has its session key. -/
structure Secured (pc : ι → Pc) (x : Link) : Prop extends Safe pc x where
  ready : (∀ i, ¬ (pc i).Unready) → ∀ c, x.writer = some c → x.sessionKey = some c

theorem pending_of_connection {p : Pc} {c : Nat} (h : p.connection = some c) : p.Pending := by
  cases p with
  | response _ _ => trivial
  | finishing _ _ => trivial
  | _ => cases h

theorem unready_of_waiting {t : Nat} {n : Next} (h : Pc.Pending (.waiting t n)) :
    Pc.Unready (.waiting t n) := by
  cases n with
  | raise _ _ => trivial
  | _ => exact h.elim

section Link

variable {pc : ι → Pc} {x y : Link}

theorem secured_start : Secured (start : State ι).pc (start : State ι).link where
  pending _ _ h := h.elim
  response _ _ h := by cases h
  frames _ h := absurd h List.not_mem_nil
  ready _ _ h := by cases h

/-- The invariant sees the writer, the session key and the frames only. -/
theorem Secured.of_eq (h : Secured pc x) (hw : y.writer = x.writer)
    (hk : y.sessionKey = x.sessionKey) (hf : y.frames = x.frames) : Secured pc y where
  pending := h.pending
  response i c hi := by
    rw [hw]
    exact h.response i c hi
  frames := by
    rw [hf]
    exact h.frames
  ready hno := by
    rw [hw, hk]
    exact h.ready hno

theorem Secured.readerTask (h : Secured pc x) (t : Option Nat) :
    Secured pc { x with readerTask := t } :=
  h.of_eq rfl rfl rfl

theorem Secured.written (h : Secured pc x) {f : SentFrame}
    (hf : f.encryptedWith = .session f.connection ∧ f.signedWith = .session f.connection) :
    Secured pc { x with frames := x.frames ++ [f] } where
  pending := h.pending
  response := h.response
  frames g hg := by
    rcases List.mem_append.mp hg with hg | hg
    · exact h.frames g hg
    · rw [List.mem_singleton.mp hg]
      exact hf
  ready := h.ready

/-- Without a pending `connect` the connection may be replaced. -/
theorem Safe.of_frames (h : Safe pc x) (hfree : ∀ j, ¬ (pc j).Pending) (hf : y.frames = x.frames) :
    Safe pc y where
  pending := h.pending
  response i _ hi := absurd (pending_of_connection hi) (hfree i)
  frames := by
    rw [hf]
    exact h.frames

theorem Safe.dropped (h : Safe pc x) (hw : y.writer = none) (hf : y.frames = x.frames) :
    Secured pc y where
  pending := h.pending
  response _ _ _ := Or.inl hw
  frames := by
    rw [hf]
    exact h.frames
  ready _ c hc := by
    rw [hw] at hc
    cases hc

end Link

/-! ### Segments

As for the connections, the segments start with the caller at `idle`. -/

section Segments

variable [DecidableEq ι] {pc : ι → Pc} {x : Link} {i : ι}

theorem Safe.move (h : Safe pc x) (i : ι) {p : Pc} (hp : p.Pending → ∀ j, ¬ (pc j).Pending)
    (hresponse : ∀ c, p.connection = some c → x.writer = none ∨ x.writer = some c) :
    Safe (Function.update pc i p) x := by
  refine ⟨h.pending.set i hp, ?_, h.frames⟩
  intro j c hj
  rcases of_update (P := fun q => q.connection = some c) hj with hq | hj
  · exact hresponse c hq
  · exact h.response j c hj

theorem Safe.idle (h : Safe pc x) (i : ι) : Safe (Function.update pc i .idle) x :=
  h.move i (fun hp => hp.elim) nofun

/-- An await outside `connect` constrains nothing. -/
theorem Secured.quiet (h : Secured pc x) (hi : ¬ (pc i).Unready) {p : Pc} (hp : ¬ p.Pending) :
    Secured (Function.update pc i p) x := by
  refine ⟨h.toSafe.move i (fun hq => absurd hq hp) ?_, fun hno => h.ready ?_⟩
  · intro c hc
    exact absurd (pending_of_connection hc) hp
  · intro j hj
    by_cases hji : j = i
    · rw [hji] at hj
      exact hi hj
    · have hj' := hno j
      rw [Function.update_of_ne hji] at hj'
      exact hj' hj

/-- The caller goes on with a connection that is not ready. -/
theorem Safe.unready (h : Safe pc x) (hfree : ∀ j, ¬ (pc j).Pending) (i : ι) {p : Pc}
    (hp : p.Unready)
    (hresponse : ∀ c, p.connection = some c → x.writer = none ∨ x.writer = some c) :
    Secured (Function.update pc i p) x := by
  refine ⟨h.move i (fun _ => hfree) hresponse, fun hno => absurd ?_ (hno i)⟩
  rw [Function.update_self]
  exact hp

/-- The caller `i`, between two awaits, runs the segment in `x`, and the invariant holds at its
next await. -/
abbrev Secures (pc : ι → Pc) (i : ι) : Segment → Link → Prop :=
  Leads fun x p => Secured (Function.update pc i p) x

theorem cleanup_secured (hi : ¬ (pc i).Unready) :
    Cleanup (Safe pc) (Secured pc) fun x p => Secured (Function.update pc i p) x where
  weaken h := h.toSafe
  idle h := h.quiet hi id
  backoff _ h := h.quiet hi id
  taken _ _ hn h := (h.readerTask none).quiet hi fun hp => hn (unready_of_waiting hp)
  dropped {x} c _ _ h := by
    have h' : Secured pc { x with writer := none, sessionKey := none, closed := c :: x.closed } :=
      h.dropped rfl rfl
    exact h'.quiet hi id
  gone hw h := h.dropped hw rfl

variable {retries : Nat}

/-- The connection is not ready while the cleanup waits for a reader task. -/
theorem secures_giveUp (h : Safe pc x) (hfree : ∀ j, ¬ (pc j).Pending) (call : Call)
    (caught : Bool) : Secures pc i (giveUp retries call caught) x := by
  refine (cleanup_secured fun hi => hfree i hi.pending).giveUp h call caught fun t => ?_
  have h' : Safe pc { x with readerTask := none } := h.of_frames hfree rfl
  exact h'.unready hfree i trivial nofun

/-- A request goes out under the session key of the connection it is written to. -/
theorem secures_request (h : Secured pc x) (hfree : ∀ j, ¬ (pc j).Pending) (a : Nat) :
    Secures pc i (request .v34 retries a) x := by
  have hi : ¬ (pc i).Unready := fun hi => hfree i hi.pending
  unfold Secures Leads request
  cases hl : x.live with
  | none => exact (cleanup_secured hi).recover h a
  | some c =>
    have hw := live_writer hl
    have hk := h.ready (fun j hj => hfree j hj.pending) c hw
    have hkey : payloadKey .v34 x = .session c ∧ integrityKey .v34 x = .session c := by
      constructor
      · simp [payloadKey, hk]
      · simp [integrityKey, hk]
    have hframes := h.written (f := ⟨c, payloadKey .v34 x, integrityKey .v34 x⟩) hkey
    exact hframes.quiet hi id

theorem secures_established (h : Secured pc x) (hfree : ∀ j, ¬ (pc j).Pending) (call : Call) :
    Secures pc i (established .v34 retries call) x := by
  cases call with
  | direct => exact (cleanup_secured fun hi => hfree i hi.pending).leave h
  | exchange a => exact secures_request h hfree a

/-- A caller that only asks for a connection may find one that is not ready. -/
theorem secures_connect (h : Secured pc x) (hi : ¬ (pc i).Unready) (call : Call)
    (hopen : call ≠ .direct ∨ x.live = none → ∀ j, ¬ (pc j).Pending) :
    Secures pc i (connect .v34 retries call) x := by
  unfold Secures Leads connect
  cases hl : x.live with
  | some c =>
    cases call with
    | direct => exact (cleanup_secured hi).leave h
    | exchange a => exact secures_request h (hopen (Or.inl nofun)) a
  | none =>
    have hfree := hopen (Or.inr hl)
    exact ⟨h.toSafe.move i (fun _ => hfree) nofun, fun _ => h.ready fun j hj => hfree j hj.pending⟩

theorem secures_negotiationWrite (h : Safe pc x) (hfree : ∀ j, ¬ (pc j).Pending) (call : Call)
    {p : Pc} (hp : p.Unready)
    (hresponse : ∀ c, p.connection = some c → x.writer = none ∨ x.writer = some c) :
    Secures pc i (negotiationWrite retries call p) x := by
  unfold Secures Leads negotiationWrite
  cases x.live with
  | some c => exact h.unready hfree i hp hresponse
  | none => exact secures_giveUp h hfree call true

theorem secures_opened (h : Safe pc x) (hfree : ∀ j, ¬ (pc j).Pending) (call : Call) :
    Secures pc i (opened .v34 retries call) x := by
  have h' : Safe pc { x with writer := some x.connections, connections := x.connections + 1,
                             sessionKey := none } := h.of_frames hfree rfl
  exact secures_negotiationWrite h' hfree call trivial nofun

theorem secures_readResponse (h : Safe pc x) (hfree : ∀ j, ¬ (pc j).Pending) (call : Call) :
    Secures pc i (readResponse retries call) x := by
  unfold Secures Leads readResponse
  cases hw : x.writer with
  | some c =>
    refine h.unready hfree i trivial ?_
    intro c' hc'
    cases hc'
    exact Or.inr hw
  | none => exact secures_giveUp h hfree call true

/-- The session key is derived on the connection that is still the writer. -/
theorem secures_derived (h : Safe pc x) (hfree : ∀ j, ¬ (pc j).Pending) {c : Nat}
    (hw : x.writer = none ∨ x.writer = some c) (call : Call) :
    Secures pc i (derived .v34 retries c call) x := by
  have hready : ∀ c', x.writer = some c' → some c = some c' := by
    intro c' hc'
    rcases hw with hw | hw
    · rw [hw] at hc'
      cases hc'
    · rw [← hw, hc']
  have h' : Secured pc { x with readerTask := some x.tasks, sessionKey := some c, tasks := x.tasks + 1,
                                alive := x.tasks :: x.alive } :=
    ⟨h.of_frames hfree rfl, fun _ => hready⟩
  exact secures_established h' hfree call

end Segments

/-! ### Steps -/

section Steps

variable [DecidableEq ι] {retries : Nat} {publishes : ι → Bool}
variable {s s' : State ι} {e : Event ι} {i : ι} {segment : Segment}

theorem not_unready_idle (s : State ι) (i : ι) : ¬ (Function.update s.pc i .idle i).Unready := by
  rw [Function.update_self]
  exact id

/-- A caller that begins an attempt or opens a connection finds no `connect` pending. -/
theorem Guarded.free (hc : Guarded s e) (h : BeginsAttempt s e ∨ StartsConnect s e) (i j : ι) :
    ¬ (Function.update s.pc i .idle j).Pending :=
  fun hj => (of_update hj).elim id (hc.pending h j)

/-- While it runs, a caller is at no point of a `connect`. -/
theorem cleanup_running (s : State ι) (i : ι) :
    Cleanup (Safe (Function.update s.pc i .idle)) (Secured (Function.update s.pc i .idle))
      fun x p => Secured (Function.update (Function.update s.pc i .idle) i p) x :=
  cleanup_secured (not_unready_idle s i)

theorem completed_secures (h : Secured s.pc s.link) (hc : Guarded s (.ok i))
    (hseg : completed .v34 retries (s.pc i) = some segment) :
    Secures (Function.update s.pc i .idle) i segment s.link := by
  have hsafe := h.toSafe.idle i
  have hsec : ¬ (s.pc i).Unready → Secured (Function.update s.pc i .idle) s.link :=
    fun hi => h.quiet hi id
  have hfree : (s.pc i).Pending → ∀ j, ¬ (Function.update s.pc i .idle j).Pending := fun hp =>
    h.pending.nobody hp id
  cases hp : s.pc i with
  | opening call =>
    rw [hp] at hseg hfree
    cases hseg
    exact secures_opened hsafe (hfree trivial) call
  | greeting call =>
    rw [hp] at hseg hfree
    cases hseg
    exact secures_readResponse hsafe (hfree trivial) call
  | response c call =>
    rw [hp] at hseg hfree
    cases hseg
    refine secures_negotiationWrite hsafe (hfree trivial) call trivial ?_
    intro c' hc'
    cases hc'
    exact h.response i c (by rw [hp]; rfl)
  | finishing c call =>
    rw [hp] at hseg hfree
    cases hseg
    exact secures_derived hsafe (hfree trivial) (h.response i c (by rw [hp]; rfl)) call
  | draining a =>
    rw [hp] at hseg hsec
    cases hseg
    exact (hsec id).quiet (not_unready_idle s i) id
  | answer a =>
    rw [hp] at hseg hsec
    cases hseg
    exact (cleanup_running s i).leave (hsec id)
  | backoff a =>
    rw [hp] at hseg hsec
    cases hseg
    exact secures_connect (hsec id) (not_unready_idle s i) _ fun _ => hc.free (Or.inl ⟨a, hp⟩) i
  | waiting t n =>
    rw [hp] at hseg
    cases hseg
    exact (cleanup_running s i).dropWriter hsafe fun _ hy => (cleanup_running s i).resume hy n
  | closing n =>
    rw [hp] at hseg hsec
    cases hseg
    exact (cleanup_running s i).resume (hsec id) n
  | idle => rw [hp] at hseg; cases hseg
  | lock => rw [hp] at hseg; cases hseg

theorem failed_secures {caught : Bool} (h : Secured s.pc s.link) (hc : Guarded s (.fail i caught))
    (hseg : failed retries caught (s.pc i) = some segment) :
    Secures (Function.update s.pc i .idle) i segment s.link := by
  have hsafe := h.toSafe.idle i
  rcases failed_cases hseg with ⟨call, rfl, hp⟩ | ⟨call, rfl, hp⟩ | ⟨rfl, hp⟩
  · exact secures_giveUp hsafe (h.pending.nobody hp id) call caught
  · exact (cleanup_running s i).raiseTo (h.quiet hp id) call caught
  · by_cases hu : (s.pc i).Unready
    · -- a cancelled cleanup: the writer is gone already
      obtain ⟨t, call, c, hw⟩ := hp hu
      exact (cleanup_running s i).leave (hsafe.dropped (hc.cleanup i caught t call c rfl hw) rfl)
    · exact (cleanup_running s i).leave (h.quiet hu id)

theorem does_secures (h : Secured s.pc s.link) (hc : Guarded s e)
    (hd : Does .v34 retries s e i segment) :
    Secures (Function.update s.pc i .idle) i segment s.link := by
  have hsec : ¬ (s.pc i).Unready → Secured (Function.update s.pc i .idle) s.link :=
    fun hi => h.quiet hi id
  cases hd with
  | connect _ hp =>
    rw [hp] at hsec
    refine secures_connect (hsec id) (not_unready_idle s i) _ ?_
    rintro (hne | hl)
    · exact absurd rfl hne
    · exact hc.free (Or.inr ⟨hl, Or.inr ⟨i, rfl⟩⟩) i
  | disconnect _ hp =>
    rw [hp] at hsec
    have hclean := cleanup_running s i
    exact hclean.disconnect (hsec id).toSafe (fun t => hclean.taken t _ id (hsec id))
      fun _ hy => hclean.leave hy
  | exchange _ hp =>
    rw [hp] at hsec
    exact (hsec id).quiet (not_unready_idle s i) id
  | acquire _ hp =>
    rw [hp] at hsec
    exact secures_connect (hsec id) (not_unready_idle s i) _ fun _ => hc.free (Or.inl trivial) i
  | ok _ _ _ hseg => exact completed_secures h hc hseg
  | otherFrame _ c call hp =>
    have hpend : (s.pc i).Pending := by rw [hp]; trivial
    exact secures_readResponse (h.toSafe.idle i) (h.pending.nobody hpend id) call
  | fail _ caught _ _ hseg => exact failed_secures h hc hseg

theorem step_secured (h : Secured s.pc s.link) (hc : Guarded s e)
    (hs : step .v34 retries publishes s e = some s') : Secured s'.pc s'.link := by
  rcases step_cases hs with ⟨i, segment, hd, hpc, hlink⟩ | ⟨c, -, hpc, hlink⟩ | ⟨t, -, hpc, hlink⟩
  · have hk : Secured (Function.update (Function.update s.pc i .idle) i (segment s.link).2) _ :=
      does_secures h hc hd
    rw [Function.update_idem] at hk
    rw [hpc, hlink]
    exact hk
  · rw [hpc, hlink]
    exact h.of_eq rfl rfl rfl
  · rw [hpc, hlink]
    exact h.of_eq rfl rfl rfl

end Steps

/-! ## Main result -/

/-- **Every application frame is under the session key of its connection** in a run whose exchanges
keep out of pending connects. -/
theorem underSession_of_guarded [DecidableEq ι] (retries : Nat) (publishes : ι → Bool)
    (es : List (Event ι)) (h : Runs.Meets (step .v34 retries publishes) Guarded start es) :
    Runs.Always (step .v34 retries publishes) UnderSession start es := by
  refine Runs.always_of_inv_meets (I := fun s => Secured s.pc s.link) ?_ ?_ es secured_start h
  · intro s e s' hi hc hs
    exact step_secured hi hc hs
  · intro s hi
    exact hi.frames

/-- The publisher negotiates, past a frame that is no response, and a command sends its request; then
the connection is lost, and the next command negotiates on another. -/
def negotiatedTwice : List (Event Bool) :=
  [.connect false, .ok false, .ok false, .otherFrame false, .ok false, .ok false, .exchange true,
    .acquire true, .ok true, .ok true, .lose 0, .exchange true, .acquire true, .ok true, .ok true,
    .ok true, .ok true, .ok true, .ok true]

theorem underSession_of_guarded_twice :
    (∃ s, Runs.run (step .v34 0 fun b => !b) start negotiatedTwice = some s ∧
      s.link.frames = [⟨0, .session 0, .session 0⟩, ⟨1, .session 1, .session 1⟩]) ∧
      Runs.Always (step .v34 0 fun b => !b) UnderSession start negotiatedTwice := by
  refine ⟨⟨_, rfl, rfl⟩, underSession_of_guarded 0 _ _ ?_⟩
  have hpending : Runs.Meets (step .v34 0 fun b => !b)
      (fun s e => BeginsAttempt s e ∨ StartsConnect s e → ∀ i, ¬ (s.pc i).Pending) start
      negotiatedTwice := by decide
  have hfail : (negotiatedTwice.any fun e => e matches .fail _ _) = false := rfl
  refine hpending.imp fun e he s hguard => ⟨hguard, ?_⟩
  rintro i caught t call c rfl -
  exact absurd rfl (List.any_eq_false.mp hfail _ he)

/-- The publisher's connect has written its first negotiation frame; a command finds the writer
and sends its request under the local key. -/
theorem frame_under_device_key : ¬ Runs.Always (step .v34 0 fun b => !b) UnderSession start
    [.connect false, .ok false, .exchange true, .acquire true] := by
  intro h
  have hend := Runs.always_run h rfl
  exact absurd (hend ⟨0, .device, .device⟩ (List.mem_singleton.mpr rfl)).1 nofun

end Linker.Session
