import OpenHdoLinker.Boundary.Handle
import OpenHdoLinker.Boundary.Journal
import OpenHdoLinker.Tuya.Confirmed

/-!
# Commands, pairings and cancellations on one boundary

The calls of `handle` step by step, as in the journal's machine, on a boundary that
pairings bind to other lights in between and whose calls may be cancelled at every
await.  Leaving `async with` gives the command lock back; nothing else cleans up
after a cancelled call, so an operation it has started leaves no journal entry.

    Meets (step L cmd) NotCut s es → Always (step L cmd) (AtMostOnce L cmd) s es
                                                        (operations_at_most_once)
-/

namespace Linker.Calls

open Py

/-! ## Algorithm -/

/-- The light a boundary is bound to and the device that realises it. -/
structure Binding where
  light : Option String
  device : Option String

/-- The binding after the driver's `pair` answered: `handle_pairing` assigns both fields
at once, when it accepts the result. -/
def Binding.paired (b : Binding) (candidateId : String) : Except PyErr PairResult → Binding
  | .error _ => b
  | .ok r =>
    match pairingResult candidateId r with
    | .ok (descriptor, deviceId) => ⟨some descriptor.id, some deviceId⟩
    | .error _ => b

/-- `started`: the driver operations, each with the binding when it started; `operation()` reads
`self.device_id` then. -/
structure State (ι : Type) where
  binding : Binding
  calls : Journal.State ι
  started : List (ι × Binding)

inductive Event (ι : Type)
  | call (e : Journal.Event ι)
  | cancel (i : ι)
  | paired (start : Envelope) (answer : Except PyErr PairResult)

def cancelledError : PyErr := ⟨.CancelledError, ""⟩

section Machine

variable {ι : Type} [DecidableEq ι] (L : PyLib) (cmd : ι → Envelope)

/-- `CancelledError` at the await of a call; leaving `async with` lets the command lock go. -/
def cancelCall (s : Journal.State ι) (i : ι) : Option (Journal.State ι) :=
  match s.pc i with
  | .idle => none
  | .finished _ => none
  | _ => some { s.goto i (.finished (.raised cancelledError)) with
      lock := if s.lock = some i then none else s.lock }

/-- The operations a step of the calls has added, under the binding of the moment. -/
def startedBy (b : Binding) (s t : Journal.State ι) : List (ι × Binding) :=
  (t.ops.drop s.ops.length).map fun i => (i, b)

def step (s : State ι) : Event ι → Option (State ι)
  | .call e =>
    match Journal.step L s.binding.light cmd s.calls e with
    | some calls =>
      some { s with calls := calls, started := s.started ++ startedBy s.binding s.calls calls }
    | none => none
  | .cancel i =>
    match cancelCall s.calls i with
    | some calls => some { s with calls := calls }
    | none => none
  | .paired start answer =>
    match pairingRequest L start with
    | .ok (_, candidateId, _) => some { s with binding := s.binding.paired candidateId answer }
    | .error _ => none

def start (b : Binding) : State ι := ⟨b, Journal.start, []⟩

/-! ## Specification -/

/-- At most one operation is started for each idempotency key; the key of a command does not depend
on the light the boundary is bound to. -/
def AtMostOnce (s : State ι) : Prop :=
  ∀ key, (s.calls.ops.filter fun i => Journal.keyOf L none cmd i = key).length ≤ 1

/-- The event cancels a call whose operation has started and whose result is not yet stored. -/
def CutsOperation (s : State ι) : Event ι → Prop
  | .cancel i => i ∈ s.calls.ops ∧ (s.calls.pc i).Claims
  | _ => False

def NotCut (s : State ι) (e : Event ι) : Prop := ¬ CutsOperation s e

instance : DecidablePred Journal.Pc.Claims
  | .operating _ | .storing _ _ => isTrue trivial
  | .idle | .queued _ | .locked _ | .finished _ => isFalse id

instance (s : State ι) : DecidablePred (CutsOperation s)
  | .cancel _ => inferInstanceAs (Decidable (_ ∧ _))
  | .call _ | .paired _ _ => isFalse id

instance (s : State ι) (e : Event ι) : Decidable (NotCut s e) := inferInstanceAs (Decidable (¬ _))

/-! ## Lemmas -/

/-! ### The boundary's own handler -/

section Handler

variable {D : Type} {config : LinkerConfig} {stamps : Nat → Stamp} {driver : VendorRgbDriver D}
variable {timedOut : Bool} {start : Envelope} {s : System D} {sessionId : Uuid}
variable {candidateId : String} {timeout : Int} {pair : String → PyM D PairResult} {d : D}

def bindingOf (b : BoundaryState) : Binding := ⟨b.lightId, b.deviceId⟩

/-- A result `handle_pairing` does not accept leaves the binding. -/
theorem handlePairing_refused {r : PairResult} {e : PyErr}
    (hreq : pairingRequest L start = .ok (sessionId, candidateId, timeout))
    (hpair : driver.pair = some pair) (hrun : pair candidateId s.driver = (.ok r, d))
    (hres : pairingResult candidateId r = .error e) :
    (handlePairing L config stamps driver timedOut start s).2.boundary = s.boundary := by
  have hattempt := pairAttempt_refused (pairCall_ok timedOut hpair hrun) hres
  rcases handlePairing_refuses config stamps hreq hattempt with ⟨-, h⟩ | ⟨text, h⟩
  · rw [h]
  · obtain ⟨m, hm, -⟩ := pairingCompleted_ok config stamps start sessionId candidateId "failed"
      (some text) { s with driver := d }
    rw [h, PyM.map_apply, hm]

/-- The machine's pairing is what the handler does to the boundary. -/
theorem handlePairing_binding {answer : Except PyErr PairResult}
    (hreq : pairingRequest L start = .ok (sessionId, candidateId, timeout))
    (hpair : driver.pair = some pair) (hrun : pair candidateId s.driver = (answer, d)) :
    bindingOf (handlePairing L config stamps driver timedOut start s).2.boundary =
      (bindingOf s.boundary).paired candidateId answer := by
  cases answer with
  | error e =>
    obtain ⟨r, u, hu, -, hboundary, -⟩ :=
      handlePairing_failed L config stamps driver hreq hpair hrun
    rw [hu]
    show bindingOf u.boundary = _
    rw [hboundary]
    rfl
  | ok r =>
    unfold Binding.paired
    dsimp only
    split
    · next a deviceId hres =>
      obtain ⟨rfl, hid, hdev⟩ := pairingResult_ok hres
      obtain ⟨m, hm, -⟩ :=
        handlePairing_completed L config stamps driver hreq hpair hrun hid hdev
      rw [hm]
      show (⟨some candidateId, some deviceId⟩ : Binding) = _
      rw [hid]
    · next e hres =>
      rw [handlePairing_refused L hreq hpair hrun hres]

end Handler

/-! ### The command lock -/

/-- A call in progress carries the metadata of its command, and the lock says who holds it. -/
structure Locked (s : Journal.State ι) : Prop where
  holds : ∀ i, (s.pc i).Holds ↔ s.lock = some i
  metadata : ∀ i m, (s.pc i).metadata? = some m →
    admitCommand L (some m.lightId) (cmd i) = .ok (.ok m)

variable {L cmd}

/-- The guard of a cancellation, and what it leaves. -/
theorem cancelCall_some {s t : Journal.State ι} {i : ι} (h : cancelCall s i = some t) :
    (s.pc i).Running ∧ t = { s.goto i (.finished (.raised cancelledError)) with
      lock := if s.lock = some i then none else s.lock } := by
  unfold cancelCall at h
  split at h
  · cases h
  · cases h
  · next hidle hfin =>
    cases h
    refine ⟨?_, rfl⟩
    cases hpc : s.pc i with
    | idle => exact absurd hpc hidle
    | finished r => exact absurd hpc (hfin r)
    | queued m => trivial
    | locked m => trivial
    | operating m => trivial
    | storing m p => trivial

omit [DecidableEq ι] in
theorem locked_start : Locked L cmd (Journal.start : Journal.State ι) where
  holds i := by simp [Journal.start, Journal.Pc.Holds]
  metadata i m h := by cases h

/-- **Frame rule.**  Call `i` moves to `p`, and the lock to `l`. -/
theorem Locked.move {s : Journal.State ι} (h : Locked L cmd s) {i : ι} {p : Journal.Pc}
    {l : Option ι} (hl : p.Holds ↔ l = some i) (ho : ∀ j, j ≠ i → (s.lock = some j ↔ l = some j))
    (hm : ∀ m, p.metadata? = some m → (s.pc i).metadata? = some m ∨
      admitCommand L (some m.lightId) (cmd i) = .ok (.ok m))
    {t : Journal.State ι} (hpc : t.pc = (s.goto i p).pc) (hlock : t.lock = l) : Locked L cmd t := by
  constructor
  · intro j
    rw [hpc, hlock, Journal.goto_pc]
    by_cases hj : j = i
    · rw [if_pos hj, hj]
      exact hl
    · rw [if_neg hj, h.holds j]
      exact ho j hj
  · intro j m hjm
    rw [hpc] at hjm
    rcases Journal.of_goto (P := fun q => q.metadata? = some m) hjm with ⟨rfl, hj⟩ | ⟨-, hj⟩
    · exact (hm m hj).elim (h.metadata j m) id
    · exact h.metadata j m hj

/-- A call that does not hold the lock moves and does not take it. -/
theorem Locked.move_unlocked {s t : Journal.State ι} (h : Locked L cmd s) {i : ι} {p : Journal.Pc}
    (hi : ¬ (s.pc i).Holds) (hp : ¬ p.Holds)
    (hm : ∀ m, p.metadata? = some m → (s.pc i).metadata? = some m ∨
      admitCommand L (some m.lightId) (cmd i) = .ok (.ok m))
    (hpc : t.pc = (s.goto i p).pc) (hlock : t.lock = s.lock) : Locked L cmd t := by
  have hnot : s.lock ≠ some i := fun hl => hi ((h.holds i).mpr hl)
  exact h.move ⟨fun hx => absurd hx hp, fun hx => absurd hx hnot⟩ (fun j _ => Iff.rfl) hm hpc hlock

/-- The holder of the lock moves and keeps it. -/
theorem Locked.move_locked {s t : Journal.State ι} (h : Locked L cmd s) {i : ι} {p : Journal.Pc}
    (hi : (s.pc i).Holds) (hp : p.Holds) (hm : p.metadata? = (s.pc i).metadata?)
    (hpc : t.pc = (s.goto i p).pc) (hlock : t.lock = s.lock) : Locked L cmd t := by
  have hown : s.lock = some i := (h.holds i).mp hi
  refine h.move ⟨fun _ => hown, fun _ => hp⟩ (fun j _ => Iff.rfl) ?_ hpc hlock
  intro m hm'
  exact Or.inl (hm ▸ hm')

/-- A call finishes; the lock goes, if the call held it. -/
theorem Locked.finish {s t : Journal.State ι} (h : Locked L cmd s) {i : ι} {r : Journal.Reply}
    (hpc : t.pc = (s.goto i (.finished r)).pc)
    (hlock : t.lock = if s.lock = some i then none else s.lock) : Locked L cmd t := by
  refine h.move ?_ ?_ ?_ hpc hlock
  · refine ⟨fun hx => hx.elim, fun hx => ?_⟩
    split at hx
    · cases hx
    · next hne => exact absurd hx hne
  · intro j hj
    split
    · next he =>
      rw [he]
      exact ⟨fun hx => absurd (Option.some.inj hx).symm hj, nofun⟩
    · exact Iff.rfl
  · intro m hm
    cases hm

theorem Locked.cancel {s t : Journal.State ι} (h : Locked L cmd s) {i : ι}
    (ht : cancelCall s i = some t) : Locked L cmd t := by
  obtain ⟨-, rfl⟩ := cancelCall_some ht
  exact h.finish rfl rfl

/-- Every step of a call keeps the lock: one case for each move. -/
theorem Locked.moves {light : Option String} {s t : Journal.State ι} (h : Locked L cmd s)
    (ht : Journal.Moves L light cmd s t) : Locked L cmd t := by
  cases ht with
  | raise i e hpc hm =>
    exact h.move_unlocked (by rw [hpc]; exact id) id (fun m hx => by cases hx) rfl rfl
  | reject i p hpc hm =>
    exact h.move_unlocked (by rw [hpc]; exact id) id (fun m hx => by cases hx) rfl rfl
  | queue i m hpc hm =>
    refine h.move_unlocked (by rw [hpc]; exact id) id ?_ rfl rfl
    intro m' hm'
    cases hm'
    exact Or.inr (admitCommand_named L hm)
  | acquire i m hpc hl =>
    refine h.move (p := .locked m) (l := some i) ?_ ?_ ?_ rfl rfl
    · exact ⟨fun _ => rfl, fun _ => trivial⟩
    · intro j hj
      rw [hl]
      exact ⟨nofun, fun hx => absurd (Option.some.inj hx).symm hj⟩
    · intro m' hm'
      rw [hpc]
      exact Or.inl hm'
  | replay i m cached hpc hj =>
    have hown : s.lock = some i := (h.holds i).mp (by rw [hpc]; trivial)
    exact h.finish rfl (by rw [if_pos hown])
  | refuse i m e hpc hj hp =>
    exact h.move_locked (p := .storing m (invalidCommand m e.text)) (by rw [hpc]; trivial) trivial
      (by rw [hpc]; rfl) rfl rfl
  | operate i m op hpc hj hp =>
    exact h.move_locked (p := .operating m) (by rw [hpc]; trivial) trivial (by rw [hpc]; rfl) rfl rfl
  | driver i m r hpc =>
    exact h.move_locked (p := .storing m (driverPayload m r)) (by rw [hpc]; trivial) trivial
      (by rw [hpc]; rfl) rfl rfl
  | put i m p hpc =>
    have hown : s.lock = some i := (h.holds i).mp (by rw [hpc]; trivial)
    exact h.finish rfl (by rw [if_pos hown])

omit [DecidableEq ι] in
/-- Only the holder of the lock is between its look-up and its store. -/
theorem Locked.claims_eq {s : Journal.State ι} (h : Locked L cmd s) {i j : ι}
    (hi : (s.pc i).Holds) (hj : (s.pc j).Claims) : j = i := by
  have hlock := (h.holds j).mp hj.holds
  rw [(h.holds i).mp hi] at hlock
  exact (Option.some.inj hlock).symm

/-! ### Operations and results -/

variable (L cmd)

/-- Every operation is still going on, or its key has a result in the journal. -/
structure Recorded (s : Journal.State ι) : Prop extends Locked L cmd s where
  ops : ∀ i ∈ s.ops, ∃ m, admitCommand L (some m.lightId) (cmd i) = .ok (.ok m) ∧
    ((s.pc i).Claims ∨ (s.journal.get? m.idempotencyKey).isSome)
  one : ∀ key, (s.ops.filter fun i => Journal.keyOf L none cmd i = key).length ≤ 1

omit [DecidableEq ι] in
theorem recorded_start : Recorded L cmd (Journal.start : Journal.State ι) where
  toLocked := locked_start
  ops i h := by cases h
  one key := by simp [Journal.start]

variable {L cmd}

omit [DecidableEq ι] in
theorem keyOf_admitted {light : Option String} {i : ι} {m : CommandMetadata}
    (h : admitCommand L light (cmd i) = .ok (.ok m)) :
    Journal.keyOf L none cmd i = m.idempotencyKey := by
  obtain ⟨hm, -, he⟩ := admitCommand_ok L light (cmd i) m h
  unfold Journal.keyOf
  rw [hm] at he ⊢
  rw [commandMetadata_valid L he none]

/-- **Frame rule.**  Call `i` moves to `p`; the operations and the journal stay. -/
theorem Recorded.move {s t : Journal.State ι} (h : Recorded L cmd s) {i : ι} {p : Journal.Pc}
    (hl : Locked L cmd t) (hpc : t.pc = (s.goto i p).pc) (hops : t.ops = s.ops)
    (hjournal : t.journal = s.journal) (hc : i ∈ s.ops → (s.pc i).Claims → p.Claims) :
    Recorded L cmd t := by
  refine ⟨hl, ?_, ?_⟩
  · intro j hj
    rw [hops] at hj
    obtain ⟨m, hm, hrec⟩ := h.ops j hj
    refine ⟨m, hm, ?_⟩
    rw [hpc, hjournal, Journal.goto_pc]
    by_cases hji : j = i
    · subst hji
      rw [if_pos rfl]
      exact hrec.imp_left (hc hj)
    · rw [if_neg hji]
      exact hrec
  · rw [hops]
    exact h.one

omit [DecidableEq ι] in
/-- A key found free has seen no operation. -/
theorem Recorded.no_operation {s : Journal.State ι} (h : Recorded L cmd s) {i : ι}
    {m : CommandMetadata} (hpc : s.pc i = .locked m)
    (hj : s.journal.get? m.idempotencyKey = none) :
    (s.ops.filter fun j => Journal.keyOf L none cmd j = m.idempotencyKey) = [] := by
  rw [List.filter_eq_nil_iff]
  intro j hjo hkey
  rw [decide_eq_true_eq] at hkey
  obtain ⟨mj, hmj, hrec⟩ := h.ops j hjo
  rw [keyOf_admitted hmj] at hkey
  rcases hrec with hclaims | hsome
  · have hji : j = i := h.claims_eq (by rw [hpc]; trivial) hclaims
    rw [hji, hpc] at hclaims
    exact hclaims
  · rw [hkey, hj] at hsome
    cases hsome

theorem Recorded.operate {s t : Journal.State ι} (h : Recorded L cmd s) {i : ι}
    {m : CommandMetadata} (hpc : s.pc i = .locked m)
    (hj : s.journal.get? m.idempotencyKey = none) (hl : Locked L cmd t)
    (ht : t = { s.goto i (.operating m) with ops := s.ops ++ [i] }) : Recorded L cmd t := by
  have hm := h.metadata i m (by rw [hpc]; rfl)
  subst ht
  refine ⟨hl, ?_, ?_⟩
  · intro j hjo
    show ∃ m', _ ∧ (((s.goto i (.operating m)).pc j).Claims ∨ _)
    rw [Journal.goto_pc]
    by_cases hji : j = i
    · subst hji
      rw [if_pos rfl]
      exact ⟨m, hm, Or.inl trivial⟩
    · rw [if_neg hji]
      have hold : j ∈ s.ops := by
        rcases List.mem_append.mp hjo with hjo | hjo
        · exact hjo
        · exact absurd (List.mem_singleton.mp hjo) hji
      exact h.ops j hold
  · intro key
    show ((s.ops ++ [i]).filter fun j => decide (Journal.keyOf L none cmd j = key)).length ≤ 1
    rw [List.filter_append, List.length_append]
    by_cases hk : Journal.keyOf L none cmd i = key
    · rw [← hk, keyOf_admitted hm, h.no_operation hpc hj, List.length_nil, Nat.zero_add]
      exact List.length_filter_le _ _
    · rw [List.filter_singleton, decide_eq_false hk]
      exact h.one key

theorem Recorded.put {s t : Journal.State ι} (h : Recorded L cmd s) {i : ι} {m : CommandMetadata}
    {p : JsonObj} (hpc : s.pc i = .storing m p) (hl : Locked L cmd t)
    (ht : t = { s.goto i (.finished (.payload p)) with
      lock := none
      journal := s.journal.setDefault m.idempotencyKey p
      puts := s.puts ++ [(i, p)] }) : Recorded L cmd t := by
  have hm := h.metadata i m (by rw [hpc]; rfl)
  subst ht
  refine ⟨hl, ?_, h.one⟩
  intro j hj
  obtain ⟨mj, hmj, hrec⟩ := h.ops j hj
  refine ⟨mj, hmj, Or.inr ?_⟩
  show ((s.journal.setDefault m.idempotencyKey p).get? mj.idempotencyKey).isSome = true
  rcases hrec with hclaims | hsome
  · -- only the call that stores was between its look-up and its store
    have hji : j = i := h.claims_eq (by rw [hpc]; trivial) hclaims
    subst hji
    rw [admitCommand_unique L hm hmj, Dict.get?_setDefault, if_pos rfl]
    rfl
  · obtain ⟨q, hq⟩ := Option.isSome_iff_exists.mp hsome
    rw [Dict.get?_setDefault_of_some hq]
    rfl

theorem Recorded.moves {light : Option String} {s t : Journal.State ι} (h : Recorded L cmd s)
    (ht : Journal.Moves L light cmd s t) : Recorded L cmd t := by
  have hl : Locked L cmd t := h.toLocked.moves ht
  cases ht with
  | raise i e hpc hm => exact h.move hl rfl rfl rfl fun _ hc => by rw [hpc] at hc; exact hc
  | reject i p hpc hm => exact h.move hl rfl rfl rfl fun _ hc => by rw [hpc] at hc; exact hc
  | queue i m hpc hm => exact h.move hl rfl rfl rfl fun _ hc => by rw [hpc] at hc; exact hc
  | acquire i m hpc hlock => exact h.move hl rfl rfl rfl fun _ hc => by rw [hpc] at hc; exact hc
  | replay i m cached hpc hj => exact h.move hl rfl rfl rfl fun _ hc => by rw [hpc] at hc; exact hc
  | refuse i m e hpc hj hp => exact h.move hl rfl rfl rfl fun _ _ => trivial
  | operate i m op hpc hj hp => exact h.operate hpc hj hl rfl
  | driver i m r hpc => exact h.move hl rfl rfl rfl fun _ _ => trivial
  | put i m p hpc => exact h.put hpc hl rfl

/-- A cancelled call may not have an operation going on. -/
theorem Recorded.cancel {s t : Journal.State ι} (h : Recorded L cmd s) {i : ι}
    (ht : cancelCall s i = some t) (hcut : ¬ (i ∈ s.ops ∧ (s.pc i).Claims)) : Recorded L cmd t := by
  have hl : Locked L cmd t := h.toLocked.cancel ht
  obtain ⟨-, rfl⟩ := cancelCall_some ht
  exact h.move hl rfl rfl rfl fun hi hc => absurd ⟨hi, hc⟩ hcut

/-- What an event of the machine does: a move of a call, a cancellation, or a new binding. -/
theorem step_cases {s t : State ι} {e : Event ι} (h : step L cmd s e = some t) :
    (∃ e' calls, e = .call e' ∧ Journal.step L s.binding.light cmd s.calls e' = some calls ∧
      t = { s with calls := calls, started := s.started ++ startedBy s.binding s.calls calls }) ∨
    (∃ i calls, e = .cancel i ∧ cancelCall s.calls i = some calls ∧ t = { s with calls := calls }) ∨
    ∃ request answer b, e = .paired request answer ∧ t = { s with binding := b } := by
  cases e with
  | call e' =>
    simp only [step] at h
    split at h
    · next calls hc => cases h; exact Or.inl ⟨e', calls, rfl, hc, rfl⟩
    · cases h
  | cancel i =>
    simp only [step] at h
    split at h
    · next calls hc => cases h; exact Or.inr (Or.inl ⟨i, calls, rfl, hc, rfl⟩)
    · cases h
  | paired request answer =>
    simp only [step] at h
    split at h
    · cases h; exact Or.inr (Or.inr ⟨request, answer, _, rfl, rfl⟩)
    · cases h

theorem step_recorded {s t : State ι} {e : Event ι} (h : Recorded L cmd s.calls) (hcut : NotCut s e)
    (hs : step L cmd s e = some t) : Recorded L cmd t.calls := by
  rcases step_cases hs with ⟨e', calls, rfl, hc, rfl⟩ | ⟨i, calls, rfl, hc, rfl⟩ | ⟨_, _, b, rfl, rfl⟩
  · exact h.moves (Journal.step_moves hc)
  · exact h.cancel hc hcut
  · exact h

/-! ### An operation cut off -/

omit [DecidableEq ι] in
theorem startedBy_same (b : Binding) {s t : Journal.State ι} (h : t.ops = s.ops) :
    startedBy b s t = [] := by
  unfold startedBy
  rw [h, List.drop_length]
  rfl

omit [DecidableEq ι] in
theorem startedBy_operate (b : Binding) {s t : Journal.State ι} {i : ι} (h : t.ops = s.ops ++ [i]) :
    startedBy b s t = [(i, b)] := by
  unfold startedBy
  rw [h, List.drop_left]
  rfl

/-- A call takes the command lock. -/
def untilLocked (i : ι) : List (Event ι) := [.call (.start i), .call (.acquire i)]

/-- A call comes as far as its driver operation. -/
def untilOperation (i : ι) : List (Event ι) := untilLocked i ++ [.call (.look i)]

/-- What the other calls, the binding and the histories look like after call `i` has moved to `p`. -/
structure MovedTo (s t : State ι) (i : ι) (p : Journal.Pc) : Prop where
  binding : t.binding = s.binding
  pc : t.calls.pc i = p
  lock : t.calls.lock = some i
  journal : t.calls.journal = s.calls.journal
  others : ∀ j, j ≠ i → t.calls.pc j = s.calls.pc j

variable (L cmd)

/-- An idle call whose light is bound takes the lock, when that is free. -/
theorem run_untilLocked {s : State ι} {i : ι} {m : CommandMetadata}
    (hadm : admitCommand L s.binding.light (cmd i) = .ok (.ok m)) (hpc : s.calls.pc i = .idle)
    (hlock : s.calls.lock = none) :
    ∃ t, Runs.run (step L cmd) s (untilLocked i) = some t ∧ MovedTo s t i (.locked m) ∧
      t.calls.ops = s.calls.ops ∧ t.started = s.started := by
  let queued := s.calls.goto i (.queued m)
  let locked : Journal.State ι := { queued.goto i (.locked m) with lock := some i }
  have hstart : step L cmd s (.call (.start i)) = some { s with calls := queued } := by
    simp only [step, Journal.step, hpc, hadm, startedBy_same s.binding
      (show (s.calls.goto i (.queued m)).ops = s.calls.ops from rfl), List.append_nil]
    rfl
  have hacquire : step L cmd { s with calls := queued } (.call (.acquire i)) =
      some { s with calls := locked } := by
    have hq : queued.pc i = .queued m := by rw [Journal.goto_pc, if_pos rfl]
    have hl : queued.lock = none := hlock
    simp only [step, Journal.step, hq, hl]
    rw [startedBy_same s.binding (show locked.ops = queued.ops from rfl), List.append_nil]
  refine ⟨{ s with calls := locked }, ?_, ⟨rfl, ?_, rfl, rfl, ?_⟩, rfl, rfl⟩
  · unfold untilLocked
    rw [Runs.run_cons, hstart, Option.bind_some, Runs.run_cons, hacquire, Option.bind_some,
      Runs.run_nil]
  · show (queued.goto i (.locked m)).pc i = _
    rw [Journal.goto_pc, if_pos rfl]
  · intro j hj
    show ((s.calls.goto i (.queued m)).goto i (.locked m)).pc j = _
    rw [Journal.goto_pc, if_neg hj, Journal.goto_pc, if_neg hj]

/-- A call that finds its key free starts its operation under the binding of the moment. -/
theorem step_operates {s : State ι} {i : ι} {m : CommandMetadata} {op : Operation}
    (hplan : planOperation (cmd i) = .ok op) (hpc : s.calls.pc i = .locked m)
    (hlock : s.calls.lock = some i) (hfree : s.calls.journal.get? m.idempotencyKey = none) :
    ∃ t, step L cmd s (.call (.look i)) = some t ∧ MovedTo s t i (.operating m) ∧
      t.calls.ops = s.calls.ops ++ [i] ∧ t.started = s.started ++ [(i, s.binding)] := by
  let operating : Journal.State ι :=
    { s.calls.goto i (.operating m) with ops := s.calls.ops ++ [i] }
  refine ⟨{ s with calls := operating, started := s.started ++ [(i, s.binding)] }, ?_,
    ⟨rfl, ?_, hlock, rfl, ?_⟩, rfl, rfl⟩
  · simp only [step, Journal.step, hpc, hfree, hplan]
    rw [startedBy_operate s.binding (show operating.ops = s.calls.ops ++ [i] from rfl)]
  · show (s.calls.goto i (.operating m)).pc i = _
    rw [Journal.goto_pc, if_pos rfl]
  · intro j hj
    show (s.calls.goto i (.operating m)).pc j = _
    rw [Journal.goto_pc, if_neg hj]

theorem run_untilOperation {s : State ι} {i : ι} {m : CommandMetadata} {op : Operation}
    (hadm : admitCommand L s.binding.light (cmd i) = .ok (.ok m))
    (hplan : planOperation (cmd i) = .ok op) (hpc : s.calls.pc i = .idle)
    (hlock : s.calls.lock = none) (hfree : s.calls.journal.get? m.idempotencyKey = none) :
    ∃ t, Runs.run (step L cmd) s (untilOperation i) = some t ∧ MovedTo s t i (.operating m) ∧
      t.calls.ops = s.calls.ops ++ [i] := by
  obtain ⟨u, hrun, hu, hops, -⟩ := run_untilLocked L cmd hadm hpc hlock
  obtain ⟨t, hstep, ht, hops', -⟩ := step_operates L cmd hplan hu.pc hu.lock (hu.journal ▸ hfree)
  refine ⟨t, ?_, ⟨?_, ht.pc, ht.lock, ?_, ?_⟩, ?_⟩
  · unfold untilOperation
    rw [Runs.run_append hrun, Runs.run_cons, hstep]
    rfl
  · rw [ht.binding, hu.binding]
  · rw [ht.journal, hu.journal]
  · intro j hj
    rw [ht.others j hj, hu.others j hj]
  · rw [hops', hops]

/-- What the condition leaves out does go wrong: after an operation is cut off, the next delivery
under its key operates again. -/
theorem cut_operation_repeats {s : State ι} {i j : ι} {m m' : CommandMetadata} {op : Operation}
    (hi : i ∈ s.calls.ops) (hpc : s.calls.pc i = .operating m) (hlock : s.calls.lock = some i)
    (hm : admitCommand L (some m.lightId) (cmd i) = .ok (.ok m)) (hj : s.calls.pc j = .idle)
    (hadm : admitCommand L s.binding.light (cmd j) = .ok (.ok m'))
    (hplan : planOperation (cmd j) = .ok op) (hkey : m'.idempotencyKey = m.idempotencyKey)
    (hfree : s.calls.journal.get? m.idempotencyKey = none) :
    ∃ t, Runs.run (step L cmd) s (.cancel i :: untilOperation j) = some t ∧ ¬ AtMostOnce L cmd t := by
  have hne : j ≠ i := by
    rintro rfl
    rw [hj] at hpc
    cases hpc
  let cut : Journal.State ι := { s.calls.goto i (.finished (.raised cancelledError)) with
    lock := if s.calls.lock = some i then none else s.calls.lock }
  have hcancel : step L cmd s (.cancel i) = some { s with calls := cut } := by
    simp only [step, cancelCall, hpc]
    rfl
  obtain ⟨t, hrun, -, hops⟩ := run_untilOperation L cmd (s := { s with calls := cut }) hadm
    hplan (show (s.calls.goto i _).pc j = .idle by rw [Journal.goto_pc, if_neg hne, hj])
    (if_pos hlock) (hkey ▸ hfree)
  refine ⟨t, ?_, fun hone => ?_⟩
  · rw [Runs.run_cons, hcancel]
    exact hrun
  · have hlen := hone m.idempotencyKey
    have hmem : i ∈ s.calls.ops.filter fun k => decide (Journal.keyOf L none cmd k = m.idempotencyKey) :=
      List.mem_filter.mpr ⟨hi, decide_eq_true (keyOf_admitted hm)⟩
    rw [hops, List.filter_append, List.length_append, List.filter_singleton,
      decide_eq_true (show Journal.keyOf L none cmd j = m.idempotencyKey by
        rw [keyOf_admitted hadm, hkey])] at hlen
    have hpos := List.length_pos_of_mem hmem
    change _ + 1 ≤ 1 at hlen
    exact absurd hlen (by rw [not_le]; exact Nat.lt_add_of_pos_left hpos)

/-! ## Main result -/

/-- **One operation for a key**, over all cancellations, pairings and redeliveries, while no call is
cancelled between the start of its operation and its journal entry. -/
theorem operations_at_most_once (b : Binding) (es : List (Event ι))
    (h : Runs.Meets (step L cmd) NotCut (start b) es) :
    Runs.Always (step L cmd) (AtMostOnce L cmd) (start b) es := by
  refine Runs.always_of_inv_meets (I := fun s => Recorded L cmd s.calls) ?_ ?_ es
    (recorded_start L cmd) h
  · intro s e t hi hc hs
    exact step_recorded hi hc hs
  · intro s hi
    exact hi.one

end Machine

/-! ## A command cut off and delivered again -/

/-- The desk lamp, and the same command delivered twice. -/
def desk : Binding := ⟨some "light.desk", some Commands.lamp.deviceId⟩

def twice (_ : Bool) : Envelope := Commands.powerOn

theorem powerOn_plan : planOperation Commands.powerOn = .ok .turnOn := rfl

/-- The status and the light of the payload a call has been answered with. -/
def answerOf (pc : Journal.Pc) : Option (String × String) :=
  match pc with
  | .finished (.payload p) =>
    match (getItem p "status").str?, (getItem p "light_id").str? with
    | some status, some light => some (status, light)
    | _, _ => none
  | _ => none

/-- A call from its delivery to its answer, over an operation of the driver. -/
def operated {ι : Type} (i : ι) (state : LightState) : List (Event ι) :=
  [.call (.start i), .call (.acquire i), .call (.look i), .call (.driver i (.ok state)), .call (.put i)]

/-- A call that is answered from the journal. -/
def replayed {ι : Type} (i : ι) : List (Event ι) :=
  [.call (.start i), .call (.acquire i), .call (.look i)]

theorem lit_brightness : ∀ b ∈ some (255 : Int), 0 ≤ b ∧ b ≤ 255 := by decide

/-- A lamp is lit in full red. -/
def lit (deviceId : String) (hid : deviceId ≠ "") : LightState :=
  ⟨deviceId, true, true, some fullRed, some 255, none, 0, hid, lit_brightness, nofun, le_rfl⟩

theorem lamp_named : Commands.lamp.deviceId ≠ "" := by decide

/-- One command delivered three times: the first delivery is cancelled while it waits for the lock, the
second operates, and the third is answered from the journal. -/
def thrice (_ : Fin 3) : Envelope := Commands.powerOn

def deliveredThrice : List (Event (Fin 3)) :=
  [.call (.start 0), .cancel 0] ++ operated 1 (lit Commands.lamp.deviceId lamp_named) ++ replayed 2

theorem operations_at_most_once_thrice :
    (Runs.run (step lampLib thrice) (start desk) deliveredThrice).map (fun s =>
        (s.calls.ops, answerOf (s.calls.pc 1), answerOf (s.calls.pc 2))) =
      some ([1], some ("applied", "light.desk"), some ("applied", "light.desk")) ∧
      Runs.Always (step lampLib thrice) (AtMostOnce lampLib thrice) (start desk) deliveredThrice :=
  ⟨by decide +kernel, operations_at_most_once lampLib thrice desk _ (by decide +kernel)⟩

/-- A delivery cancelled in its operation leaves no entry, and the next one operates again. -/
theorem operation_repeated :
    ¬ Runs.Always (step lampLib twice) (AtMostOnce lampLib twice) (start desk)
      (untilOperation false ++ .cancel false :: untilOperation true) := by
  intro h
  obtain ⟨s, hrun, hs, hops⟩ := run_untilOperation lampLib twice (s := start desk) (i := false)
    Commands.powerOn_admitted powerOn_plan rfl rfl rfl
  obtain ⟨t, hcut, hbad⟩ := cut_operation_repeats lampLib twice (j := true)
    (by rw [hops]; exact List.mem_singleton.mpr rfl) hs.pc hs.lock
    Commands.powerOn_admitted (hs.others true nofun)
    (by rw [hs.binding]; exact Commands.powerOn_admitted) powerOn_plan rfl
    (by rw [hs.journal]; rfl)
  exact hbad (Runs.always_run h ((Runs.run_append hrun).trans hcut))

end Linker.Calls
