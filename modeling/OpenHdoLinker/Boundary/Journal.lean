import OpenHdoLinker.Boundary.Requests
import OpenHdoLinker.Lib.PyDict
import OpenHdoLinker.Lib.Runs

/-!
# Concurrent commands over the memory journal

Any number of `handle` calls on one boundary, interleaved step by step: each call
reads its metadata, waits for the command lock, looks its key up in the journal,
and, when the key is new, performs its driver operation and stores its result.
The state keeps two histories: the operations started and the results stored.

    Runs.Always (step L light cmd) (DuplicateSafe L light cmd) start es
                                                          (commands_duplicate_safe)

A grant of the lock goes to any waiting call, and every step is an event of its
own, so the interleavings of the event loop are among those of the machine.
-/

namespace Linker.Journal

open Py

/-! ## Algorithm -/

/-- How a call of `handle` ends. -/
inductive Reply
  | raised (e : PyErr)
  | payload (p : JsonObj)

/-- Where a call of `handle` stands. -/
inductive Pc
  | idle
  | queued (m : CommandMetadata)
  | locked (m : CommandMetadata)
  | operating (m : CommandMetadata)
  | storing (m : CommandMetadata) (p : JsonObj)
  | finished (r : Reply)

structure State (ι : Type) where
  pc : ι → Pc
  lock : Option ι
  journal : Dict String JsonObj
  ops : List ι
  puts : List (ι × JsonObj)

inductive Event (ι : Type)
  | start (i : ι)
  | acquire (i : ι)
  | look (i : ι)
  | driver (i : ι) (outcome : Except PyErr LightState)
  | put (i : ι)

section Machine

variable {ι : Type} [DecidableEq ι] (L : PyLib) (light : Option String) (cmd : ι → Envelope)

def State.goto (s : State ι) (i : ι) (p : Pc) : State ι := { s with pc := Function.update s.pc i p }

/-- The driver returns a state or raises what `except Exception` catches. -/
def ordinaryOutcome : Except PyErr LightState → Bool
  | .ok _ => true
  | .error e => e.isA .Exception

def step (s : State ι) : Event ι → Option (State ι)
  | .start i =>
    match s.pc i with
    | .idle =>
      match admitCommand L light (cmd i) with
      | .error e => some (s.goto i (.finished (.raised e)))
      | .ok (.error p) => some (s.goto i (.finished (.payload p)))
      | .ok (.ok m) => some (s.goto i (.queued m))
    | _ => none
  | .acquire i =>
    match s.pc i, s.lock with
    | .queued m, none => some { s.goto i (.locked m) with lock := some i }
    | _, _ => none
  | .look i =>
    match s.pc i with
    | .locked m =>
      match s.journal.get? m.idempotencyKey with
      | some cached =>
        some { s.goto i (.finished (.payload (replay cached m))) with lock := none }
      | none =>
        match planOperation (cmd i) with
        | .error e => some (s.goto i (.storing m (invalidCommand m e.text)))
        | .ok _ => some { s.goto i (.operating m) with ops := s.ops ++ [i] }
    | _ => none
  | .driver i outcome =>
    match s.pc i with
    | .operating m =>
      if ordinaryOutcome outcome then some (s.goto i (.storing m (driverPayload m outcome)))
      else none
    | _ => none
  | .put i =>
    match s.pc i with
    | .storing m p =>
      some { s.goto i (.finished (.payload p)) with
        lock := none
        journal := s.journal.setDefault m.idempotencyKey p
        puts := s.puts ++ [(i, p)] }
    | _ => none

def start : State ι := ⟨fun _ => .idle, none, Dict.empty, [], []⟩

/-! ## Specification -/

def keyOf (i : ι) : String := (commandMetadata L light (cmd i)).idempotencyKey

def commandIdOf (i : ι) : Uuid := (commandMetadata L light (cmd i)).commandId

/-- The first call that stored a result under `key`, with its result. -/
def firstPut (s : State ι) (key : String) : Option (ι × JsonObj) :=
  s.puts.find? fun p => keyOf L light cmd p.1 = key

/-- A call that is neither idle nor finished. -/
def Pc.Running : Pc → Prop
  | .idle => False
  | .finished _ => False
  | _ => True

/-- The command has valid metadata and names the registered light. -/
def Accepted (i : ι) : Prop := ∃ m, admitCommand L light (cmd i) = .ok (.ok m)

structure DuplicateSafe (s : State ι) : Prop where
  one_operation : ∀ key, (s.ops.filter fun i => keyOf L light cmd i = key).length ≤ 1
  answered : ∀ i r, Accepted L light cmd i → s.pc i = .finished r →
    ∃ j q, firstPut L light cmd s (keyOf L light cmd i) = some (j, q) ∧
      r = .payload (if commandIdOf L light cmd j = commandIdOf L light cmd i then q
        else idempotencyConflict (commandMetadata L light (cmd i)))
  untouched : ∀ i, ¬ Accepted L light cmd i → i ∉ s.ops ∧ ∀ q, (i, q) ∉ s.puts
  journal : ∀ key, s.journal.get? key = (firstPut L light cmd s key).map Prod.snd
  progress : ∀ i, (s.pc i).Running → ∃ e s', step L light cmd s e = some s' ∧ ∀ j, e ≠ .start j

/-! ## Lemmas -/

/-- What a step does: the guards it passes and the state it leads to. -/
inductive Moves (s : State ι) : State ι → Prop
  | raise (i : ι) (e : PyErr) (hpc : s.pc i = .idle)
      (hm : admitCommand L light (cmd i) = .error e) : Moves s (s.goto i (.finished (.raised e)))
  | reject (i : ι) (p : JsonObj) (hpc : s.pc i = .idle)
      (hm : admitCommand L light (cmd i) = .ok (.error p)) :
      Moves s (s.goto i (.finished (.payload p)))
  | queue (i : ι) (m : CommandMetadata) (hpc : s.pc i = .idle)
      (hm : admitCommand L light (cmd i) = .ok (.ok m)) : Moves s (s.goto i (.queued m))
  | acquire (i : ι) (m : CommandMetadata) (hpc : s.pc i = .queued m) (hl : s.lock = none) :
      Moves s { s.goto i (.locked m) with lock := some i }
  | replay (i : ι) (m : CommandMetadata) (cached : JsonObj) (hpc : s.pc i = .locked m)
      (hj : s.journal.get? m.idempotencyKey = some cached) :
      Moves s { s.goto i (.finished (.payload (replay cached m))) with lock := none }
  | refuse (i : ι) (m : CommandMetadata) (e : PyErr) (hpc : s.pc i = .locked m)
      (hj : s.journal.get? m.idempotencyKey = none) (hp : planOperation (cmd i) = .error e) :
      Moves s (s.goto i (.storing m (invalidCommand m e.text)))
  | operate (i : ι) (m : CommandMetadata) (op : Operation) (hpc : s.pc i = .locked m)
      (hj : s.journal.get? m.idempotencyKey = none) (hp : planOperation (cmd i) = .ok op) :
      Moves s { s.goto i (.operating m) with ops := s.ops ++ [i] }
  | driver (i : ι) (m : CommandMetadata) (r : Except PyErr LightState)
      (hpc : s.pc i = .operating m) : Moves s (s.goto i (.storing m (driverPayload m r)))
  | put (i : ι) (m : CommandMetadata) (p : JsonObj) (hpc : s.pc i = .storing m p) :
      Moves s { s.goto i (.finished (.payload p)) with
        lock := none
        journal := s.journal.setDefault m.idempotencyKey p
        puts := s.puts ++ [(i, p)] }

variable {L light cmd}

theorem step_moves {s s' : State ι} {e : Event ι} (h : step L light cmd s e = some s') :
    Moves L light cmd s s' := by
  cases e with
  | start i =>
    simp only [step] at h
    split at h
    · next hpc =>
      split at h
      · next e he => cases h; exact .raise i e hpc he
      · next p hp => cases h; exact .reject i p hpc hp
      · next m hm => cases h; exact .queue i m hpc hm
    · cases h
  | acquire i =>
    simp only [step] at h
    split at h
    · next m hpc hl => cases h; exact .acquire i m hpc hl
    · cases h
  | look i =>
    simp only [step] at h
    split at h
    · next m hpc =>
      split at h
      · next cached hj => cases h; exact .replay i m cached hpc hj
      · next hj =>
        split at h
        · next e he => cases h; exact .refuse i m e hpc hj he
        · next op ho => cases h; exact .operate i m op hpc hj ho
    · cases h
  | driver i r =>
    simp only [step] at h
    split at h
    · next m hpc =>
      split at h
      · cases h; exact .driver i m r hpc
      · cases h
    · cases h
  | put i =>
    simp only [step] at h
    split at h
    · next m p hpc => cases h; exact .put i m p hpc
    · cases h

theorem goto_pc (s : State ι) (i j : ι) (p : Pc) :
    (s.goto i p).pc j = if j = i then p else s.pc j := by
  unfold State.goto
  by_cases h : j = i
  · subst h; simp
  · simp [h]

/-- After a move of `i`, a call is at the new point or where it was. -/
theorem of_goto {P : Pc → Prop} {s : State ι} {i j : ι} {p : Pc} (h : P ((s.goto i p).pc j)) :
    (j = i ∧ P p) ∨ (j ≠ i ∧ P (s.pc j)) := by
  rw [goto_pc] at h
  by_cases hj : j = i
  · rw [if_pos hj] at h
    exact Or.inl ⟨hj, h⟩
  · rw [if_neg hj] at h
    exact Or.inr ⟨hj, h⟩

/-- The call holds the command lock. -/
def Pc.Holds : Pc → Prop
  | .locked _ => True
  | .operating _ => True
  | .storing _ _ => True
  | _ => False

/-- The metadata a running call carries. -/
def Pc.metadata? : Pc → Option CommandMetadata
  | .queued m => some m
  | .locked m => some m
  | .operating m => some m
  | .storing m _ => some m
  | _ => none

/-- The call has found its key free and not yet stored its result. -/
def Pc.Claims : Pc → Prop
  | .operating _ => True
  | .storing _ _ => True
  | _ => False

variable (L light cmd)

/-- How a finished call was answered. -/
def Answered (s : State ι) (i : ι) (r : Reply) : Prop :=
  match admitCommand L light (cmd i) with
  | .error e => r = .raised e
  | .ok (.error p) => r = .payload p
  | .ok (.ok m) => ∃ q, s.journal.get? m.idempotencyKey = some q ∧ r = .payload (replay q m)

structure Inv (s : State ι) : Prop where
  holds : ∀ i, (s.pc i).Holds ↔ s.lock = some i
  metadata : ∀ i m, (s.pc i).metadata? = some m → admitCommand L light (cmd i) = .ok (.ok m)
  finished : ∀ i r, s.pc i = .finished r → Answered L light cmd s i r
  free : ∀ i m, (s.pc i).Claims → (s.pc i).metadata? = some m →
    s.journal.get? m.idempotencyKey = none
  tagged : ∀ i m p, s.pc i = .storing m p → Tagged m p
  puts : ∀ i q, (i, q) ∈ s.puts → ∃ m, admitCommand L light (cmd i) = .ok (.ok m) ∧ Tagged m q
  journal : ∀ key, s.journal.get? key = (firstPut L light cmd s key).map Prod.snd
  ops : ∀ i ∈ s.ops, ∃ m, admitCommand L light (cmd i) = .ok (.ok m) ∧
    ((s.pc i).Claims ∨ (s.journal.get? m.idempotencyKey).isSome)
  ops_one : ∀ key, (s.ops.filter fun i => keyOf L light cmd i = key).length ≤ 1

omit [DecidableEq ι] in
theorem inv_start : Inv L light cmd (start : State ι) where
  holds i := by simp [start, Pc.Holds]
  metadata i m h := by cases h
  finished i r h := by cases h
  free i m h := by cases h
  tagged i m p h := by cases h
  puts i q h := by cases h
  journal key := rfl
  ops i h := by cases h
  ops_one key := by simp [start]

variable {L light cmd}

theorem Pc.Claims.holds {p : Pc} (h : p.Claims) : p.Holds := by
  cases p with
  | operating m => trivial
  | storing m q => trivial
  | _ => cases h

omit [DecidableEq ι] in
/-- Only the holder of the lock is between its lookup and its store. -/
theorem Inv.claims_eq {s : State ι} (h : Inv L light cmd s) {i j : ι} (hi : s.lock = some i)
    (hj : (s.pc j).Claims) : j = i := by
  have hlock := (h.holds j).mp hj.holds
  rw [hi] at hlock
  exact (Option.some.inj hlock).symm

/-- **Frame rule.**  One call moves, the histories and the journal stay. -/
theorem Inv.move {s : State ι} (h : Inv L light cmd s) (i : ι) (p : Pc) (l : Option ι)
    (hl : p.Holds ↔ l = some i) (ho : ∀ j, j ≠ i → (s.lock = some j ↔ l = some j))
    (hm : ∀ m, p.metadata? = some m → admitCommand L light (cmd i) = .ok (.ok m))
    (hfin : ∀ r, p = .finished r → Answered L light cmd s i r)
    (hfree : ∀ m, p.Claims → p.metadata? = some m → s.journal.get? m.idempotencyKey = none)
    (htag : ∀ m q, p = .storing m q → Tagged m q)
    (hops : i ∈ s.ops → (s.pc i).Claims → p.Claims) :
    Inv L light cmd { s.goto i p with lock := l } := by
  have hself : (s.goto i p).pc i = p := by rw [goto_pc, if_pos rfl]
  have hother : ∀ j, j ≠ i → (s.goto i p).pc j = s.pc j := by
    intro j hj
    rw [goto_pc, if_neg hj]
  constructor
  case holds =>
    intro j
    show ((s.goto i p).pc j).Holds ↔ l = some j
    by_cases hj : j = i
    · subst hj; rw [hself]; exact hl
    · rw [hother j hj, h.holds j]; exact ho j hj
  case metadata =>
    intro j m hjm
    rcases of_goto (P := fun q => q.metadata? = some m) hjm with ⟨rfl, hj⟩ | ⟨-, hj⟩
    · exact hm m hj
    · exact h.metadata j m hj
  case finished =>
    intro j r hjr
    rcases of_goto (P := fun q => q = .finished r) hjr with ⟨rfl, hj⟩ | ⟨-, hj⟩
    · exact hfin r hj
    · exact h.finished j r hj
  case free =>
    intro j m hc hjm
    rcases of_goto (P := fun q => q.Claims ∧ q.metadata? = some m) ⟨hc, hjm⟩ with
      ⟨-, hj⟩ | ⟨-, hj⟩
    · exact hfree m hj.1 hj.2
    · exact h.free j m hj.1 hj.2
  case tagged =>
    intro j m q hjq
    rcases of_goto (P := fun x => x = .storing m q) hjq with ⟨-, hj⟩ | ⟨-, hj⟩
    · exact htag m q hj
    · exact h.tagged j m q hj
  case puts => exact h.puts
  case journal => exact h.journal
  case ops =>
    intro j hj
    obtain ⟨m, hjm, hc⟩ := h.ops j hj
    refine ⟨m, hjm, ?_⟩
    show ((s.goto i p).pc j).Claims ∨ _
    rcases hc with hc | hc
    · left
      by_cases hji : j = i
      · subst hji; rw [hself]; exact hops hj hc
      · rw [hother j hji]; exact hc
    · right; exact hc
  case ops_one => exact h.ops_one

/-- A call that does not hold the lock moves to a place where it does not hold it. -/
theorem Inv.move_unlocked {s : State ι} (h : Inv L light cmd s) (i : ι) (p : Pc)
    (hpc : ¬ (s.pc i).Holds) (hp : ¬ p.Holds)
    (hm : ∀ m, p.metadata? = some m → admitCommand L light (cmd i) = .ok (.ok m))
    (hfin : ∀ r, p = .finished r → Answered L light cmd s i r) :
    Inv L light cmd (s.goto i p) := by
  have hlock : s.lock ≠ some i := fun hl => hpc ((h.holds i).mpr hl)
  refine h.move i p s.lock ?_ ?_ hm hfin ?_ ?_ ?_
  · exact ⟨fun hx => absurd hx hp, fun hx => absurd hx hlock⟩
  · intro j _; exact Iff.rfl
  · intro m hc _; exact absurd hc.holds hp
  · intro m q hq; subst hq; exact absurd trivial hp
  · intro _ hc; exact absurd hc.holds hpc

/-- The holder of the lock moves and keeps it. -/
theorem Inv.move_locked {s : State ι} (h : Inv L light cmd s) (i : ι) (p : Pc)
    (hpc : (s.pc i).Holds) (hp : p.Holds)
    (hm : ∀ m, p.metadata? = some m → admitCommand L light (cmd i) = .ok (.ok m))
    (hfree : ∀ m, p.Claims → p.metadata? = some m → s.journal.get? m.idempotencyKey = none)
    (htag : ∀ m q, p = .storing m q → Tagged m q)
    (hops : i ∈ s.ops → (s.pc i).Claims → p.Claims) :
    Inv L light cmd (s.goto i p) := by
  have hlock : s.lock = some i := (h.holds i).mp hpc
  refine h.move i p s.lock ?_ ?_ hm ?_ hfree htag hops
  · exact ⟨fun _ => hlock, fun _ => hp⟩
  · intro j _; exact Iff.rfl
  · intro r hr; subst hr; exact absurd hp (by simp [Pc.Holds])

/-- The holder of the lock finishes and lets it go. -/
theorem Inv.release {s : State ι} (h : Inv L light cmd s) (i : ι) (r : Reply)
    (hpc : (s.pc i).Holds) (hc : ¬ (s.pc i).Claims) (hfin : Answered L light cmd s i r) :
    Inv L light cmd { s.goto i (.finished r) with lock := none } := by
  have hlock : s.lock = some i := (h.holds i).mp hpc
  refine h.move i (.finished r) none ?_ ?_ ?_ ?_ ?_ ?_ ?_
  · simp [Pc.Holds]
  · intro j hj
    rw [hlock]
    simp [Ne.symm hj]
  · intro m hm; cases hm
  · intro r' hr; cases hr; exact hfin
  · intro m hx; cases hx
  · intro m q hq; cases hq
  · intro _ hx; exact absurd hx hc

omit [DecidableEq ι] in
theorem keyOf_eq {i : ι} {m : CommandMetadata} (h : admitCommand L light (cmd i) = .ok (.ok m)) :
    keyOf L light cmd i = m.idempotencyKey := by
  unfold keyOf
  rw [← (admitCommand_ok L light (cmd i) m h).1]

omit [DecidableEq ι] in
/-- A key found free has seen no operation. -/
theorem Inv.no_operation {s : State ι} (h : Inv L light cmd s) (i : ι) (m : CommandMetadata)
    (hpc : s.pc i = .locked m) (hj : s.journal.get? m.idempotencyKey = none) :
    (s.ops.filter fun j => keyOf L light cmd j = m.idempotencyKey) = [] := by
  have hlock : s.lock = some i := (h.holds i).mp (by rw [hpc]; trivial)
  rw [List.filter_eq_nil_iff]
  intro j hjo hkey
  rw [decide_eq_true_eq] at hkey
  obtain ⟨mj, hmj, hc⟩ := h.ops j hjo
  rw [keyOf_eq hmj] at hkey
  rcases hc with hc | hc
  · have hji := h.claims_eq hlock hc
    rw [hji, hpc] at hc
    exact hc
  · rw [hkey, hj] at hc
    cases hc

theorem Inv.operate {s : State ι} (h : Inv L light cmd s) (i : ι) (m : CommandMetadata)
    (hpc : s.pc i = .locked m) (hj : s.journal.get? m.idempotencyKey = none) :
    Inv L light cmd { s.goto i (.operating m) with ops := s.ops ++ [i] } := by
  have hm : admitCommand L light (cmd i) = .ok (.ok m) := h.metadata i m (by rw [hpc]; rfl)
  have hself : (s.goto i (.operating m)).pc i = .operating m := by rw [goto_pc, if_pos rfl]
  have hg : Inv L light cmd (s.goto i (.operating m)) := by
    refine h.move_locked i _ (by rw [hpc]; trivial) trivial ?_ ?_ ?_ ?_
    · intro m' hm'; cases hm'; exact hm
    · intro m' _ hm'; cases hm'; exact hj
    · intro m' q hq; cases hq
    · intro _ hc; rw [hpc] at hc; cases hc
  refine ⟨hg.holds, hg.metadata, hg.finished, hg.free, hg.tagged, hg.puts, hg.journal, ?_, ?_⟩
  · intro j hjo
    rcases List.mem_append.mp hjo with hjo | hjo
    · exact hg.ops j hjo
    · rw [List.mem_singleton] at hjo
      subst hjo
      refine ⟨m, hm, Or.inl ?_⟩
      show ((s.goto j (.operating m)).pc j).Claims
      rw [hself]
      trivial
  · intro key
    show ((s.ops ++ [i]).filter fun j => decide (keyOf L light cmd j = key)).length ≤ 1
    rw [List.filter_append, List.length_append]
    by_cases hk : keyOf L light cmd i = key
    · rw [← hk, keyOf_eq hm, h.no_operation i m hpc hj, List.length_nil, Nat.zero_add]
      exact List.length_filter_le _ _
    · rw [List.filter_singleton, decide_eq_false hk]
      exact h.ops_one key

omit [DecidableEq ι] in
theorem Answered.mono {s s' : State ι} {i : ι} {r : Reply} (h : Answered L light cmd s i r)
    (hj : ∀ key q, s.journal.get? key = some q → s'.journal.get? key = some q) :
    Answered L light cmd s' i r := by
  unfold Answered at *
  split at h
  · exact h
  · exact h
  · obtain ⟨q, hq, hr⟩ := h
    exact ⟨q, hj _ _ hq, hr⟩

theorem replay_tagged (m : CommandMetadata) (p : JsonObj) (h : Tagged m p) : replay p m = p := by
  unfold replay
  rw [if_pos ((sameCommandId_tagged m p h m.commandId).mpr rfl)]

omit [DecidableEq ι] in
/-- The first result stored under a free key is the one the journal returns from then on. -/
theorem Inv.journal_put {s : State ι} (h : Inv L light cmd s) {i : ι} {m : CommandMetadata}
    (hm : admitCommand L light (cmd i) = .ok (.ok m))
    (hfree : s.journal.get? m.idempotencyKey = none) (p : JsonObj) (key : String) :
    (s.journal.setDefault m.idempotencyKey p).get? key =
      ((s.puts ++ [(i, p)]).find? fun x => decide (keyOf L light cmd x.1 = key)).map Prod.snd := by
  have hjk : s.journal.get? key =
      (s.puts.find? fun x => decide (keyOf L light cmd x.1 = key)).map Prod.snd := h.journal key
  rw [Dict.get?_setDefault, hfree, List.find?_append, List.find?_singleton]
  show _ = (Option.or _ (if decide (keyOf L light cmd i = key) = true then _ else _)).map Prod.snd
  rw [keyOf_eq hm]
  by_cases hk : key = m.idempotencyKey
  · subst hk
    rw [hfree] at hjk
    rw [Option.map_eq_none_iff.mp hjk.symm]
    simp
  · rw [if_neg hk, if_neg (by simpa using fun e => hk e.symm), Option.or_none]
    exact hjk

omit [DecidableEq ι] in
/-- After the store, every operation has a result under its key. -/
theorem Inv.stored {s : State ι} (h : Inv L light cmd s) {i : ι} {m : CommandMetadata}
    (hm : admitCommand L light (cmd i) = .ok (.ok m)) (hlock : s.lock = some i) (p : JsonObj)
    {j : ι} (hj : j ∈ s.ops) : ∃ mj, admitCommand L light (cmd j) = .ok (.ok mj) ∧
      ((s.journal.setDefault m.idempotencyKey p).get? mj.idempotencyKey).isSome = true := by
  obtain ⟨mj, hmj, hc⟩ := h.ops j hj
  refine ⟨mj, hmj, ?_⟩
  rcases hc with hc | hc
  · -- the operation of the holder itself
    have hji := h.claims_eq hlock hc
    subst hji
    rw [hm] at hmj
    cases hmj
    rw [Dict.get?_setDefault, if_pos rfl]
    rfl
  · obtain ⟨q, hq⟩ := Option.isSome_iff_exists.mp hc
    rw [Dict.get?_setDefault_of_some hq]
    rfl

theorem Inv.put {s : State ι} (h : Inv L light cmd s) (i : ι) (m : CommandMetadata) (p : JsonObj)
    (hpc : s.pc i = .storing m p) :
    Inv L light cmd { s.goto i (.finished (.payload p)) with
      lock := none
      journal := s.journal.setDefault m.idempotencyKey p
      puts := s.puts ++ [(i, p)] } := by
  have hm : admitCommand L light (cmd i) = .ok (.ok m) := h.metadata i m (by rw [hpc]; rfl)
  have hlock : s.lock = some i := (h.holds i).mp (by rw [hpc]; trivial)
  have hfree : s.journal.get? m.idempotencyKey = none :=
    h.free i m (by rw [hpc]; trivial) (by rw [hpc]; rfl)
  have htag : Tagged m p := h.tagged i m p hpc
  constructor
  case holds =>
    intro j
    constructor
    · intro hj
      rcases of_goto hj with ⟨-, hj⟩ | ⟨hne, hj⟩
      · cases hj
      · have hlj := (h.holds j).mp hj
        rw [hlock] at hlj
        exact absurd (Option.some.inj hlj).symm hne
    · intro hj
      cases hj
  case metadata =>
    intro j m' hjm
    rcases of_goto (P := fun q => q.metadata? = some m') hjm with ⟨-, hj⟩ | ⟨-, hj⟩
    · cases hj
    · exact h.metadata j m' hj
  case finished =>
    intro j r hjr
    rcases of_goto (P := fun q => q = .finished r) hjr with ⟨rfl, hj⟩ | ⟨-, hj⟩
    · cases hj
      unfold Answered
      rw [hm]
      refine ⟨p, ?_, ?_⟩
      · show (s.journal.setDefault m.idempotencyKey p).get? m.idempotencyKey = some p
        rw [Dict.get?_setDefault, if_pos rfl, hfree]
        rfl
      · rw [replay_tagged m p htag]
    · exact (h.finished j r hj).mono fun _ _ hq => Dict.get?_setDefault_of_some hq
  case free =>
    intro j m' hc _
    rcases of_goto hc with ⟨-, hc⟩ | ⟨hne, hc⟩
    · cases hc
    · exact absurd (h.claims_eq hlock hc) hne
  case tagged =>
    intro j m' q hjq
    rcases of_goto (P := fun x => x = .storing m' q) hjq with ⟨-, hj⟩ | ⟨-, hj⟩
    · cases hj
    · exact h.tagged j m' q hj
  case puts =>
    intro j q hjq
    rcases List.mem_append.mp hjq with hjq | hjq
    · exact h.puts j q hjq
    · rw [List.mem_singleton] at hjq
      cases hjq
      exact ⟨m, hm, htag⟩
  case journal => exact h.journal_put hm hfree p
  case ops =>
    intro j hjo
    obtain ⟨mj, hmj, hs⟩ := h.stored hm hlock p hjo
    exact ⟨mj, hmj, Or.inr hs⟩
  case ops_one => exact h.ops_one

/-- Every step keeps the invariant: one case for each move. -/
theorem step_inv {s s' : State ι} {e : Event ι} (h : Inv L light cmd s)
    (hs : step L light cmd s e = some s') : Inv L light cmd s' := by
  cases step_moves hs with
  | raise i e hpc hm =>
    refine h.move_unlocked i _ (by rw [hpc]; exact id) id ?_ ?_
    · intro m hx; cases hx
    · intro r hr; cases hr; unfold Answered; rw [hm]
  | reject i p hpc hm =>
    refine h.move_unlocked i _ (by rw [hpc]; exact id) id ?_ ?_
    · intro m hx; cases hx
    · intro r hr; cases hr; unfold Answered; rw [hm]
  | queue i m hpc hm =>
    refine h.move_unlocked i _ (by rw [hpc]; exact id) id ?_ ?_
    · intro m' hx; cases hx; exact hm
    · intro r hr; cases hr
  | acquire i m hpc hl =>
    have hm : admitCommand L light (cmd i) = .ok (.ok m) := h.metadata i m (by rw [hpc]; rfl)
    refine h.move i (.locked m) (some i) ?_ ?_ ?_ ?_ ?_ ?_ ?_
    · simp [Pc.Holds]
    · intro j hj; rw [hl]; simp [Ne.symm hj]
    · intro m' hx; cases hx; exact hm
    · intro r hr; cases hr
    · intro m' hx; cases hx
    · intro m' q hq; cases hq
    · intro _ hx; rw [hpc] at hx; cases hx
  | replay i m cached hpc hj =>
    have hm : admitCommand L light (cmd i) = .ok (.ok m) := h.metadata i m (by rw [hpc]; rfl)
    refine h.release i _ (by rw [hpc]; trivial) (by rw [hpc]; exact id) ?_
    unfold Answered
    rw [hm]
    exact ⟨cached, hj, rfl⟩
  | refuse i m e hpc hj hp =>
    have hm : admitCommand L light (cmd i) = .ok (.ok m) := h.metadata i m (by rw [hpc]; rfl)
    refine h.move_locked i _ (by rw [hpc]; trivial) trivial ?_ ?_ ?_ ?_
    · intro m' hx; cases hx; exact hm
    · intro m' _ hx; cases hx; exact hj
    · intro m' q hq; cases hq; exact tagged_rejected _ _ _
    · intro _ _; trivial
  | operate i m op hpc hj hp => exact h.operate i m hpc hj
  | driver i m r hpc =>
    have hm : admitCommand L light (cmd i) = .ok (.ok m) := h.metadata i m (by rw [hpc]; rfl)
    refine h.move_locked i _ (by rw [hpc]; trivial) trivial ?_ ?_ ?_ ?_
    · intro m' hx; cases hx; exact hm
    · intro m' _ hx; cases hx; exact h.free i m (by rw [hpc]; trivial) (by rw [hpc]; rfl)
    · intro m' q hq; cases hq; exact tagged_driverPayload _ _
    · intro _ _; trivial
  | put i m p hpc => exact h.put i m p hpc

/-! ### From the invariant to the specification -/

omit [DecidableEq ι] in
theorem Inv.answered {s : State ι} (h : Inv L light cmd s) (i : ι) (r : Reply)
    (ha : Accepted L light cmd i) (hr : s.pc i = .finished r) :
    ∃ j q, firstPut L light cmd s (keyOf L light cmd i) = some (j, q) ∧
      r = .payload (if commandIdOf L light cmd j = commandIdOf L light cmd i then q
        else idempotencyConflict (commandMetadata L light (cmd i))) := by
  obtain ⟨m, hm⟩ := ha
  have hmeta := (admitCommand_ok L light (cmd i) m hm).1
  have hans := h.finished i r hr
  unfold Answered at hans
  rw [hm] at hans
  obtain ⟨q, hq, hr'⟩ := hans
  rw [h.journal, ← keyOf_eq hm] at hq
  obtain ⟨⟨j, q'⟩, hfirst, rfl⟩ := Option.map_eq_some_iff.mp hq
  refine ⟨j, q', hfirst, ?_⟩
  -- the first result stored under the key carries the command id of the call that stored it
  obtain ⟨mj, hmj, htag⟩ := h.puts j q' (List.mem_of_find?_eq_some hfirst)
  have hidj : commandIdOf L light cmd j = mj.commandId := by
    unfold commandIdOf
    rw [← (admitCommand_ok L light (cmd j) mj hmj).1]
  have hidi : commandIdOf L light cmd i = m.commandId := by
    unfold commandIdOf
    rw [← hmeta]
  rw [hr', hidj, hidi, ← hmeta]
  unfold replay
  by_cases hsame : mj.commandId = m.commandId
  · rw [if_pos hsame, if_pos ((sameCommandId_tagged mj q' htag m.commandId).mpr hsame)]
  · rw [if_neg hsame, if_neg (fun hx => hsame ((sameCommandId_tagged mj q' htag m.commandId).mp hx))]

/-- A running call can go on, or it waits for a call that can. -/
theorem Inv.progress {s : State ι} (h : Inv L light cmd s) (i : ι) (hr : (s.pc i).Running) :
    ∃ e s', step L light cmd s e = some s' ∧ ∀ j, e ≠ .start j := by
  have holder : ∀ j, (s.pc j).Holds → ∃ e s', step L light cmd s e = some s' ∧ ∀ k, e ≠ .start k := by
    intro j hj
    cases hpc : s.pc j with
    | locked m =>
      cases hget : s.journal.get? m.idempotencyKey with
      | some cached => exact ⟨.look j, _, by simp only [step, hpc, hget]; rfl, fun _ he => by cases he⟩
      | none =>
        cases hp : planOperation (cmd j) with
        | error e => exact ⟨.look j, _, by simp only [step, hpc, hget, hp]; rfl, fun _ he => by cases he⟩
        | ok op => exact ⟨.look j, _, by simp only [step, hpc, hget, hp]; rfl, fun _ he => by cases he⟩
    | operating m =>
      have hord : ordinaryOutcome (.error (valueError "no answer")) = true := by decide
      refine ⟨.driver j (.error (valueError "no answer")),
        s.goto j (.storing m (driverPayload m (.error (valueError "no answer")))), ?_, fun _ he => by cases he⟩
      simp only [step, hpc, hord]
      rfl
    | storing m p => exact ⟨.put j, _, by simp only [step, hpc]; rfl, fun _ he => by cases he⟩
    | idle => rw [hpc] at hj; cases hj
    | queued m => rw [hpc] at hj; cases hj
    | finished r => rw [hpc] at hj; cases hj
  cases hl : s.lock with
  | some j => exact holder j ((h.holds j).mpr hl)
  | none =>
    cases hpc : s.pc i with
    | queued m => exact ⟨.acquire i, _, by simp only [step, hpc, hl]; rfl, fun _ he => by cases he⟩
    | locked m => exact holder i (by rw [hpc]; trivial)
    | operating m => exact holder i (by rw [hpc]; trivial)
    | storing m p => exact holder i (by rw [hpc]; trivial)
    | idle => rw [hpc] at hr; cases hr
    | finished r => rw [hpc] at hr; cases hr

theorem Inv.duplicateSafe {s : State ι} (h : Inv L light cmd s) : DuplicateSafe L light cmd s where
  one_operation := h.ops_one
  answered := h.answered
  untouched i ha := by
    refine ⟨?_, ?_⟩
    · intro hi
      obtain ⟨m, hm, -⟩ := h.ops i hi
      exact ha ⟨m, hm⟩
    · intro q hq
      obtain ⟨m, hm, -⟩ := h.puts i q hq
      exact ha ⟨m, hm⟩
  journal := h.journal
  progress := h.progress

variable (L light cmd)

/-! ## Main result -/

/-- **Commands are duplicate-safe** in every state of every interleaving: at most one operation
for a key; every finished command that was accepted has the payload stored first under its key,
or the conflict when that result belongs to another command id; the journal holds the first
result of each key and nothing else, and only accepted commands reach it or the driver. -/
theorem commands_duplicate_safe (es : List (Event ι)) :
    Runs.Always (step L light cmd) (DuplicateSafe L light cmd) start es :=
  Runs.always_of_inv (fun _ _ _ h hs => step_inv h hs) (fun _ h => h.duplicateSafe) es
    (inv_start L light cmd)

end Machine

end Linker.Journal
