import OpenHdoLinker.Lib.Runs
import Mathlib.Logic.Function.Basic
import Mathlib.Logic.Relation

/-!
# Tasks that take locks in an order

A task runs a program of awaits, critical sections and joins, one step at a time; what it
awaits may raise, and a task that waits in line for a lock may be cancelled there.  A section
gives its lock back on every way out of it, and a `finally` block runs on every way out of its
body.

Locks are ranked, and so are tasks: a lock is taken above the locks held, and a task is joined
that takes locks above them only (`Ordered`).  Then nobody waits in a circle: every task that
waits, waits in the end for one that can go on.

    (∀ t, Ordered R t (R.floor t) (prog t)) →
      Always (step prog) (fun s => Exclusive s ∧ NoCircle prog s) (start prog main) es
                                                                  (sound_of_ordered)
-/

namespace Locking

/-! ## Programs -/

/-- What a task does as far as locks and tasks go.  `await` waits for the surroundings, `join u`
for the end of a task. -/
inductive Prog (L ι : Type*)
  | skip
  | fail
  | await
  | spawn (u : ι)
  | join (u : ι)
  | locked (l : L) (body : Prog L ι)
  | seq (p q : Prog L ι)
  | either (p q : Prog L ι)
  | any (p : ι → Prog L ι)
  | loop (body : Prog L ι)
  | tryFinally (body final : Prog L ι)
  | tryExcept (body handler : Prog L ι)

/-- What a task has still to do, innermost first. -/
inductive Frame (L ι : Type*)
  | run (p : Prog L ι)
  | release (l : L)
  | final (p : Prog L ι)
  | handler (p : Prog L ι)
  | reraise

structure Task (L ι : Type*) where
  raising : Bool
  stack : List (Frame L ι)

/-- The choice of a step: to go on, to raise at an await, to take a branch, to name a task. -/
inductive Act (ι : Type*)
  | go
  | interrupt
  | branch (left : Bool)
  | pick (u : ι)
deriving DecidableEq

/-- What a step needs or does outside of its task. -/
inductive Effect (L ι : Type*)
  | quiet
  | acquire (l : L)
  | release (l : L)
  | spawn (u : ι)
  | ended (u : ι)

variable {L ι : Type*}

/-- The task goes on with a stack. -/
def Task.normal (stack : List (Frame L ι)) : Task L ι := ⟨false, stack⟩

/-- An exception is on its way through a stack. -/
def Task.thrown (stack : List (Frame L ι)) : Task L ι := ⟨true, stack⟩

/-- A step into a program; `k` is what follows it. -/
def enter (k : List (Frame L ι)) : Prog L ι → Act ι → Option (Effect L ι × Task L ι)
  | .skip, .go => some (.quiet, .normal k)
  | .fail, .go => some (.quiet, .thrown k)
  | .await, .go => some (.quiet, .normal k)
  | .await, .interrupt => some (.quiet, .thrown k)
  | .spawn u, .go => some (.spawn u, .normal k)
  | .join u, .go => some (.ended u, .normal k)
  -- a join that is cancelled waits for the task all the same
  | .join u, .interrupt => some (.ended u, .thrown k)
  | .locked l body, .go => some (.acquire l, .normal (.run body :: .release l :: k))
  | .locked _ _, .interrupt => some (.quiet, .thrown k)
  | .seq p q, .go => some (.quiet, .normal (.run p :: .run q :: k))
  | .either p q, .branch left => some (.quiet, .normal (.run (if left then p else q) :: k))
  | .any p, .pick u => some (.quiet, .normal (.run (p u) :: k))
  | .loop body, .branch again =>
    some (.quiet, .normal (if again then .run body :: .run (.loop body) :: k else k))
  | .tryFinally body final, .go => some (.quiet, .normal (.run body :: .final final :: k))
  | .tryExcept body handler, .go => some (.quiet, .normal (.run body :: .handler handler :: k))
  | _, _ => none

/-- An exception meets the next frame. -/
def unwind (k : List (Frame L ι)) : Frame L ι → Act ι → Option (Effect L ι × Task L ι)
  | .run _, .go => some (.quiet, .thrown k)
  | .release l, .go => some (.release l, .thrown k)
  | .final p, .go => some (.quiet, .normal (.run p :: .reraise :: k))
  | .handler p, .branch caught =>
    some (.quiet, if caught then .normal (.run p :: k) else .thrown k)
  | .reraise, .go => some (.quiet, .thrown k)
  | _, _ => none

/-- The next frame when nothing was raised. -/
def proceed (k : List (Frame L ι)) : Frame L ι → Act ι → Option (Effect L ι × Task L ι)
  | .run p, a => enter k p a
  | .release l, .go => some (.release l, .normal k)
  | .final p, .go => some (.quiet, .normal (.run p :: k))
  | .handler _, .go => some (.quiet, .normal k)
  | .reraise, .go => some (.quiet, .thrown k)
  | _, _ => none

def Task.step (T : Task L ι) (a : Act ι) : Option (Effect L ι × Task L ι) :=
  match T.stack with
  | [] => none
  | f :: k => if T.raising then unwind k f a else proceed k f a

/-! ## Any number of tasks -/

/-- Who holds a lock, and the tasks that have been started. -/
structure State (L ι : Type*) where
  holder : L → Option ι
  task : ι → Option (Task L ι)

/-- The task has been started and has something to do. -/
def State.running (s : State L ι) (t : ι) : Prop := ∃ T, s.task t = some T ∧ T.stack ≠ []

instance (s : State L ι) (t : ι) : Decidable (s.running t) :=
  match h : s.task t with
  | none => .isFalse fun ⟨_, hT, _⟩ => nomatch h.symm.trans hT
  | some ⟨_, []⟩ => .isFalse fun ⟨_, hT, hne⟩ => hne (by cases h.symm.trans hT; rfl)
  | some ⟨raising, f :: k⟩ => .isTrue ⟨⟨raising, f :: k⟩, h, List.cons_ne_nil f k⟩

section Machine

variable [DecidableEq L] [DecidableEq ι] (prog : ι → Prog L ι)

/-- The state after a step of `t` to `T`, with its effect; `none` while it has to wait. -/
def State.apply (s : State L ι) (t : ι) (T : Task L ι) : Effect L ι → Option (State L ι)
  | .quiet => some { s with task := Function.update s.task t (some T) }
  | .acquire l =>
    if s.holder l = none then
      some ⟨Function.update s.holder l (some t), Function.update s.task t (some T)⟩
    else none
  | .release l =>
    some ⟨Function.update s.holder l none, Function.update s.task t (some T)⟩
  | .spawn u =>
    let started := if (s.task u).isNone then Function.update s.task u (some (.normal [.run (prog u)]))
      else s.task
    some { s with task := Function.update started t (some T) }
  | .ended u =>
    if s.running u then none else some { s with task := Function.update s.task t (some T) }

def step (s : State L ι) (e : ι × Act ι) : Option (State L ι) :=
  match s.task e.1 with
  | none => none
  | some T =>
    match T.step e.2 with
    | none => none
    | some (effect, T') => s.apply prog e.1 T' effect

/-- One task has been started. -/
def start (main : ι) : State L ι where
  holder _ := none
  task := Function.update (fun _ => none) main (some (.normal [.run (prog main)]))

/-! ## Statement -/

/-- `t` is at the head of a section whose lock `u` holds, or joins `u`, which has not ended. -/
def WaitsFor (s : State L ι) (t u : ι) : Prop :=
  ∃ T T', s.task t = some T ∧
    ((∃ l, T.step .go = some (.acquire l, T') ∧ s.holder l = some u) ∨
      T.step .go = some (.ended u, T') ∧ s.running u)

/-- `t` can take a step without being interrupted. -/
def GoesOn (s : State L ι) (t : ι) : Prop := ∃ a, a ≠ .interrupt ∧ (step prog s (t, a)).isSome

/-- Whoever waits, waits in the end for a task that can go on. -/
def NoCircle (s : State L ι) : Prop :=
  ∀ t, s.running t → ∃ u, Relation.ReflTransGen (WaitsFor s) t u ∧ GoesOn prog s u

end Machine

/-- The locks a task holds, the last one first. -/
def held : List (Frame L ι) → List L
  | [] => []
  | .release l :: k => l :: held k
  | _ :: k => held k

/-- No two tasks are inside a section of the same lock. -/
def Exclusive (s : State L ι) : Prop :=
  ∀ l t u T U, s.task t = some T → s.task u = some U → l ∈ held T.stack → l ∈ held U.stack → t = u

/-- Ranks of locks, up to `top`, and of tasks: the least rank of a lock that a task may take, and
its place in the order of the joins. -/
structure Ranks (L ι : Type*) where
  lock : L → Nat
  top : Nat
  lock_lt : ∀ l, lock l < top
  floor : ι → Nat
  depth : ι → Nat

/-- The program takes only locks of rank `b` and more, each above those it holds, and joins tasks
that come earlier and take only higher locks than it holds. -/
def Ordered (R : Ranks L ι) (t : ι) : Nat → Prog L ι → Prop
  | b, .join u => b ≤ R.floor u ∧ R.depth u < R.depth t
  | b, .locked l body => b ≤ R.lock l ∧ Ordered R t (R.lock l + 1) body
  | b, .seq p q => Ordered R t b p ∧ Ordered R t b q
  | b, .either p q => Ordered R t b p ∧ Ordered R t b q
  | b, .any p => ∀ u, Ordered R t b (p u)
  | b, .loop body => Ordered R t b body
  | b, .tryFinally body final => Ordered R t b body ∧ Ordered R t b final
  | b, .tryExcept body handler => Ordered R t b body ∧ Ordered R t b handler
  | _, _ => True

/-! ## Lemmas -/

section Stacks

variable (R : Ranks L ι) (t : ι)

/-- The least rank of a lock that the task with this stack may take next. -/
def bound : List (Frame L ι) → Nat
  | [] => R.floor t
  | .release l :: _ => R.lock l + 1
  | _ :: k => bound k

def FrameOk (k : List (Frame L ι)) : Frame L ι → Prop
  | .run p => Ordered R t (bound R t k) p
  | .release l => bound R t k ≤ R.lock l
  | .final p => Ordered R t (bound R t k) p
  | .handler p => Ordered R t (bound R t k) p
  | .reraise => True

/-- Each frame keeps to the ranks, given the frames below it. -/
def StackOk : List (Frame L ι) → Prop
  | [] => True
  | f :: k => FrameOk R t k f ∧ StackOk k

variable {R t} {k : List (Frame L ι)}

theorem floor_le_bound (h : StackOk R t k) : R.floor t ≤ bound R t k := by
  induction k with
  | nil => exact Nat.le_refl _
  | cons f k ih =>
    have hk := ih h.2
    cases f with
    | release l =>
      have hl : bound R t k ≤ R.lock l := h.1
      unfold bound
      omega
    | run p => exact hk
    | final p => exact hk
    | handler p => exact hk
    | reraise => exact hk

/-- The locks held are below the bound. -/
theorem lock_lt_bound (h : StackOk R t k) {l : L} (hl : l ∈ held k) : R.lock l < bound R t k := by
  induction k with
  | nil => cases hl
  | cons f k ih =>
    cases f with
    | release l' =>
      have hl' : bound R t k ≤ R.lock l' := h.1
      rcases List.mem_cons.mp hl with rfl | hl
      · exact Nat.lt_succ_self _
      · have hlt := ih h.2 hl
        unfold bound
        omega
    | run p => exact ih h.2 hl
    | final p => exact ih h.2 hl
    | handler p => exact ih h.2 hl
    | reraise => exact ih h.2 hl

/-- No lock is held twice. -/
theorem held_nodup (h : StackOk R t k) : (held k).Nodup := by
  induction k with
  | nil => exact List.nodup_nil
  | cons f k ih =>
    cases f with
    | release l =>
      refine List.nodup_cons.mpr ⟨fun hl => ?_, ih h.2⟩
      have hlt := lock_lt_bound h.2 hl
      have hle : bound R t k ≤ R.lock l := h.1
      omega
    | run p => exact ih h.2
    | final p => exact ih h.2
    | handler p => exact ih h.2
    | reraise => exact ih h.2

end Stacks

/-! ### A step of one task -/

/-- What a step with this effect does to the locks its task holds. -/
def Effect.Holds (before after : List L) : Effect L ι → Prop
  | .acquire l => after = l :: before
  | .release l => before = l :: after
  | _ => after = before

/-- A step with this effect keeps nobody waiting. -/
def Effect.free : Effect L ι → Bool
  | .acquire _ | .ended _ => false
  | _ => true

section Steps

variable {R : Ranks L ι} {t : ι} {T T' : Task L ι} {a : Act ι} {e : Effect L ι}
variable {k : List (Frame L ι)}

/-- What a step from a frame on top of `k` may come to. -/
structure Goes (R : Ranks L ι) (t : ι) (k : List (Frame L ι)) (before : List L) (e : Effect L ι)
    (T' : Task L ι) : Prop where
  ok : StackOk R t T'.stack
  holds : e.Holds before (held T'.stack)
  acquired : ∀ l, e = .acquire l → bound R t k ≤ R.lock l
  joined : ∀ u, e = .ended u → bound R t k ≤ R.floor u ∧ R.depth u < R.depth t

/-- A step that neither takes a lock nor joins a task. -/
theorem Goes.of_quiet {before : List L} (hok : StackOk R t T'.stack)
    (hheld : held T'.stack = before) : Goes R t k before .quiet T' :=
  ⟨hok, hheld, nofun, nofun⟩

theorem enter_goes {p : Prog L ι} (hp : Ordered R t (bound R t k) p) (hk : StackOk R t k)
    (h : enter k p a = some (e, T')) : Goes R t k (held k) e T' := by
  unfold enter at h
  split at h
  case h_16 => cases h
  all_goals
    cases h
  -- `skip`, `fail`, `await` and `spawn`
  · exact .of_quiet hk rfl
  · exact .of_quiet hk rfl
  · exact .of_quiet hk rfl
  · exact .of_quiet hk rfl
  · exact ⟨hk, rfl, nofun, nofun⟩
  -- `join`
  · exact ⟨hk, rfl, nofun, fun u hu => by cases hu; exact hp⟩
  · exact ⟨hk, rfl, nofun, fun u hu => by cases hu; exact hp⟩
  -- `locked`
  · exact ⟨⟨hp.2, hp.1, hk⟩, rfl, fun l hl => by cases hl; exact hp.1, nofun⟩
  · exact .of_quiet hk rfl
  · exact .of_quiet ⟨hp.1, hp.2, hk⟩ rfl
  · rename_i left
    cases left with
    | true => exact .of_quiet ⟨hp.1, hk⟩ rfl
    | false => exact .of_quiet ⟨hp.2, hk⟩ rfl
  · exact .of_quiet ⟨hp _, hk⟩ rfl
  · rename_i again
    cases again with
    | true => exact .of_quiet ⟨hp, hp, hk⟩ rfl
    | false => exact .of_quiet hk rfl
  · exact .of_quiet ⟨hp.1, hp.2, hk⟩ rfl
  · exact .of_quiet ⟨hp.1, hp.2, hk⟩ rfl

theorem unwind_goes {f : Frame L ι} (hf : FrameOk R t k f) (hk : StackOk R t k)
    (h : unwind k f a = some (e, T')) : Goes R t (f :: k) (held (f :: k)) e T' := by
  unfold unwind at h
  split at h
  case h_6 => cases h
  all_goals
    cases h
  · exact .of_quiet hk rfl
  · exact ⟨hk, rfl, nofun, nofun⟩
  · exact .of_quiet ⟨hf, trivial, hk⟩ rfl
  · rename_i caught
    cases caught with
    | true => exact .of_quiet ⟨hf, hk⟩ rfl
    | false => exact .of_quiet hk rfl
  · exact .of_quiet hk rfl

theorem proceed_goes {f : Frame L ι} (hf : FrameOk R t k f) (hk : StackOk R t k)
    (h : proceed k f a = some (e, T')) : Goes R t (f :: k) (held (f :: k)) e T' := by
  unfold proceed at h
  split at h
  case h_6 => cases h
  case h_1 =>
    obtain ⟨hok, hholds, hacquired, hjoined⟩ := enter_goes hf hk h
    exact ⟨hok, hholds, hacquired, hjoined⟩
  all_goals
    cases h
  · exact ⟨hk, rfl, nofun, nofun⟩
  · exact .of_quiet ⟨hf, hk⟩ rfl
  · exact .of_quiet hk rfl
  · exact .of_quiet hk rfl

/-- **What a step may come to.** -/
theorem Task.step_goes (hT : StackOk R t T.stack) (h : T.step a = some (e, T')) :
    Goes R t T.stack (held T.stack) e T' := by
  unfold Task.step at h
  split at h
  · cases h
  · next f k hstack =>
    rw [hstack] at hT ⊢
    split at h
    · exact unwind_goes hT.1 hT.2 h
    · exact proceed_goes hT.1 hT.2 h

/-- What a program can do without being interrupted: a step that keeps nobody waiting, or its
section or its join. -/
theorem enter_moves (k : List (Frame L ι)) (p : Prog L ι) (t : ι) :
    ∃ a e T', a ≠ .interrupt ∧ enter k p a = some (e, T') ∧ (e.free = true ∨ a = .go) := by
  cases p with
  | either p q => exact ⟨.branch true, _, _, nofun, rfl, .inl rfl⟩
  | any p => exact ⟨.pick t, _, _, nofun, rfl, .inl rfl⟩
  | loop body => exact ⟨.branch true, _, _, nofun, rfl, .inl rfl⟩
  | _ => exact ⟨.go, _, _, nofun, rfl, .inr rfl⟩

theorem Task.moves (T : Task L ι) (hT : T.stack ≠ []) (t : ι) :
    ∃ a e T', a ≠ .interrupt ∧ T.step a = some (e, T') ∧ (e.free = true ∨ a = .go) := by
  obtain ⟨raising, stack⟩ := T
  cases stack with
  | nil => exact absurd rfl hT
  | cons f k =>
    cases raising with
    | true =>
      cases f with
      | handler p => exact ⟨.branch true, _, _, nofun, rfl, .inl rfl⟩
      | _ => exact ⟨.go, _, _, nofun, rfl, .inr rfl⟩
    | false =>
      cases f with
      | run p => exact enter_moves k p t
      | _ => exact ⟨.go, _, _, nofun, rfl, .inr rfl⟩

end Steps

/-! ### The invariant of all tasks -/

section Invariant

variable {prog : ι → Prog L ι} {R : Ranks L ι} {s s' : State L ι}

/-- Every task keeps to the ranks, and a lock is held by the task that has to give it back. -/
structure Inv (R : Ranks L ι) (s : State L ι) : Prop where
  ok : ∀ t T, s.task t = some T → StackOk R t T.stack
  holds : ∀ l t, s.holder l = some t ↔ ∃ T, s.task t = some T ∧ l ∈ held T.stack

theorem Inv.mem_held {t : ι} {T : Task L ι} (hs : Inv R s) (hT : s.task t = some T) (l : L) :
    s.holder l = some t ↔ l ∈ held T.stack := by
  rw [hs.holds l t]
  constructor
  · rintro ⟨U, hU, hl⟩
    cases hT.symm.trans hU
    exact hl
  · exact fun hl => ⟨T, hT, hl⟩

theorem Inv.exclusive (hs : Inv R s) : Exclusive s := by
  intro l t u T U hT hU ht hu
  have hholder := (hs.mem_held hT l).mpr ht
  rw [(hs.mem_held hU l).mpr hu] at hholder
  exact (Option.some.inj hholder).symm

variable [DecidableEq ι]

/-- A task changes, and the locks change hands as its stack says. -/
theorem Inv.update {holder : L → Option ι} {t : ι} {T T' : Task L ι} (hs : Inv R s)
    (hT : s.task t = some T) (hok : StackOk R t T'.stack)
    (hself : ∀ l, holder l = some t ↔ l ∈ held T'.stack)
    (hother : ∀ l u, u ≠ t → (holder l = some u ↔ s.holder l = some u)) :
    Inv R ⟨holder, Function.update s.task t (some T')⟩ where
  ok u U hU := by
    dsimp only at hU
    by_cases h : u = t
    · subst h
      rw [Function.update_self] at hU
      cases hU
      exact hok
    · rw [Function.update_of_ne h] at hU
      exact hs.ok u U hU
  holds l u := by
    dsimp only
    by_cases h : u = t
    · subst h
      rw [Function.update_self, hself]
      constructor
      · exact fun hl => ⟨T', rfl, hl⟩
      · rintro ⟨U, hU, hl⟩
        cases hU
        exact hl
    · rw [Function.update_of_ne h, hother l u h]
      exact hs.holds l u

/-- A task that is started holds no lock. -/
theorem Inv.spawn {u : ι} (hs : Inv R s) (hprog : ∀ t, Ordered R t (R.floor t) (prog t))
    (hu : s.task u = none) :
    Inv R { s with task := Function.update s.task u (some (.normal [.run (prog u)])) } where
  ok t T hT := by
    dsimp only at hT
    by_cases h : t = u
    · subst h
      rw [Function.update_self] at hT
      cases hT
      exact ⟨hprog t, trivial⟩
    · rw [Function.update_of_ne h] at hT
      exact hs.ok t T hT
  holds l t := by
    dsimp only
    by_cases h : t = u
    · subst h
      rw [hs.holds l t, hu, Function.update_self]
      refine ⟨nofun, ?_⟩
      rintro ⟨T, hT, hl⟩
      cases hT
      cases hl
    · rw [Function.update_of_ne h]
      exact hs.holds l t

theorem inv_start (hprog : ∀ t, Ordered R t (R.floor t) (prog t)) (main : ι) :
    Inv R (start prog main) :=
  Inv.spawn (s := ⟨fun _ => none, fun _ => none⟩) ⟨nofun, fun _ _ => ⟨nofun, nofun⟩⟩ hprog rfl

variable [DecidableEq L]

theorem apply_inv {t : ι} {T T' : Task L ι} {e : Effect L ι} (hs : Inv R s)
    (hprog : ∀ t, Ordered R t (R.floor t) (prog t)) (hT : s.task t = some T)
    (hgoes : Goes R t T.stack (held T.stack) e T') (h : s.apply prog t T' e = some s') :
    Inv R s' := by
  have hsame (hheld : held T'.stack = held T.stack) (l : L) :
      s.holder l = some t ↔ l ∈ held T'.stack := by
    rw [hheld]
    exact hs.mem_held hT l
  cases e with
  | quiet =>
    cases h
    exact hs.update hT hgoes.ok (hsame hgoes.holds) fun _ _ _ => Iff.rfl
  | ended u =>
    dsimp only [State.apply] at h
    split at h
    · cases h
    · cases h
      exact hs.update hT hgoes.ok (hsame hgoes.holds) fun _ _ _ => Iff.rfl
  | acquire l =>
    dsimp only [State.apply] at h
    split at h
    · next hfree =>
      cases h
      refine hs.update hT hgoes.ok ?_ ?_
      · intro l'
        rw [show held T'.stack = l :: held T.stack from hgoes.holds, List.mem_cons]
        by_cases heq : l' = l
        · subst heq
          simp
        · rw [Function.update_of_ne heq, hs.mem_held hT l']
          simp [heq]
      · intro l' u hu
        by_cases heq : l' = l
        · subst heq
          rw [Function.update_self, hfree]
          simp [Ne.symm hu]
        · rw [Function.update_of_ne heq]
    · cases h
  | release l =>
    cases h
    have hheld : held T.stack = l :: held T'.stack := hgoes.holds
    have hmine : s.holder l = some t := by
      rw [hs.mem_held hT l, hheld]
      exact List.mem_cons_self
    have honce : l ∉ held T'.stack := (List.nodup_cons.mp (hheld ▸ held_nodup (hs.ok t T hT))).1
    refine hs.update hT hgoes.ok ?_ ?_
    · intro l'
      by_cases heq : l' = l
      · subst heq
        simp [honce]
      · rw [Function.update_of_ne heq, hs.mem_held hT l', hheld]
        simp [heq]
    · intro l' u hu
      by_cases heq : l' = l
      · subst heq
        rw [Function.update_self, hmine]
        simp [Ne.symm hu]
      · rw [Function.update_of_ne heq]
  | spawn u =>
    dsimp only [State.apply] at h
    cases hu : s.task u with
    | none =>
      rw [hu] at h
      cases h
      have htu : t ≠ u := by
        rintro rfl
        rw [hT] at hu
        cases hu
      exact (hs.spawn hprog hu).update ((Function.update_of_ne htu _ _).trans hT) hgoes.ok
        (hsame hgoes.holds) fun _ _ _ => Iff.rfl
    | some U =>
      rw [hu] at h
      cases h
      exact hs.update hT hgoes.ok (hsame hgoes.holds) fun _ _ _ => Iff.rfl

theorem step_inv (hprog : ∀ t, Ordered R t (R.floor t) (prog t)) {e : ι × Act ι} (hs : Inv R s)
    (h : step prog s e = some s') : Inv R s' := by
  unfold step at h
  cases hT : s.task e.1 with
  | none =>
    rw [hT] at h
    cases h
  | some T =>
    rw [hT] at h
    cases hstep : T.step e.2 with
    | none =>
      simp only [hstep] at h
      cases h
    | some r =>
      simp only [hstep] at h
      exact apply_inv hs hprog hT (Task.step_goes (hs.ok _ T hT) hstep) h

/-! ### Waiting -/

theorem step_of_task (prog : ι → Prog L ι) {t : ι} {T T' : Task L ι} {a : Act ι}
    {e : Effect L ι} (hT : s.task t = some T) (h : T.step a = some (e, T')) :
    step prog s (t, a) = s.apply prog t T' e := by
  unfold step
  rw [hT]
  simp only [h]

/-- A task with a step that keeps nobody waiting goes on. -/
theorem apply_free {t : ι} {T : Task L ι} {e : Effect L ι} (he : e.free = true) :
    (s.apply prog t T e).isSome := by
  cases e with
  | quiet => rfl
  | release l => rfl
  | spawn u => rfl
  | acquire l => cases he
  | ended u => cases he

/-- **Nobody waits in a circle.**  The rank of the lock waited for rises along the way, and where it
stays the same the tasks joined come earlier and earlier. -/
theorem Inv.waits_end (hs : Inv R s) {t : ι} {T : Task L ι} (hT : s.task t = some T)
    (hne : T.stack ≠ []) : ∃ u, Relation.ReflTransGen (WaitsFor s) t u ∧ GoesOn prog s u := by
  obtain ⟨a, e, T', ha, hstep, hfree⟩ := T.moves hne t
  have hgoes := Task.step_goes (hs.ok t T hT) hstep
  have happly := step_of_task prog hT hstep
  by_cases he : e.free = true
  · exact ⟨t, .refl, a, ha, by rw [happly]; exact apply_free he⟩
  have hgo : a = .go := hfree.resolve_left he
  subst hgo
  cases e with
  | quiet => exact absurd rfl he
  | release l => exact absurd rfl he
  | spawn u => exact absurd rfl he
  | acquire l =>
    cases hl : s.holder l with
    | none =>
      refine ⟨t, .refl, .go, ha, ?_⟩
      rw [happly]
      dsimp only [State.apply]
      rw [if_pos hl]
      rfl
    | some u =>
      obtain ⟨U, hU, hmem⟩ := (hs.holds l u).mp hl
      have hUne : U.stack ≠ [] := by
        intro hnil
        rw [hnil] at hmem
        cases hmem
      have hwait : WaitsFor s t u := ⟨T, T', hT, .inl ⟨l, hstep, hl⟩⟩
      have hless : R.top - bound R u U.stack < R.top - bound R t T.stack := by
        have h₁ := hgoes.acquired l rfl
        have h₂ := lock_lt_bound (hs.ok u U hU) hmem
        have h₃ := R.lock_lt l
        omega
      obtain ⟨v, hv, hon⟩ := hs.waits_end hU hUne
      exact ⟨v, .head hwait hv, hon⟩
  | ended u =>
    by_cases hrun : s.running u
    · obtain ⟨U, hU, hUne⟩ := hrun
      have hwait : WaitsFor s t u := ⟨T, T', hT, .inr ⟨hstep, U, hU, hUne⟩⟩
      obtain ⟨hfloor, hdepth⟩ := hgoes.joined u rfl
      have hle : R.top - bound R u U.stack ≤ R.top - bound R t T.stack := by
        have h := floor_le_bound (hs.ok u U hU)
        omega
      obtain ⟨v, hv, hon⟩ := hs.waits_end hU hUne
      exact ⟨v, .head hwait hv, hon⟩
    · refine ⟨t, .refl, .go, ha, ?_⟩
      rw [happly]
      dsimp only [State.apply]
      rw [if_neg hrun]
      rfl
termination_by (R.top - bound R t T.stack, R.depth t)
decreasing_by
  · exact Prod.Lex.left _ _ hless
  · rcases Nat.lt_or_eq_of_le hle with hlt | heq
    · exact Prod.Lex.left _ _ hlt
    · rw [heq]
      exact Prod.Lex.right _ hdepth

end Invariant

/-! ## Main result -/

/-- **Ordered programs do not deadlock**: along every run a lock has at most one holder, and whoever
waits, waits in the end for a task that can go on. -/
theorem sound_of_ordered [DecidableEq L] [DecidableEq ι] {prog : ι → Prog L ι} {R : Ranks L ι}
    (hprog : ∀ t, Ordered R t (R.floor t) (prog t)) (main : ι) (es : List (ι × Act ι)) :
    Runs.Always (step prog) (fun s => Exclusive s ∧ NoCircle prog s) (start prog main) es := by
  refine Runs.always_of_inv (I := Inv R) (fun _ _ _ hs h => step_inv hprog hs h) ?_ es
    (inv_start hprog main)
  intro s hs
  refine ⟨hs.exclusive, ?_⟩
  rintro t ⟨T, hT, hne⟩
  exact hs.waits_end hT hne

end Locking
