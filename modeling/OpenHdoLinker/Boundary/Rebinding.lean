import OpenHdoLinker.Boundary.Calls

/-!
# Answers for the light a command names

`handle` checks the light of a command before it waits for the command lock, and its
journal knows keys and command ids only.  A pairing in between leaves the check
behind, and a journaled result may belong to another light.

    Meets (step L cmd) Steady s es → Always (step L cmd) (AnswersFor L cmd) s es
                                                        (commands_answer_for_their_light)
-/

namespace Linker.Calls

open Py

section Machine

variable {ι : Type} [DecidableEq ι] (L : PyLib) (cmd : ι → Envelope)

/-! ## Specification -/

/-- `payload.get("status") == "applied"`. -/
def IsApplied (p : JsonObj) : Prop := (getItem p "status").str? = some "applied"

/-- Call `j` started its operation while the boundary was bound to the light: on the device of that
binding. -/
def PerformedOn (s : State ι) (j : ι) (light : String) : Prop :=
  ∃ b, (j, b) ∈ s.started ∧ b.light = some light

/-- Whoever is answered with an applied payload named the light in it, and the operation it reports
is that of the call which stored it, performed on the device of this light. -/
def AnswersFor (s : State ι) : Prop :=
  ∀ i p light, s.calls.pc i = .finished (.payload p) → IsApplied p →
    requiredString (cmd i).payload "light_id" = .ok light →
    getItem p "light_id" = .str light ∧
    ∃ j, (j, p) ∈ s.calls.puts ∧ Journal.keyOf L none cmd j = Journal.keyOf L none cmd i ∧
      PerformedOn s j light

/-- At its look-up, a call that is to operate finds the boundary bound to its light, and a call
that is to repeat an applied result finds its light in it. -/
structure SteadyLook (s : State ι) (i : ι) (m : CommandMetadata) : Prop where
  operate : s.calls.journal.get? m.idempotencyKey = none →
    ∀ op, planOperation (cmd i) = .ok op → s.binding.light = some m.lightId
  replay : ∀ q, s.calls.journal.get? m.idempotencyKey = some q →
    sameCommandId q m.commandId = true → IsApplied q → getItem q "light_id" = .str m.lightId

def Steady (s : State ι) : Event ι → Prop
  | .call (.look i) => ∀ m, s.calls.pc i = .locked m → SteadyLook cmd s i m
  | _ => True

/-- The command of a call at its look-up. -/
def looking? : Journal.Pc → Option CommandMetadata
  | .locked m => some m
  | _ => none

theorem looking?_eq_some (p : Journal.Pc) (m : CommandMetadata) : looking? p = some m ↔ p = .locked m := by
  cases p <;> simp [looking?]

instance : DecidablePred IsApplied := fun _ => inferInstanceAs (Decidable (_ = _))

omit [DecidableEq ι] in
theorem steadyLook_iff (s : State ι) (i : ι) (m : CommandMetadata) :
    ((s.calls.journal.get? m.idempotencyKey = none → (planOperation (cmd i)).isOk = true →
        s.binding.light = some m.lightId) ∧
      ∀ q ∈ s.calls.journal.get? m.idempotencyKey, sameCommandId q m.commandId = true → IsApplied q →
        (getItem q "light_id").str? = some m.lightId) ↔ SteadyLook cmd s i m := by
  simp only [Json.str?_eq_some]
  constructor
  · rintro ⟨h₁, h₂⟩
    refine ⟨fun hnew op hop => h₁ hnew ?_, h₂⟩
    rw [hop]
    rfl
  · intro h
    refine ⟨fun hnew hok => ?_, h.replay⟩
    cases hop : planOperation (cmd i) with
    | ok op => exact h.operate hnew op hop
    | error e =>
      rw [hop] at hok
      cases hok

instance (s : State ι) (i : ι) (m : CommandMetadata) : Decidable (SteadyLook cmd s i m) :=
  decidable_of_iff _ (steadyLook_iff cmd s i m)

omit [DecidableEq ι] in
theorem steady_look_iff (s : State ι) (i : ι) :
    (∀ m ∈ looking? (s.calls.pc i), SteadyLook cmd s i m) ↔ Steady cmd s (.call (.look i)) :=
  forall_congr' fun m => imp_congr_left (looking?_eq_some _ m)

instance (s : State ι) : DecidablePred (Steady cmd s)
  | .call (.look i) => decidable_of_iff _ (steady_look_iff cmd s i)
  | .call (.start _) | .call (.acquire _) | .call (.driver _ _) | .call (.put _) | .cancel _
  | .paired _ _ => isTrue trivial

/-! ## Lemmas -/

variable {L cmd}

/-- The call an event belongs to. -/
def eventCall : Journal.Event ι → ι
  | .start i => i
  | .acquire i => i
  | .look i => i
  | .driver i _ => i
  | .put i => i

/-- A step moves the call of its event and no other. -/
theorem step_others {light : Option String} {s t : Journal.State ι} {e : Journal.Event ι} {j : ι}
    (h : Journal.step L light cmd s e = some t) (hj : j ≠ eventCall e) : t.pc j = s.pc j := by
  have hkept : ∀ p, (s.goto (eventCall e) p).pc j = s.pc j := fun p => by
    rw [Journal.goto_pc, if_neg hj]
  cases e with
  | start i =>
    simp only [Journal.step] at h
    split at h
    · split at h
      · cases h; exact hkept _
      · cases h; exact hkept _
      · cases h; exact hkept _
    · cases h
  | acquire i =>
    simp only [Journal.step] at h
    split at h
    · cases h; exact hkept _
    · cases h
  | look i =>
    simp only [Journal.step] at h
    split at h
    · split at h
      · cases h; exact hkept _
      · split at h
        · cases h; exact hkept _
        · cases h; exact hkept _
    · cases h
  | driver i r =>
    simp only [Journal.step] at h
    split at h
    · split at h
      · cases h; exact hkept _
      · cases h
    · cases h
  | put i =>
    simp only [Journal.step] at h
    split at h
    · cases h; exact hkept _
    · cases h

/-- A call leaves its look-up by looking up. -/
theorem event_of_look {light : Option String} {s t : Journal.State ι} {e : Journal.Event ι} {i : ι}
    {m : CommandMetadata} (h : Journal.step L light cmd s e = some t) (hpc : s.pc i = .locked m)
    (hne : t.pc i ≠ .locked m) : e = .look i := by
  have hi : i = eventCall e := by
    by_contra hi
    exact hne ((step_others h hi).trans hpc)
  subst hi
  cases e with
  | look j => rfl
  | start j => simp only [Journal.step, show s.pc j = _ from hpc] at h; cases h
  | acquire j => simp only [Journal.step, show s.pc j = _ from hpc] at h; cases h
  | driver j r => simp only [Journal.step, show s.pc j = _ from hpc] at h; cases h
  | put j => simp only [Journal.step, show s.pc j = _ from hpc] at h; cases h

/-! ### Only driver answers say applied -/

theorem not_isApplied_rejected (m : CommandMetadata) (code message : String) :
    ¬ IsApplied (rejected m code message) := by
  intro h
  have hs : some "rejected" = some "applied" := h
  exact absurd (Option.some.inj hs) (by decide)

/-- A payload of the driver's answer names the light of the command. -/
theorem lightId_driverPayload (m : CommandMetadata) (r : Except PyErr LightState) :
    getItem (driverPayload m r) "light_id" = .str m.lightId := by
  unfold driverPayload statePayload
  split
  · split
    · rfl
    · rfl
  · rfl

theorem replay_isApplied {q : JsonObj} {m : CommandMetadata} (h : IsApplied (replay q m)) :
    replay q m = q ∧ sameCommandId q m.commandId = true := by
  unfold replay at *
  split at h
  · next hsame => exact ⟨if_pos hsame, hsame⟩
  · exact absurd h (not_isApplied_rejected _ _ _)

/-! ### The invariant -/

/-- An applied payload of call `i` is about its light, and about the operation of the call. -/
def AppliedFor (s : State ι) (i : ι) (light : String) (p : JsonObj) : Prop :=
  IsApplied p → getItem p "light_id" = .str light ∧ PerformedOn s i light

variable (L cmd)

structure Faithful (s : State ι) : Prop extends Locked L cmd s.calls where
  operating : ∀ i m, s.calls.pc i = .operating m → PerformedOn s i m.lightId
  storing : ∀ i m p, s.calls.pc i = .storing m p → AppliedFor s i m.lightId p
  puts : ∀ i p, (i, p) ∈ s.calls.puts →
    ∃ m, admitCommand L (some m.lightId) (cmd i) = .ok (.ok m) ∧ AppliedFor s i m.lightId p
  journal : ∀ key q, s.calls.journal.get? key = some q →
    ∃ j, (j, q) ∈ s.calls.puts ∧ Journal.keyOf L none cmd j = key
  answers : AnswersFor L cmd s

omit [DecidableEq ι] in
theorem faithful_start (b : Binding) : Faithful L cmd (start b : State ι) where
  toLocked := locked_start
  operating i m h := by cases h
  storing i m p h := by cases h
  puts i p h := by cases h
  journal key q h := by cases h
  answers i p light h := by cases h

variable {L cmd}

omit [DecidableEq ι] in
theorem PerformedOn.mono {s t : State ι} {i : ι} {light : String} (h : PerformedOn s i light)
    (hst : ∀ x ∈ s.started, x ∈ t.started) : PerformedOn t i light := by
  obtain ⟨b, hb, hlight⟩ := h
  exact ⟨b, hst _ hb, hlight⟩

/-- **Frame rule.**  Call `i` moves to `p`; the journal and its history stay, and started operations
are not forgotten. -/
theorem Faithful.move {s t : State ι} (h : Faithful L cmd s) {i : ι} {p : Journal.Pc}
    (hl : Locked L cmd t.calls) (hpc : t.calls.pc = (s.calls.goto i p).pc)
    (hputs : t.calls.puts = s.calls.puts) (hjournal : t.calls.journal = s.calls.journal)
    (hstarted : ∀ x ∈ s.started, x ∈ t.started)
    (hop : ∀ m, p = .operating m → PerformedOn t i m.lightId)
    (hst : ∀ m q, p = .storing m q → AppliedFor t i m.lightId q)
    (hfin : ∀ q light, p = .finished (.payload q) → IsApplied q →
      requiredString (cmd i).payload "light_id" = .ok light →
      getItem q "light_id" = .str light ∧
      ∃ j, (j, q) ∈ t.calls.puts ∧ Journal.keyOf L none cmd j = Journal.keyOf L none cmd i ∧
        PerformedOn t j light) : Faithful L cmd t := by
  have happlied : ∀ {j light q}, AppliedFor s j light q → AppliedFor t j light q :=
    fun ha hq => ⟨(ha hq).1, (ha hq).2.mono hstarted⟩
  refine ⟨hl, ?_, ?_, ?_, ?_, ?_⟩
  · intro j m hj
    rw [hpc] at hj
    rcases Journal.of_goto (P := fun q => q = .operating m) hj with ⟨rfl, hp⟩ | ⟨-, hj⟩
    · exact hop m hp
    · exact (h.operating j m hj).mono hstarted
  · intro j m q hj
    rw [hpc] at hj
    rcases Journal.of_goto (P := fun x => x = .storing m q) hj with ⟨rfl, hp⟩ | ⟨-, hj⟩
    · exact hst m q hp
    · exact happlied (h.storing j m q hj)
  · intro j q hj
    rw [hputs] at hj
    obtain ⟨m, hm, ha⟩ := h.puts j q hj
    exact ⟨m, hm, happlied ha⟩
  · intro key q hq
    rw [hjournal] at hq
    rw [hputs]
    exact h.journal key q hq
  · intro j q light hj happ hreq
    rw [hpc] at hj
    rcases Journal.of_goto (P := fun x => x = .finished (.payload q)) hj with ⟨rfl, hp⟩ | ⟨-, hj⟩
    · exact hfin q light hp happ hreq
    · obtain ⟨hlight, k, hk, hkey, hperf⟩ := h.answers j q light hj happ hreq
      exact ⟨hlight, k, hputs ▸ hk, hkey, hperf.mono hstarted⟩

theorem Faithful.put {s t : State ι} (h : Faithful L cmd s) {i : ι} {m : CommandMetadata}
    {p : JsonObj} (hl : Locked L cmd t.calls) (hpc : s.calls.pc i = .storing m p)
    (hstarted : ∀ x ∈ s.started, x ∈ t.started)
    (ht : t.calls = { s.calls.goto i (.finished (.payload p)) with
      lock := none
      journal := s.calls.journal.setDefault m.idempotencyKey p
      puts := s.calls.puts ++ [(i, p)] }) : Faithful L cmd t := by
  have hm := h.metadata i m (by rw [hpc]; rfl)
  have happlied : AppliedFor t i m.lightId p := fun ha =>
    ⟨(h.storing i m p hpc ha).1, (h.storing i m p hpc ha).2.mono hstarted⟩
  have hself : (i, p) ∈ t.calls.puts := by
    rw [ht]
    exact List.mem_append_right _ (List.mem_singleton.mpr rfl)
  have hold : ∀ x ∈ s.calls.puts, x ∈ t.calls.puts := fun x hx => by
    rw [ht]
    exact List.mem_append_left _ hx
  have htpc : t.calls.pc = (s.calls.goto i (.finished (.payload p))).pc := by rw [ht]
  constructor
  case toLocked => exact hl
  case operating =>
    intro j m' hj
    rw [htpc] at hj
    rcases Journal.of_goto (P := fun q => q = .operating m') hj with ⟨-, hp⟩ | ⟨-, hj⟩
    · cases hp
    · exact (h.operating j m' hj).mono hstarted
  case storing =>
    intro j m' q hj
    rw [htpc] at hj
    rcases Journal.of_goto (P := fun x => x = .storing m' q) hj with ⟨-, hp⟩ | ⟨-, hj⟩
    · cases hp
    · exact fun ha => ⟨(h.storing j m' q hj ha).1, (h.storing j m' q hj ha).2.mono hstarted⟩
  case puts =>
    intro j q hj
    rw [ht] at hj
    rcases List.mem_append.mp hj with hj | hj
    · obtain ⟨m', hm', ha⟩ := h.puts j q hj
      exact ⟨m', hm', fun hq => ⟨(ha hq).1, (ha hq).2.mono hstarted⟩⟩
    · cases List.mem_singleton.mp hj
      exact ⟨m, hm, happlied⟩
  case journal =>
    intro key q hq
    rw [ht] at hq
    change (s.calls.journal.setDefault m.idempotencyKey p).get? key = some q at hq
    rw [Dict.get?_setDefault] at hq
    split at hq
    · next hkey =>
      cases hget : s.calls.journal.get? m.idempotencyKey with
      | some q' =>
        rw [hget] at hq
        cases hq
        obtain ⟨j, hj, hjkey⟩ := h.journal _ _ hget
        exact ⟨j, hold _ hj, hjkey.trans hkey.symm⟩
      | none =>
        rw [hget] at hq
        cases hq
        exact ⟨i, hself, (keyOf_admitted hm).trans hkey.symm⟩
    · obtain ⟨j, hj, hkey⟩ := h.journal key q hq
      exact ⟨j, hold _ hj, hkey⟩
  case answers =>
    intro j q light hj happ hreq
    rw [htpc] at hj
    rcases Journal.of_goto (P := fun x => x = .finished (.payload q)) hj with ⟨rfl, hp⟩ | ⟨-, hj⟩
    · cases hp
      rw [admitCommand_lightId L hm] at hreq
      cases hreq
      exact ⟨(happlied happ).1, j, hself, rfl, (happlied happ).2⟩
    · obtain ⟨hlight, k, hk, hkey, hperf⟩ := h.answers j q light hj happ hreq
      exact ⟨hlight, k, hold _ hk, hkey, hperf.mono hstarted⟩

omit [DecidableEq ι] in
/-- A look-up that repeats an applied result repeats one of its light. -/
theorem Faithful.replay {s : State ι} (h : Faithful L cmd s) {i : ι} {m : CommandMetadata}
    {cached : JsonObj} (hm : admitCommand L (some m.lightId) (cmd i) = .ok (.ok m))
    (hj : s.calls.journal.get? m.idempotencyKey = some cached)
    (happ : IsApplied (Linker.replay cached m)) (hc : SteadyLook cmd s i m) :
    getItem (Linker.replay cached m) "light_id" = .str m.lightId ∧
      ∃ j, (j, Linker.replay cached m) ∈ s.calls.puts ∧
        Journal.keyOf L none cmd j = Journal.keyOf L none cmd i ∧ PerformedOn s j m.lightId := by
  obtain ⟨heq, hsame⟩ := replay_isApplied happ
  rw [heq] at happ ⊢
  obtain ⟨j, hjput, hjkey⟩ := h.journal _ _ hj
  obtain ⟨mj, hmj, ha⟩ := h.puts j cached hjput
  have hlight := hc.replay cached hj hsame happ
  -- the call that stored it named the same light
  have hnamed : mj.lightId = m.lightId := by
    rw [(ha happ).1] at hlight
    exact Json.str.inj hlight
  exact ⟨hlight, j, hjput, hjkey.trans (keyOf_admitted hm).symm, hnamed ▸ (ha happ).2⟩

/-- Every step of a call keeps the invariant: one case for each move. -/
theorem Faithful.call {s : State ι} (h : Faithful L cmd s) {e : Journal.Event ι}
    {calls : Journal.State ι} (hs : Journal.step L s.binding.light cmd s.calls e = some calls)
    (hc : Steady cmd s (.call e)) :
    Faithful L cmd
      { s with calls := calls, started := s.started ++ startedBy s.binding s.calls calls } := by
  have hl : Locked L cmd calls := h.toLocked.moves (Journal.step_moves hs)
  have hkept : ∀ x ∈ s.started, x ∈ s.started ++ startedBy s.binding s.calls calls :=
    fun x hx => List.mem_append_left _ hx
  have hlook : ∀ i m, s.calls.pc i = .locked m → calls.pc i ≠ .locked m → SteadyLook cmd s i m := by
    intro i m hpc hne
    cases event_of_look hs hpc hne
    exact hc m hpc
  cases Journal.step_moves hs with
  | raise i e hpc hm => exact h.move hl rfl rfl rfl hkept nofun nofun nofun
  | reject i p hpc hm =>
    refine h.move hl rfl rfl rfl hkept nofun nofun ?_
    intro q light hq happ
    cases hq
    obtain ⟨code, message, -, rfl⟩ := admitCommand_refused L _ _ _ hm
    exact absurd happ (not_isApplied_rejected _ _ _)
  | queue i m hpc hm => exact h.move hl rfl rfl rfl hkept nofun nofun nofun
  | acquire i m hpc hlock => exact h.move hl rfl rfl rfl hkept nofun nofun nofun
  | replay i m cached hpc hj =>
    have hm := h.metadata i m (by rw [hpc]; rfl)
    refine h.move hl rfl rfl rfl hkept nofun nofun ?_
    intro q light hq happ hreq
    cases hq
    rw [admitCommand_lightId L hm] at hreq
    cases hreq
    have hne : (s.calls.goto i (.finished (.payload (Linker.replay cached m)))).pc i ≠ .locked m := by
      rw [Journal.goto_pc, if_pos rfl]
      nofun
    obtain ⟨hlight, j, hjput, hkey, hperf⟩ := h.replay hm hj happ (hlook i m hpc hne)
    exact ⟨hlight, j, hjput, hkey, hperf.mono hkept⟩
  | refuse i m e hpc hj hp =>
    refine h.move hl rfl rfl rfl hkept nofun ?_ nofun
    intro m' q hq
    cases hq
    exact fun happ => absurd happ (not_isApplied_rejected _ _ _)
  | operate i m op hpc hj hp =>
    have hne : (s.calls.goto i (.operating m)).pc i ≠ .locked m := by
      rw [Journal.goto_pc, if_pos rfl]
      nofun
    refine h.move (p := .operating m) hl rfl rfl rfl hkept ?_ nofun nofun
    intro m' hm'
    cases hm'
    refine ⟨s.binding, List.mem_append_right _ ?_, (hlook i m hpc hne).operate hj op hp⟩
    rw [startedBy_operate s.binding rfl]
    exact List.mem_singleton.mpr rfl
  | driver i m r hpc =>
    refine h.move hl rfl rfl rfl hkept nofun ?_ nofun
    intro m' q hq
    cases hq
    exact fun _ => ⟨lightId_driverPayload m r, (h.operating i m hpc).mono hkept⟩
  | put i m p hpc => exact h.put hl hpc hkept rfl

theorem Faithful.cancel {s : State ι} (h : Faithful L cmd s) {i : ι} {calls : Journal.State ι}
    (hs : cancelCall s.calls i = some calls) : Faithful L cmd { s with calls := calls } := by
  have hl : Locked L cmd calls := h.toLocked.cancel hs
  obtain ⟨-, rfl⟩ := cancelCall_some hs
  exact h.move hl rfl rfl rfl (fun _ hx => hx) nofun nofun nofun

theorem step_faithful {s t : State ι} {e : Event ι} (h : Faithful L cmd s) (hc : Steady cmd s e)
    (hs : step L cmd s e = some t) : Faithful L cmd t := by
  rcases step_cases hs with ⟨e', calls, rfl, hcall, rfl⟩ | ⟨i, calls, rfl, hcall, rfl⟩ |
    ⟨_, _, b, rfl, rfl⟩
  · exact h.call hcall hc
  · exact h.cancel hcall
  · exact ⟨h.toLocked, h.operating, h.storing, h.puts, h.journal, h.answers⟩

/-! ### A binding gone stale -/

variable (L cmd)

theorem step_answered {s : State ι} {i : ι} {m : CommandMetadata} (state : LightState)
    (hpc : s.calls.pc i = .operating m) :
    ∃ t, step L cmd s (.call (.driver i (.ok state))) = some t ∧
      t.calls.pc i = .storing m (statePayload m state) ∧ t.calls.puts = s.calls.puts ∧
      t.started = s.started := by
  refine ⟨{ s with calls := s.calls.goto i (.storing m (statePayload m state)) }, ?_, ?_, rfl, rfl⟩
  · simp only [step, Journal.step, hpc, Journal.ordinaryOutcome, if_true]
    rw [startedBy_same s.binding (show (s.calls.goto i _).ops = s.calls.ops from rfl), List.append_nil]
    rfl
  · show (s.calls.goto i _).pc i = _
    rw [Journal.goto_pc, if_pos rfl]

theorem step_stored {s : State ι} {i : ι} {m : CommandMetadata} {p : JsonObj}
    (hpc : s.calls.pc i = .storing m p) :
    ∃ t, step L cmd s (.call (.put i)) = some t ∧ t.calls.pc i = .finished (.payload p) ∧
      t.started = s.started := by
  let stored : Journal.State ι := { s.calls.goto i (.finished (.payload p)) with
    lock := none
    journal := s.calls.journal.setDefault m.idempotencyKey p
    puts := s.calls.puts ++ [(i, p)] }
  refine ⟨{ s with calls := stored }, ?_, ?_, rfl⟩
  · simp only [step, Journal.step, hpc]
    rw [startedBy_same s.binding (show stored.ops = s.calls.ops from rfl), List.append_nil]
  · show (s.calls.goto i _).pc i = _
    rw [Journal.goto_pc, if_pos rfl]

/-- What the condition leaves out does go wrong: an operation started for a light that is no longer
bound is reported as applied to it, when the driver returns a state. -/
theorem rebound_operation_misanswers {s : State ι} {i : ι} {m : CommandMetadata} {op : Operation}
    (state : LightState) (hm : admitCommand L (some m.lightId) (cmd i) = .ok (.ok m))
    (hplan : planOperation (cmd i) = .ok op) (hpc : s.calls.pc i = .locked m)
    (hlock : s.calls.lock = some i) (hfree : s.calls.journal.get? m.idempotencyKey = none)
    (hnone : ∀ x ∈ s.started, Journal.keyOf L none cmd x.1 ≠ m.idempotencyKey)
    (happ : IsApplied (statePayload m state)) (hbound : s.binding.light ≠ some m.lightId) :
    ∃ t, Runs.run (step L cmd) s
        [.call (.look i), .call (.driver i (.ok state)), .call (.put i)] = some t ∧
      ¬ AnswersFor L cmd t := by
  obtain ⟨s₁, h₁, hs₁, -, hstarted₁⟩ := step_operates L cmd hplan hpc hlock hfree
  obtain ⟨s₂, h₂, hpc₂, -, hstarted₂⟩ := step_answered L cmd state hs₁.pc
  obtain ⟨s₃, h₃, hpc₃, hstarted₃⟩ := step_stored L cmd hpc₂
  refine ⟨s₃, ?_, fun hans => ?_⟩
  · rw [Runs.run_cons, h₁, Option.bind_some, Runs.run_cons, h₂, Option.bind_some, Runs.run_cons, h₃]
    rfl
  · obtain ⟨-, j, -, hkey, b, hb, hlight⟩ :=
      hans i _ m.lightId hpc₃ happ (admitCommand_lightId L hm)
    rw [hstarted₃, hstarted₂, hstarted₁] at hb
    rcases List.mem_append.mp hb with hb | hb
    · exact hnone _ hb (hkey.trans (keyOf_admitted hm))
    · cases List.mem_singleton.mp hb
      exact hbound hlight

/-- Likewise for a journaled result of another light. -/
theorem stale_replay_misanswers {s : State ι} {i : ι} {m : CommandMetadata} {q : JsonObj}
    (hm : admitCommand L (some m.lightId) (cmd i) = .ok (.ok m)) (hpc : s.calls.pc i = .locked m)
    (hj : s.calls.journal.get? m.idempotencyKey = some q)
    (hsame : sameCommandId q m.commandId = true) (happ : IsApplied q)
    (hlight : getItem q "light_id" ≠ .str m.lightId) :
    ∃ t, step L cmd s (.call (.look i)) = some t ∧ ¬ AnswersFor L cmd t := by
  have heq : Linker.replay q m = q := if_pos hsame
  let answered : Journal.State ι :=
    { s.calls.goto i (.finished (.payload (Linker.replay q m))) with lock := none }
  refine ⟨{ s with calls := answered }, ?_, fun hans => ?_⟩
  · simp only [step, Journal.step, hpc, hj]
    rw [startedBy_same s.binding (show answered.ops = s.calls.ops from rfl), List.append_nil]
  · have hfin : answered.pc i = .finished (.payload q) := by
      show (s.calls.goto i _).pc i = _
      rw [Journal.goto_pc, if_pos rfl, heq]
    exact hlight (hans i q m.lightId hfin happ (admitCommand_lightId L hm)).1

/-! ## Main result -/

/-- **Commands act on and answer for the light they name**, over all interleavings of commands,
pairings and cancellations, while every look-up is steady. -/
theorem commands_answer_for_their_light (b : Binding) (es : List (Event ι))
    (h : Runs.Meets (step L cmd) (Steady cmd) (start b) es) :
    Runs.Always (step L cmd) (AnswersFor L cmd) (start b) es := by
  refine Runs.always_of_inv_meets (I := Faithful L cmd) ?_ ?_ es (faithful_start L cmd b) h
  · intro s e t hi hc hs
    exact step_faithful hi hc hs
  · intro s hi
    exact hi.answers

end Machine

/-! ## A command that waits while another lamp is paired -/

theorem pairingStart_type : isMessageType "pairing.start" = true := by decide

/-- `pairing.start` for a lamp of the last scan. -/
def pairShelf : Envelope :=
  serverMessage "pairing.start"
    [("session_id", .str Stamp.zero.id.str), ("discovery_session_id", .str Stamp.zero.id.str),
      ("candidate_id", .str "light.shelf"), ("timeout_s", .int 30)] pairingStart_type

/-- What the driver's `pair` returns for it. -/
def shelfPaired : PairResult :=
  ⟨some ⟨"light.shelf", "LED lamp", ["RGB"], by decide, by decide, by decide, by decide⟩,
    some "bf0987654321fedcba"⟩

theorem shelf_named : "bf0987654321fedcba" ≠ "" := by decide

def litState : LightState := lit "bf0987654321fedcba" shelf_named

theorem pairShelf_request :
    pairingRequest lampLib pairShelf = .ok (Stamp.zero.id, "light.shelf", 30) := by
  have hid : requiredUuid lampLib pairShelf.payload "session_id" = .ok Stamp.zero.id :=
    requiredUuid_str lampLib rfl
  have hid' : requiredUuid lampLib pairShelf.payload "discovery_session_id" = .ok Stamp.zero.id :=
    requiredUuid_str lampLib rfl
  unfold pairingRequest
  rw [hid, hid']
  rfl

/-- `light.command.power` for the shelf lamp. -/
def shelfOn : Envelope :=
  { Commands.powerOn with
    payload := [("light_id", .str "light.shelf"), ("command_id", .str Stamp.zero.id.str),
      ("idempotency_key", .str "k2"), ("power", .bool true)] }

/-- Two deliveries of the desk lamp's command, and two of the shelf lamp's. -/
def deskAndShelf : Fin 4 → Envelope
  | 0 | 1 => Commands.powerOn
  | 2 | 3 => shelfOn

/-- Each command operates and is delivered again; in between, the boundary is bound to the other lamp. -/
def deskThenShelf : List (Event (Fin 4)) :=
  operated 0 (lit Commands.lamp.deviceId lamp_named) ++ replayed 1 ++
    [.paired pairShelf (.ok shelfPaired)] ++ operated 2 litState ++ replayed 3

theorem commands_answer_for_their_light_shelf :
    (Runs.run (step lampLib deskAndShelf) (start desk) deskThenShelf).map (fun s =>
        (s.started.map fun p => (p.1, p.2.device), List.ofFn fun i => answerOf (s.calls.pc i))) =
      some ([(0, some "bf1234567890abcdef"), (2, some "bf0987654321fedcba")],
        [some ("applied", "light.desk"), some ("applied", "light.desk"),
          some ("applied", "light.shelf"), some ("applied", "light.shelf")]) ∧
      Runs.Always (step lampLib deskAndShelf) (AnswersFor lampLib deskAndShelf) (start desk)
        deskThenShelf :=
  ⟨by decide +kernel, commands_answer_for_their_light lampLib deskAndShelf desk _ (by decide +kernel)⟩

/-- The desk lamp's command waits, the shelf lamp is paired, and the command switches the shelf lamp
on and answers for the desk lamp. -/
theorem operation_on_another_lamp :
    ¬ Runs.Always (step lampLib twice) (AnswersFor lampLib twice) (start desk)
      (untilLocked false ++ .paired pairShelf (.ok shelfPaired) ::
        [.call (.look false), .call (.driver false (.ok litState)), .call (.put false)]) := by
  intro h
  obtain ⟨s, hrun, hs, -, hstarted⟩ := run_untilLocked lampLib twice (s := start desk)
    (i := false) Commands.powerOn_admitted rfl rfl
  let shelf : State Bool := { s with binding := s.binding.paired "light.shelf" (.ok shelfPaired) }
  have hpair : step lampLib twice s (.paired pairShelf (.ok shelfPaired)) = some shelf := by
    simp only [step, pairShelf_request]
    rfl
  have hlight : shelf.binding.light = some "light.shelf" := rfl
  obtain ⟨t, hrest, hbad⟩ := rebound_operation_misanswers lampLib twice (s := shelf) litState
    Commands.powerOn_admitted powerOn_plan hs.pc hs.lock
    (by show s.calls.journal.get? _ = none; rw [hs.journal]; rfl)
    (by show ∀ x ∈ s.started, _; rw [hstarted]; exact fun _ h => absurd h List.not_mem_nil) rfl
    (by rw [hlight]; decide)
  refine hbad (Runs.always_run h ((Runs.run_append hrun).trans ?_))
  rw [Runs.run_cons, hpair]
  exact hrest

end Linker.Calls
