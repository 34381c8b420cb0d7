import OpenHdoLinker.Boundary.Rebinding

/-!
# Every light command is answered in the contract's terms

What a `command.result` must look like (`Conforming`) and which commands may reach the
driver (`ValidCommand`), over all interleavings of calls, driver answers, pairings and
cancellations.

    Always (step L cmd) (WellAnswered L config cmd es) (start b) es   (commands_answered)

A result is put together on six paths, each with a fallback for every field that is
missing from the command; a repeated result conforms because everything in the journal
does.
-/

namespace Linker.Calls

open Py

/-! ## Statement -/

/-- A number from 0 to 255. -/
def IsChannel (v : Option Json) : Prop := ∃ n : Int, v = some (.int n) ∧ 0 ≤ n ∧ n ≤ 255

def IsText (v : Option Json) : Prop := ∃ s, v = some (.str s) ∧ s ≠ ""

/-- An object with the three channels of a colour. -/
structure IsColor (v : Option Json) (c : JsonObj) : Prop where
  object : v = some (.obj c)
  r : IsChannel (c.lookup "r")
  g : IsChannel (c.lookup "g")
  b : IsChannel (c.lookup "b")

/-- The state of an applied result. -/
structure IsState (v : Option Json) (state : JsonObj) : Prop where
  object : v = some (.obj state)
  brightness : IsChannel (state.lookup "brightness")
  color : ∃ c, IsColor (state.lookup "rgb_color") c
  revision : ∃ n : Int, state.lookup "state_revision" = some (.int n) ∧ 0 ≤ n

/-- The error of a rejected or failed result. -/
structure IsError (v : Option Json) (error : JsonObj) : Prop where
  object : v = some (.obj error)
  code : IsText (error.lookup "code")
  message : ∃ text, error.lookup "message" = some (.str text)

def HasStatus (p : JsonObj) (status : String) : Prop := p.lookup "status" = some (.str status)

structure Conforming (p : JsonObj) : Prop where
  light_id : IsText (p.lookup "light_id")
  idempotency_key : IsText (p.lookup "idempotency_key")
  command_id : ∃ u : Uuid, p.lookup "command_id" = some (.str u.str)
  status : HasStatus p "applied" ∨ HasStatus p "rejected" ∨ HasStatus p "failed"
  applied : HasStatus p "applied" →
    (∃ state, IsState (p.lookup "state") state) ∧ p.lookup "error" = none
  refused : HasStatus p "rejected" ∨ HasStatus p "failed" →
    (∃ error, IsError (p.lookup "error") error) ∧ p.lookup "state" = none

/-- The answer to a command. -/
structure IsResult (command m : Envelope) : Prop where
  type : m.type = "command.result"
  correlation : m.correlationId = some command.id
  conforming : Conforming m.payload

/-- A command of a supported type with a correlation id. -/
def Supported (command : Envelope) : Prop :=
  command.type ∈ commandTypes ∧ command.correlationId ≠ none

/-- The field of its own that each command type reads. -/
inductive OwnField (command : Envelope) : Prop
  | power (on : Bool) (ht : command.type = "light.command.power")
      (h : command.payload.lookup "power" = some (.bool on))
  | brightness (ht : command.type = "light.command.brightness")
      (h : IsChannel (command.payload.lookup "brightness"))
  | color (c : JsonObj) (ht : command.type = "light.command.rgb_color")
      (h : IsColor (command.payload.lookup "rgb_color") c)

structure ValidCommand (L : PyLib) (command : Envelope) : Prop where
  light_id : ∃ s, command.payload.lookup "light_id" = some (.str s) ∧ s ≠ "" ∧ s.length ≤ 128
  command_id : ∃ v u, command.payload.lookup "command_id" = some v ∧ Uuid.parse (L.str v) = some u
  idempotency_key :
    ∃ s, command.payload.lookup "idempotency_key" = some (.str s) ∧ s ≠ "" ∧ s.length ≤ 128
  field : OwnField command

section Machine

variable {ι : Type} [DecidableEq ι] (L : PyLib) (config : LinkerConfig) (cmd : ι → Envelope)

/-- A step of the calls in progress, with the driver answering `outcome`. -/
inductive Proceeds (outcome : Except PyErr LightState) : Journal.Event ι → Prop
  | acquire (i : ι) : Proceeds outcome (.acquire i)
  | look (i : ι) : Proceeds outcome (.look i)
  | driver (i : ι) : Proceeds outcome (.driver i outcome)
  | put (i : ι) : Proceeds outcome (.put i)

/-- Call `i` ends without further calls, cancellations or pairings, whatever the driver answers. -/
def Ends (s : State ι) (i : ι) : Prop :=
  ∀ outcome, Journal.ordinaryOutcome outcome = true →
    ∃ (es : List (Journal.Event ι)) (t : State ι), (∀ e ∈ es, Proceeds outcome e) ∧
    Runs.run (step L cmd) s (es.map Event.call) = some t ∧ ∃ r, t.calls.pc i = .finished r

/-- `answered`: a supported command that no event of `es` cancels gets one result; `_result` builds
its envelope from the payload. -/
structure WellAnswered (es : List (Event ι)) (s : State ι) : Prop where
  answered : ∀ i r, Supported (cmd i) → .cancel i ∉ es → s.calls.pc i = .finished r →
    ∃ p, r = .payload p ∧ ∀ (D : Type) (stamps : Nat → Stamp) (system : System D),
      ∃ m, (resultEnvelope config stamps (cmd i) p system).1 = .ok m ∧ IsResult (cmd i) m
  operated : ∀ i ∈ s.calls.ops, ValidCommand L (cmd i)
  ends : ∀ i, (s.calls.pc i).Running → Ends L cmd s i

end Machine

/-! ## Lemmas -/

/-! ### What the checks accept -/

theorem lookup_of_item {d : JsonObj} {key : String} {v : Json} (h : item d key = .ok v) :
    d.lookup key = some v := by
  unfold item at h
  split at h
  · next w hw => cases h; exact hw
  · cases h

theorem requiredString_eq_ok {d : JsonObj} {key s : String} (h : requiredString d key = .ok s) :
    d.lookup key = some (.str s) ∧ s ≠ "" ∧ s.length ≤ 128 := by
  unfold requiredString at h
  obtain ⟨v, hv, h⟩ := bind_eq_ok h
  split at h
  · next t ht =>
    split at h
    · next hlen =>
      cases h
      rw [(Json.str?_eq_some v s).mp ht] at hv
      exact ⟨lookup_of_item hv, hlen⟩
    · cases h
  · cases h

theorem requiredUuid_eq_ok {L : PyLib} {d : JsonObj} {key : String} {u : Uuid}
    (h : requiredUuid L d key = .ok u) :
    ∃ v, d.lookup key = some v ∧ Uuid.parse (L.str v) = some u := by
  unfold requiredUuid at h
  split at h
  · cases h
  · next v hv =>
    split at h
    · next w hw => cases h; exact ⟨v, lookup_of_item hv, hw⟩
    · cases h

/-- `payload.get(key)`, of a value that is there. -/
theorem lookup_of_getItem {d : JsonObj} {key : String} {v : Json} (h : getItem d key = v)
    (hv : v ≠ .null) : d.lookup key = some v := by
  unfold getItem at h
  cases hl : d.lookup key with
  | none => rw [hl] at h; exact absurd h.symm hv
  | some w => rw [hl] at h; cases h; rfl

theorem isChannel_of_channel? {v : Json} {n : { n : Nat // n ≤ 255 }} (h : Rgb.channel? v = some n) :
    IsChannel (some v) := by
  unfold Rgb.channel? at h
  split at h
  · next i =>
    split at h
    · next hi => exact ⟨i, rfl, hi⟩
    · cases h
  · cases h

theorem isColor_of_fromPayload {v : Json} {c : Rgb} (h : Rgb.fromPayload v = .ok c) :
    ∃ d, IsColor (some v) d := by
  unfold Rgb.fromPayload at h
  split at h
  · next d =>
    split at h
    · next r g b hr hg hb =>
      unfold Rgb.init at h
      split at h
      · next r' g' b' hr' hg' hb' =>
        refine ⟨d, rfl, ?_, ?_, ?_⟩
        · rw [hr]
          exact isChannel_of_channel? hr'
        · rw [hg]
          exact isChannel_of_channel? hg'
        · rw [hb]
          exact isChannel_of_channel? hb'
      · cases h
    · cases h
  · cases h

/-- The first `try` block of `_execute` checks the field of the command's type. -/
theorem ownField_of_planOperation {command : Envelope} {op : Operation}
    (ht : command.type ∈ commandTypes) (h : planOperation command = .ok op) : OwnField command := by
  unfold planOperation at h
  split at h
  · next htype =>
    split at h
    · next on hon =>
      have hv := (Json.bool?_eq_some _ on).mp hon
      exact .power on htype (lookup_of_getItem hv nofun)
    · cases h
  · next hpower =>
    split at h
    · next htype =>
      cases hb : brightnessArg (getItem command.payload "brightness") with
      | error e => rw [hb] at h; cases h
      | ok n =>
        unfold brightnessArg at hb
        split at hb
        · next k hk =>
          split at hb
          · next hrange =>
            have hv := (Json.int?_eq_some _ k).mp hk
            exact .brightness htype ⟨k, lookup_of_getItem hv nofun, hrange⟩
          · cases hb
        · cases hb
    · next hbrightness =>
      have htype : command.type = "light.command.rgb_color" := by
        simp only [commandTypes, List.mem_cons, List.not_mem_nil, or_false] at ht
        rcases ht with ht | ht | ht
        · exact absurd ht hpower
        · exact absurd ht hbrightness
        · exact ht
      cases hc : Rgb.fromPayload (getItem command.payload "rgb_color") with
      | error e => rw [hc] at h; cases h
      | ok c =>
        obtain ⟨d, hd⟩ := isColor_of_fromPayload hc
        have hv := Option.some.inj hd.object
        refine .color d htype ⟨lookup_of_getItem hv nofun, hd.r, hd.g, hd.b⟩

theorem admitCommand_type {L : PyLib} {light : Option String} {command : Envelope}
    {r : Except JsonObj CommandMetadata} (h : admitCommand L light command = .ok r) :
    command.type ∈ commandTypes := by
  unfold admitCommand at h
  split at h
  · cases h
  · next ht => exact not_not.mp ht

/-- A command that reaches the driver is valid. -/
theorem validCommand_of_admitted {L : PyLib} {light : Option String} {command : Envelope}
    {m : CommandMetadata} {op : Operation} (h : admitCommand L light command = .ok (.ok m))
    (hplan : planOperation command = .ok op) : ValidCommand L command := by
  obtain ⟨rfl, -, he⟩ := admitCommand_ok L light command m h
  obtain ⟨hl, hc, hk⟩ := commandMetadata_fields L he
  obtain ⟨v, hv, hu⟩ := requiredUuid_eq_ok hc
  exact ⟨⟨_, requiredString_eq_ok hl⟩, ⟨v, _, hv, hu⟩, ⟨_, requiredString_eq_ok hk⟩,
    ownField_of_planOperation (admitCommand_type h) hplan⟩

/-! ### What the six paths build -/

/-- Metadata that a result can be built from. -/
structure Named (m : CommandMetadata) : Prop where
  light : m.lightId ≠ ""
  key : m.idempotencyKey ≠ ""

theorem named_commandMetadata (L : PyLib) (light : Option String) (command : Envelope) :
    Named (commandMetadata L light command) := by
  constructor
  · unfold commandMetadata
    cases hl : requiredString command.payload "light_id" with
    | ok s => exact (requiredString_eq_ok hl).2.1
    | error e =>
      show orDefault light "invalid.light" ≠ ""
      unfold orDefault
      split
      · split
        · next hs => exact hs
        · decide
      · decide
  · unfold commandMetadata
    cases hk : requiredString command.payload "idempotency_key" with
    | ok s => exact (requiredString_eq_ok hk).2.1
    | error e =>
      intro he
      have hlist := congrArg String.toList he
      simp only [String.toList_append, String.toList_empty, List.append_eq_nil_iff] at hlist
      exact absurd hlist.1 (by decide)

theorem conforming_rejected {m : CommandMetadata} (h : Named m) {code : String} (hc : code ≠ "")
    (message : String) : Conforming (rejected m code message) where
  light_id := ⟨m.lightId, rfl, h.light⟩
  idempotency_key := ⟨m.idempotencyKey, rfl, h.key⟩
  command_id := ⟨m.commandId, rfl⟩
  status := Or.inr (Or.inl rfl)
  applied ha := absurd (Json.str.inj (Option.some.inj ha)) (by decide)
  refused _ := ⟨⟨_, rfl, ⟨code, rfl, hc⟩, ⟨message, rfl⟩⟩, rfl⟩

theorem conforming_failed {m : CommandMetadata} (h : Named m) : Conforming (failed m) where
  light_id := ⟨m.lightId, rfl, h.light⟩
  idempotency_key := ⟨m.idempotencyKey, rfl, h.key⟩
  command_id := ⟨m.commandId, rfl⟩
  status := Or.inr (Or.inr rfl)
  applied ha := absurd (Json.str.inj (Option.some.inj ha)) (by decide)
  refused _ := ⟨⟨_, rfl, ⟨_, rfl, by decide⟩, ⟨_, rfl⟩⟩, rfl⟩

theorem isChannel_natCast {n : Nat} (h : n ≤ 255) : IsChannel (some (.int n)) := by
  refine ⟨n, rfl, ?_, ?_⟩
  · omega
  · omega

theorem isState_toPayload {state : LightState} {light : Option String} {p : JsonObj}
    (h : state.toPayload light = .ok p) : IsState (some (.obj p)) p := by
  unfold LightState.toPayload at h
  split at h
  · next brightness rgb hb hrgb =>
    cases h
    refine ⟨rfl, ⟨brightness, rfl, state.brightness_ok brightness hb⟩, ⟨_, rfl, ?_, ?_, ?_⟩,
      ⟨state.stateRevision, rfl, state.revision_ok⟩⟩
    · exact isChannel_natCast rgb.r_le
    · exact isChannel_natCast rgb.g_le
    · exact isChannel_natCast rgb.b_le
  · cases h

theorem conforming_applied {m : CommandMetadata} (h : Named m) {p : JsonObj}
    (hp : IsState (some (.obj p)) p) : Conforming (applied m p) where
  light_id := ⟨m.lightId, rfl, h.light⟩
  idempotency_key := ⟨m.idempotencyKey, rfl, h.key⟩
  command_id := ⟨m.commandId, rfl⟩
  status := Or.inl rfl
  applied _ := ⟨⟨p, hp⟩, rfl⟩
  refused hr := by
    rcases hr with hr | hr
    · exact absurd (Json.str.inj (Option.some.inj hr)) (by decide)
    · exact absurd (Json.str.inj (Option.some.inj hr)) (by decide)

/-- Whatever the driver returns or raises. -/
theorem conforming_driverPayload {m : CommandMetadata} (h : Named m) (r : Except PyErr LightState) :
    Conforming (driverPayload m r) := by
  cases r with
  | error e => exact conforming_failed h
  | ok state =>
    show Conforming (statePayload m state)
    unfold statePayload
    split
    · next p hp => exact conforming_applied h (isState_toPayload hp)
    · exact conforming_failed h

theorem conforming_replay {m : CommandMetadata} (h : Named m) {cached : JsonObj}
    (hc : Conforming cached) : Conforming (replay cached m) := by
  unfold replay
  split
  · exact hc
  · exact conforming_rejected h (by decide) _

/-- A supported command is answered at once or goes on; it raises nothing. -/
theorem admitCommand_supported (L : PyLib) (light : Option String) {command : Envelope}
    (h : Supported command) : ∃ r, admitCommand L light command = .ok r := by
  unfold admitCommand
  rw [if_neg (not_not.mpr h.1), if_neg h.2]
  dsimp only
  split
  · exact ⟨_, rfl⟩
  · exact ⟨_, rfl⟩

theorem conforming_refused {L : PyLib} {light : Option String} {command : Envelope} {p : JsonObj}
    (h : admitCommand L light command = .ok (.error p)) : Conforming p := by
  obtain ⟨code, message, hc, rfl⟩ := admitCommand_refused L light command p h
  exact conforming_rejected (named_commandMetadata L light command) hc message

theorem isResult_of_conforming {config : LinkerConfig} {command : Envelope} {p : JsonObj}
    (h : Conforming p) {D : Type} (stamps : Nat → Stamp) (system : System D) :
    ∃ m, (resultEnvelope config stamps command p system).1 = .ok m ∧ IsResult command m := by
  unfold resultEnvelope
  rw [newEnvelope_run config stamps "command.result" (some command.id) p (by decide)]
  exact ⟨_, rfl, rfl, rfl, h⟩

/-! ### The invariant -/

section Machine

variable {ι : Type} [DecidableEq ι] (L : PyLib) (cmd : ι → Envelope) (K : ι → Prop)

/-- The journal, and every result on its way there, conforms; `K` are the calls that may be
cancelled. -/
structure Conforms (s : Journal.State ι) : Prop extends Locked L cmd s where
  journal : ∀ key q, s.journal.get? key = some q → Conforming q
  storing : ∀ i m p, s.pc i = .storing m p → Conforming p
  answered : ∀ i r, Supported (cmd i) → s.pc i = .finished r →
    K i ∨ ∃ p, r = .payload p ∧ Conforming p
  operated : ∀ i ∈ s.ops, ValidCommand L (cmd i)

omit [DecidableEq ι] in
theorem conforms_start : Conforms L cmd K (Journal.start : Journal.State ι) where
  toLocked := locked_start
  journal key q h := by cases h
  storing i m p h := by cases h
  answered i r _ h := by cases h
  operated i h := by cases h

variable {L cmd K}

/-- **Frame rule.**  Call `i` moves to `p`. -/
theorem Conforms.move {s t : Journal.State ι} (h : Conforms L cmd K s) {i : ι} {p : Journal.Pc}
    (hl : Locked L cmd t) (hpc : t.pc = (s.goto i p).pc)
    (hjournal : ∀ key q, t.journal.get? key = some q → Conforming q)
    (hops : ∀ j ∈ t.ops, ValidCommand L (cmd j))
    (hst : ∀ m q, p = .storing m q → Conforming q)
    (hfin : ∀ r, Supported (cmd i) → p = .finished r → K i ∨ ∃ q, r = .payload q ∧ Conforming q) :
    Conforms L cmd K t := by
  refine ⟨hl, hjournal, ?_, ?_, hops⟩
  · intro j m q hj
    rw [hpc] at hj
    rcases Journal.of_goto (P := fun x => x = .storing m q) hj with ⟨rfl, hp⟩ | ⟨-, hj⟩
    · exact hst m q hp
    · exact h.storing j m q hj
  · intro j r hsup hj
    rw [hpc] at hj
    rcases Journal.of_goto (P := fun x => x = .finished r) hj with ⟨rfl, hp⟩ | ⟨-, hj⟩
    · exact hfin r hsup hp
    · exact h.answered j r hsup hj

theorem named_of_admitted {light : Option String} {command : Envelope} {m : CommandMetadata}
    (h : admitCommand L light command = .ok (.ok m)) : Named m := by
  obtain ⟨rfl, -, -⟩ := admitCommand_ok L light command m h
  exact named_commandMetadata L light command

/-- Every step of a call keeps the invariant: one case for each move. -/
theorem Conforms.moves {light : Option String} {s t : Journal.State ι} (h : Conforms L cmd K s)
    (ht : Journal.Moves L light cmd s t) : Conforms L cmd K t := by
  have hl : Locked L cmd t := h.toLocked.moves ht
  have hnamed : ∀ i m, (s.pc i).metadata? = some m → Named m :=
    fun i m hm => named_of_admitted (h.metadata i m hm)
  cases ht with
  | raise i e hpc hm =>
    refine h.move hl rfl h.journal h.operated nofun ?_
    intro r hsup _
    obtain ⟨r', hr'⟩ := admitCommand_supported L light hsup
    rw [hm] at hr'
    cases hr'
  | reject i p hpc hm =>
    refine h.move hl rfl h.journal h.operated nofun ?_
    intro r _ hr
    cases hr
    exact Or.inr ⟨p, rfl, conforming_refused hm⟩
  | queue i m hpc hm => exact h.move hl rfl h.journal h.operated nofun nofun
  | acquire i m hpc hlock => exact h.move hl rfl h.journal h.operated nofun nofun
  | replay i m cached hpc hj =>
    refine h.move hl rfl h.journal h.operated nofun ?_
    intro r _ hr
    cases hr
    exact Or.inr ⟨_, rfl, conforming_replay (hnamed i m (by rw [hpc]; rfl)) (h.journal _ _ hj)⟩
  | refuse i m e hpc hj hp =>
    refine h.move hl rfl h.journal h.operated ?_ nofun
    intro m' q hq
    cases hq
    exact conforming_rejected (hnamed i m (by rw [hpc]; rfl)) (by decide) _
  | operate i m op hpc hj hp =>
    refine h.move hl rfl h.journal ?_ nofun nofun
    intro j hjo
    rcases List.mem_append.mp hjo with hjo | hjo
    · exact h.operated j hjo
    · rw [List.mem_singleton.mp hjo]
      exact validCommand_of_admitted (h.metadata i m (by rw [hpc]; rfl)) hp
  | driver i m r hpc =>
    refine h.move hl rfl h.journal h.operated ?_ nofun
    intro m' q hq
    cases hq
    exact conforming_driverPayload (hnamed i m (by rw [hpc]; rfl)) r
  | put i m p hpc =>
    have hp : Conforming p := h.storing i m p hpc
    refine h.move hl rfl ?_ h.operated nofun ?_
    · intro key q hq
      change (s.journal.setDefault m.idempotencyKey p).get? key = some q at hq
      rw [Dict.get?_setDefault] at hq
      split at hq
      · cases hget : s.journal.get? m.idempotencyKey with
        | some q' => rw [hget] at hq; cases hq; exact h.journal _ _ hget
        | none => rw [hget] at hq; cases hq; exact hp
      · exact h.journal key q hq
    · intro r _ hr
      cases hr
      exact Or.inr ⟨p, rfl, hp⟩

theorem Conforms.cancel {s t : Journal.State ι} (h : Conforms L cmd K s) {i : ι} (hi : K i)
    (ht : cancelCall s i = some t) : Conforms L cmd K t := by
  have hl : Locked L cmd t := h.toLocked.cancel ht
  obtain ⟨-, rfl⟩ := cancelCall_some ht
  exact h.move hl rfl h.journal h.operated nofun fun _ _ _ => Or.inl hi

theorem step_conforms {s t : State ι} {e : Event ι} (h : Conforms L cmd K s.calls)
    (he : ∀ i, e = .cancel i → K i) (hs : step L cmd s e = some t) : Conforms L cmd K t.calls := by
  rcases step_cases hs with ⟨e', calls, rfl, hc, rfl⟩ | ⟨i, calls, rfl, hc, rfl⟩ | ⟨_, _, b, rfl, rfl⟩
  · exact h.moves (Journal.step_moves hc)
  · exact h.cancel (he i rfl) hc
  · exact h

/-! ### Calls end -/

variable {outcome : Except PyErr LightState}

variable (L cmd) in
/-- Call `i` ends, and leaves the lock free and the other calls where they are. -/
def Clears (outcome : Except PyErr LightState) (s : State ι) (i : ι) : Prop :=
  ∃ (es : List (Journal.Event ι)) (t : State ι), (∀ e ∈ es, Proceeds outcome e) ∧
    Runs.run (step L cmd) s (es.map Event.call) = some t ∧ (∃ r, t.calls.pc i = .finished r) ∧
    t.calls.lock = none ∧ ∀ j, j ≠ i → t.calls.pc j = s.calls.pc j

/-- One step of call `i`, and then the rest. -/
theorem Clears.cons {s : State ι} {i : ι} {e : Journal.Event ι} {calls : Journal.State ι}
    (he : Proceeds outcome e) (hi : eventCall e = i)
    (hstep : Journal.step L s.binding.light cmd s.calls e = some calls)
    (hrest : ∀ t : State ι, t.calls = calls → Clears L cmd outcome t i) :
    Clears L cmd outcome s i := by
  let u : State ι := { s with calls := calls, started := s.started ++ startedBy s.binding s.calls calls }
  have hu : step L cmd s (.call e) = some u := by
    simp only [step, hstep]
    rfl
  obtain ⟨es, t, hes, hrun, hend, hlock, hothers⟩ := hrest u rfl
  refine ⟨e :: es, t, ?_, ?_, hend, hlock, ?_⟩
  · intro e' he'
    rcases List.mem_cons.mp he' with rfl | he'
    · exact he
    · exact hes e' he'
  · rw [List.map_cons, Runs.run_cons, hu]
    exact hrun
  · intro j hj
    rw [hothers j hj]
    exact step_others hstep (by rw [hi]; exact hj)

theorem clears_storing {s : State ι} {i : ι} {m : CommandMetadata} {p : JsonObj}
    (hpc : s.calls.pc i = .storing m p) : Clears L cmd outcome s i := by
  refine .cons (.put i) rfl (by simp only [Journal.step, hpc]; rfl) ?_
  intro t ht
  refine ⟨[], t, List.forall_mem_nil _, rfl, ⟨.payload p, ?_⟩, ?_, fun _ _ => rfl⟩
  · rw [ht]
    show (s.calls.goto i _).pc i = _
    rw [Journal.goto_pc, if_pos rfl]
  · rw [ht]

theorem clears_operating (ho : Journal.ordinaryOutcome outcome = true) {s : State ι} {i : ι}
    {m : CommandMetadata} (hpc : s.calls.pc i = .operating m) : Clears L cmd outcome s i := by
  refine .cons (.driver i) rfl (by simp only [Journal.step, hpc, if_pos ho]; rfl) ?_
  intro t ht
  refine clears_storing (m := m) (p := driverPayload m outcome) ?_
  rw [ht, Journal.goto_pc, if_pos rfl]

theorem clears_locked (ho : Journal.ordinaryOutcome outcome = true) {s : State ι} {i : ι}
    {m : CommandMetadata} (hpc : s.calls.pc i = .locked m) : Clears L cmd outcome s i := by
  cases hj : s.calls.journal.get? m.idempotencyKey with
  | some cached =>
    refine .cons (.look i) rfl (by simp only [Journal.step, hpc, hj]; rfl) ?_
    intro t ht
    refine ⟨[], t, List.forall_mem_nil _, rfl, ⟨.payload (replay cached m), ?_⟩, ?_, fun _ _ => rfl⟩
    · rw [ht]
      show (s.calls.goto i _).pc i = _
      rw [Journal.goto_pc, if_pos rfl]
    · rw [ht]
  | none =>
    cases hplan : planOperation (cmd i) with
    | error e =>
      refine .cons (.look i) rfl (by simp only [Journal.step, hpc, hj, hplan]; rfl) ?_
      intro t ht
      refine clears_storing (m := m) (p := invalidCommand m e.text) ?_
      rw [ht, Journal.goto_pc, if_pos rfl]
    | ok op =>
      refine .cons (.look i) rfl (by simp only [Journal.step, hpc, hj, hplan]; rfl) ?_
      intro t ht
      refine clears_operating ho (m := m) ?_
      rw [ht]
      show (s.calls.goto i _).pc i = _
      rw [Journal.goto_pc, if_pos rfl]

theorem clears_queued (ho : Journal.ordinaryOutcome outcome = true) {s : State ι} {i : ι}
    {m : CommandMetadata} (hpc : s.calls.pc i = .queued m) (hlock : s.calls.lock = none) :
    Clears L cmd outcome s i := by
  refine .cons (.acquire i) rfl (by simp only [Journal.step, hpc, hlock]; rfl) ?_
  intro t ht
  refine clears_locked ho (m := m) ?_
  rw [ht]
  show (s.calls.goto i _).pc i = _
  rw [Journal.goto_pc, if_pos rfl]

/-- The holder of the lock can always go on. -/
theorem clears_holder (ho : Journal.ordinaryOutcome outcome = true) {s : State ι} {i : ι}
    (h : (s.calls.pc i).Holds) : Clears L cmd outcome s i := by
  cases hpc : s.calls.pc i with
  | locked m => exact clears_locked ho hpc
  | operating m => exact clears_operating ho hpc
  | storing m p => exact clears_storing hpc
  | idle => rw [hpc] at h; exact h.elim
  | queued m => rw [hpc] at h; exact h.elim
  | finished r => rw [hpc] at h; exact h.elim

theorem Clears.ends {s : State ι} {i : ι} (h : Clears L cmd outcome s i) :
    ∃ (es : List (Journal.Event ι)) (t : State ι), (∀ e ∈ es, Proceeds outcome e) ∧
      Runs.run (step L cmd) s (es.map Event.call) = some t ∧ ∃ r, t.calls.pc i = .finished r := by
  obtain ⟨es, t, hes, hrun, hend, -, -⟩ := h
  exact ⟨es, t, hes, hrun, hend⟩

/-- A running call ends: it waits for the holder of the lock at most. -/
theorem ends_of_running {s : State ι} (h : Locked L cmd s.calls) {i : ι}
    (hi : (s.calls.pc i).Running) : Ends L cmd s i := by
  intro outcome ho
  by_cases hholds : (s.calls.pc i).Holds
  · exact (clears_holder ho hholds).ends
  · obtain ⟨m, hpc⟩ : ∃ m, s.calls.pc i = .queued m := by
      cases hpc : s.calls.pc i with
      | queued m => exact ⟨m, rfl⟩
      | idle => rw [hpc] at hi; exact hi.elim
      | finished r => rw [hpc] at hi; exact hi.elim
      | locked m => rw [hpc] at hholds; exact absurd trivial hholds
      | operating m => rw [hpc] at hholds; exact absurd trivial hholds
      | storing m p => rw [hpc] at hholds; exact absurd trivial hholds
    cases hlock : s.calls.lock with
    | none => exact (clears_queued ho hpc hlock).ends
    | some j =>
      have hj : (s.calls.pc j).Holds := (h.holds j).mpr hlock
      have hne : i ≠ j := by
        rintro rfl
        exact hholds hj
      have hholder : Clears L cmd outcome s j := clears_holder ho hj
      obtain ⟨es, t, hes, hrun, -, hfree, hothers⟩ := hholder
      have hqueued : Clears L cmd outcome t i :=
        clears_queued ho ((hothers i hne).trans hpc) hfree
      obtain ⟨es', t', hes', hrun', hend⟩ := hqueued.ends
      refine ⟨es ++ es', t', ?_, ?_, hend⟩
      · intro e he
        exact (List.mem_append.mp he).elim (hes e) (hes' e)
      · rw [List.map_append, Runs.run_append hrun]
        exact hrun'

end Machine

/-! ## Main result -/

section Machine

variable {ι : Type} [DecidableEq ι] (L : PyLib) (config : LinkerConfig) (cmd : ι → Envelope)

/-- **Every light command is answered**, in the contract's terms, over all interleavings of calls,
driver answers, pairings and cancellations. -/
theorem commands_answered (b : Binding) (es : List (Event ι)) :
    Runs.Always (step L cmd) (WellAnswered L config cmd es) (start b) es := by
  refine Runs.always_of_inv_meets (I := fun s => Conforms L cmd (fun i => .cancel i ∈ es) s.calls)
    (C := fun _ e => ∀ i, e = .cancel i → .cancel i ∈ es) ?_ ?_ es (conforms_start L cmd _) ?_
  · intro s e t hs he ht
    exact step_conforms hs he ht
  · intro s hs
    refine ⟨?_, hs.operated, fun i hi => ends_of_running hs.toLocked hi⟩
    intro i r hsup hkept hpc
    rcases hs.answered i r hsup hpc with hcut | ⟨p, rfl, hp⟩
    · exact absurd hcut hkept
    · exact ⟨p, rfl, fun _ stamps system => isResult_of_conforming hp stamps system⟩
  · refine Runs.meets_of_forall ?_ _
    rintro e he _ i rfl
    exact he

end Machine

end Linker.Calls
