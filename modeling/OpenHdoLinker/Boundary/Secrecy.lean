import OpenHdoLinker.Lib.PyRel
import OpenHdoLinker.Tuya.Confirmed

/-!
# What a driver keeps to itself

Two runs of one boundary over two drivers that agree on what the server may learn
(which calls succeed, how the others fail, the descriptors, the abstract part of a
light state) and on nothing else: not on device ids, credentials, exception texts, or
the rest of a light state.

    Agree s t calls → Forall₂ SameAnswer (answers s …) (answers t …)
                                                        (secrets_do_not_show)

A state report names the device itself when the boundary has no light id, so a bound
boundary is supposed to have one (`Bound`).
-/

namespace Linker.Secrecy

open Py

/-! ## Algorithm -/

/-- The calls on a boundary: `register()`, `handle(message)` and `state(state)`.  `timedOut`
says whether `wait_for` ended the driver's call. -/
inductive Call
  | register
  | message (timedOut : Bool) (m : Envelope)
  | report (state : LightState)

section Boundary

variable {D : Type} (L : PyLib) (config : LinkerConfig) (stamps : Nat → Stamp)
variable (driver : VendorRgbDriver D)

/-- `state(state)`. -/
def stateEnvelope (state : LightState) : PyM (System D) Envelope := do
  let s ← PyM.get
  let payload ← PyM.outcome (state.toPayload s.boundary.lightId)
  newEnvelope config stamps "light.state.reported" none payload

def envelopes : Envelope ⊕ List Envelope → List Envelope
  | .inl m => [m]
  | .inr ms => ms

def call : Call → PyM (System D) (List Envelope)
  | .register => (fun m => [m]) <$> register config stamps
  | .message timedOut m => envelopes <$> handle L config stamps driver timedOut m
  | .report state => (fun m => [m]) <$> stateEnvelope config stamps state

/-- What the calls of a run return or raise, in order. -/
def answers (s : System D) : List Call → List (Except PyErr (List Envelope))
  | [] => []
  | c :: cs =>
    (call L config stamps driver c s).1 :: answers (call L config stamps driver c s).2 cs

end Boundary

/-! ## Statement -/

/-- How a call of the driver failed, as far as the server may learn it. -/
inductive FailureClass
  | timeout
  | pairing (text : String)
  | other
  | notCaught

def failureClass (e : PyErr) : FailureClass :=
  if e.isA .TimeoutError then .timeout
  else if e.isA pairingErrorClass then .pairing e.text
  else if e.isA .Exception then .other
  else .notCaught

def SameFailure (e f : PyErr) : Prop := failureClass e = failureClass f

/-- The parts of two light states that the server may see agree. -/
structure SameLight (a b : LightState) : Prop where
  on : a.on = b.on
  rgb : a.rgb = b.rgb
  brightness : a.brightness = b.brightness
  stateRevision : a.stateRevision = b.stateRevision

/-- A pairing result that names a device at all. -/
def NamesDevice (r : PairResult) : Prop := ∃ id, r.deviceId = some id ∧ id ≠ ""

structure SamePair (a b : PairResult) : Prop where
  descriptor : a.descriptor = b.descriptor
  names : NamesDevice a ↔ NamesDevice b

/-- Two messages that differ in their id and their timestamp at most. -/
structure SameMessage (a b : Envelope) : Prop where
  version : a.version = b.version
  type : a.type = b.type
  source : a.source = b.source
  correlationId : a.correlationId = b.correlationId
  payload : a.payload = b.payload

/-- The same exception, or two that no handler of the linker catches. -/
def SameRaise (e f : PyErr) : Prop := e = f ∨ ¬ IsOrdinary e ∧ ¬ IsOrdinary f

def SameAnswer : Except PyErr (List Envelope) → Except PyErr (List Envelope) → Prop :=
  Alike (List.Forall₂ SameMessage) SameRaise

/-- A boundary with a device has a light id. -/
def Bound (b : BoundaryState) : Prop := b.deviceId ≠ none → b.lightId ≠ none

section Agreement

variable {D₁ D₂ : Type} (L : PyLib) (config : LinkerConfig) (stamps₁ stamps₂ : Nat → Stamp)
variable (driver₁ : VendorRgbDriver D₁) (driver₂ : VendorRgbDriver D₂)

/-- The driver calls that the two boundaries make for a message succeed alike or fail alike. -/
structure DriversAgree (timedOut₁ timedOut₂ : Bool) (m : Envelope) (s : System D₁) (t : System D₂) :
    Prop where
  discover : ∀ sessionId timeoutS c, discoveryRequest L m = .ok (sessionId, timeoutS) →
    config.discovery.replaceTimeout (.finite (effectiveTimeout timeoutS)) = .ok c →
    Alike (· = ·) SameFailure (PyM.waitFor timedOut₁ (driver₁.discover c) s.driver).1
      (PyM.waitFor timedOut₂ (driver₂.discover c) t.driver).1
  pair : ∀ sessionId candidateId timeoutS,
    pairingRequest L m = .ok (sessionId, candidateId, timeoutS) →
    Alike SamePair SameFailure (pairCall driver₁ timedOut₁ candidateId s.driver).1
      (pairCall driver₂ timedOut₂ candidateId t.driver).1
  operation : ∀ metadata operation,
    admitCommand L s.boundary.lightId m = .ok (.ok metadata) → planOperation m = .ok operation →
    s.boundary.journal.get? metadata.idempotencyKey = none →
    Alike SameLight SameFailure
      (runOperation driver₁ s.boundary.deviceId metadata.commandId operation s.driver).1
      (runOperation driver₂ t.boundary.deviceId metadata.commandId operation t.driver).1

/-- The two runs make the same call, and their drivers agree in it.  A state is reported while a
device is bound. -/
inductive SameCall (s : System D₁) (t : System D₂) : Call → Call → Prop
  | register : SameCall s t .register .register
  | message (timedOut₁ timedOut₂ : Bool) (m : Envelope)
      (h : DriversAgree L config driver₁ driver₂ timedOut₁ timedOut₂ m s t) :
      SameCall s t (.message timedOut₁ m) (.message timedOut₂ m)
  | report (a b : LightState) (h : SameLight a b) (hs : s.boundary.deviceId ≠ none)
      (ht : t.boundary.deviceId ≠ none) : SameCall s t (.report a) (.report b)

/-- So it is at every call of the two runs. -/
def Agree : System D₁ → System D₂ → List (Call × Call) → Prop
  | _, _, [] => True
  | s, t, (c, d) :: cs =>
    SameCall L config driver₁ driver₂ s t c d ∧
      Agree (call L config stamps₁ driver₁ c s).2 (call L config stamps₂ driver₂ d t).2 cs

end Agreement

/-! ## Lemmas -/

/-! ### Failures of the same class -/

/-- The class of a failure decides whether `except Exception` catches it. -/
theorem failureClass_notCaught (e : PyErr) : failureClass e = .notCaught ↔ ¬ IsOrdinary e := by
  unfold failureClass
  split
  · next ht => simp [isOrdinary_of_base ht (by decide)]
  · split
    · next hp => simp [isOrdinary_of_base hp (by decide)]
    · split
      · next hx => simp [show IsOrdinary e from hx]
      · next hx => simp [show ¬ IsOrdinary e from hx]

theorem SameFailure.ordinary {e f : PyErr} (h : SameFailure e f) : IsOrdinary e ↔ IsOrdinary f := by
  rw [← not_iff_not, ← failureClass_notCaught, ← failureClass_notCaught, h]

/-- The `except` clauses of a request, by the class of the failure. -/
def answerByClass (onTimeout : String) (onPairing : String → String) (onOther : String)
    (e : PyErr) : Except PyErr String :=
  match failureClass e with
  | .timeout => .ok onTimeout
  | .pairing text => .ok (onPairing text)
  | .other => .ok onOther
  | .notCaught => .error e

theorem answerByClass_alike (onTimeout : String) (onPairing : String → String) (onOther : String)
    {e f : PyErr} (h : SameFailure e f) :
    Alike (· = ·) SameRaise (answerByClass onTimeout onPairing onOther e)
      (answerByClass onTimeout onPairing onOther f) := by
  unfold answerByClass
  rw [← show failureClass e = failureClass f from h]
  cases hc : failureClass e with
  | timeout => exact .ok rfl
  | pairing text => exact .ok rfl
  | other => exact .ok rfl
  | notCaught =>
    have hf : failureClass f = .notCaught := h.symm.trans hc
    exact .error (Or.inr ⟨(failureClass_notCaught e).mp hc, (failureClass_notCaught f).mp hf⟩)

theorem discoveryFailure_class (e : PyErr) :
    discoveryFailure e =
      answerByClass "discovery timed out" (fun _ => "discovery failed") "discovery failed" e := by
  by_cases hx : IsOrdinary e
  · have hc := hx.not_cancelled
    have hx' : e.isA .Exception = true := hx
    unfold discoveryFailure answerByClass failureClass
    cases e.isA .TimeoutError <;> cases e.isA pairingErrorClass <;> simp [hc, hx']
  · rw [discoveryFailure_uncaught hx]
    unfold answerByClass
    rw [(failureClass_notCaught e).mpr hx]

theorem pairingFailure_class (e : PyErr) :
    pairingFailure e = answerByClass "pairing timed out" id
      "device verification failed; check Linker local key, protocol, and DP mapping" e := by
  by_cases hx : IsOrdinary e
  · have hc := hx.not_cancelled
    have hx' : e.isA .Exception = true := hx
    unfold pairingFailure answerByClass failureClass
    cases e.isA .TimeoutError <;> cases e.isA pairingErrorClass <;> simp [hc, hx']
  · rw [pairingFailure_uncaught hx]
    unfold answerByClass
    rw [(failureClass_notCaught e).mpr hx]

/-! ### States the server cannot tell apart -/

/-- Two boundaries that differ in the device they drive at most. -/
structure Twins (a b : BoundaryState) : Prop where
  lightId : a.lightId = b.lightId
  descriptor : a.descriptor = b.descriptor
  journal : a.journal = b.journal
  named : a.lightId ≠ some ""
  left : Bound a
  right : Bound b

section Twins

variable {D₁ D₂ : Type} {config : LinkerConfig} {stamps₁ stamps₂ : Nat → Stamp}

def TwinSystems (s : System D₁) (t : System D₂) : Prop := Twins s.boundary t.boundary

theorem newEnvelope_match {E : PyErr → PyErr → Prop} {type : String} (ht : isMessageType type = true)
    (correlation : Option Uuid) (payload : JsonObj) :
    Match TwinSystems SameMessage E
      (newEnvelope (D := D₁) config stamps₁ type correlation payload)
      (newEnvelope (D := D₂) config stamps₂ type correlation payload) := by
  intro s t h
  unfold MatchAt
  rw [newEnvelope_run config stamps₁ type correlation payload ht,
    newEnvelope_run config stamps₂ type correlation payload ht]
  exact ⟨.ok ⟨rfl, rfl, rfl, rfl, rfl⟩, h⟩

variable {L : PyLib} {driver₁ : VendorRgbDriver D₁} {driver₂ : VendorRgbDriver D₂}
variable {timedOut₁ timedOut₂ : Bool} {s : System D₁} {t : System D₂} {m : Envelope}
variable {E : PyErr → PyErr → Prop}

theorem pairingCompleted_match (start : Envelope) (sessionId : Uuid) (candidateId status : String)
    (error : Option String) :
    Match TwinSystems SameMessage E
      (pairingCompleted (D := D₁) config stamps₁ start sessionId candidateId status error)
      (pairingCompleted (D := D₂) config stamps₂ start sessionId candidateId status error) := by
  intro s t h
  unfold pairingCompleted MatchAt
  rw [PyM.get_bind, PyM.get_bind, h.descriptor]
  exact newEnvelope_match (by decide) _ _ s t h

theorem register_match : Match TwinSystems SameMessage E
    (register (D := D₁) config stamps₁) (register (D := D₂) config stamps₂) := by
  intro s t h
  unfold register MatchAt
  rw [PyM.get_bind, PyM.get_bind, h.descriptor]
  exact newEnvelope_match (by decide) _ _ s t h

/-- A report names the light, not the device. -/
theorem SameLight.toPayload {a b : LightState} (h : SameLight a b) {light : String}
    (hl : light ≠ "") : a.toPayload (some light) = b.toPayload (some light) := by
  unfold LightState.toPayload
  rw [h.on, h.rgb, h.brightness, h.stateRevision]
  dsimp only
  rw [if_neg hl, if_neg hl]

theorem stateEnvelope_matchAt {a b : LightState} (hab : SameLight a b) (h : TwinSystems s t)
    (hbound : s.boundary.deviceId ≠ none) :
    MatchAt TwinSystems SameMessage SameRaise (stateEnvelope config stamps₁ a)
      (stateEnvelope config stamps₂ b) s t := by
  obtain ⟨light, hlight⟩ := Option.ne_none_iff_exists'.mp (h.left hbound)
  have hne : light ≠ "" := by
    rintro rfl
    exact h.named hlight
  unfold stateEnvelope MatchAt
  rw [PyM.get_bind, PyM.get_bind, ← h.lightId, hlight, hab.toPayload hne]
  refine match_bind (match_outcome (V := (· = ·)) (alike_refl _ ?_ ?_)) ?_ s t h
  · intro payload _
    rfl
  · intro e _
    exact Or.inl rfl
  · rintro payload _ rfl
    exact newEnvelope_match (by decide) _ _

/-! ### The requests -/

theorem handleDiscovery_matchAt (h : TwinSystems s t)
    (ha : DriversAgree L config driver₁ driver₂ timedOut₁ timedOut₂ m s t) :
    MatchAt TwinSystems (List.Forall₂ SameMessage) SameRaise
      (handleDiscovery L config stamps₁ driver₁ timedOut₁ m)
      (handleDiscovery L config stamps₂ driver₂ timedOut₂ m) s t := by
  unfold handleDiscovery MatchAt
  cases hreq : discoveryRequest L m with
  | error e => exact ⟨.error (Or.inl rfl), h⟩
  | ok request =>
    obtain ⟨sessionId, timeoutS⟩ := request
    obtain ⟨c, hc⟩ := replaceTimeout_ok config.discovery timeoutS
    rw [PyM.outcome_ok_bind, PyM.outcome_ok_bind]
    dsimp only
    rw [hc, PyM.outcome_ok_bind, PyM.outcome_ok_bind]
    refine MatchAt.bind (V := (· = ·)) (MatchAt.tryExcept (F := SameFailure)
      (MatchAt.bind (V := (· = ·)) ?_ ?_) ?_) ?_
    · unfold System.onDriver
      rw [PyM.waitFor_zoom, PyM.waitFor_zoom]
      exact matchAt_zoom (ha.discover sessionId timeoutS c hreq hc) h
    · rintro descriptors _ rfl
      refine match_bind (V := (· = ·)) (match_outcome (alike_refl _ ?_ ?_)) ?_
      · intro candidates _
        rfl
      · intro e _
        rfl
      · rintro candidates _ rfl
        exact match_pure rfl
    · intro e f hef
      rw [discoveryFailure_class, discoveryFailure_class]
      refine match_map (V := (· = ·)) (match_outcome (answerByClass_alike _ _ _ hef)) ?_
      rintro text _ rfl
      rfl
    · rintro found _ rfl
      cases found with
      | error text =>
        refine match_bind (newEnvelope_match (by decide) _ _) fun a b hab => ?_
        exact match_pure (.cons hab .nil)
      | ok candidates =>
        refine match_bind (match_mapM candidates fun c _ => newEnvelope_match (by decide) _ _) ?_
        intro as bs hs
        refine match_bind (newEnvelope_match (by decide) _ _) fun a b hab => ?_
        exact match_pure (List.rel_append hs (.cons hab .nil))

theorem pairingResult_unnamed (candidateId : String) {r : PairResult} (h : ¬ NamesDevice r) :
    pairingResult candidateId r = .error (valueError "driver returned an invalid pairing result") := by
  unfold pairingResult
  split
  · next id _ hid =>
    rw [if_pos]
    by_contra hne
    exact h ⟨id, hid, hne⟩
  · rfl

theorem pairingResult_alike (candidateId : String) {a b : PairResult} (h : SamePair a b) :
    Alike (fun x y => x.1 = y.1) SameFailure (pairingResult candidateId a)
      (pairingResult candidateId b) := by
  by_cases ha : NamesDevice a
  · obtain ⟨i, hi, hi0⟩ := ha
    obtain ⟨j, hj, hj0⟩ := h.names.mp ⟨i, hi, hi0⟩
    unfold pairingResult
    rw [hi, hj, h.descriptor]
    cases b.descriptor with
    | none => exact .error rfl
    | some d =>
      dsimp only
      rw [if_neg hi0, if_neg hj0]
      split
      · exact .error rfl
      · exact .ok rfl
  · rw [pairingResult_unnamed candidateId ha,
      pairingResult_unnamed candidateId (fun hb => ha (h.names.mpr hb))]
    exact .error rfl

/-- A pairing binds both boundaries to the same light, each to a device of its own. -/
theorem Twins.paired {a b : BoundaryState} (h : Twins a b) (d : DeviceDescriptor) (i j : String) :
    Twins { a with descriptor := some d, lightId := some d.id, deviceId := some i }
      { b with descriptor := some d, lightId := some d.id, deviceId := some j } where
  lightId := rfl
  descriptor := rfl
  journal := h.journal
  named he := (isIdentifier_length d.id d.id_ok).1 (Option.some.inj he)
  left _ := Option.some_ne_none _
  right _ := Option.some_ne_none _

theorem handlePairing_matchAt (h : TwinSystems s t)
    (ha : DriversAgree L config driver₁ driver₂ timedOut₁ timedOut₂ m s t) :
    MatchAt TwinSystems (List.Forall₂ SameMessage) SameRaise
      (handlePairing L config stamps₁ driver₁ timedOut₁ m)
      (handlePairing L config stamps₂ driver₂ timedOut₂ m) s t := by
  unfold handlePairing MatchAt
  cases hreq : pairingRequest L m with
  | error e => exact ⟨.error (Or.inl rfl), h⟩
  | ok request =>
    obtain ⟨sessionId, candidateId, timeoutS⟩ := request
    rw [PyM.outcome_ok_bind, PyM.outcome_ok_bind]
    dsimp only
    refine MatchAt.bind (V := (· = ·)) (MatchAt.tryExcept (F := SameFailure) ?_ ?_) ?_
    · rw [pairCall_bind (fun p hp => by rw [hp]) (fun hn => by rw [hn]),
        pairCall_bind (fun p hp => by rw [hp]) (fun hn => by rw [hn])]
      refine MatchAt.bind (matchAt_zoom (ha.pair sessionId candidateId timeoutS hreq) h) ?_
      intro a b hab
      refine match_bind (match_outcome (pairingResult_alike candidateId hab)) ?_
      rintro ⟨d, i⟩ ⟨d', j⟩ hd
      dsimp only at hd
      subst hd
      refine match_bind (match_modify fun s t hst => hst.paired d i j) fun _ _ _ => ?_
      exact match_pure rfl
    · intro e f hef
      rw [pairingFailure_class, pairingFailure_class]
      refine match_map (V := (· = ·)) (match_outcome (answerByClass_alike _ _ _ hef)) ?_
      rintro text _ rfl
      rfl
    · rintro failure _ rfl
      cases failure with
      | some text =>
        refine match_bind (pairingCompleted_match _ _ _ _ _) fun a b hab => ?_
        exact match_pure (.cons hab .nil)
      | none =>
        refine match_bind (pairingCompleted_match _ _ _ _ _) fun a b hab => ?_
        exact match_pure (.cons hab .nil)

/-! ### The commands -/

theorem SameLight.statePayload {a b : LightState} (h : SameLight a b) {metadata : CommandMetadata}
    (hl : metadata.lightId ≠ "") : statePayload metadata a = statePayload metadata b := by
  unfold Linker.statePayload
  rw [h.toPayload hl]

theorem execute_matchAt {metadata : CommandMetadata} (h : TwinSystems s t)
    (hl : metadata.lightId ≠ "")
    (ha : ∀ operation, planOperation m = .ok operation → Alike SameLight SameFailure
      (runOperation driver₁ s.boundary.deviceId metadata.commandId operation s.driver).1
      (runOperation driver₂ t.boundary.deviceId metadata.commandId operation t.driver).1) :
    MatchAt TwinSystems SameMessage SameRaise (execute config stamps₁ driver₁ m metadata)
      (execute config stamps₂ driver₂ m metadata) s t := by
  unfold execute
  cases hplan : planOperation m with
  | error e => exact newEnvelope_match (by decide) _ _ s t h
  | ok operation =>
    dsimp only
    unfold MatchAt
    rw [PyM.get_bind, PyM.get_bind]
    refine MatchAt.bind (V := (· = ·)) (MatchAt.tryExcept
      (MatchAt.bind (matchAt_zoom (ha operation hplan) h) ?_) ?_) ?_
    · intro a b hab
      exact match_pure (hab.statePayload hl)
    · intro e f hef
      have hiff : e.isA .Exception = true ↔ f.isA .Exception = true := hef.ordinary
      by_cases he : e.isA .Exception = true
      · rw [if_pos he, if_pos (hiff.mp he)]
        exact match_pure rfl
      · have hf : ¬ f.isA .Exception = true := fun hf => he (hiff.mpr hf)
        rw [if_neg he, if_neg hf]
        exact match_raise (Or.inr ⟨he, hf⟩)
    · rintro payload _ rfl
      exact newEnvelope_match (by decide) _ _

/-- Both boundaries note the same result. -/
theorem Twins.noted {a b : BoundaryState} (h : Twins a b) (key : String) (payload : JsonObj) :
    Twins { a with journal := a.journal.setDefault key payload }
      { b with journal := b.journal.setDefault key payload } where
  lightId := h.lightId
  descriptor := h.descriptor
  journal := by rw [h.journal]
  named := h.named
  left := h.left
  right := h.right

theorem handleCommand_matchAt (h : TwinSystems s t)
    (ha : DriversAgree L config driver₁ driver₂ timedOut₁ timedOut₂ m s t) :
    MatchAt TwinSystems SameMessage SameRaise (handleCommand L config stamps₁ driver₁ m)
      (handleCommand L config stamps₂ driver₂ m) s t := by
  unfold handleCommand MatchAt
  rw [PyM.get_bind, PyM.get_bind, ← h.lightId]
  cases hadm : admitCommand L s.boundary.lightId m with
  | error e => exact ⟨.error (Or.inl rfl), h⟩
  | ok admitted =>
    rw [PyM.outcome_ok_bind, PyM.outcome_ok_bind]
    cases admitted with
    | error payload => exact newEnvelope_match (by decide) _ _ s t h
    | ok metadata =>
      dsimp only
      rw [← h.journal]
      cases hc : s.boundary.journal.get? metadata.idempotencyKey with
      | some cached => exact newEnvelope_match (by decide) _ _ s t h
      | none =>
        have hl : metadata.lightId ≠ "" := by
          intro he
          obtain ⟨-, hlight, -⟩ := admitCommand_ok L s.boundary.lightId m metadata hadm
          exact h.named (hlight.trans (congrArg some he))
        refine MatchAt.bind (execute_matchAt h hl fun operation hplan =>
          ha.operation metadata operation hadm hplan hc) ?_
        intro a b hab
        rw [hab.payload]
        refine match_bind (match_modify fun s t hst => hst.noted _ _) fun _ _ _ => ?_
        exact match_pure hab

/-! ### Whole runs -/

theorem call_matchAt {c d : Call} (h : TwinSystems s t)
    (hc : SameCall L config driver₁ driver₂ s t c d) :
    MatchAt TwinSystems (List.Forall₂ SameMessage) SameRaise (call L config stamps₁ driver₁ c)
      (call L config stamps₂ driver₂ d) s t := by
  cases hc with
  | register =>
    exact (register_match s t h).map fun a b hab => .cons hab .nil
  | report a b hab hs ht =>
    exact (stateEnvelope_matchAt hab h hs).map fun a b hab => .cons hab .nil
  | message timedOut₁ timedOut₂ m ha =>
    refine MatchAt.map (V := fun a b => List.Forall₂ SameMessage (envelopes a) (envelopes b)) ?_
      (fun _ _ hab => hab)
    unfold handle
    split
    · exact (handleDiscovery_matchAt h ha).map fun _ _ hab => hab
    · split
      · exact (handlePairing_matchAt h ha).map fun _ _ hab => hab
      · exact (handleCommand_matchAt h ha).map fun _ _ hab => .cons hab .nil

theorem answers_alike {calls : List (Call × Call)} (h : TwinSystems s t)
    (ha : Agree L config stamps₁ stamps₂ driver₁ driver₂ s t calls) :
    List.Forall₂ SameAnswer (answers L config stamps₁ driver₁ s (calls.map Prod.fst))
      (answers L config stamps₂ driver₂ t (calls.map Prod.snd)) := by
  induction calls generalizing s t with
  | nil => exact .nil
  | cons cd calls ih =>
    obtain ⟨c, d⟩ := cd
    obtain ⟨hcall, hrest⟩ := ha
    obtain ⟨halike, htwins⟩ := call_matchAt h hcall
    exact .cons halike (ih htwins hrest)

end Twins

/-! ## Main result -/

section Secrets

variable {D₁ D₂ : Type} (L : PyLib) (config : LinkerConfig) (stamps₁ stamps₂ : Nat → Stamp)
variable (driver₁ : VendorRgbDriver D₁) (driver₂ : VendorRgbDriver D₂)

/-- The light id of a new boundary is a name. -/
theorem init_named (lightId deviceId : Option String) (descriptor : Option DeviceDescriptor) :
    (BoundaryState.init lightId deviceId descriptor).lightId ≠ some "" := by
  have hd : descriptor.map DeviceDescriptor.id ≠ some "" := by
    cases descriptor with
    | none => exact nofun
    | some d => exact fun he => (isIdentifier_length d.id d.id_ok).1 (Option.some.inj he)
  show orElseText lightId _ ≠ _
  unfold orElseText
  split
  · next l =>
    split
    · next hl => exact fun he => hl (Option.some.inj he)
    · exact hd
  · exact hd

/-- **Secrets do not show.**  Two boundaries with the same light and descriptor, over drivers that
agree in every call, answer every call alike, whatever their devices, credentials and exception
texts are. -/
theorem secrets_do_not_show (lightId device₁ device₂ : Option String)
    (descriptor : Option DeviceDescriptor) (s : System D₁) (t : System D₂)
    (hs : s.boundary = BoundaryState.init lightId device₁ descriptor)
    (ht : t.boundary = BoundaryState.init lightId device₂ descriptor)
    (hbound₁ : Bound s.boundary) (hbound₂ : Bound t.boundary) (calls : List (Call × Call))
    (ha : Agree L config stamps₁ stamps₂ driver₁ driver₂ s t calls) :
    List.Forall₂ SameAnswer (answers L config stamps₁ driver₁ s (calls.map Prod.fst))
      (answers L config stamps₂ driver₂ t (calls.map Prod.snd)) := by
  refine answers_alike ⟨?_, ?_, ?_, ?_, hbound₁, hbound₂⟩ ha
  · rw [hs, ht]
    rfl
  · rw [hs, ht]
    rfl
  · rw [hs, ht]
    rfl
  · rw [hs]
    exact init_named lightId device₁ descriptor

end Secrets

/-! ## Two lamps under one light id -/

theorem full_brightness : ∀ n ∈ (some 255 : Option Int), 0 ≤ n ∧ n ≤ 255 := by
  intro n hn
  cases hn
  omega

theorem no_white : ∀ n ∈ (none : Option Int), 0 ≤ n ∧ n ≤ 255 := by
  intro n hn
  cases hn

/-- A red light at full brightness, realised by a device. -/
def redLight (device : String) (h : device ≠ "") : LightState where
  deviceId := device
  available := true
  on := true
  rgb := some fullRed
  brightness := some 255
  white := none
  stateRevision := 1
  device_ok := h
  brightness_ok := full_brightness
  white_ok := no_white
  revision_ok := Int.one_nonneg

/-- A lamp with a device id of its own, whose scan fails with a text of its own. -/
def redLamp (device : String) (h : device ≠ "") (text : String) : VendorRgbDriver Unit where
  discover _ := PyM.raise ⟨.OSError, text⟩
  pair := none
  turnOn _ _ _ _ _ := pure (redLight device h)
  turnOff _ _ := pure (redLight device h)
  setBrightness _ _ _ := pure (redLight device h)
  setRgb _ _ _ := pure (redLight device h)

def redLampA : VendorRgbDriver Unit := redLamp "bf01" (by decide) "bf01 did not answer at 10.0.0.7"

def redLampB : VendorRgbDriver Unit := redLamp "bf02" (by decide) "bf02 did not answer at 10.0.0.9"

theorem redLamp_scan (device : String) (h : device ≠ "") (text : String) (timedOut : Bool)
    (c : DiscoveryConfig) :
    (PyM.waitFor timedOut ((redLamp device h text).discover c) ()).1 = .error ⟨.OSError, text⟩ := by
  cases timedOut <;> rfl

theorem redLamp_operation (device : String) (h : device ≠ "") (text : String)
    (deviceId : Option String) (commandId : Uuid) (operation : Operation) :
    (runOperation (redLamp device h text) deviceId commandId operation ()).1 =
      .ok (redLight device h) := by
  cases operation <;> rfl

theorem redLamps_agree (timedOut₁ timedOut₂ : Bool) (m : Envelope) (s t : System Unit) :
    DriversAgree lampLib .default redLampA redLampB timedOut₁ timedOut₂ m s t where
  discover sessionId timeoutS c _ _ := by
    unfold redLampA redLampB
    rw [redLamp_scan, redLamp_scan]
    exact .error rfl
  pair _ _ _ _ := .error rfl
  operation metadata operation _ _ _ := by
    unfold redLampA redLampB
    rw [redLamp_operation, redLamp_operation]
    exact .ok ⟨rfl, rfl, rfl, rfl⟩

def deskOf (device : String) : System Unit :=
  ⟨.init (some "light.desk") (some device) none, (), 0, []⟩

/-- A report, the registration, and a command. -/
def deskCalls : List (Call × Call) :=
  [(.report (redLight "bf01" (by decide)), .report (redLight "bf02" (by decide))),
    (.register, .register), (.message false Commands.powerOn, .message true Commands.powerOn)]

theorem secrets_do_not_show_desk :
    List.Forall₂ SameAnswer
      (answers lampLib .default (fun _ => Stamp.zero) redLampA (deskOf "bf01")
        (deskCalls.map Prod.fst))
      (answers lampLib .default (fun _ => Stamp.zero) redLampB (deskOf "bf02")
        (deskCalls.map Prod.snd)) := by
  refine secrets_do_not_show lampLib .default _ _ _ _ (some "light.desk") (some "bf01")
    (some "bf02") none (deskOf "bf01") (deskOf "bf02") rfl rfl nofun nofun deskCalls ?_
  refine ⟨.report _ _ ⟨rfl, rfl, rfl, rfl⟩ nofun nofun, .register, ?_, trivial⟩
  exact .message false true Commands.powerOn (redLamps_agree false true _ _ _)

end Linker.Secrecy
