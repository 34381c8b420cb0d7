import OpenHdoLinker.Tuya.Driver

/-!
# Pairing, all or nothing

`pair` checks the candidate, disconnects, binds the driver to the new device and
verifies it, saves the binding, and only then builds the descriptor it returns.
Each of its steps may fail, the `disconnect` of its own rollback included.

    pair_refused      nothing was attempted: the state is the same
    pair_failed       the attempt failed and was rolled back
    pair_stuck        the attempt failed and so did the rollback
    pair_returned     the binding was committed and announced
    pair_unannounced  the binding was committed, and the descriptor then rejected

The first, second and fourth are all or nothing; the other two are the defects
(pair_allOrNothing_iff).
-/

namespace Linker

open Py

section Pairing

variable (C : TuyaCrypto) (J : JsonLib) (ipAddress : String → Option IpAddress)

/-! ## Algorithm -/

/-- The callbacks registered for a device. -/
def registrations (callbacks : Dict String (List Nat)) (deviceId : String) : List Nat :=
  (callbacks.get? deviceId).getD []

/-- The fields polling leaves alone. -/
structure Binding where
  device : Option TuyaDeviceConfig
  pairing : Option TuyaPairingConfig
  statePath : Option String
  pairedLightId : Option String
  discoveryEnabled : Bool
  discovered : Dict String DiscoveryItem
  callbacks : Dict String (List Nat)
  file : Option StateFile

def TuyaState.binding (s : TuyaState) : Binding :=
  ⟨s.device, s.pairing, s.statePath, s.pairedLightId, s.discoveryEnabled, s.discovered, s.callbacks,
    s.file⟩

/-- The checks `pair` makes before it touches the driver. -/
def Attempted (s : TuyaState) (o : PairOutcomes) (candidateId : String) (d : TuyaDeviceConfig) :
    Prop :=
  ∃ item profile, s.discovered.get? candidateId = some item ∧ s.pairing = some profile ∧
    TuyaDeviceConfig.init ipAddress item.ip item.id.val profile.link (some profile.dps) = .ok d ∧
    o.disconnect = .ok ()

/-- The device answered: it connected, and its reply maps to a light state. -/
def Verified (o : PairOutcomes) (d : TuyaDeviceConfig) : Prop :=
  o.connect = .ok () ∧ ∃ m payload dps mapped, d.dps = some m ∧ o.exchange = .ok payload ∧
    parseDps J payload = .ok dps ∧ stateFromDps d.deviceId dps m = .ok mapped

/-- There is no state file to write, or every step of writing it succeeds. -/
def Saved (statePath : Option String) (o : PairOutcomes) (candidateId : String)
    (d : TuyaDeviceConfig) : Prop :=
  statePath = none ∨ (candidateId = candidateIdOf C d.deviceId ∧ o.mkdir = .ok () ∧
    o.create = .ok () ∧ o.write = .ok () ∧ o.replace = .ok ())

/-- The file once the binding is saved. -/
def Binding.savedFile (b : Binding) (candidateId : String) (d : TuyaDeviceConfig) :
    Option StateFile :=
  match b.statePath with
  | none => b.file
  | some _ => some (.ok (pairingRecord candidateId d))

/-- The fields once the binding is committed. -/
def Binding.committed (b : Binding) (candidateId : String) (d : TuyaDeviceConfig) : Binding :=
  { b with device := some d, pairedLightId := some candidateId,
           callbacks := moveCallbacks b.device d b.callbacks, file := b.savedFile candidateId d }

/-- The device id and the candidate id are light ids, so the descriptor can be built. -/
def Announceable (candidateId : String) (d : TuyaDeviceConfig) : Prop :=
  isIdentifier d.deviceId = true ∧ isIdentifier candidateId = true

/-! ## Statement -/

structure Unchanged (s t : TuyaState) : Prop where
  device : t.device = s.device
  pairedLightId : t.pairedLightId = s.pairedLightId
  callbacks : ∀ id, registrations t.callbacks id = registrations s.callbacks id
  file : t.file = s.file

/-- The driver is bound to `d` under the light id `candidateId`, and what was registered for the
previous device is registered for `d`. -/
structure BoundTo (s t : TuyaState) (candidateId : String) (d : TuyaDeviceConfig) : Prop where
  device : t.device = some d
  pairedLightId : t.pairedLightId = some candidateId
  moved : ∀ p, s.device = some p → registrations s.callbacks p.deviceId ≠ [] →
    registrations t.callbacks d.deviceId = registrations s.callbacks p.deviceId
  removed : ∀ p, s.device = some p → p.deviceId ≠ d.deviceId →
    registrations t.callbacks p.deviceId = []
  others : ∀ id, id ≠ d.deviceId → (∀ p, s.device = some p → id ≠ p.deviceId) →
    registrations t.callbacks id = registrations s.callbacks id
  file : ∀ path, s.statePath = some path → t.file = some (.ok (pairingRecord candidateId d))

/-- A `pair` that raises changed nothing; one that returns bound the driver to the candidate. -/
def AllOrNothing (s : TuyaState) (candidateId : String) : Except PyErr PairResult × TuyaState → Prop
  | (.error _, t) => Unchanged s t
  | (.ok r, t) => ∃ item d, s.discovered.get? candidateId = some item ∧
      d.deviceId = item.id.val ∧ d.ip = item.ip ∧ BoundTo s t candidateId d ∧
      r.deviceId = some d.deviceId ∧ ∃ a, r.descriptor = some a ∧ a.id = candidateId

/-- The binding `pair` would commit is the one the driver has already. -/
def AlreadyBound (s : TuyaState) (candidateId : String) (d : TuyaDeviceConfig) : Prop :=
  s.device = some d ∧ s.pairedLightId = some candidateId ∧
    s.binding.savedFile candidateId d = s.file

/-- A binding that is committed can be announced, and an attempt that fails can disconnect. -/
def Recoverable (s : TuyaState) (o : PairOutcomes) (candidateId : String) : Prop :=
  ∀ d, Attempted ipAddress s o candidateId d →
    (Verified J o d ∧ Saved C s.statePath o candidateId d →
      Announceable candidateId d ∨ AlreadyBound s candidateId d) ∧
    (¬ (Verified J o d ∧ Saved C s.statePath o candidateId d) →
      o.rollback = .ok () ∨ s.device = some d)

/-! ## Lemmas -/

/-! ### Callbacks -/

theorem registrations_moveCallbacks (previous : Option TuyaDeviceConfig) (d : TuyaDeviceConfig)
    (callbacks : Dict String (List Nat)) (id : String) :
    registrations (moveCallbacks previous d callbacks) id =
      match previous with
      | none => registrations callbacks id
      | some p =>
        if id = d.deviceId ∧ registrations callbacks p.deviceId ≠ [] then
          registrations callbacks p.deviceId
        else if id = p.deviceId then [] else registrations callbacks id := by
  cases previous with
  | none => rfl
  | some p =>
    unfold moveCallbacks registrations
    dsimp only
    cases hp : callbacks.get? p.deviceId with
    | none =>
      rw [if_neg (by simp), Dict.get?_erase]
      split
      · rfl
      · rfl
    | some l =>
      cases l with
      | nil =>
        rw [if_neg (by simp), Dict.get?_erase]
        split
        · rfl
        · rfl
      | cons c cs =>
        show (((callbacks.erase p.deviceId).set d.deviceId (c :: cs)).get? id).getD [] =
          if id = d.deviceId ∧ c :: cs ≠ [] then c :: cs
          else if id = p.deviceId then [] else (callbacks.get? id).getD []
        rw [Dict.get?_set, Dict.get?_erase]
        by_cases hid : id = d.deviceId
        · rw [if_pos hid, if_pos ⟨hid, List.cons_ne_nil c cs⟩]
          rfl
        · rw [if_neg hid, if_neg (fun h : id = d.deviceId ∧ _ => hid h.1)]
          split
          · rfl
          · rfl

/-- Moving the callbacks of a device to itself changes no registration. -/
theorem registrations_moveCallbacks_self (d p : TuyaDeviceConfig)
    (callbacks : Dict String (List Nat)) (hp : p.deviceId = d.deviceId) (id : String) :
    registrations (moveCallbacks (some p) d callbacks) id = registrations callbacks id := by
  rw [registrations_moveCallbacks]
  dsimp only
  by_cases hid : id = d.deviceId
  · subst hid
    by_cases hr : registrations callbacks p.deviceId = []
    · rw [if_neg (fun h => h.2 hr), if_pos hp.symm, ← hp, hr]
    · rw [if_pos ⟨rfl, hr⟩, hp]
  · rw [if_neg (fun h => hid h.1), if_neg (fun h => hid (h.trans hp))]

/-! ### Saving -/

variable {C J ipAddress}

theorem savePairingState_saved {o : PairOutcomes} {candidateId : String} {d : TuyaDeviceConfig}
    {s : TuyaState} (h : Saved C s.statePath o candidateId d) :
    savePairingState C o candidateId d s =
      (.ok (), { s with file := s.binding.savedFile candidateId d }) := by
  obtain ⟨_, _, path, _, _, _, _, _, _, _, _⟩ := s
  cases path with
  | none => rfl
  | some path =>
    rcases h with h | ⟨hid, hmkdir, hcreate, hwrite, hreplace⟩
    · cases h
    · unfold savePairingState
      rw [PyM.get_bind]
      dsimp only
      rw [if_neg (not_not.mpr hid), hmkdir, PyM.outcome_ok_bind, hcreate, PyM.outcome_ok_bind,
        hwrite, hreplace]
      rfl

theorem unlinkTemporary_apply (o : PairOutcomes) (s : TuyaState) :
    ∃ r, unlinkTemporary o s = (r, s) := by
  unfold unlinkTemporary PyM.tryExcept PyM.outcome
  cases o.unlink with
  | ok u => exact ⟨_, rfl⟩
  | error e =>
    dsimp only
    split
    · exact ⟨_, rfl⟩
    · exact ⟨_, rfl⟩

/-- A write that fails removes the temporary file and raises. -/
theorem writeTemporary_fails {o : PairOutcomes} (h : ¬ (o.write = .ok () ∧ o.replace = .ok ()))
    (s : TuyaState) :
    ∃ e, PyM.tryExcept
      (do
        PyM.outcome o.write
        PyM.outcome o.replace)
      (fun e => do
        unlinkTemporary o
        PyM.raise e) s = (.error e, s) := by
  have hbody : ∃ e, (do
      PyM.outcome o.write
      PyM.outcome o.replace : PyM TuyaState Unit) s = (.error e, s) := by
    cases hw : o.write with
    | error e => exact ⟨e, rfl⟩
    | ok u =>
      cases hr : o.replace with
      | error e => exact ⟨e, rfl⟩
      | ok v => exact absurd ⟨hw, hr⟩ h
  obtain ⟨e, he⟩ := hbody
  obtain ⟨r, hr⟩ := unlinkTemporary_apply o s
  rw [PyM.tryExcept_error he]
  cases r with
  | ok u => exact ⟨e, by rw [PyM.bind_ok hr]; rfl⟩
  | error e' => exact ⟨e', by rw [PyM.bind_error hr]⟩

theorem savePairingState_not_saved {o : PairOutcomes} {candidateId : String} {d : TuyaDeviceConfig}
    {s : TuyaState} (h : ¬ Saved C s.statePath o candidateId d) :
    ∃ e, savePairingState C o candidateId d s = (.error e, s) := by
  unfold Saved at h
  push Not at h
  obtain ⟨hpath, hsteps⟩ := h
  obtain ⟨path, hp⟩ := Option.ne_none_iff_exists'.mp hpath
  unfold savePairingState
  rw [PyM.get_bind, hp]
  dsimp only
  by_cases hid : candidateId = candidateIdOf C d.deviceId
  · rw [if_neg (not_not.mpr hid)]
    cases hmkdir : o.mkdir with
    | error e => exact ⟨e, rfl⟩
    | ok u =>
      cases hcreate : o.create with
      | error e => exact ⟨e, rfl⟩
      | ok v =>
        obtain ⟨e, he⟩ := writeTemporary_fails (o := o)
          (fun hw => hsteps hid hmkdir hcreate hw.1 hw.2) s
        rw [PyM.outcome_ok_bind, PyM.outcome_ok_bind]
        exact ⟨e, PyM.bind_error he⟩
  · rw [if_pos hid]
    exact ⟨_, rfl⟩

/-! ### Verifying -/

theorem exchange_preserves (b : Binding) (command : Nat) (body : Json) (answer : Except PyErr Bytes) :
    PyM.Preserves (fun s => TuyaState.binding s = b) (exchange command body answer) :=
  PyM.preserves_bind (PyM.preserves_modify fun _ h => h) (fun _ => PyM.preserves_outcome _)

theorem checkDevice_preserves (b : Binding) (deviceId : Option String) :
    PyM.Preserves (fun s => TuyaState.binding s = b) (checkDevice deviceId) := by
  refine PyM.preserves_bind PyM.preserves_get ?_
  intro s
  refine PyM.preserves_bind (PyM.preserves_outcome _) ?_
  intro d
  split
  · exact PyM.preserves_pure _
  · exact PyM.preserves_raise _

theorem pollState_preserves (b : Binding) (deviceId : Option String) (reply : Except PyErr Bytes) :
    PyM.Preserves (fun s => TuyaState.binding s = b) (pollState J deviceId reply) :=
  pollState_frame J (fun _ _ h => h) (fun _ _ h => h) (fun _ _ h => h) deviceId reply

theorem writeCommand_preserves (b : Binding) (w : WriteOutcomes) (deviceId : Option String)
    (values : TuyaDpMapping → Except PyErr (List (Nat × Json))) :
    PyM.Preserves (fun s => TuyaState.binding s = b) (writeCommand J w deviceId values) := by
  refine PyM.preserves_bind (checkDevice_preserves b deviceId) ?_
  intro d
  refine PyM.preserves_bind (PyM.preserves_outcome _) ?_
  intro m
  refine PyM.preserves_bind (PyM.preserves_outcome _) ?_
  intro vs
  refine PyM.preserves_bind (exchange_preserves b _ _ _) ?_
  intro _
  refine PyM.preserves_bind (pollState_preserves b _ _) ?_
  intro state
  refine PyM.preserves_bind (PyM.preserves_modify fun _ h => h) ?_
  intro _
  exact PyM.preserves_pure _

theorem pollState_keeps (deviceId : Option String) (reply : Except PyErr Bytes) (s : TuyaState) :
    (pollState J deviceId reply s).2.binding = s.binding :=
  pollState_preserves s.binding deviceId reply s rfl

theorem binding_ext {s t : TuyaState} (h : t.binding = s.binding) :
    t.device = s.device ∧ t.pairing = s.pairing ∧ t.statePath = s.statePath ∧
      t.pairedLightId = s.pairedLightId ∧ t.callbacks = s.callbacks ∧ t.file = s.file :=
  ⟨congrArg Binding.device h, congrArg Binding.pairing h, congrArg Binding.statePath h,
    congrArg Binding.pairedLightId h, congrArg Binding.callbacks h, congrArg Binding.file h⟩

theorem pairBody_ok {o : PairOutcomes} {candidateId : String} {s : TuyaState} {d : TuyaDeviceConfig}
    (previous : Option TuyaDeviceConfig) (hdev : s.device = some d) (hv : Verified J o d)
    (hs : Saved C s.statePath o candidateId d) :
    ∃ t, pairBody C J o candidateId previous d s = (.ok (), t) ∧
      t.binding = { s.binding with pairedLightId := some candidateId,
                                   callbacks := moveCallbacks previous d s.callbacks,
                                   file := s.binding.savedFile candidateId d } := by
  obtain ⟨hconnect, m, payload, dps, mapped, hm, hreply, hdps, hmap⟩ := hv
  obtain ⟨u, hu⟩ := pollState_ok J hdev hm hdps hmap
  have hkeep : u.binding = s.binding := by
    have := pollState_keeps (J := J) (some d.deviceId) (.ok payload) s
    rw [hu] at this
    exact this
  obtain ⟨-, -, hpath, -, -, -⟩ := binding_ext hkeep
  rw [← hpath] at hs
  have hsave := savePairingState_saved hs
  unfold pairBody
  rw [hconnect, PyM.outcome_ok_bind, hreply, PyM.bind_ok hu, PyM.bind_ok hsave]
  refine ⟨_, rfl, ?_⟩
  rw [← hkeep]
  have hcb : u.callbacks = s.callbacks := congrArg Binding.callbacks hkeep
  rw [← hcb]
  rfl

theorem pairBody_error {o : PairOutcomes} {candidateId : String} {s : TuyaState}
    {d : TuyaDeviceConfig} (previous : Option TuyaDeviceConfig) (hdev : s.device = some d)
    (h : ¬ (Verified J o d ∧ Saved C s.statePath o candidateId d)) :
    ∃ e t, pairBody C J o candidateId previous d s = (.error e, t) ∧ t.binding = s.binding := by
  unfold pairBody
  cases hconnect : o.connect with
  | error e => exact ⟨e, s, rfl, rfl⟩
  | ok _ =>
    rw [PyM.outcome_ok_bind]
    have hkeep := pollState_keeps (J := J) (some d.deviceId) o.exchange s
    cases hpoll : pollState J (some d.deviceId) o.exchange s with
    | mk r u =>
      rw [hpoll] at hkeep
      cases r with
      | error e => exact ⟨e, u, PyM.bind_error hpoll, hkeep⟩
      | ok state =>
        rw [PyM.bind_ok hpoll]
        obtain ⟨d', m, payload, dps, mapped, hd', -, hm, hreply, hdps, hmap, -⟩ :=
          pollState_run_ok J hpoll
        have hdd : d' = d := Option.some.inj (hd'.symm.trans hdev)
        subst hdd
        have hv : Verified J o d' := ⟨hconnect, m, payload, dps, mapped, hm, hreply, hdps, hmap⟩
        have hns : ¬ Saved C u.statePath o candidateId d' := by
          intro hs
          obtain ⟨-, -, hpath, -, -, -⟩ := binding_ext hkeep
          rw [hpath] at hs
          exact h ⟨hv, hs⟩
        obtain ⟨e, he⟩ := savePairingState_not_saved hns
        exact ⟨e, u, PyM.bind_error he, hkeep⟩

/-! ### The whole call -/

/-- The state in which the `try` block runs. -/
def TuyaState.rebound (s : TuyaState) (d : TuyaDeviceConfig) : TuyaState :=
  { s with device := some d, state := none }

theorem rawDescriptor_ok {d : TuyaDeviceConfig} (h : isIdentifier d.deviceId = true) :
    ∃ a, rawDescriptor d = .ok a := by
  have hmodes : colorModesOf d ≠ [] ∧ (∀ m ∈ colorModesOf d, m ∈ supportedModes) ∧
      (colorModesOf d).Nodup := by
    unfold colorModesOf
    split
    · split
      · decide
      · decide
    · decide
  unfold rawDescriptor DeviceDescriptor.init
  rw [dif_pos h, dif_pos d.link.name_ok, dif_pos ⟨hmodes.1, hmodes.2.1⟩, dif_pos hmodes.2.2]
  exact ⟨_, rfl⟩

/-- The descriptor is built from the raw device id first, and from the light id after it. -/
theorem descriptor_announceable {s : TuyaState} {candidateId : String} {d : TuyaDeviceConfig}
    (hdev : s.device = some d) (h : Announceable candidateId d) :
    ∃ a, descriptor s (some candidateId) = .ok a ∧ a.id = candidateId := by
  obtain ⟨a, ha⟩ := rawDescriptor_ok h.1
  have hd : deviceOf s = .ok d := by unfold deviceOf; rw [hdev]
  unfold descriptor
  rw [hd]
  show ∃ b, (rawDescriptor d >>= fun a => a.replaceId candidateId) = .ok b ∧ _
  rw [ha]
  exact ⟨_, a.replaceId_ok candidateId h.2, rfl⟩

theorem descriptor_not_announceable {s : TuyaState} {candidateId : String} {d : TuyaDeviceConfig}
    (hdev : s.device = some d) (h : ¬ Announceable candidateId d) :
    ∃ e, descriptor s (some candidateId) = .error e := by
  have hd : deviceOf s = .ok d := by unfold deviceOf; rw [hdev]
  unfold descriptor
  rw [hd]
  show ∃ e, (rawDescriptor d >>= fun a => a.replaceId candidateId) = .error e
  by_cases hraw : isIdentifier d.deviceId = true
  · obtain ⟨a, ha⟩ := rawDescriptor_ok hraw
    have hc : ¬ isIdentifier candidateId = true := fun hc => h ⟨hraw, hc⟩
    rw [ha]
    unfold DeviceDescriptor.replaceId DeviceDescriptor.init
    exact ⟨_, dif_neg hc⟩
  · unfold rawDescriptor DeviceDescriptor.init
    rw [dif_neg hraw]
    exact ⟨_, rfl⟩

variable {s : TuyaState} {o : PairOutcomes} {candidateId : String} {d : TuyaDeviceConfig}

/-- Nothing was attempted. -/
theorem pair_refused (h : ∀ d, ¬ Attempted ipAddress s o candidateId d) :
    ∃ e, pair C J ipAddress o candidateId s = (.error e, s) := by
  unfold pair
  rw [PyM.get_bind]
  cases hitem : s.discovered.get? candidateId with
  | none => exact ⟨_, rfl⟩
  | some item =>
    cases hprofile : s.pairing with
    | none => exact ⟨_, rfl⟩
    | some profile =>
      dsimp only
      cases hinit : TuyaDeviceConfig.init ipAddress item.ip item.id.val profile.link
        (some profile.dps) with
      | error e => exact ⟨e, rfl⟩
      | ok d =>
        rw [PyM.outcome_ok_bind]
        cases hdisc : o.disconnect with
        | error e => exact ⟨e, rfl⟩
        | ok u => exact absurd ⟨item, profile, hitem, hprofile, hinit, hdisc⟩ (h d)

/-- What is left of `pair` once the `try` block has run. -/
theorem pair_attempted (ha : Attempted ipAddress s o candidateId d) :
    pair C J ipAddress o candidateId s =
      (PyM.tryExcept (pairBody C J o candidateId s.device d) (fun e => do
          PyM.outcome o.rollback
          PyM.modify fun t =>
            { t with device := s.device, pairedLightId := s.pairedLightId, state := none }
          PyM.raise e) >>= fun _ => do
        let t ← PyM.get
        let announced ← PyM.outcome (descriptor t (some candidateId))
        pure ⟨some announced, some d.deviceId⟩) (s.rebound d) := by
  obtain ⟨item, profile, hitem, hprofile, hinit, hdisc⟩ := ha
  unfold pair
  rw [PyM.get_bind, hitem, hprofile]
  dsimp only
  rw [hinit, PyM.outcome_ok_bind, hdisc, PyM.outcome_ok_bind, PyM.modify_bind]
  rfl

/-- The rollback puts the two fields back that the attempt may have changed. -/
theorem binding_restored {s t : TuyaState} (h : t.binding = (s.rebound d).binding) :
    ({ t with device := s.device, pairedLightId := s.pairedLightId, state := none }
      : TuyaState).binding = s.binding :=
  congrArg (fun b : Binding =>
    ({ b with device := s.device, pairedLightId := s.pairedLightId } : Binding)) h

/-- A failed attempt is rolled back. -/
theorem pair_failed (ha : Attempted ipAddress s o candidateId d)
    (h : ¬ (Verified J o d ∧ Saved C s.statePath o candidateId d)) (hr : o.rollback = .ok ()) :
    ∃ e t, pair C J ipAddress o candidateId s = (.error e, t) ∧ t.binding = s.binding := by
  obtain ⟨e, t, ht, hb⟩ := pairBody_error (s := s.rebound d) s.device rfl h
  rw [pair_attempted ha]
  refine ⟨e, { t with device := s.device, pairedLightId := s.pairedLightId, state := none },
    PyM.bind_error ((PyM.tryExcept_error ht).trans ?_), binding_restored hb⟩
  rw [hr, PyM.outcome_ok_bind]
  rfl

/-- A failed attempt whose rollback fails leaves the driver bound to the new device. -/
theorem pair_stuck {e' : PyErr} (ha : Attempted ipAddress s o candidateId d)
    (h : ¬ (Verified J o d ∧ Saved C s.statePath o candidateId d)) (hr : o.rollback = .error e') :
    ∃ e t, pair C J ipAddress o candidateId s = (.error e, t) ∧
      t.binding = { s.binding with device := some d } := by
  obtain ⟨e, t, ht, hb⟩ := pairBody_error (s := s.rebound d) s.device rfl h
  rw [pair_attempted ha]
  refine ⟨e', t, PyM.bind_error ((PyM.tryExcept_error ht).trans ?_), hb⟩
  rw [hr]
  rfl

/-- A verified and saved binding is committed, before it is known that it can be announced. -/
theorem pair_committed (ha : Attempted ipAddress s o candidateId d) (hv : Verified J o d)
    (hs : Saved C s.statePath o candidateId d) :
    ∃ t, t.binding = s.binding.committed candidateId d ∧
      pair C J ipAddress o candidateId s =
        ((fun a => (⟨some a, some d.deviceId⟩ : PairResult)) <$> descriptor t (some candidateId),
          t) := by
  obtain ⟨t, ht, hb⟩ := pairBody_ok (s := s.rebound d) s.device rfl hv hs
  rw [pair_attempted ha, PyM.bind_ok (PyM.tryExcept_ok ht)]
  refine ⟨t, hb, ?_⟩
  rw [PyM.get_bind]
  cases descriptor t (some candidateId) with
  | ok a => rfl
  | error e => rfl

theorem pair_returned (ha : Attempted ipAddress s o candidateId d) (hv : Verified J o d)
    (hs : Saved C s.statePath o candidateId d) (hn : Announceable candidateId d) :
    ∃ a t, pair C J ipAddress o candidateId s = (.ok ⟨some a, some d.deviceId⟩, t) ∧
      a.id = candidateId ∧ t.binding = s.binding.committed candidateId d := by
  obtain ⟨t, hb, hp⟩ := pair_committed ha hv hs
  have hdev : t.device = some d := congrArg Binding.device hb
  obtain ⟨a, hd, hid⟩ := descriptor_announceable hdev hn
  rw [hd] at hp
  exact ⟨a, t, hp, hid, hb⟩

theorem pair_unannounced (ha : Attempted ipAddress s o candidateId d) (hv : Verified J o d)
    (hs : Saved C s.statePath o candidateId d) (hn : ¬ Announceable candidateId d) :
    ∃ e t, pair C J ipAddress o candidateId s = (.error e, t) ∧
      t.binding = s.binding.committed candidateId d := by
  obtain ⟨t, hb, hp⟩ := pair_committed ha hv hs
  have hdev : t.device = some d := congrArg Binding.device hb
  obtain ⟨e, hd⟩ := descriptor_not_announceable hdev hn
  rw [hd] at hp
  exact ⟨e, t, hp, hb⟩

variable (C J ipAddress) in
/-- The ways `pair` ends. -/
inductive PairEnds (s : TuyaState) (o : PairOutcomes) (candidateId : String) :
    Except PyErr PairResult × TuyaState → Prop
  | refused (e : PyErr) : (∀ d, ¬ Attempted ipAddress s o candidateId d) →
      PairEnds s o candidateId (.error e, s)
  | returned (d : TuyaDeviceConfig) (a : DeviceDescriptor) (t : TuyaState) :
      Attempted ipAddress s o candidateId d →
      Verified J o d ∧ Saved C s.statePath o candidateId d → Announceable candidateId d →
      a.id = candidateId → t.binding = s.binding.committed candidateId d →
      PairEnds s o candidateId (.ok ⟨some a, some d.deviceId⟩, t)
  | unannounced (d : TuyaDeviceConfig) (e : PyErr) (t : TuyaState) :
      Attempted ipAddress s o candidateId d →
      Verified J o d ∧ Saved C s.statePath o candidateId d → ¬ Announceable candidateId d →
      t.binding = s.binding.committed candidateId d → PairEnds s o candidateId (.error e, t)
  | failed (d : TuyaDeviceConfig) (e : PyErr) (t : TuyaState) :
      Attempted ipAddress s o candidateId d →
      ¬ (Verified J o d ∧ Saved C s.statePath o candidateId d) → o.rollback = .ok () →
      t.binding = s.binding → PairEnds s o candidateId (.error e, t)
  | stuck (d : TuyaDeviceConfig) (e e' : PyErr) (t : TuyaState) :
      Attempted ipAddress s o candidateId d →
      ¬ (Verified J o d ∧ Saved C s.statePath o candidateId d) → o.rollback = .error e' →
      t.binding = { s.binding with device := some d } → PairEnds s o candidateId (.error e, t)

variable (C J ipAddress) in
theorem pair_ends (s : TuyaState) (o : PairOutcomes) (candidateId : String) :
    ∃ r, pair C J ipAddress o candidateId s = r ∧ PairEnds C J ipAddress s o candidateId r := by
  by_cases hattempt : ∃ d, Attempted ipAddress s o candidateId d
  · obtain ⟨d, ha⟩ := hattempt
    by_cases hvs : Verified J o d ∧ Saved C s.statePath o candidateId d
    · by_cases hn : Announceable candidateId d
      · obtain ⟨a, t, hp, hid, hb⟩ := pair_returned ha hvs.1 hvs.2 hn
        exact ⟨_, hp, .returned d a t ha hvs hn hid hb⟩
      · obtain ⟨e, t, hp, hb⟩ := pair_unannounced ha hvs.1 hvs.2 hn
        exact ⟨_, hp, .unannounced d e t ha hvs hn hb⟩
    · cases hr : o.rollback with
      | ok u =>
        obtain ⟨e, t, hp, hb⟩ := pair_failed ha hvs hr
        exact ⟨_, hp, .failed d e t ha hvs hr hb⟩
      | error e' =>
        obtain ⟨e, t, hp, hb⟩ := pair_stuck ha hvs hr
        exact ⟨_, hp, .stuck d e e' t ha hvs hr hb⟩
  · have hnone : ∀ d, ¬ Attempted ipAddress s o candidateId d := not_exists.mp hattempt
    obtain ⟨e, hp⟩ := pair_refused (C := C) (J := J) hnone
    exact ⟨_, hp, .refused e hnone⟩

/-! ### What each outcome means -/

theorem unchanged_of_binding {s t : TuyaState} (h : t.binding = s.binding) : Unchanged s t := by
  obtain ⟨hd, -, -, hp, hc, hf⟩ := binding_ext h
  exact ⟨hd, hp, fun id => by rw [hc], hf⟩

theorem boundTo_committed {t : TuyaState} (h : t.binding = s.binding.committed candidateId d) :
    BoundTo s t candidateId d := by
  have hc : t.callbacks = moveCallbacks s.device d s.callbacks := congrArg Binding.callbacks h
  have hf : t.file = s.binding.savedFile candidateId d := congrArg Binding.file h
  refine ⟨congrArg Binding.device h, congrArg Binding.pairedLightId h, ?_, ?_, ?_, ?_⟩
  · intro p hp hr
    rw [hc, registrations_moveCallbacks, hp]
    dsimp only
    rw [if_pos ⟨rfl, hr⟩]
  · intro p hp hne
    rw [hc, registrations_moveCallbacks, hp]
    dsimp only
    rw [if_neg (fun h => hne h.1), if_pos rfl]
  · intro id hid hother
    rw [hc, registrations_moveCallbacks]
    cases hp : s.device with
    | none => rfl
    | some p =>
      dsimp only
      rw [if_neg (fun h => hid h.1), if_neg (hother p hp)]
  · intro path hpath
    rw [hf]
    unfold Binding.savedFile TuyaState.binding
    rw [hpath]

/-- A committed binding that is not announced is no change exactly if it is the old one. -/
theorem unchanged_committed_iff {t : TuyaState}
    (h : t.binding = s.binding.committed candidateId d) :
    Unchanged s t ↔ AlreadyBound s candidateId d := by
  have hdev : t.device = some d := congrArg Binding.device h
  have hpaired : t.pairedLightId = some candidateId := congrArg Binding.pairedLightId h
  have hc : t.callbacks = moveCallbacks s.device d s.callbacks := congrArg Binding.callbacks h
  have hf : t.file = s.binding.savedFile candidateId d := congrArg Binding.file h
  constructor
  · intro hu
    exact ⟨hu.device.symm.trans hdev, hu.pairedLightId.symm.trans hpaired, hf.symm.trans hu.file⟩
  · rintro ⟨h1, h2, h3⟩
    refine ⟨hdev.trans h1.symm, hpaired.trans h2.symm, ?_, hf.trans h3⟩
    intro id
    rw [hc, h1]
    exact registrations_moveCallbacks_self d d s.callbacks rfl id

theorem attempted_item (ha : Attempted ipAddress s o candidateId d) :
    ∃ item, s.discovered.get? candidateId = some item ∧ d.deviceId = item.id.val ∧
      d.ip = item.ip := by
  obtain ⟨item, profile, hitem, -, hinit, -⟩ := ha
  obtain ⟨hip, hid, -, -⟩ := TuyaDeviceConfig.init_eq_ok _ _ _ _ _ _ hinit
  exact ⟨item, hitem, hid, hip⟩

/-- At most one device is attempted. -/
theorem attempted_unique {d' : TuyaDeviceConfig} (h : Attempted ipAddress s o candidateId d)
    (h' : Attempted ipAddress s o candidateId d') : d' = d := by
  obtain ⟨item, profile, hitem, hprofile, hinit, -⟩ := h
  obtain ⟨item', profile', hitem', hprofile', hinit', -⟩ := h'
  rw [hitem] at hitem'
  cases hitem'
  rw [hprofile] at hprofile'
  cases hprofile'
  rw [hinit] at hinit'
  cases hinit'
  rfl

/-- There is at most one device to attempt, so `Recoverable` is about that one. -/
theorem recoverable_attempted (ha : Attempted ipAddress s o candidateId d) :
    Recoverable C J ipAddress s o candidateId ↔
      (Verified J o d ∧ Saved C s.statePath o candidateId d →
        Announceable candidateId d ∨ AlreadyBound s candidateId d) ∧
      (¬ (Verified J o d ∧ Saved C s.statePath o candidateId d) →
        o.rollback = .ok () ∨ s.device = some d) := by
  constructor
  · intro h
    exact h d ha
  · intro h d' ha'
    rw [attempted_unique ha ha']
    exact h

/-! ## Main result -/

variable (C J ipAddress)

/-- **Pairing is all or nothing**, exactly if what it commits can be announced and what it cannot
complete can be rolled back. -/
theorem pair_allOrNothing_iff (s : TuyaState) (o : PairOutcomes) (candidateId : String) :
    AllOrNothing s candidateId (pair C J ipAddress o candidateId s) ↔
      Recoverable C J ipAddress s o candidateId := by
  obtain ⟨r, hp, hends⟩ := pair_ends C J ipAddress s o candidateId
  rw [hp]
  cases hends with
  | refused e hnone =>
    constructor
    · intro _ d ha
      exact absurd ha (hnone d)
    · intro _
      exact unchanged_of_binding rfl
  | returned d a t ha hvs hn hid hb =>
    rw [recoverable_attempted ha]
    obtain ⟨item, hitem, hdid, hdip⟩ := attempted_item ha
    constructor
    · intro _
      exact ⟨fun _ => Or.inl hn, fun hno => absurd hvs hno⟩
    · intro _
      exact ⟨item, d, hitem, hdid, hdip, boundTo_committed hb, rfl, a, rfl, hid⟩
  | unannounced d e t ha hvs hn hb =>
    rw [recoverable_attempted ha]
    show Unchanged s t ↔ _
    rw [unchanged_committed_iff hb]
    constructor
    · intro h
      exact ⟨fun _ => Or.inr h, fun hno => absurd hvs hno⟩
    · intro h
      exact (h.1 hvs).resolve_left hn
  | failed d e t ha hno hr hb =>
    rw [recoverable_attempted ha]
    constructor
    · intro _
      exact ⟨fun h => absurd h hno, fun _ => Or.inl hr⟩
    · intro _
      exact unchanged_of_binding hb
  | stuck d e e' t ha hno hr hb =>
    rw [recoverable_attempted ha]
    have hdev : t.device = some d := congrArg Binding.device hb
    constructor
    · intro hu
      exact ⟨fun h => absurd h hno, fun _ => Or.inr (hu.device.symm.trans hdev)⟩
    · intro h
      rcases h.2 hno with h | h
      · rw [hr] at h
        cases h
      · refine unchanged_of_binding ?_
        rw [hb, ← h]
        rfl

end Pairing

/-! ## A device id that starts with a digit -/

/-- A device a scan may report. -/
def digitItem : DiscoveryItem := ⟨⟨"0123456789", by decide⟩, "192.168.1.21"⟩

def digitLamp : TuyaDeviceConfig where
  ip := "192.168.1.21"
  deviceId := "0123456789"
  link := lampLink
  dps := some lampMapping
  id_ok := by decide

/-- A driver that has found the device, with a pairing profile and no binding. -/
def foundDigit (C : TuyaCrypto) : TuyaState where
  device := none
  pairing := some ⟨lampLink, lampMapping⟩
  statePath := some "pairing.json"
  pairedLightId := none
  discoveryEnabled := true
  discovered := Dict.empty.set (candidateIdOf C "0123456789") digitItem
  callbacks := Dict.empty
  rawDps := Dict.empty
  state := none
  file := none
  requests := []

/-- Every step of `pair` succeeds. -/
def allWell : PairOutcomes :=
  ⟨.ok (), .ok (), .ok offReply, .ok (), .ok (), .ok (), .ok (), .ok (), .ok ()⟩

def privateAddress (_ : String) : Option IpAddress := some ⟨false, true, false⟩

theorem digitLamp_attempted (C : TuyaCrypto) :
    Attempted privateAddress (foundDigit C) allWell (candidateIdOf C "0123456789") digitLamp :=
  ⟨digitItem, ⟨lampLink, lampMapping⟩, Dict.get?_set_self _ _ _, rfl, rfl, rfl⟩

theorem digitLamp_verified : Verified lampLib.toJsonLib allWell digitLamp := by
  obtain ⟨hdps, mapped, hmap⟩ := offReply_maps digitLamp.deviceId (by decide)
  exact ⟨rfl, lampMapping, offReply, offDps, mapped, rfl, rfl, hdps, hmap⟩

/-- The device is verified and saved, and `pair` raises: its id is no light id. -/
theorem pair_digit_committed :
    ¬ AllOrNothing (foundDigit TuyaCrypto.plain) (candidateIdOf TuyaCrypto.plain "0123456789")
      (pair TuyaCrypto.plain lampLib.toJsonLib privateAddress allWell
        (candidateIdOf TuyaCrypto.plain "0123456789") (foundDigit TuyaCrypto.plain)) := by
  have hsaved : Saved TuyaCrypto.plain (some "pairing.json") allWell
      (candidateIdOf TuyaCrypto.plain "0123456789") digitLamp := Or.inr ⟨rfl, rfl, rfl, rfl, rfl⟩
  have hno : ¬ Announceable (candidateIdOf TuyaCrypto.plain "0123456789") digitLamp :=
    fun h => absurd h.1 (by decide)
  obtain ⟨e, t, hp, hb⟩ := pair_unannounced (digitLamp_attempted TuyaCrypto.plain)
    digitLamp_verified hsaved hno
  rw [hp]
  show ¬ Unchanged _ t
  rw [unchanged_committed_iff hb]
  rintro ⟨h, -, -⟩
  cases h

end Linker
