import OpenHdoLinker.Tuya.Pairing
import OpenHdoLinker.Lib.Runs

/-!
# The binding over a restart

The start-up of the process without a configured device (`startUp`, the first
branch of `cli._run`) and a machine that handles messages one after the other.
What the process keeps over a restart is the pairing-state file; what the server
was told is the last `pairing.completed` that said `completed`.

    Always Survives run ↔ Meets SavesLightIds run         (survives_iff)

The load path accepts what the save path writes; it is the descriptor that
start-up builds from the raw device id which some saved bindings do not pass.
-/

namespace Linker.Restart

open Py

section Restart

variable (L : PyLib) (config : LinkerConfig) (stamps : Nat → Stamp)
variable (C : TuyaCrypto) (ipAddress : String → Option IpAddress)
variable (profile : TuyaPairingConfig) (path : String) (enabled : Bool)

/-! ## Algorithm -/

/-- `_run` up to the boundary, for a configuration without a device. -/
def startUp (pairing : Option TuyaPairingConfig) (statePath : Option String)
    (file : Option StateFile) : Except PyErr (BoundaryState × TuyaState) := do
  let driver ← TuyaState.init C ipAddress none enabled pairing statePath file
  match driver.pairedLightId with
  | none => .ok (BoundaryState.init none none none, driver)
  | some lightId => do
    let device ← deviceOf driver
    let announced ← descriptor driver (some lightId)
    .ok (BoundaryState.init (some lightId) (some device.deviceId) (some announced), driver)

/-- One message the boundary handles, with what the surroundings answer to it. -/
structure Event where
  message : Envelope
  timedOut : Bool
  scan : Except PyErr (List DiscoveryItem)
  pairing : PairOutcomes
  write : WriteOutcomes

/-- The light id, the device id and the IP of a completed pairing. -/
structure Bound where
  lightId : String
  deviceId : String
  ip : String

structure State where
  system : System TuyaState
  last : Option Bound

/-- The driver during one message. -/
def driverOf (e : Event) : VendorRgbDriver TuyaState :=
  tuyaDriver C L.toJsonLib ipAddress e.scan e.pairing e.write

/-- What the answer to a pairing request tells the server: the candidate, if it says so, is the
item of the scan it was found in. -/
def completedBy (before : TuyaState) (message : Envelope)
    (answer : Except PyErr (Envelope ⊕ List Envelope)) : Option Bound :=
  match answer with
  | .ok (.inr [m]) =>
    if message.type = "pairing.start" ∧ m.type = "pairing.completed" ∧
        (getItem m.payload "status").str? = some "completed" then
      match (getItem m.payload "candidate_id").str? with
      | some candidateId =>
        (before.discovered.get? candidateId).map fun item => ⟨candidateId, item.id.val, item.ip⟩
      | none => none
    else none
  | _ => none

def step (s : State) (e : Event) : Option State :=
  match handle L config stamps (driverOf L C ipAddress e) e.timedOut e.message s.system with
  | (answer, t) =>
    some ⟨t, match completedBy s.system.driver e.message answer with
      | some b => some b
      | none => s.last⟩

/-- The process has just started, without a state file. -/
def start : State :=
  ⟨⟨BoundaryState.init none none none,
    ⟨none, some profile, some path, none, enabled, Dict.empty, Dict.empty, Dict.empty, none, none,
      []⟩, 0, []⟩, none⟩

/-! ## Statement -/

/-- Start-up with the file as it is raises nothing and finds the last completed binding. -/
def Survives (s : State) : Prop :=
  ∃ b d, startUp C ipAddress enabled (some profile) (some path) s.system.driver.file = .ok (b, d) ∧
    match s.last with
    | none => b.lightId = none ∧ b.deviceId = none ∧ d.device = none ∧ d.pairedLightId = none
    | some x => b.lightId = some x.lightId ∧ b.deviceId = some x.deviceId ∧
        d.pairedLightId = some x.lightId ∧
        ∃ device, d.device = some device ∧ device.deviceId = x.deviceId ∧ device.ip = x.ip

/-- A pairing request that gets as far as a saved binding is for a device whose id is a light id. -/
def SavesLightIds (s : State) (e : Event) : Prop :=
  ∀ sessionId candidateId timeout d, e.message.type = "pairing.start" →
    pairingRequest L e.message = .ok (sessionId, candidateId, timeout) →
    Attempted ipAddress s.system.driver e.pairing candidateId d →
    Verified L.toJsonLib e.pairing d → Saved C (some path) e.pairing candidateId d →
    isIdentifier d.deviceId = true

/-! ## Lemmas -/

/-! ### Loading what was saved -/

/-- **The load path accepts what the save path wrote.** -/
theorem loadPairingState_record {d : TuyaDeviceConfig}
    (hinit : TuyaDeviceConfig.init ipAddress d.ip d.deviceId profile.link (some profile.dps) = .ok d) :
    loadPairingState C ipAddress profile
      (some (.ok (pairingRecord (candidateIdOf C d.deviceId) d))) =
        .ok (some (d, candidateIdOf C d.deviceId)) := by
  have hread : readPairingState C ipAddress profile
      (.ok (pairingRecord (candidateIdOf C d.deviceId) d)) =
        .ok (d, candidateIdOf C d.deviceId) := by
    show (if candidateIdOf C d.deviceId ≠ candidateIdOf C d.deviceId then Except.error _
      else (fun device => (device, candidateIdOf C d.deviceId)) <$>
        TuyaDeviceConfig.init ipAddress d.ip d.deviceId profile.link (some profile.dps)) = _
    rw [if_neg (not_not.mpr rfl), hinit]
    rfl
  unfold loadPairingState
  dsimp only
  rw [hread]

/-- The driver as start-up builds it from a saved binding. -/
theorem init_record {d : TuyaDeviceConfig}
    (hinit : TuyaDeviceConfig.init ipAddress d.ip d.deviceId profile.link (some profile.dps) = .ok d) :
    ∃ t, TuyaState.init C ipAddress none enabled (some profile) (some path)
        (some (.ok (pairingRecord (candidateIdOf C d.deviceId) d))) = .ok t ∧
      t.device = some d ∧ t.pairedLightId = some (candidateIdOf C d.deviceId) := by
  unfold TuyaState.init
  dsimp only
  rw [loadPairingState_record C ipAddress profile hinit]
  exact ⟨_, rfl, rfl, rfl⟩

theorem orElseText_some {s : String} (h : s ≠ "") (other : Option String) :
    orElseText (some s) other = some s := if_pos h

/-- A saved binding whose device id is a light id is restored. -/
theorem startUp_record {d : TuyaDeviceConfig}
    (hinit : TuyaDeviceConfig.init ipAddress d.ip d.deviceId profile.link (some profile.dps) = .ok d)
    (hid : isIdentifier d.deviceId = true) :
    ∃ b t, startUp C ipAddress enabled (some profile) (some path)
        (some (.ok (pairingRecord (candidateIdOf C d.deviceId) d))) = .ok (b, t) ∧
      b.lightId = some (candidateIdOf C d.deviceId) ∧ b.deviceId = some d.deviceId ∧
      t.pairedLightId = some (candidateIdOf C d.deviceId) ∧ t.device = some d := by
  obtain ⟨t, ht, hdev, hpaired⟩ := init_record C ipAddress profile path enabled hinit
  have hc := candidateIdOf_isIdentifier C d.deviceId
  obtain ⟨a, ha, -⟩ := descriptor_announceable hdev ⟨hid, hc⟩
  have hd : deviceOf t = .ok d := by unfold deviceOf; rw [hdev]
  have hne : candidateIdOf C d.deviceId ≠ "" := by
    intro h
    rw [h] at hc
    exact absurd hc (by decide)
  unfold startUp
  rw [ht]
  show ∃ b u, (match t.pairedLightId with
    | none => Except.ok (BoundaryState.init none none none, t)
    | some lightId => do
      let device ← deviceOf t
      let announced ← descriptor t (some lightId)
      .ok (BoundaryState.init (some lightId) (some device.deviceId) (some announced), t)) =
        .ok (b, u) ∧ _
  rw [hpaired]
  dsimp only
  rw [hd, ha]
  exact ⟨_, _, rfl, orElseText_some hne _, orElseText_some d.id_ok.1 _, hpaired, hdev⟩

/-- A saved binding whose device id is no light id stops start-up. -/
theorem startUp_record_error {d : TuyaDeviceConfig}
    (hinit : TuyaDeviceConfig.init ipAddress d.ip d.deviceId profile.link (some profile.dps) = .ok d)
    (hid : ¬ isIdentifier d.deviceId = true) :
    ∃ e, startUp C ipAddress enabled (some profile) (some path)
        (some (.ok (pairingRecord (candidateIdOf C d.deviceId) d))) = .error e := by
  obtain ⟨t, ht, hdev, hpaired⟩ := init_record C ipAddress profile path enabled hinit
  have hno : ¬ Announceable (candidateIdOf C d.deviceId) d := fun h => hid h.1
  obtain ⟨e, he⟩ := descriptor_not_announceable hdev hno
  have hd : deviceOf t = .ok d := by unfold deviceOf; rw [hdev]
  unfold startUp
  rw [ht]
  show ∃ e, (match t.pairedLightId with
    | none => Except.ok (BoundaryState.init none none none, t)
    | some lightId => do
      let device ← deviceOf t
      let announced ← descriptor t (some lightId)
      .ok (BoundaryState.init (some lightId) (some device.deviceId) (some announced), t)) =
        .error e
  rw [hpaired]
  dsimp only
  rw [hd, he]
  exact ⟨e, rfl⟩

/-! ### What the messages preserve -/

/-- The driver keeps its configuration and its file, and knows each candidate under its opaque id. -/
structure DriverOk (file : Option StateFile) (t : TuyaState) : Prop where
  pairing : t.pairing = some profile
  statePath : t.statePath = some path
  file_eq : t.file = file
  found : ∀ c item, t.discovered.get? c = some item → c = candidateIdOf C item.id.val

variable {C profile path} {file : Option StateFile}

theorem DriverOk.of_binding {t t' : TuyaState} (h : DriverOk C profile path file t)
    (hb : t'.binding = t.binding) : DriverOk C profile path file t' where
  pairing := (congrArg Binding.pairing hb).trans h.pairing
  statePath := (congrArg Binding.statePath hb).trans h.statePath
  file_eq := (congrArg Binding.file hb).trans h.file_eq
  found := by
    have hd : t'.discovered = t.discovered := congrArg Binding.discovered hb
    rw [hd]
    exact h.found

theorem discover_preserves (scan : Except PyErr (List DiscoveryItem)) :
    PyM.Preserves (DriverOk C profile path file) (discover C scan) := by
  refine PyM.preserves_bind (PyM.preserves_modify ?_) ?_
  · intro t h
    exact ⟨h.pairing, h.statePath, h.file_eq, nofun⟩
  · intro _
    refine PyM.preserves_bind PyM.preserves_get ?_
    intro t
    split
    · exact PyM.preserves_pure _
    · refine PyM.preserves_bind (PyM.preserves_outcome _) ?_
      intro found
      refine PyM.preserves_mapM _ ?_
      intro item _
      refine PyM.preserves_bind (PyM.preserves_modify ?_) (fun _ => PyM.preserves_outcome _)
      intro t h
      refine ⟨h.pairing, h.statePath, h.file_eq, ?_⟩
      intro c item' hc
      rw [Dict.get?_set] at hc
      split at hc
      · next he => cases hc; exact he
      · exact h.found c item' hc

theorem runOperation_preserves (e : Event) (dev : Option String) (id : Uuid) (op : Operation) :
    PyM.Preserves (DriverOk C profile path file)
      (runOperation (driverOf L C ipAddress e) dev id op) := by
  intro t h
  refine h.of_binding ?_
  cases op with
  | turnOn => exact writeCommand_preserves t.binding e.write dev _ t rfl
  | turnOff => exact writeCommand_preserves t.binding e.write dev _ t rfl
  | setBrightness n => exact writeCommand_preserves t.binding e.write dev _ t rfl
  | setRgb c => exact writeCommand_preserves t.binding e.write dev _ t rfl

/-- Every message but a pairing request leaves the file alone. -/
theorem handle_preserves (e : Event) (he : e.message.type ≠ "pairing.start") :
    PyM.Preserves (fun s : System TuyaState => DriverOk C profile path file s.driver)
      (handle L config stamps (driverOf L C ipAddress e) e.timedOut e.message) := by
  unfold handle
  split
  · exact PyM.preserves_map _ (handleDiscovery_preserves L config stamps (fun _ h => h)
      (fun _ _ _ h => h) (fun _ h => h) (fun _ => discover_preserves e.scan) e.message)
  · exact PyM.preserves_map _ (handleCommand_preserves L config stamps (fun _ h => h)
      (fun _ _ _ h => h) (fun _ h => h) (fun _ _ h => h)
      (runOperation_preserves L ipAddress e) e.message)

theorem completedBy_other (before : TuyaState) (message : Envelope)
    (answer : Except PyErr (Envelope ⊕ List Envelope)) (h : message.type ≠ "pairing.start") :
    completedBy before message answer = none := by
  unfold completedBy
  split
  · rw [if_neg (fun hc => h hc.1)]
  · rfl

/-- An answer that says `failed`, or none at all, completes no pairing. -/
theorem completedBy_failed (before : TuyaState) (message : Envelope)
    (r : Except PyErr (List Envelope))
    (h : ∀ ms, r = .ok ms → ∃ m, ms = [m] ∧ getItem m.payload "status" = .str "failed") :
    completedBy before message (.inr <$> r) = none := by
  cases r with
  | error e => rfl
  | ok ms =>
    obtain ⟨m, rfl, hm⟩ := h ms rfl
    show (if message.type = "pairing.start" ∧ m.type = "pairing.completed" ∧
      (getItem m.payload "status").str? = some "completed" then _ else none) = none
    rw [if_neg]
    rintro ⟨-, -, hs⟩
    rw [hm] at hs
    exact absurd hs (by decide)

theorem completedBy_completed {before : TuyaState} {message m : Envelope} {candidateId : String}
    {item : DiscoveryItem} (hstart : message.type = "pairing.start")
    (htype : m.type = "pairing.completed") (hstatus : getItem m.payload "status" = .str "completed")
    (hcandidate : getItem m.payload "candidate_id" = .str candidateId)
    (hitem : before.discovered.get? candidateId = some item) :
    completedBy before message (.inr <$> (.ok [m] : Except PyErr (List Envelope))) =
      some ⟨candidateId, item.id.val, item.ip⟩ := by
  show (if message.type = "pairing.start" ∧ m.type = "pairing.completed" ∧
    (getItem m.payload "status").str? = some "completed" then
      (match (getItem m.payload "candidate_id").str? with
        | some c => (before.discovered.get? c).map fun item => (⟨c, item.id.val, item.ip⟩ : Bound)
        | none => none) else none) = _
  rw [if_pos ⟨hstart, htype, by rw [hstatus]; rfl⟩, hcandidate]
  show (before.discovered.get? candidateId).map _ = _
  rw [hitem]
  rfl

/-- Start-up without a state file is the start of a run. -/
theorem startUp_without_file : startUp C ipAddress enabled (some profile) (some path) none =
    .ok ((start profile path enabled).system.boundary, (start profile path enabled).system.driver) :=
  rfl

/-! ### The invariant -/

/-- The file of a binding. -/
def savedAs : Option Bound → Option StateFile
  | none => none
  | some x => some (.ok (.obj [("version", .int 1), ("candidate_id", .str x.lightId),
      ("device_id", .str x.deviceId), ("ip", .str x.ip)]))

variable (C profile path) in
structure Inv (s : State) : Prop where
  driver : DriverOk C profile path (savedAs s.last) s.system.driver
  last : ∀ x, s.last = some x → x.lightId = candidateIdOf C x.deviceId ∧
    isIdentifier x.deviceId = true ∧ ∃ d : TuyaDeviceConfig, d.deviceId = x.deviceId ∧ d.ip = x.ip ∧
      TuyaDeviceConfig.init ipAddress d.ip d.deviceId profile.link (some profile.dps) = .ok d

theorem inv_start : Inv C ipAddress profile path (start profile path enabled) where
  driver := ⟨rfl, rfl, rfl, nofun⟩
  last := nofun

theorem Inv.survives {s : State} (h : Inv C ipAddress profile path s) :
    Survives C ipAddress profile path enabled s := by
  unfold Survives
  rw [h.driver.file_eq]
  cases hlast : s.last with
  | none => exact ⟨_, _, startUp_without_file ipAddress enabled, rfl, rfl, rfl, rfl⟩
  | some x =>
    obtain ⟨hlight, hid, d, hdid, hdip, hinit⟩ := h.last x hlast
    have hrec : savedAs (some x) = some (.ok (pairingRecord (candidateIdOf C d.deviceId) d)) := by
      unfold savedAs pairingRecord
      dsimp only
      rw [hlight, hdid, hdip]
    rw [← hdid] at hid
    obtain ⟨b, t, hstart, h1, h2, h3, h4⟩ :=
      startUp_record C ipAddress profile path enabled hinit hid
    rw [hrec]
    refine ⟨b, t, hstart, ?_, ?_, ?_, d, h4, hdid, hdip⟩
    · rw [h1, hlight, hdid]
    · rw [h2, hdid]
    · rw [h3, hlight, hdid]

/-- The configuration that is attempted can be built again from what is saved of it. -/
theorem attempted_init {t : TuyaState} {o : PairOutcomes} {c : String} {d : TuyaDeviceConfig}
    (h : DriverOk C profile path file t) (ha : Attempted ipAddress t o c d) :
    TuyaDeviceConfig.init ipAddress d.ip d.deviceId profile.link (some profile.dps) = .ok d ∧
      c = candidateIdOf C d.deviceId := by
  obtain ⟨item, profile', hitem, hprofile, hinit, -⟩ := ha
  obtain ⟨hip, hid, -, -⟩ := TuyaDeviceConfig.init_eq_ok _ _ _ _ _ _ hinit
  rw [h.pairing] at hprofile
  cases hprofile
  rw [hip, hid]
  exact ⟨hinit, h.found c item hitem⟩

/-- A committed binding is in the file. -/
theorem DriverOk.committed {t t' : TuyaState} {c : String} {d : TuyaDeviceConfig}
    (h : DriverOk C profile path file t) (hb : t'.binding = t.binding.committed c d) :
    DriverOk C profile path (some (.ok (pairingRecord c d))) t' where
  pairing := (congrArg Binding.pairing hb).trans h.pairing
  statePath := (congrArg Binding.statePath hb).trans h.statePath
  file_eq := by
    have hf : t'.file = t.binding.savedFile c d := congrArg Binding.file hb
    rw [hf]
    unfold Binding.savedFile TuyaState.binding
    rw [h.statePath]
  found := by
    have hd : t'.discovered = t.discovered := congrArg Binding.discovered hb
    rw [hd]
    exact h.found

/-- An attempt that fails leaves the file alone, rolled back or not. -/
theorem pair_not_saved {t : TuyaState} {o : PairOutcomes} {c : String} {d : TuyaDeviceConfig}
    (J : JsonLib) (h : DriverOk C profile path file t) (ha : Attempted ipAddress t o c d)
    (hno : ¬ (Verified J o d ∧ Saved C (some path) o c d)) :
    ∃ e t', pair C J ipAddress o c t = (.error e, t') ∧ DriverOk C profile path file t' := by
  rw [← h.statePath] at hno
  cases hr : o.rollback with
  | ok u =>
    obtain ⟨e, t', hp, hb⟩ := pair_failed ha hno hr
    exact ⟨e, t', hp, h.of_binding hb⟩
  | error e' =>
    obtain ⟨e, t', hp, hb⟩ := pair_stuck ha hno hr
    have h' : DriverOk C profile path file { t with device := some d } :=
      ⟨h.pairing, h.statePath, h.file_eq, h.found⟩
    exact ⟨e, t', hp, h'.of_binding hb⟩

section Step

variable {s s' : State} {e : Event}

theorem handle_pairing (hstart : e.message.type = "pairing.start") (t : System TuyaState) :
    handle L config stamps (driverOf L C ipAddress e) e.timedOut e.message t =
      ((handlePairing L config stamps (driverOf L C ipAddress e) e.timedOut e.message t).1.map .inr,
        (handlePairing L config stamps (driverOf L C ipAddress e) e.timedOut e.message t).2) := by
  unfold handle
  rw [if_neg (by rw [hstart]; decide), if_pos hstart, PyM.map_apply]
  rfl

/-- A pairing request the driver fails is answered, if at all, with `failed`. -/
theorem step_failed {sid : Uuid} {c : String} {tm : Int} {e' : PyErr} {d : TuyaState}
    (hstart : e.message.type = "pairing.start")
    (hreq : pairingRequest L e.message = .ok (sid, c, tm))
    (hp : pair C L.toJsonLib ipAddress e.pairing c s.system.driver = (.error e', d))
    (hs : step L config stamps C ipAddress s e = some s') :
    s'.system.driver = d ∧ s'.last = s.last := by
  obtain ⟨r, u, hr, hu, -, hfail⟩ : ∃ r u,
      handlePairing L config stamps (driverOf L C ipAddress e) e.timedOut e.message s.system =
        (r, u) ∧ u.driver = d ∧ u.boundary = s.system.boundary ∧
      ∀ ms, r = .ok ms → ∃ m, ms = [m] ∧ getItem m.payload "status" = .str "failed" :=
    handlePairing_failed L config stamps (driverOf L C ipAddress e) hreq rfl hp
  have hnone : completedBy s.system.driver e.message (r.map .inr) = none :=
    completedBy_failed _ _ r hfail
  unfold step at hs
  rw [handle_pairing L config stamps ipAddress hstart, hr] at hs
  cases hs
  refine ⟨hu, ?_⟩
  dsimp only
  rw [hnone]

/-- A verified and saved binding that can be announced is answered with `completed`. -/
theorem step_completed {sid : Uuid} {c : String} {tm : Int} {d : TuyaDeviceConfig}
    (hstart : e.message.type = "pairing.start")
    (hreq : pairingRequest L e.message = .ok (sid, c, tm))
    (ha : Attempted ipAddress s.system.driver e.pairing c d) (hv : Verified L.toJsonLib e.pairing d)
    (hsaved : Saved C s.system.driver.statePath e.pairing c d) (hn : Announceable c d)
    (hs : step L config stamps C ipAddress s e = some s') :
    s'.system.driver.binding = s.system.driver.binding.committed c d ∧
      s'.last = some ⟨c, d.deviceId, d.ip⟩ := by
  obtain ⟨a, t, hp, hid, hb⟩ := pair_returned (J := L.toJsonLib) ha hv hsaved hn
  obtain ⟨m, hm, htype, hstatus, hcand⟩ : ∃ m,
      handlePairing L config stamps (driverOf L C ipAddress e) e.timedOut e.message s.system =
        (.ok [m], { s.system with
          boundary := ⟨some c, some d.deviceId, some a, s.system.boundary.journal⟩,
          driver := t, built := s.system.built + 1 }) ∧ m.type = "pairing.completed" ∧
      getItem m.payload "status" = .str "completed" ∧ getItem m.payload "candidate_id" = .str c :=
    handlePairing_completed L config stamps (driverOf L C ipAddress e) hreq rfl hp hid d.id_ok.1
  obtain ⟨item, hitem, hdid, hdip⟩ := attempted_item ha
  have hsome : completedBy s.system.driver e.message ((Except.ok [m]).map .inr) =
      some ⟨c, item.id.val, item.ip⟩ := completedBy_completed hstart htype hstatus hcand hitem
  unfold step at hs
  rw [handle_pairing L config stamps ipAddress hstart, hm] at hs
  cases hs
  refine ⟨hb, ?_⟩
  dsimp only
  rw [hsome, hdid, hdip]

/-- A message that saves nothing keeps the file and the last completed binding. -/
theorem step_keeps (h : Inv C ipAddress profile path s)
    (hno : ∀ sid c tm d, e.message.type = "pairing.start" →
      pairingRequest L e.message = .ok (sid, c, tm) →
      Attempted ipAddress s.system.driver e.pairing c d →
      ¬ (Verified L.toJsonLib e.pairing d ∧ Saved C (some path) e.pairing c d))
    (hs : step L config stamps C ipAddress s e = some s') : Inv C ipAddress profile path s' := by
  have hkeep : DriverOk C profile path (savedAs s.last) s'.system.driver ∧ s'.last = s.last := by
    by_cases hstart : e.message.type = "pairing.start"
    · cases hreq : pairingRequest L e.message with
      | error e' =>
        unfold step at hs
        rw [handle_pairing L config stamps ipAddress hstart,
          handlePairing_invalid L config stamps _ hreq] at hs
        cases hs
        exact ⟨h.driver, rfl⟩
      | ok request =>
        obtain ⟨sid, c, tm⟩ := request
        by_cases hattempt : ∃ d, Attempted ipAddress s.system.driver e.pairing c d
        · obtain ⟨d, ha⟩ := hattempt
          obtain ⟨e', t, hp, ht⟩ := pair_not_saved ipAddress L.toJsonLib h.driver ha
            (hno sid c tm d hstart hreq ha)
          obtain ⟨hd, hl⟩ := step_failed L config stamps ipAddress hstart hreq hp hs
          rw [hd]
          exact ⟨ht, hl⟩
        · obtain ⟨e', hp⟩ := pair_refused (C := C) (J := L.toJsonLib) (not_exists.mp hattempt)
          obtain ⟨hd, hl⟩ := step_failed L config stamps ipAddress hstart hreq hp hs
          rw [hd]
          exact ⟨h.driver, hl⟩
    · have hpres := handle_preserves L config stamps ipAddress e hstart s.system h.driver
      unfold step at hs
      cases hs
      dsimp only
      rw [completedBy_other _ _ _ hstart]
      exact ⟨hpres, rfl⟩
  obtain ⟨hd, hl⟩ := hkeep
  refine ⟨?_, ?_⟩
  · rw [hl]
    exact hd
  · rw [hl]
    exact h.last

theorem step_inv (h : Inv C ipAddress profile path s) (hc : SavesLightIds L C ipAddress path s e)
    (hs : step L config stamps C ipAddress s e = some s') : Inv C ipAddress profile path s' := by
  by_cases hsave : ∃ sid c tm d, e.message.type = "pairing.start" ∧
      pairingRequest L e.message = .ok (sid, c, tm) ∧
      Attempted ipAddress s.system.driver e.pairing c d ∧
      Verified L.toJsonLib e.pairing d ∧ Saved C (some path) e.pairing c d
  · obtain ⟨sid, c, tm, d, hstart, hreq, ha, hv, hsaved⟩ := hsave
    have hid := hc sid c tm d hstart hreq ha hv hsaved
    obtain ⟨hinit, hceq⟩ := attempted_init ipAddress h.driver ha
    have hn : Announceable c d := ⟨hid, by rw [hceq]; exact candidateIdOf_isIdentifier C d.deviceId⟩
    rw [← h.driver.statePath] at hsaved
    obtain ⟨hb, hl⟩ := step_completed L config stamps ipAddress hstart hreq ha hv hsaved hn hs
    have hd := h.driver.committed hb
    refine ⟨?_, ?_⟩
    · rw [hl]
      exact hd
    · rw [hl]
      intro x hx
      cases hx
      exact ⟨hceq, hid, d, rfl, rfl, hinit⟩
  · refine step_keeps L config stamps ipAddress h ?_ hs
    rintro sid c tm d hstart hreq ha ⟨hv, hsaved⟩
    exact hsave ⟨sid, c, tm, d, hstart, hreq, ha, hv, hsaved⟩

/-- A binding that is saved without being announced makes the next start-up raise. -/
theorem saves_of_survives (h : Inv C ipAddress profile path s)
    (hs : step L config stamps C ipAddress s e = some s')
    (hP : Survives C ipAddress profile path enabled s') : SavesLightIds L C ipAddress path s e := by
  intro sid c tm d hstart hreq ha hv hsaved
  by_contra hid
  obtain ⟨hinit, hceq⟩ := attempted_init ipAddress h.driver ha
  rw [← h.driver.statePath] at hsaved
  obtain ⟨e', t, hp, hb⟩ := pair_unannounced (J := L.toJsonLib) ha hv hsaved (fun hn => hid hn.1)
  obtain ⟨hd, -⟩ := step_failed L config stamps ipAddress hstart hreq hp hs
  have hfile := (h.driver.committed hb).file_eq
  obtain ⟨b, u, hup, -⟩ := hP
  obtain ⟨e'', he⟩ := startUp_record_error C ipAddress profile path enabled hinit hid
  rw [hd, hfile, hceq, he] at hup
  cases hup

end Step

/-! ## Main result -/

variable (C profile path)

/-- **The binding survives restarts**, exactly while no binding is saved whose device id is no
light id. -/
theorem survives_iff (es : List Event) :
    Runs.Always (step L config stamps C ipAddress) (Survives C ipAddress profile path enabled)
        (start profile path enabled) es ↔
      Runs.Meets (step L config stamps C ipAddress) (SavesLightIds L C ipAddress path)
        (start profile path enabled) es := by
  refine Runs.always_iff_meets (I := Inv C ipAddress profile path) ?_ ?_ ?_ es
    (inv_start ipAddress enabled)
  · intro s e s' h hc hs
    exact step_inv L config stamps ipAddress h hc hs
  · intro s h
    exact h.survives ipAddress enabled
  · intro s e s' h hs hP
    exact saves_of_survives L config stamps ipAddress enabled h hs hP

/-! ## Finding and pairing a device whose id starts with a digit -/

variable {C}

theorem discover_known {item : DiscoveryItem} {t : TuyaState} (ht : t.discoveryEnabled = true) :
    (discover C (.ok [item]) t).2.discovered.get? (candidateIdOf C item.id.val) = some item := by
  unfold discover
  rw [PyM.modify_bind, PyM.get_bind, if_neg (by rw [ht]; decide), PyM.outcome_ok_bind]
  refine PyM.bind_after (I := fun t : TuyaState =>
    t.discovered.get? (candidateIdOf C item.id.val) = some item) ?_ (fun a => PyM.preserves_pure [a])
  exact Dict.get?_set_self _ _ _

/-- What a scan finds is known after it. -/
theorem step_discovered {s s' : State} {e : Event} {sid : Uuid} {timeoutS : Int}
    {item : DiscoveryItem} (hstart : e.message.type = "discovery.start")
    (hreq : discoveryRequest L e.message = .ok (sid, timeoutS)) (hscan : e.scan = .ok [item])
    (hon : s.system.driver.discoveryEnabled = true)
    (hs : step L config stamps C ipAddress s e = some s') :
    s'.system.driver.discovered.get? (candidateIdOf C item.id.val) = some item := by
  have hknown : (handleDiscovery L config stamps (driverOf L C ipAddress e) e.timedOut e.message
      s.system).2.driver.discovered.get? (candidateIdOf C item.id.val) = some item := by
    refine handleDiscovery_after (I := fun t : System TuyaState =>
      t.driver.discovered.get? (candidateIdOf C item.id.val) = some item) L config stamps
      (fun _ h => h) ?_ ?_
    · intro e' he'
      rw [hreq] at he'
      cases he'
    · intro c
      show (discover C e.scan s.system.driver).2.discovered.get? _ = _
      rw [hscan]
      exact discover_known hon
  unfold step at hs
  cases hs
  show (handle L config stamps (driverOf L C ipAddress e) e.timedOut e.message
    s.system).2.driver.discovered.get? _ = _
  unfold handle
  rw [if_pos hstart, PyM.map_apply]
  exact hknown

end Restart

def findDigit : Event where
  message := serverMessage "discovery.start"
    [("session_id", .str Stamp.zero.id.str), ("timeout_s", .int 5)] (by decide)
  timedOut := false
  scan := .ok [digitItem]
  pairing := allWell
  write := ⟨0, .ok [], .ok []⟩

def pairDigit (C : TuyaCrypto) : Event where
  message := serverMessage "pairing.start"
    [("session_id", .str Stamp.zero.id.str), ("discovery_session_id", .str Stamp.zero.id.str),
      ("candidate_id", .str (candidateIdOf C "0123456789")), ("timeout_s", .int 30)] (by decide)
  timedOut := false
  scan := .ok []
  pairing := allWell
  write := ⟨0, .ok [], .ok []⟩

theorem findDigit_request :
    discoveryRequest lampLib findDigit.message = .ok (Stamp.zero.id, 5) := by
  have hid : requiredUuid lampLib findDigit.message.payload "session_id" = .ok Stamp.zero.id :=
    requiredUuid_str lampLib rfl
  unfold discoveryRequest
  rw [hid]
  rfl

theorem pairDigit_request (C : TuyaCrypto) :
    pairingRequest lampLib (pairDigit C).message =
      .ok (Stamp.zero.id, candidateIdOf C "0123456789", 30) := by
  have hid : requiredUuid lampLib (pairDigit C).message.payload "session_id" = .ok Stamp.zero.id :=
    requiredUuid_str lampLib rfl
  have hdid : requiredUuid lampLib (pairDigit C).message.payload "discovery_session_id" =
      .ok Stamp.zero.id := requiredUuid_str lampLib rfl
  have hc : requiredString (pairDigit C).message.payload "candidate_id" =
      .ok (candidateIdOf C "0123456789") := by
    obtain ⟨hne, hlen⟩ := isIdentifier_length _ (candidateIdOf_isIdentifier C "0123456789")
    show (if candidateIdOf C "0123456789" ≠ "" ∧ (candidateIdOf C "0123456789").length ≤ 128 then
      Except.ok (candidateIdOf C "0123456789") else Except.error _) = _
    rw [if_pos ⟨hne, by omega⟩]
  unfold pairingRequest
  rw [hid, hdid, hc]
  rfl

/-- The device is found and paired, every step succeeds, and start-up raises from then on. -/
theorem digit_not_restored :
    ¬ Runs.Always (step lampLib .default (fun _ => Stamp.zero) TuyaCrypto.plain privateAddress)
      (Survives TuyaCrypto.plain privateAddress ⟨lampLink, lampMapping⟩ "pairing.json" true)
      (start ⟨lampLink, lampMapping⟩ "pairing.json" true)
      [findDigit, pairDigit TuyaCrypto.plain] := by
  intro h
  obtain ⟨s₁, hs₁⟩ : ∃ s₁, step lampLib .default (fun _ => Stamp.zero) TuyaCrypto.plain
      privateAddress (start ⟨lampLink, lampMapping⟩ "pairing.json" true) findDigit = some s₁ :=
    ⟨_, rfl⟩
  have hinv := step_keeps _ _ _ _ (inv_start privateAddress true) (by
    intro _ _ _ _ hstart
    exact absurd hstart (by decide)) hs₁
  have hknown := step_discovered lampLib .default (fun _ => Stamp.zero) privateAddress rfl
    findDigit_request rfl rfl hs₁
  obtain ⟨s₂, hs₂⟩ : ∃ s₂, step lampLib .default (fun _ => Stamp.zero) TuyaCrypto.plain
      privateAddress s₁ (pairDigit TuyaCrypto.plain) = some s₂ := ⟨_, rfl⟩
  have hsaves := saves_of_survives _ _ _ _ true hinv hs₂ ((h.2 s₁ hs₁).2 s₂ hs₂)
  have hid := hsaves _ _ _ digitLamp rfl (pairDigit_request TuyaCrypto.plain)
    ⟨digitItem, ⟨lampLink, lampMapping⟩, hknown, hinv.driver.pairing, rfl, rfl⟩ digitLamp_verified
    (Or.inr ⟨rfl, rfl, rfl, rfl, rfl⟩)
  exact absurd hid (by decide)

end Linker.Restart
