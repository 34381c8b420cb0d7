import Mathlib.Data.List.Nodup
import OpenHdoLinker.Boundary.Answers
import OpenHdoLinker.Lib.Runs
import OpenHdoLinker.Tuya.Life

/-!
# Candidates mean what they say

Scans and pairings on one driver, one call at a time.  A scan clears the candidate table
when it starts and fills it when it has returned; it may fail, be cancelled, or find
discovery disabled, and pairings may fall in between.

A scan that returned is announced device by device, and until the next one starts a
candidate id names the device it was made from.

    (∀ e ∈ es, Distinct C e) → Always step Means (start s) es   (candidates_mean_what_they_say)
-/

namespace Linker.Candidates

open Py Answers

/-! ## Algorithm -/

section Scan

variable (C : TuyaCrypto)

/-- `discover` up to its await. -/
def scanBegin (s : TuyaState) : TuyaState := { s with discovered := Dict.empty }

/-- `discover` from its await on; `scan` is the outcome of `_discover_sync`. -/
def scanReturn (scan : Except PyErr (List DiscoveryItem)) : PyM TuyaState (List DeviceDescriptor) := do
  let s ← PyM.get
  if s.discoveryEnabled = false then pure []
  else do
    let found ← PyM.outcome scan
    found.mapM fun item => do
      PyM.modify fun s =>
        { s with discovered := s.discovered.set (candidateIdOf C item.id.val) item }
      PyM.outcome (discoveryDescriptor C item.id.val)

/-- `discover` is made of these steps. -/
theorem discover_eq (scan : Except PyErr (List DiscoveryItem)) (s : TuyaState) :
    discover C scan s = scanReturn C scan (scanBegin s) := rfl

end Scan

/-- The devices a scan that returned has found; a disabled one finds none. -/
def scanned (s : TuyaState) (scan : Except PyErr (List DiscoveryItem)) :
    Option (List DiscoveryItem) :=
  if s.discoveryEnabled then scan.toOption else some []

/-- `latest`: what the scan that started last has found, once it has returned. -/
structure ScanState where
  driver : TuyaState
  scanning : Bool
  latest : Option (List DiscoveryItem)

inductive ScanEvent
  | scanBegin
  | scanEnd (scan : Except PyErr (List DiscoveryItem))
  | pair (o : PairOutcomes) (candidateId : String)

def ScanEvent.isScan : ScanEvent → Bool
  | .scanBegin => true
  | .scanEnd _ => true
  | .pair _ _ => false

section Machine

variable (C : TuyaCrypto) (J : JsonLib) (ipAddress : String → Option IpAddress)

/-- One scan at a time, as the callers see to. -/
def step (s : ScanState) : ScanEvent → Option ScanState
  | .scanBegin =>
    if s.scanning then none
    else some { driver := scanBegin s.driver, scanning := true, latest := none }
  | .scanEnd scan =>
    if s.scanning then
      some { driver := (scanReturn C scan s.driver).2, scanning := false,
             latest := scanned s.driver scan }
    else none
  | .pair o candidateId =>
    some { s with driver := (pair C J ipAddress o candidateId s.driver).2 }

end Machine

def start (s : TuyaState) : ScanState := ⟨s, false, none⟩

/-! ## Statement -/

section Statement

variable (C : TuyaCrypto) (J : JsonLib) (ipAddress : String → Option IpAddress)

/-- Different devices with different opaque ids. -/
structure DistinctItems (items : List DiscoveryItem) : Prop where
  nodup : (items.map DiscoveryItem.id).Nodup
  injective : ∀ a ∈ items, ∀ b ∈ items,
    candidateIdOf C a.id.val = candidateIdOf C b.id.val → a.id = b.id

/-- What a scan returns are different devices. -/
def Distinct : ScanEvent → Prop
  | .scanEnd (.ok items) => DistinctItems C items
  | _ => True

/-- What the scan that started last has found, read off the calls of a run. -/
def lastFound (s : TuyaState) (es : List ScanEvent) : Option (List DiscoveryItem) :=
  match (es.filter ScanEvent.isScan).getLast? with
  | some (.scanEnd scan) => scanned s scan
  | _ => none

/-- The scan that started last has returned, and the candidate id is that of a device it found. -/
def Offered (s : ScanState) (candidateId : String) (item : DiscoveryItem) : Prop :=
  ∃ items, s.latest = some items ∧ item ∈ items ∧ candidateId = candidateIdOf C item.id.val

/-- `item is not None`. -/
def PassesCheck (s : TuyaState) (candidateId : String) : Prop :=
  (s.discovered.get? candidateId).isSome

/-- The device is addressed as the scan reported it. -/
structure Addresses (item : DiscoveryItem) (d : TuyaDeviceConfig) : Prop where
  deviceId : d.deviceId = item.id.val
  ip : d.ip = item.ip

/-- One candidate message for each device found, in order, all different. -/
structure Announces (items : List DiscoveryItem) (ms : List Envelope) : Prop where
  inOrder : List.Forall₂ (fun item m => m.type = "discovery.candidate" ∧
    m.payload.lookup "candidate_id" = some (.str (candidateIdOf C item.id.val))) items ms
  different : (ms.map fun m => m.payload.lookup "candidate_id").Nodup

structure Means (s : ScanState) : Prop where
  check : ∀ c, PassesCheck s.driver c ↔ ∃ item, Offered C s c item
  refused : ∀ o c, ¬ PassesCheck s.driver c → pair C J ipAddress o c s.driver =
    (.error (pairingError "candidate expired; run Find again"), s.driver)
  unique : ∀ c a b, Offered C s c a → Offered C s c b → a = b
  addressed : ∀ c item d, Offered C s c item → Life.pairTarget ipAddress s.driver c = .ok d →
    Addresses item d
  paired : ∀ o c r t, pair C J ipAddress o c s.driver = (.ok r, t) → ∃ item d, Offered C s c item ∧
    t.device = some d ∧ Addresses item d ∧ r.deviceId = some item.id.val
  announced : ∀ (L : PyLib) (config : LinkerConfig) (stamps : Nat → Stamp) scan o w
    (request : Envelope) (sys : System TuyaState) sessionId timeoutS items, sys.driver = s.driver →
    discoveryRequest L request = .ok (sessionId, timeoutS) → scanned s.driver scan = some items →
    DistinctItems C items → ∃ ms done built,
      handleDiscovery L config stamps (tuyaDriver C J ipAddress scan o w) false request sys =
        (.ok (ms ++ [done]), { sys with driver := (discover C scan s.driver).2, built := built }) ∧
      Announces C items ms ∧ done.type = "discovery.completed"

end Statement

/-! ## Lemmas -/

section Table

variable {C : TuyaCrypto} {items : List DiscoveryItem}

/-! ### The table a scan leaves -/

def entry (C : TuyaCrypto) (item : DiscoveryItem) : String × DiscoveryItem :=
  (candidateIdOf C item.id.val, item)

def tableOf (C : TuyaCrypto) (items : List DiscoveryItem) : Dict String DiscoveryItem :=
  Dict.empty.setAll (items.map (entry C))

theorem DistinctItems.item_eq (h : DistinctItems C items) {a b : DiscoveryItem} (ha : a ∈ items)
    (hb : b ∈ items) (hc : candidateIdOf C a.id.val = candidateIdOf C b.id.val) : a = b :=
  List.inj_on_of_nodup_map h.nodup ha hb (h.injective a ha b hb hc)

theorem DistinctItems.candidates_nodup (h : DistinctItems C items) :
    (items.map fun item => candidateIdOf C item.id.val).Nodup :=
  h.nodup.of_map.map_on fun _ ha _ hb hc => h.item_eq ha hb hc

/-- The table names the devices found, each under its own id. -/
theorem get?_tableOf (h : DistinctItems C items) (c : String) (item : DiscoveryItem) :
    (tableOf C items).get? c = some item ↔ item ∈ items ∧ c = candidateIdOf C item.id.val := by
  have hkeys : ((items.map (entry C)).map Prod.fst).Nodup := by
    rw [List.map_map]
    exact h.candidates_nodup
  unfold tableOf
  rw [Dict.get?_setAll_nodup _ hkeys, Dict.get?_empty, Option.or_none]
  refine (Dict.mem_items_iff ⟨items.map (entry C), hkeys⟩ c item).symm.trans ?_
  constructor
  · intro hmem
    obtain ⟨a, ha, he⟩ := List.mem_map.mp hmem
    cases he
    exact ⟨ha, rfl⟩
  · rintro ⟨hmem, rfl⟩
    exact List.mem_map.mpr ⟨item, hmem, rfl⟩

theorem distinct_scanned {scan : Except PyErr (List DiscoveryItem)} {s : TuyaState}
    (h : Distinct C (.scanEnd scan)) (hfound : scanned s scan = some items) :
    DistinctItems C items := by
  unfold scanned at hfound
  split at hfound
  · cases scan with
    | error e => cases hfound
    | ok found =>
      cases hfound
      exact h
  · cases hfound
    exact ⟨List.nodup_nil, fun _ ha => absurd ha List.not_mem_nil⟩

theorem discoveryDescriptor_ok (C : TuyaCrypto) (deviceId : String) :
    ∃ d, discoveryDescriptor C deviceId = .ok d ∧ d.id = candidateIdOf C deviceId := by
  unfold discoveryDescriptor DeviceDescriptor.init
  rw [dif_pos (candidateIdOf_isIdentifier C deviceId)]
  exact ⟨_, rfl, rfl⟩

/-- The loop of `discover`: each device is noted and described, in order. -/
theorem noteAll_run (C : TuyaCrypto) (items : List DiscoveryItem) (s : TuyaState) :
    ∃ ds, (items.mapM fun item => (do
          PyM.modify fun s =>
            { s with discovered := s.discovered.set (candidateIdOf C item.id.val) item }
          PyM.outcome (discoveryDescriptor C item.id.val) : PyM TuyaState DeviceDescriptor)) s =
        (.ok ds, { s with discovered := s.discovered.setAll (items.map (entry C)) }) ∧
      List.Forall₂ (fun item (d : DeviceDescriptor) => d.id = candidateIdOf C item.id.val)
        items ds := by
  induction items generalizing s with
  | nil => exact ⟨[], rfl, .nil⟩
  | cons item items ih =>
    obtain ⟨d, hd, hid⟩ := discoveryDescriptor_ok C item.id.val
    obtain ⟨ds, hds, hall⟩ :=
      ih { s with discovered := s.discovered.set (candidateIdOf C item.id.val) item }
    refine ⟨d :: ds, ?_, .cons hid hall⟩
    rw [List.mapM_cons, bind_assoc, PyM.modify_bind, hd, PyM.outcome_ok_bind, PyM.bind_ok hds]
    rfl

/-- The scan returned: the table and the descriptors follow what it found. -/
theorem scanReturn_found {scan : Except PyErr (List DiscoveryItem)} {s : TuyaState}
    (h : scanned s scan = some items) :
    ∃ ds, scanReturn C scan s =
        (.ok ds, { s with discovered := s.discovered.setAll (items.map (entry C)) }) ∧
      List.Forall₂ (fun item (d : DeviceDescriptor) => d.id = candidateIdOf C item.id.val)
        items ds := by
  unfold scanned at h
  unfold scanReturn
  rw [PyM.get_bind]
  by_cases hon : s.discoveryEnabled = true
  · rw [if_pos hon] at h
    rw [if_neg (by rw [hon]; decide)]
    cases scan with
    | error e => cases h
    | ok found =>
      cases h
      rw [PyM.outcome_ok_bind]
      exact noteAll_run C items s
  · rw [if_neg hon] at h
    cases h
    rw [if_pos (Bool.eq_false_iff.mpr hon)]
    exact ⟨[], rfl, .nil⟩

/-- The scan failed: the table stays as it is. -/
theorem scanReturn_failed {scan : Except PyErr (List DiscoveryItem)} {s : TuyaState}
    (h : scanned s scan = none) : ∃ e, scanReturn C scan s = (.error e, s) := by
  unfold scanned at h
  unfold scanReturn
  rw [PyM.get_bind]
  by_cases hon : s.discoveryEnabled = true
  · rw [if_pos hon] at h
    rw [if_neg (by rw [hon]; decide)]
    cases scan with
    | error e => exact ⟨e, rfl⟩
    | ok found => cases h
  · rw [if_neg hon] at h
    cases h

end Table

section Pairs

variable {C : TuyaCrypto} {J : JsonLib} {ipAddress : String → Option IpAddress}

/-! ### What a pairing leaves behind -/

variable (C J ipAddress) in
/-- A pairing keeps the table, and one that returns is bound to the device it attempted. -/
theorem pair_outcome (s : TuyaState) (o : PairOutcomes) (c : String) :
    ∃ r t, pair C J ipAddress o c s = (r, t) ∧ t.discovered = s.discovered ∧
      t.discoveryEnabled = s.discoveryEnabled ∧ ∀ p, r = .ok p → ∃ d, Attempted ipAddress s o c d ∧ t.device = some d ∧
        p.deviceId = some d.deviceId := by
  obtain ⟨r, hp, hends⟩ := pair_ends C J ipAddress s o c
  cases hends with
  | refused e _ => exact ⟨_, s, hp, rfl, rfl, nofun⟩
  | returned d a t ha _ _ _ hb =>
    refine ⟨_, t, hp, congrArg Binding.discovered hb, congrArg Binding.discoveryEnabled hb, ?_⟩
    intro p hr
    cases hr
    exact ⟨d, ha, congrArg Binding.device hb, rfl⟩
  | unannounced d e t _ _ _ hb =>
    exact ⟨_, t, hp, congrArg Binding.discovered hb, congrArg Binding.discoveryEnabled hb, nofun⟩
  | failed d e t _ _ _ hb =>
    exact ⟨_, t, hp, congrArg Binding.discovered hb, congrArg Binding.discoveryEnabled hb, nofun⟩
  | stuck d e e' t _ _ _ hb =>
    exact ⟨_, t, hp, congrArg Binding.discovered hb, congrArg Binding.discoveryEnabled hb, nofun⟩

theorem pair_expired {s : TuyaState} {o : PairOutcomes} {c : String} (h : ¬ PassesCheck s c) :
    pair C J ipAddress o c s =
      (.error (pairingError "candidate expired; run Find again"), s) := by
  have hnone : s.discovered.get? c = none := Option.not_isSome_iff_eq_none.mp h
  unfold pair
  rw [PyM.get_bind, hnone]
  rfl

theorem pairTarget_item {s : TuyaState} {c : String} {item : DiscoveryItem} {d : TuyaDeviceConfig}
    (hitem : s.discovered.get? c = some item) (h : Life.pairTarget ipAddress s c = .ok d) :
    Addresses item d := by
  unfold Life.pairTarget at h
  rw [hitem] at h
  dsimp only at h
  split at h
  · cases h
  · obtain ⟨hip, hid, -, -⟩ := TuyaDeviceConfig.init_eq_ok _ _ _ _ _ _ h
    exact ⟨hid, hip⟩

end Pairs

/-! ### The table along a run -/

section Runs

variable {C : TuyaCrypto} {J : JsonLib} {ipAddress : String → Option IpAddress}
variable {s s' : ScanState}

/-- The table is that of the scan that started last: empty until it has returned. -/
structure Inv (C : TuyaCrypto) (s : ScanState) : Prop where
  waiting : s.scanning = true → s.latest = none
  table : s.driver.discovered = tableOf C (s.latest.getD [])
  distinct : ∀ items, s.latest = some items → DistinctItems C items

theorem inv_start {t : TuyaState} (h : t.discovered = Dict.empty) : Inv C (start t) :=
  ⟨nofun, h, nofun⟩

theorem step_inv {e : ScanEvent} (hi : Inv C s) (he : Distinct C e)
    (hs : step C J ipAddress s e = some s') : Inv C s' := by
  cases e with
  | scanBegin =>
    dsimp only [step] at hs
    split at hs
    · cases hs
    · cases hs
      exact ⟨fun _ => rfl, rfl, nofun⟩
  | scanEnd scan =>
    dsimp only [step] at hs
    split at hs
    · next hscanning =>
      cases hs
      have htable := hi.table
      rw [hi.waiting hscanning] at htable
      cases hfound : scanned s.driver scan with
      | none =>
        obtain ⟨e, hrun⟩ := scanReturn_failed (C := C) hfound
        refine ⟨nofun, ?_, nofun⟩
        rw [hrun]
        exact htable
      | some items =>
        obtain ⟨ds, hrun, -⟩ := scanReturn_found (C := C) hfound
        refine ⟨nofun, ?_, ?_⟩
        · rw [hrun]
          show s.driver.discovered.setAll _ = _
          rw [htable]
          rfl
        · intro items' h
          cases h
          exact distinct_scanned he hfound
    · cases hs
  | pair o c =>
    obtain ⟨r, t, hrun, hkeep, -, -⟩ := pair_outcome C J ipAddress s.driver o c
    dsimp only [step] at hs
    rw [hrun] at hs
    cases hs
    exact ⟨hi.waiting, hkeep.trans hi.table, hi.distinct⟩

/-- What one call does to `latest`, and that it leaves the switch of discovery alone. -/
theorem step_latest {e : ScanEvent} (hs : step C J ipAddress s e = some s') :
    s'.driver.discoveryEnabled = s.driver.discoveryEnabled ∧
      s'.latest = if e.isScan then lastFound s.driver [e] else s.latest := by
  cases e with
  | scanBegin =>
    dsimp only [step] at hs
    split at hs
    · cases hs
    · cases hs
      exact ⟨rfl, rfl⟩
  | scanEnd scan =>
    dsimp only [step] at hs
    split at hs
    · cases hs
      refine ⟨?_, rfl⟩
      cases hfound : scanned s.driver scan with
      | none =>
        obtain ⟨e, hrun⟩ := scanReturn_failed (C := C) hfound
        rw [hrun]
      | some items =>
        obtain ⟨ds, hrun, -⟩ := scanReturn_found (C := C) hfound
        rw [hrun]
    · cases hs
  | pair o c =>
    obtain ⟨r, t, hrun, -, hkeep, -⟩ := pair_outcome C J ipAddress s.driver o c
    dsimp only [step] at hs
    rw [hrun] at hs
    cases hs
    exact ⟨hkeep, rfl⟩

theorem lastFound_concat (t : TuyaState) (es : List ScanEvent) (e : ScanEvent) :
    lastFound t (es ++ [e]) = if e.isScan then lastFound t [e] else lastFound t es := by
  unfold lastFound
  rw [List.filter_append]
  cases he : e.isScan with
  | true =>
    rw [List.filter_cons_of_pos he, List.filter_nil, List.getLast?_concat]
    rfl
  | false =>
    rw [List.filter_cons_of_neg (by rw [he]; exact Bool.false_ne_true), List.filter_nil,
      List.append_nil]
    rfl

/-- `latest` is what the calls of the run tell. -/
theorem run_latest {first : TuyaState} (before : List ScanEvent) {es : List ScanEvent}
    (hon : s.driver.discoveryEnabled = first.discoveryEnabled)
    (hlatest : s.latest = lastFound first before)
    (hrun : Runs.run (step C J ipAddress) s es = some s') :
    s'.latest = lastFound first (before ++ es) := by
  induction es generalizing s before with
  | nil =>
    cases hrun
    rw [List.append_nil]
    exact hlatest
  | cons e es ih =>
    obtain ⟨t, ht, hrest⟩ := Runs.run_cons_some hrun
    obtain ⟨hkeep, hstep⟩ := step_latest ht
    have hsame : lastFound s.driver [e] = lastFound first [e] := by
      unfold lastFound scanned
      rw [hon]
    rw [List.append_cons]
    refine ih (before ++ [e]) (hkeep.trans hon) ?_ hrest
    rw [hstep, lastFound_concat, hsame, hlatest]

/-- The table offers what the scan that started last has found. -/
theorem Inv.get?_iff (hi : Inv C s) (c : String) (item : DiscoveryItem) :
    s.driver.discovered.get? c = some item ↔ Offered C s c item := by
  rw [hi.table]
  cases hlatest : s.latest with
  | none =>
    constructor
    · intro h
      cases h
    · rintro ⟨items, hitems, -⟩
      rw [hlatest] at hitems
      cases hitems
  | some items =>
    rw [Option.getD_some, get?_tableOf (hi.distinct items hlatest)]
    constructor
    · rintro ⟨hmem, hc⟩
      exact ⟨items, hlatest, hmem, hc⟩
    · rintro ⟨items', hitems, hmem, hc⟩
      rw [hlatest] at hitems
      cases hitems
      exact ⟨hmem, hc⟩

/-- The messages of a scan that returned announce what it found. -/
theorem discovery_announces {L : PyLib} {config : LinkerConfig} {stamps : Nat → Stamp}
    {scan : Except PyErr (List DiscoveryItem)} {o : PairOutcomes} {w : WriteOutcomes}
    {request : Envelope} {sys : System TuyaState} {sessionId : Uuid} {timeoutS : Int}
    {items : List DiscoveryItem} (hreq : discoveryRequest L request = .ok (sessionId, timeoutS))
    (hfound : scanned sys.driver scan = some items) (hd : DistinctItems C items) :
    ∃ ms done built,
      handleDiscovery L config stamps (tuyaDriver C J ipAddress scan o w) false request sys =
        (.ok (ms ++ [done]),
          { sys with driver := (discover C scan sys.driver).2, built := built }) ∧
      Announces C items ms ∧ done.type = "discovery.completed" := by
  obtain ⟨c, hc⟩ := replaceTimeout_ok config.discovery timeoutS
  obtain ⟨ds, hrun, hids⟩ :=
    scanReturn_found (C := C) (show scanned (scanBegin sys.driver) scan = some items from hfound)
  have hdiscover : discover C scan sys.driver = (.ok ds, (discover C scan sys.driver).2) := by
    rw [discover_eq, hrun]
  have hscan : PyM.waitFor false ((tuyaDriver C J ipAddress scan o w).discover c) sys.driver =
      (.ok ds, (discover C scan sys.driver).2) := PyM.tryExcept_ok hdiscover
  obtain ⟨ms, done, built, hhandle, hall, hdone, -⟩ := handleDiscovery_found stamps hreq hc hscan
  have horder : List.Forall₂ (fun (item : DiscoveryItem) (m : Envelope) =>
      m.type = "discovery.candidate" ∧
        m.payload.lookup "candidate_id" = some (.str (candidateIdOf C item.id.val))) items ms := by
    refine forall₂_through hids hall ?_
    intro item d m hid hm
    rw [← hid]
    exact ⟨hm.type, hm.candidate⟩
  have hids : items.map (fun item => some (Json.str (candidateIdOf C item.id.val))) =
      ms.map fun m => m.payload.lookup "candidate_id" := by
    rw [← List.forall₂_eq_eq_eq, List.forall₂_map_left_iff, List.forall₂_map_right_iff]
    exact horder.imp fun _ _ h => h.2.symm
  refine ⟨ms, done, built, hhandle, ⟨horder, ?_⟩, hdone.type⟩
  rw [← hids]
  exact (List.nodup_map_iff_inj_on hd.nodup.of_map).mpr fun a ha b hb he =>
    hd.item_eq ha hb (Json.str.inj (Option.some.inj he))

theorem Inv.means (hi : Inv C s) : Means C J ipAddress s where
  check c := by
    unfold PassesCheck
    rw [Option.isSome_iff_exists]
    exact exists_congr fun item => hi.get?_iff c item
  refused o c h := pair_expired h
  unique c a b ha hb :=
    Option.some.inj (((hi.get?_iff c a).mpr ha).symm.trans ((hi.get?_iff c b).mpr hb))
  addressed c item d hitem h := pairTarget_item ((hi.get?_iff c item).mpr hitem) h
  paired o c r t h := by
    obtain ⟨r', t', hrun, -, -, hret⟩ := pair_outcome C J ipAddress s.driver o c
    rw [h] at hrun
    cases hrun
    obtain ⟨d, ha, hdev, hid⟩ := hret r rfl
    obtain ⟨item, hitem, hdid, hip⟩ := attempted_item ha
    exact ⟨item, d, (hi.get?_iff c item).mp hitem, hdev, ⟨hdid, hip⟩, by rw [hid, hdid]⟩
  announced L config stamps scan o w request sys sessionId timeoutS items hdriver hreq hfound hd := by
    rw [← hdriver] at hfound ⊢
    exact discovery_announces hreq hfound hd

end Runs

/-! ## Main result -/

section Machine

variable (C : TuyaCrypto) (J : JsonLib) (ipAddress : String → Option IpAddress)

/-- **Candidates mean what they say**, after every sequence of scans and pairings on one driver,
as long as the devices of a scan differ and so do their opaque ids.  What is offered is what the
scan that started last has found. -/
theorem candidates_mean_what_they_say (s : TuyaState) (h : s.discovered = Dict.empty)
    (es : List ScanEvent) (he : ∀ e ∈ es, Distinct C e) :
    Runs.Always (step C J ipAddress) (Means C J ipAddress) (start s) es ∧
      ∀ t, Runs.run (step C J ipAddress) (start s) es = some t → t.latest = lastFound s es := by
  refine ⟨?_, fun t hrun => run_latest [] rfl rfl hrun⟩
  exact Runs.always_of_inv_meets (I := Inv C) (C := fun _ e => Distinct C e)
    (fun _ _ _ hi hd hs => step_inv hi hd hs) (fun _ hi => hi.means) es (inv_start h)
    (Runs.meets_of_forall (fun e hmem _ => he e hmem) _)

end Machine

/-! ## Two lamps -/

/-- A digest that tells short texts apart. -/
def echoCrypto : TuyaCrypto :=
  { TuyaCrypto.plain with
    sha256 m := (m ++ List.replicate 32 0).take 32
    length_sha256 m := by simp }

def twoLamps : List DiscoveryItem := [digitItem, ⟨⟨"0123456780", by decide⟩, "192.168.1.22"⟩]

theorem twoLamps_distinct : DistinctItems echoCrypto twoLamps := by
  have hne : candidateIdOf echoCrypto "0123456789" ≠ candidateIdOf echoCrypto "0123456780" := by
    decide +kernel
  refine ⟨by decide, ?_⟩
  intro a ha b hb hc
  simp only [twoLamps, List.mem_cons, List.not_mem_nil, or_false] at ha hb
  rcases ha with rfl | rfl <;> rcases hb with rfl | rfl
  · rfl
  · exact absurd hc hne
  · exact absurd hc.symm hne
  · rfl

/-- Two lamps are found and one of them is paired; the next scan is cancelled. -/
theorem candidates_mean_what_they_say_two :
    Runs.Always (step echoCrypto lampLib.toJsonLib privateAddress)
      (Means echoCrypto lampLib.toJsonLib privateAddress)
      (start { foundDigit echoCrypto with discovered := Dict.empty })
      [.scanBegin, .scanEnd (.ok twoLamps), .pair allWell (candidateIdOf echoCrypto "0123456789"),
        .scanBegin, .scanEnd (.error ⟨.CancelledError, ""⟩)] := by
  refine (candidates_mean_what_they_say _ _ _ _ rfl _ ?_).1
  intro e he
  simp only [List.mem_cons, List.not_mem_nil, or_false] at he
  rcases he with rfl | rfl | rfl | rfl | rfl
  · trivial
  · exact twoLamps_distinct
  · trivial
  · trivial
  · trivial

end Linker.Candidates
