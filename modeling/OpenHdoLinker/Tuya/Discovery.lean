import OpenHdoLinker.Tuya.Frame
import OpenHdoLinker.Models
import OpenHdoLinker.Lib.PyDict

/-!
# UDP discovery

`discoverSync` folds the datagrams of one scan into a dictionary from device id to
source address.  A datagram announces the id of its first JSON candidate that
describes a device (`announced`); it aborts the scan when a candidate before that
one is JSON `json.loads` rejects with a class `_parse_discovery_json` does not list
(`Aborts`).

    ScanMeets C J es es' ↔ (∀ e ∈ es, ¬ e.Aborts C J) ∧ ∀ e ∈ es', ¬ e.Aborts C J
                                                               (discoverSync_meets_iff)
-/

namespace Linker

open Py

/-! ## Algorithm -/

def isIdChar (c : Char) : Bool := isUpper c || isLower c || isDigit c || c = '_' || c = '-'

/-- `DISCOVERY_ID_RE`: `^[A-Za-z0-9_-]{8,64}$`, matched in full. -/
def isDiscoveryId (s : String) : Bool :=
  8 ≤ s.toList.length && s.toList.length ≤ 64 && s.toList.all isIdChar

/-- A device id a scan may report. -/
abbrev DiscoveryId : Type := { s : String // isDiscoveryId s = true }

/-- `{"id": …, "ip": …}`. -/
structure DiscoveryItem where
  id : DiscoveryId
  ip : String
deriving DecidableEq

/-- `DISCOVERY_PROTOCOLS`. -/
def discoveryProtocols : List String := ["3.1", "3.2", "3.3", "3.4", "3.5"]

/-- The two strips of `_json_payloads`. -/
def cleanPayload (payload : Bytes) : Bytes := strip [0x20, 0x09, 0x0d, 0x0a] (rstrip [0] payload)

/-- `_json_payloads(payload)`. -/
def jsonPayloads (payload : Bytes) : List Bytes :=
  let payload := cleanPayload payload
  let candidates := if payload.take 4 = [0, 0, 0, 0] then [cleanPayload (payload.drop 4), payload]
    else [payload]
  candidates.filter fun c => c.head? = some 0x7b

section Discovery

variable (C : TuyaCrypto) (J : JsonLib)

/-- The id `_discovery_item(value, source_ip)` reports. -/
def discoveryId (value : Json) : Option DiscoveryId :=
  match value.obj? with
  | none => none
  | some d =>
    let gwId := getItem d "gwId"
    let deviceId := if gwId.truthy then gwId else getItem d "devId"
    match deviceId.str? with
    | none => none
    | some id =>
      if h : isDiscoveryId id = true then
        match d.lookup "version" with
        | none => some ⟨id, h⟩
        | some .null => some ⟨id, h⟩
        | some version => if J.str version ∈ discoveryProtocols then some ⟨id, h⟩ else none
      else none

/-- `_discovery_item(value, source_ip)`. -/
def discoveryItem (value : Json) (sourceIp : String) : Option DiscoveryItem :=
  (discoveryId J value).map fun id => ⟨id, sourceIp⟩

/-- `except (UnicodeDecodeError, json.JSONDecodeError)`. -/
def discoveryJsonErrors : List ExcClass := [.UnicodeDecodeError, .JSONDecodeError]

/-- The loop of `_parse_discovery_json`. -/
def tryCandidates (sourceIp : String) : List Bytes → Except PyErr (Option DiscoveryItem)
  | [] => .ok none
  | candidate :: rest =>
    match J.loads candidate with
    | .error e => if e.isAny discoveryJsonErrors then tryCandidates sourceIp rest else .error e
    | .ok value =>
      match discoveryItem J value sourceIp with
      | some item => .ok (some item)
      | none => tryCandidates sourceIp rest

/-- `_parse_discovery_json(payload, source_ip)`. -/
def parseDiscoveryJson (payload : Bytes) (sourceIp : String) :
    Except PyErr (Option DiscoveryItem) :=
  tryCandidates J sourceIp (jsonPayloads payload)

/-- `try: r` / `except …: none`. -/
def orNone {α : Type} (caught : PyErr → Bool) (r : Except PyErr α) : Except PyErr (Option α) :=
  match r with
  | .ok a => .ok (some a)
  | .error e => if caught e then .ok none else .error e

/-- `except TuyaProtocolError`. -/
def isFrameError (e : PyErr) : Bool := e.isA tuyaProtocolErrorClass

/-- `except (TuyaProtocolError, ValueError)`. -/
def isDecryptError (e : PyErr) : Bool := e.isAny [tuyaProtocolErrorClass, .ValueError]

/-- `tuple(dict.fromkeys((a, b)))`. -/
def distinctPair (a b : Bytes) : List Bytes := if a = b then [a] else [a, b]

/-- The payloads of a datagram, in the order they are tried. -/
def discoveryPayloads (data : Bytes) : Except PyErr (List Bytes) :=
  if data.take 4 = beBytes 4 framePrefix6699 then do
    match ← orNone isFrameError (parse6699 C data (discoveryUdpKey C)) with
    | none => .ok []
    | some frame => .ok (if frame.command ≠ commandRequestDeviceInfo then [] else [frame.payload])
  else if data.take 4 = beBytes 4 framePrefix then do
    match ← orNone isFrameError (parseFrame C data .v31 []) with
    | none => .ok []
    | some frame => do
      let decrypted ← (distinctPair frame.payload (withoutRetcode frame.payload)).mapM fun p =>
        orNone isDecryptError (aesDecrypt C p (discoveryUdpKey C))
      .ok (frame.payload :: decrypted.reduceOption)
  else do
    let decrypted ← orNone isDecryptError (aesDecrypt C data (discoveryUdpKey C))
    .ok (data :: decrypted.toList)

/-- The loop over `payloads` at the end of `_parse_discovery_datagram`. -/
def tryPayloads (ip : String) : List Bytes → Except PyErr (Option DiscoveryItem)
  | [] => .ok none
  | payload :: rest => do
    match ← parseDiscoveryJson J payload ip with
    | some item => .ok (some item)
    | none => tryPayloads ip rest

/-- `_parse_discovery_datagram(data, ip)`. -/
def parseDiscoveryDatagram (data : Bytes) (ip : String) : Except PyErr (Option DiscoveryItem) := do
  let payloads ← discoveryPayloads C data
  tryPayloads J ip payloads

/-- What `sock.recvfrom` gives for a readable socket: a datagram with its source address, or
an `OSError`, which the loop skips. -/
inductive ScanEvent
  | datagram (data : Bytes) (address : String)
  | receiveError
deriving DecidableEq

def scanStep (found : Dict DiscoveryId String) : ScanEvent → Except PyErr (Dict DiscoveryId String)
  | .receiveError => .ok found
  | .datagram data address => do
    match ← parseDiscoveryDatagram C J data address with
    | some item => .ok (if item.id.val ≠ "" then found.set item.id item.ip else found)
    | none => .ok found

/-- The receive loop of `_discover_sync` and the list it returns. -/
def discoverSync (events : List ScanEvent) : Except PyErr (List DiscoveryItem) := do
  let found ← events.foldlM (scanStep C J) Dict.empty
  .ok (found.items.map fun p => ⟨p.1, p.2⟩)

/-! ## What a datagram announces -/

/-- The JSON candidates of a datagram, in the order they are tried. -/
def candidates (data : Bytes) : List Bytes :=
  match discoveryPayloads C data with
  | .ok payloads => payloads.flatMap jsonPayloads
  | .error _ => []

/-- The id a candidate announces. -/
def candidateId (candidate : Bytes) : Option DiscoveryId :=
  match J.decode candidate with
  | .ok value => discoveryId J value
  | .error _ => none

/-- The id a datagram announces: that of its first candidate with one. -/
def announced (data : Bytes) : Option DiscoveryId := (candidates C data).findSome? (candidateId J)

/-- The assignments a scan makes: who announced, and from which source address. -/
def announcement : ScanEvent → Option (DiscoveryId × String)
  | .datagram data address => (announced C J data).map fun id => (id, address)
  | .receiveError => none

/-- `json.loads` rejects the candidate with a class the parser does not list. -/
def Hostile (candidate : Bytes) : Prop :=
  ∃ f, J.decode candidate = .error f ∧ f ≠ .malformed ∧ f ≠ .undecodable

/-- A hostile candidate stands before the first one that announces a device. -/
def AbortsIn (l : List Bytes) : Prop :=
  ∃ pre c post, l = pre ++ c :: post ∧ (∀ x ∈ pre, candidateId J x = none) ∧ Hostile J c

def ScanEvent.Aborts : ScanEvent → Prop
  | .datagram data _ => AbortsIn J (candidates C data)
  | .receiveError => False

/-- What a scan has to return: each announced id once, with the source address of the last
datagram that announced it. -/
def ScanSpec (events : List ScanEvent) (items : List DiscoveryItem) : Prop :=
  (items.map DiscoveryItem.id).Nodup ∧ ∀ id ip, (⟨id, ip⟩ : DiscoveryItem) ∈ items ↔
    Dict.lastOf id (events.filterMap (announcement C J)) = some ip

/-- Both scans return, with the same items, and these are right. -/
def ScanMeets (events events' : List ScanEvent) : Prop :=
  ∃ items, discoverSync C J events = .ok items ∧ discoverSync C J events' = .ok items ∧
    ScanSpec C J events items

/-! ## Lemmas -/

theorem isDiscoveryId_ne_empty (id : DiscoveryId) : id.val ≠ "" := by
  intro h
  have hid := id.2
  rw [h] at hid
  exact absurd hid (by decide)

theorem discoveryJsonErrors_iff (f : JsonFailure) :
    f.err.isAny discoveryJsonErrors = true ↔ f = .malformed ∨ f = .undecodable := by
  cases f <;> decide

variable {C J}

theorem abortsIn_cons {c : Bytes} {cs : List Bytes} (hc : candidateId J c = none)
    (h : AbortsIn J cs) : AbortsIn J (c :: cs) := by
  obtain ⟨pre, x, post, rfl, hpre, hx⟩ := h
  refine ⟨c :: pre, x, post, rfl, ?_, hx⟩
  intro y hy
  rcases List.mem_cons.mp hy with rfl | hy
  · exact hc
  · exact hpre y hy

theorem Hostile.announces_nothing {c : Bytes} (h : Hostile J c) : candidateId J c = none := by
  obtain ⟨f, hf, -⟩ := h
  unfold candidateId
  rw [hf]

/-- Past candidates that announce nothing, up to one that does. -/
theorem abortsIn_append_iff {pre post : List Bytes} {c : Bytes} {id : DiscoveryId}
    (hpre : ∀ x ∈ pre, candidateId J x = none) (hc : candidateId J c = some id) :
    AbortsIn J (pre ++ c :: post) ↔ ∃ x ∈ pre, Hostile J x := by
  constructor
  · rintro ⟨before, x, after, heq, hbefore, hx⟩
    have hne : c ≠ x := by
      intro he
      rw [he, hx.announces_nothing] at hc
      cases hc
    rcases List.append_eq_append_iff.mp heq with ⟨mid, hmid, hrest⟩ | ⟨mid, hmid, hrest⟩
    · cases mid with
      | nil => exact absurd (List.cons.inj hrest).1 hne
      | cons y mid =>
        have hy := hbefore y (hmid ▸ List.mem_append_right _ List.mem_cons_self)
        rw [← (List.cons.inj hrest).1, hc] at hy
        cases hy
    · cases mid with
      | nil => exact absurd (List.cons.inj hrest).1.symm hne
      | cons y mid =>
        refine ⟨y, hmid ▸ List.mem_append_right _ List.mem_cons_self, ?_⟩
        rw [← (List.cons.inj hrest).1]
        exact hx
  · rintro ⟨x, hx, hhostile⟩
    obtain ⟨before, after, rfl⟩ := List.append_of_mem hx
    refine ⟨before, x, after ++ c :: post, ?_, ?_, hhostile⟩
    · rw [List.append_assoc, List.cons_append]
    · intro y hy
      exact hpre y (List.mem_append_left _ hy)

/-- Candidates before the first hostile one are skipped or answered. -/
theorem tryCandidates_ok (ip : String) (l : List Bytes) (h : ¬ AbortsIn J l) :
    tryCandidates J ip l = .ok ((l.findSome? (candidateId J)).map fun id => ⟨id, ip⟩) := by
  induction l with
  | nil => rfl
  | cons c cs ih =>
    unfold tryCandidates
    rw [List.findSome?_cons]
    cases hd : J.decode c with
    | error f =>
      have hid : candidateId J c = none := by unfold candidateId; rw [hd]
      have hf : f = .malformed ∨ f = .undecodable := by
        by_contra hn
        rw [not_or] at hn
        exact h ⟨[], c, cs, rfl, by simp, f, hd, hn⟩
      rw [J.loads_error c f hd, hid]
      show (if f.err.isAny discoveryJsonErrors = true then tryCandidates J ip cs else _) = _
      rw [if_pos ((discoveryJsonErrors_iff f).mpr hf)]
      exact ih (fun ha => h (abortsIn_cons hid ha))
    | ok v =>
      have hid : candidateId J c = discoveryId J v := by unfold candidateId; rw [hd]
      rw [J.loads_ok c v hd, hid]
      show (match discoveryItem J v ip with | some item => _ | none => _) = _
      unfold discoveryItem
      cases hv : discoveryId J v with
      | some id => rfl
      | none =>
        rw [hv] at hid
        exact ih (fun ha => h (abortsIn_cons hid ha))

/-- A hostile candidate that is reached raises. -/
theorem tryCandidates_error (ip : String) (l : List Bytes) (h : AbortsIn J l) :
    ∃ e, tryCandidates J ip l = .error e := by
  obtain ⟨pre, c, post, rfl, hpre, f, hd, hm, hu⟩ := h
  induction pre with
  | nil =>
    refine ⟨f.err, ?_⟩
    have hf : ¬ (f.err.isAny discoveryJsonErrors = true) := by
      rw [discoveryJsonErrors_iff]
      rintro (hx | hx)
      · exact hm hx
      · exact hu hx
    rw [List.nil_append]
    unfold tryCandidates
    rw [J.loads_error c f hd]
    exact if_neg hf
  | cons x pre ih =>
    have hx : candidateId J x = none := hpre x List.mem_cons_self
    obtain ⟨e, he⟩ := ih (fun y hy => hpre y (List.mem_cons_of_mem _ hy))
    rw [List.cons_append]
    unfold tryCandidates
    unfold candidateId at hx
    cases hdx : J.decode x with
    | error g =>
      rw [J.loads_error x g hdx]
      by_cases hg : g.err.isAny discoveryJsonErrors = true
      · exact ⟨e, by rw [← he]; exact if_pos hg⟩
      · exact ⟨g.err, if_neg hg⟩
    | ok v =>
      rw [hdx] at hx
      refine ⟨e, ?_⟩
      rw [J.loads_ok x v hdx, ← he]
      show (match discoveryItem J v ip with | some item => _ | none => _) = _
      unfold discoveryItem
      change discoveryId J v = none at hx
      rw [hx]
      rfl

theorem tryCandidates_append (ip : String) (l m : List Bytes) :
    tryCandidates J ip (l ++ m) = (do
      match ← tryCandidates J ip l with
      | some item => .ok (some item)
      | none => tryCandidates J ip m) := by
  induction l with
  | nil => rfl
  | cons c cs ih =>
    rw [List.cons_append, tryCandidates, tryCandidates, ih]
    cases J.loads c with
    | error e =>
      dsimp only
      split
      · rfl
      · rfl
    | ok v =>
      dsimp only
      cases discoveryItem J v ip with
      | none => rfl
      | some item => rfl

theorem tryPayloads_eq (ip : String) (payloads : List Bytes) :
    tryPayloads J ip payloads = tryCandidates J ip (payloads.flatMap jsonPayloads) := by
  induction payloads with
  | nil => rfl
  | cons p ps ih =>
    rw [List.flatMap_cons, tryCandidates_append, tryPayloads, ih]
    rfl

theorem orNone_ok {α : Type} {caught : PyErr → Bool} {r : Except PyErr α}
    (h : Raises (fun e => caught e = true) r) : ∃ o, orNone caught r = .ok o := by
  unfold orNone
  cases r with
  | ok a => exact ⟨some a, rfl⟩
  | error e => exact ⟨none, if_pos (h e rfl)⟩

theorem decrypt_ok (C : TuyaCrypto) (data key : Bytes) :
    ∃ o, orNone isDecryptError (aesDecrypt C data key) = .ok o := by
  apply orNone_ok
  intro e he
  have hv := aesDecrypt_raises C data key e he
  unfold isDecryptError PyErr.isAny
  rw [List.any_eq_true]
  exact ⟨.ValueError, by decide, hv⟩

theorem mapM_decrypt_ok (C : TuyaCrypto) (l : List Bytes) (key : Bytes) :
    ∃ ds, (l.mapM fun p => orNone isDecryptError (aesDecrypt C p key)) = .ok ds := by
  induction l with
  | nil => exact ⟨[], rfl⟩
  | cons p ps ih =>
    obtain ⟨d, hd⟩ := decrypt_ok C p key
    obtain ⟨ds, hds⟩ := ih
    refine ⟨d :: ds, ?_⟩
    rw [List.mapM_cons, hd, hds]
    rfl

/-- Taking a datagram apart never raises: every failure of its envelope is listed. -/
theorem discoveryPayloads_ok (C : TuyaCrypto) (data : Bytes) :
    ∃ l, discoveryPayloads C data = .ok l := by
  unfold discoveryPayloads
  split
  · obtain ⟨o, ho⟩ : ∃ o, orNone isFrameError (parse6699 C data (discoveryUdpKey C)) = .ok o :=
      orNone_ok (parse6699_raises C data (discoveryUdpKey C))
    rw [ho]
    cases o with
    | none => exact ⟨[], rfl⟩
    | some frame => exact ⟨_, rfl⟩
  · split
    · obtain ⟨o, ho⟩ : ∃ o, orNone isFrameError (parseFrame C data .v31 []) = .ok o :=
        orNone_ok (parseFrame_raises C data .v31 [])
      rw [ho]
      cases o with
      | none => exact ⟨[], rfl⟩
      | some frame =>
        obtain ⟨ds, hds⟩ := mapM_decrypt_ok C
          (distinctPair frame.payload (withoutRetcode frame.payload)) (discoveryUdpKey C)
        refine ⟨frame.payload :: ds.reduceOption, ?_⟩
        exact congrArg (· >>= fun decrypted : List (Option Bytes) =>
          (.ok (frame.payload :: decrypted.reduceOption) : Except PyErr (List Bytes))) hds
    · obtain ⟨o, ho⟩ := decrypt_ok C data (discoveryUdpKey C)
      rw [ho]
      exact ⟨_, rfl⟩

theorem parseDiscoveryDatagram_eq (data : Bytes) (ip : String) :
    parseDiscoveryDatagram C J data ip = tryCandidates J ip (candidates C data) := by
  obtain ⟨l, hl⟩ := discoveryPayloads_ok C data
  unfold parseDiscoveryDatagram candidates
  rw [hl, ← tryPayloads_eq]
  rfl

/-- The assignment an event makes. -/
def assign (found : Dict DiscoveryId String) : Option (DiscoveryId × String) → Dict DiscoveryId String
  | some p => found.set p.1 p.2
  | none => found

theorem scanStep_ok (found : Dict DiscoveryId String) (e : ScanEvent) (h : ¬ e.Aborts C J) :
    scanStep C J found e = .ok (assign found (announcement C J e)) := by
  cases e with
  | receiveError => rfl
  | datagram data address =>
    show (parseDiscoveryDatagram C J data address >>= _) = .ok (assign found
      (((candidates C data).findSome? (candidateId J)).map fun id => (id, address)))
    rw [parseDiscoveryDatagram_eq, tryCandidates_ok address _ h]
    cases (candidates C data).findSome? (candidateId J) with
    | none => rfl
    | some id =>
      show Except.ok (if id.val ≠ "" then found.set id address else found) = _
      rw [if_pos (isDiscoveryId_ne_empty id)]
      rfl

theorem scanStep_error (found : Dict DiscoveryId String) (e : ScanEvent) (h : e.Aborts C J) :
    ∃ err, scanStep C J found e = .error err := by
  cases e with
  | receiveError => cases h
  | datagram data address =>
    obtain ⟨err, herr⟩ := tryCandidates_error address _ h
    refine ⟨err, ?_⟩
    show (parseDiscoveryDatagram C J data address >>= _) = _
    rw [parseDiscoveryDatagram_eq, herr]
    rfl

theorem scan_ok (events : List ScanEvent) (h : ∀ e ∈ events, ¬ e.Aborts C J)
    (found : Dict DiscoveryId String) :
    events.foldlM (scanStep C J) found = .ok (found.setAll (events.filterMap (announcement C J))) := by
  induction events generalizing found with
  | nil => rfl
  | cons e es ih =>
    rw [List.foldlM_cons, scanStep_ok found e (h e List.mem_cons_self)]
    show es.foldlM (scanStep C J) (assign found (announcement C J e)) = _
    rw [ih (fun x hx => h x (List.mem_cons_of_mem _ hx)), List.filterMap_cons]
    cases announcement C J e with
    | none => rfl
    | some p => rfl

theorem scan_error (events : List ScanEvent) (h : ∃ e ∈ events, e.Aborts C J)
    (found : Dict DiscoveryId String) :
    ∃ err, events.foldlM (scanStep C J) found = .error err := by
  induction events generalizing found with
  | nil =>
    obtain ⟨e, he, -⟩ := h
    cases he
  | cons e es ih =>
    rw [List.foldlM_cons]
    by_cases he : e.Aborts C J
    · obtain ⟨err, herr⟩ := scanStep_error found e he
      exact ⟨err, by rw [herr]; rfl⟩
    · rw [scanStep_ok found e he]
      apply ih
      obtain ⟨x, hx, hxa⟩ := h
      rcases List.mem_cons.mp hx with rfl | hx
      · exact absurd hxa he
      · exact ⟨x, hx, hxa⟩

theorem scanSpec_setAll (events : List ScanEvent) :
    ScanSpec C J events
      ((Dict.empty.setAll (events.filterMap (announcement C J))).items.map fun p => ⟨p.1, p.2⟩) := by
  constructor
  · rw [List.map_map]
    exact (Dict.empty.setAll (events.filterMap (announcement C J))).nodup
  · intro id ip
    rw [← Dict.get?_setAll, ← Dict.mem_items_iff, List.mem_map]
    constructor
    · rintro ⟨⟨id', ip'⟩, hp, he⟩
      cases he
      exact hp
    · intro hp
      exact ⟨(id, ip), hp, rfl⟩

theorem discoverSync_ok (events : List ScanEvent) (h : ∀ e ∈ events, ¬ e.Aborts C J) :
    discoverSync C J events =
      .ok ((Dict.empty.setAll (events.filterMap (announcement C J))).items.map fun p => ⟨p.1, p.2⟩) := by
  unfold discoverSync
  rw [scan_ok events h]
  rfl

theorem discoverSync_error (events : List ScanEvent) (h : ∃ e ∈ events, e.Aborts C J) :
    ∃ err, discoverSync C J events = .error err := by
  obtain ⟨err, herr⟩ := scan_error events h Dict.empty
  refine ⟨err, ?_⟩
  unfold discoverSync
  rw [herr]
  rfl

/-- A scan that returns met no aborting datagram. -/
theorem not_aborts_of_ok (events : List ScanEvent) (items : List DiscoveryItem)
    (h : discoverSync C J events = .ok items) : ∀ e ∈ events, ¬ e.Aborts C J := by
  intro e he ha
  obtain ⟨err, herr⟩ := discoverSync_error events ⟨e, he, ha⟩
  rw [h] at herr
  cases herr

/-- Unparsable datagrams leave no trace in the assignments. -/
theorem announcements_eq (events events' : List ScanEvent)
    (h : (events.filter fun e => (announcement C J e).isSome) =
      events'.filter fun e => (announcement C J e).isSome) :
    events.filterMap (announcement C J) = events'.filterMap (announcement C J) := by
  have key : ∀ es : List ScanEvent, es.filterMap (announcement C J) =
      (es.filter fun e => (announcement C J e).isSome).filterMap (announcement C J) := by
    intro es
    rw [List.filterMap_filter]
    congr 1
    funext e
    cases announcement C J e <;> rfl
  rw [key events, key events', h]

/-! ## Main result -/

/-- **Noise cannot break a scan**, exactly as long as no datagram aborts it: for two scans that
differ in unparsable datagrams only, both return the same items, one for each announced id with
the source address of its last announcement. -/
theorem discoverSync_meets_iff (events events' : List ScanEvent)
    (h : (events.filter fun e => (announcement C J e).isSome) =
      events'.filter fun e => (announcement C J e).isSome) :
    ScanMeets C J events events' ↔
      (∀ e ∈ events, ¬ e.Aborts C J) ∧ ∀ e ∈ events', ¬ e.Aborts C J := by
  constructor
  · rintro ⟨items, h1, h2, -⟩
    exact ⟨not_aborts_of_ok events items h1, not_aborts_of_ok events' items h2⟩
  · rintro ⟨h1, h2⟩
    refine ⟨_, discoverSync_ok events h1, ?_, scanSpec_setAll events⟩
    rw [discoverSync_ok events' h2, announcements_eq events events' h]

end Discovery

/-! ## An oversized integer -/

/-- A JSON object with one value, an integer of `n` ones. -/
def oneInteger (n : Nat) : Bytes := 0x7b :: ([0x22, 0x61, 0x22, 0x3a] ++ List.replicate n 0x31) ++ [0x7d]

def countDigits (b : Bytes) : Nat := (b.filter fun x => 0x30 ≤ x && x ≤ 0x39).length

/-- `json.loads` as far as the datagrams below go: digits beyond the limit, or no JSON. -/
def digitLimited : JsonLib :=
  .ofDecode fun b => if 4300 < countDigits b then .error .digitLimit else .error .malformed

theorem countDigits_oneInteger (n : Nat) : countDigits (oneInteger n) = n := by
  unfold countDigits oneInteger
  rw [List.filter_append, List.filter_cons_of_neg (by decide), List.filter_append,
    List.filter_replicate]
  simp

theorem cleanPayload_oneInteger (n : Nat) : cleanPayload (oneInteger n) = oneInteger n := by
  unfold cleanPayload oneInteger
  rw [rstrip_append_singleton [0] _ 0x7d (by decide)]
  exact strip_kept _ _ 0x7b 0x7d (by decide) (by decide)

theorem candidates_oneInteger (C : TuyaCrypto) (n : Nat) :
    ∃ l, candidates C (oneInteger n) = oneInteger n :: l := by
  have hhead : (oneInteger n).take 4 = [0x7b, 0x22, 0x61, 0x22] := rfl
  have hjson : jsonPayloads (oneInteger n) = [oneInteger n] := by
    unfold jsonPayloads
    dsimp only
    rw [cleanPayload_oneInteger, hhead, if_neg (by decide)]
    rfl
  obtain ⟨o, ho⟩ := decrypt_ok C (oneInteger n) (discoveryUdpKey C)
  have hpay : discoveryPayloads C (oneInteger n) = .ok (oneInteger n :: o.toList) := by
    unfold discoveryPayloads
    rw [hhead, if_neg (by decide), if_neg (by decide), ho]
    rfl
  refine ⟨o.toList.flatMap jsonPayloads, ?_⟩
  unfold candidates
  rw [hpay]
  show (oneInteger n :: o.toList).flatMap jsonPayloads = _
  rw [List.flatMap_cons, hjson]
  rfl

theorem oneInteger_aborts (n : Nat) (h : 4300 < n) (address : String) :
    (ScanEvent.datagram (oneInteger n) address).Aborts TuyaCrypto.plain digitLimited := by
  obtain ⟨l, hl⟩ := candidates_oneInteger TuyaCrypto.plain n
  refine ⟨[], oneInteger n, l, hl, by simp, .digitLimit, ?_, by decide, by decide⟩
  show (if 4300 < countDigits (oneInteger n) then _ else _) = _
  rw [countDigits_oneInteger, if_pos h]

/-- One datagram with an integer of 4301 digits ends the scan with the plain `ValueError`. -/
theorem discoverSync_aborted :
    ¬ ∃ items, discoverSync TuyaCrypto.plain digitLimited
      [.datagram (oneInteger 4301) "192.168.1.9"] = .ok items := by
  rintro ⟨items, h⟩
  exact not_aborts_of_ok _ items h _ List.mem_cons_self (oneInteger_aborts 4301 (by decide) _)

/-! ## Two lamps -/

/-- `{"gwId":"lamp-000`, the digit, `"}`. -/
def lampAnnouncement (digit : UInt8) : Bytes :=
  [0x7b, 0x22, 0x67, 0x77, 0x49, 0x64, 0x22, 0x3a, 0x22, 0x6c, 0x61, 0x6d, 0x70, 0x2d, 0x30, 0x30,
    0x30, digit, 0x22, 0x7d]

/-- `json.loads` on the announcements of two lamps. -/
def twoLamps : JsonLib :=
  .ofDecode fun b =>
    if b = lampAnnouncement 0x31 then .ok (.obj [("gwId", .str "lamp-0001")])
    else if b = lampAnnouncement 0x32 then .ok (.obj [("gwId", .str "lamp-0002")])
    else .error .malformed

/-- The first lamp has a new address when it announces itself again; bytes that are no JSON and an
object that is cut off come in between. -/
def noisyScan : List ScanEvent :=
  [.datagram (lampAnnouncement 0x31) "192.168.1.8", .datagram [0x78] "192.168.1.9",
    .datagram (lampAnnouncement 0x32) "192.168.1.10", .receiveError,
    .datagram [0x7b, 0x22] "192.168.1.8", .datagram (lampAnnouncement 0x31) "192.168.1.11"]

/-- The same announcements, with other noise. -/
def quietScan : List ScanEvent :=
  [.datagram [0x7b] "192.168.1.10", .datagram (lampAnnouncement 0x31) "192.168.1.8",
    .datagram (lampAnnouncement 0x32) "192.168.1.10", .datagram (lampAnnouncement 0x31) "192.168.1.11"]

def foundLamps (events : List ScanEvent) : Option (List (String × String)) :=
  (discoverSync .plain twoLamps events).toOption.map fun l => l.map fun i => (i.id.val, i.ip)

theorem discoverSync_meets_lamps :
    foundLamps noisyScan = some [("lamp-0001", "192.168.1.11"), ("lamp-0002", "192.168.1.10")] ∧
      ScanMeets .plain twoLamps noisyScan quietScan := by
  refine ⟨by decide, (discoverSync_meets_iff noisyScan quietScan (by decide)).mpr ⟨?_, ?_⟩⟩
  · exact not_aborts_of_ok noisyScan _ rfl
  · exact not_aborts_of_ok quietScan _ rfl

end Linker
