import OpenHdoLinker.Tuya.Codec
import OpenHdoLinker.Tuya.Discovery
import OpenHdoLinker.Tuya.Payload

/-!
# Discovery envelopes

A device announces itself with a JSON object: as it is, encrypted, or in a 55AA or
a 6699 frame, with or without a return code.  `_parse_discovery_datagram` guesses
which, and tries the ciphertext as JSON before it decrypts it (`candidates`).  All
envelopes are read alike, unless `json.loads` fails on a ciphertext with a class the
parser does not list.

    (∀ data ip, Envelope C j data → parseDiscoveryDatagram C J data ip = some ⟨id, ip⟩) ↔
      no ciphertext is hostile ∧ the longest frame is within 1 MiB
                                                              (envelopes_equivalent_iff)
-/

namespace Linker.Announcements

open Py

/-! ## Algorithm -/

/-- The header of a 6699 frame, and its part behind the prefix, which is authenticated. -/
def header6699 (sequence command length : Nat) : Bytes :=
  beBytes 4 framePrefix6699 ++ (beBytes 2 0 ++ (beBytes 4 sequence ++ (beBytes 4 command ++
    beBytes 4 length)))

/-- `_frame_6699(sequence, command, payload, key)`, with the nonce `os.urandom(12)` gave. -/
def frame6699 (C : TuyaCrypto) (nonce : Bytes) (sequence command : Nat) (payload key : Bytes) :
    Bytes :=
  let length := nonce.length + payload.length + 16
  let header := header6699 sequence command length
  let encrypted := C.gcmEncrypt key nonce payload (header.drop 4)
  header ++ nonce ++ encrypted ++ beBytes 4 frameSuffix6699

/-! ## Statement -/

/-- The text of a JSON object. -/
def IsObjectText (j : Bytes) : Prop := ∃ mid, j = 0x7b :: mid ++ [0x7d]

/-- An object with a device id under `gwId`, else under `devId`, and with no version or a
supported one. -/
structure Announces (J : JsonLib) (d : JsonObj) (id : DiscoveryId) : Prop where
  deviceId : getItem d "gwId" = .str id.val ∨
    (getItem d "gwId").truthy = false ∧ getItem d "devId" = .str id.val
  version : getItem d "version" = .null ∨ J.str (getItem d "version") ∈ discoveryProtocols

/-- The return code of success. -/
def retcode : Bytes := [0, 0, 0, 0]

section Statement

variable (C : TuyaCrypto) (J : JsonLib) (j : Bytes)

/-- The object under the discovery key. -/
def ciphertext : Bytes := aesEncrypt C j (discoveryUdpKey C)

/-- The wire forms of an announcement. -/
inductive Envelope : Bytes → Prop
  | plain : Envelope j
  | raw : Envelope (ciphertext C j)
  | framed (f : TuyaFrame) (hsequence : f.sequence < 2 ^ 32) (hcommand : f.command < 2 ^ 32)
      (hlength : f.payload.length + 8 < 2 ^ 32)
      (hpayload : f.payload ∈ [j, retcode ++ j, ciphertext C j, retcode ++ ciphertext C j]) :
      Envelope (f.bytes C .v31 [])
  | authenticated (nonce : Bytes) (sequence : Nat) (payload : Bytes) (hnonce : nonce.length = 12)
      (hsequence : sequence < 2 ^ 32) (hlength : 12 + payload.length + 16 < 2 ^ 32)
      (hpayload : payload ∈ [j, retcode ++ j]) :
      Envelope (frame6699 C nonce sequence commandRequestDeviceInfo payload (discoveryUdpKey C))

/-- The ciphertexts the parser tries as JSON. -/
def guesses : List Bytes := jsonPayloads (ciphertext C j) ++ jsonPayloads (retcode ++ ciphertext C j)

/-- What is assumed of a ciphertext: it is not taken for a frame, and never for an announcement. -/
structure Unlike : Prop where
  prefix6699 : (ciphertext C j).take 4 ≠ beBytes 4 framePrefix6699
  prefix55aa : (ciphertext C j).take 4 ≠ beBytes 4 framePrefix
  silent : ∀ x ∈ guesses C j, candidateId J x = none

/-- Every envelope of `j` announces `id`, from whatever address it comes. -/
def AllAnnounce (id : DiscoveryId) : Prop := ∀ data ip, Envelope C j data →
  parseDiscoveryDatagram C J data ip = .ok (some ⟨id, ip⟩)

end Statement

/-! ## Lemmas -/

/-! ### The 6699 frame -/

section Frame6699

variable {C : TuyaCrypto}

theorem length_header6699 (sequence command length : Nat) :
    (header6699 sequence command length).length = 18 := by
  unfold header6699
  simp only [List.length_append, length_beBytes]

theorem drop_header6699 (sequence command length : Nat) :
    (header6699 sequence command length).drop 4 =
      beBytes 2 0 ++ (beBytes 4 sequence ++ (beBytes 4 command ++ beBytes 4 length)) :=
  List.drop_left' (length_beBytes 4 framePrefix6699)

/-- Where the fields of a 6699 frame are on the wire. -/
structure Layout6699 (seq cmd len : Nat) (encrypted data : Bytes) : Prop where
  length : data.length = 18 + len + 4
  framePrefix : data.take 4 = beBytes 4 framePrefix6699
  frameSuffix : last4 data = beBytes 4 frameSuffix6699
  reserved : slice data 4 6 = beBytes 2 0
  sequence : slice data 6 10 = beBytes 4 seq
  command : slice data 10 14 = beBytes 4 cmd
  size : slice data 14 18 = beBytes 4 len
  authenticated : slice data 4 18 = (header6699 seq cmd len).drop 4
  body : slice data 18 (18 + len) = encrypted

theorem layout6699 (sequence command length : Nat) (body : Bytes) (hbody : body.length = length) :
    Layout6699 sequence command length body
      (header6699 sequence command length ++ (body ++ beBytes 4 frameSuffix6699)) := by
  have hheader := length_header6699 sequence command length
  generalize hframe : header6699 sequence command length ++ (body ++ beBytes 4 frameSuffix6699) = data
  have hlen : data.length = 18 + length + 4 := by
    rw [← hframe, List.length_append, List.length_append, hheader, hbody, length_beBytes, ← Nat.add_assoc]
  -- the frame as one right-nested concatenation of its fields
  have hdata : data = beBytes 4 framePrefix6699 ++ (beBytes 2 0 ++ (beBytes 4 sequence ++
      (beBytes 4 command ++ (beBytes 4 length ++ (body ++ beBytes 4 frameSuffix6699))))) := by
    rw [← hframe, header6699]
    simp only [List.append_assoc]
  have hauth : data = beBytes 4 framePrefix6699 ++ ((header6699 sequence command length).drop 4 ++
      (body ++ beBytes 4 frameSuffix6699)) := by
    rw [hdata, drop_header6699]
    simp only [List.append_assoc]
  have h6 := hdata.trans (List.append_assoc _ _ _).symm
  have h10 := h6.trans (List.append_assoc _ _ _).symm
  have h14 := h10.trans (List.append_assoc _ _ _).symm
  refine ⟨hlen, ?_, ?_, ?_, ?_, ?_, ?_, ?_, ?_⟩
  · rw [hdata, List.take_left' (length_beBytes _ _)]
  · unfold last4
    rw [hlen, ← hframe, ← List.append_assoc]
    refine List.drop_left' ?_
    rw [List.length_append, hheader, hbody]
    omega
  · exact slice_append hdata (length_beBytes _ _) (by rw [length_beBytes])
  · exact slice_append h6 (by simp only [List.length_append, length_beBytes]) (by rw [length_beBytes])
  · exact slice_append h10 (by simp only [List.length_append, length_beBytes]) (by rw [length_beBytes])
  · exact slice_append h14 (by simp only [List.length_append, length_beBytes]) (by rw [length_beBytes])
  · exact slice_append hauth (length_beBytes _ _) (by rw [List.length_drop, hheader])
  · exact slice_append hframe.symm hheader (by rw [hbody])

/-- `_parse_6699` undoes `_frame_6699`. -/
theorem parse6699_frame6699 {nonce payload : Bytes} {sequence command : Nat} (key : Bytes)
    (hnonce : nonce.length = 12) (hsequence : sequence < 2 ^ 32) (hcommand : command < 2 ^ 32)
    (hlength : 12 + payload.length + 16 < 2 ^ 32) :
    parse6699 C (frame6699 C nonce sequence command payload key) key =
      .ok ⟨sequence, command, payload⟩ := by
  unfold frame6699
  rw [hnonce]
  dsimp only
  generalize hencrypted : C.gcmEncrypt key nonce payload
    ((header6699 sequence command (12 + payload.length + 16)).drop 4) = encrypted
  have hbody : (nonce ++ encrypted).length = 12 + payload.length + 16 := by
    rw [List.length_append, hnonce, ← hencrypted, C.length_gcmEncrypt, Nat.add_assoc]
  rw [List.append_assoc, List.append_assoc, ← List.append_assoc nonce]
  have hlay := layout6699 sequence command (12 + payload.length + 16) (nonce ++ encrypted) hbody
  generalize header6699 sequence command (12 + payload.length + 16) ++
    ((nonce ++ encrypted) ++ beBytes 4 frameSuffix6699) = data at hlay ⊢
  have hlen := hlay.length
  have hword : ∀ n, n < 2 ^ 32 → beNat (beBytes 4 n) = n := fun n hn => beNat_beBytes 4 n hn
  unfold parse6699
  dsimp only
  rw [if_neg, hlay.reserved, hlay.sequence, hlay.command, hlay.size, hword _ hsequence,
    hword _ hcommand, hword _ hlength, if_neg, hlay.body, hlay.authenticated, List.take_left' hnonce,
    List.drop_left' hnonce, ← hencrypted, C.gcmDecrypt_encrypt]
  · rintro (hbad | hbad | hbad)
    · exact hbad rfl
    · omega
    · exact hbad hlen
  · rintro (hbad | hbad | hbad)
    · omega
    · exact hbad hlay.framePrefix
    · exact hbad hlay.frameSuffix

end Frame6699

/-! ### Candidates -/

section Candidates

variable {C : TuyaCrypto} {J : JsonLib} {j : Bytes}

theorem discoveryId_of_announces {d : JsonObj} {id : DiscoveryId} (h : Announces J d id) :
    discoveryId J (.obj d) = some id := by
  have hid : (if (getItem d "gwId").truthy then getItem d "gwId" else getItem d "devId") =
      .str id.val := by
    rcases h.deviceId with hgw | ⟨hgw, hdev⟩
    · have htruthy : (Json.str id.val).truthy = true := decide_eq_true (isDiscoveryId_ne_empty id)
      rw [hgw, if_pos htruthy]
    · rw [hgw, if_neg Bool.false_ne_true, hdev]
  unfold discoveryId
  dsimp only [Json.obj?]
  rw [hid]
  dsimp only [Json.str?]
  rw [dif_pos id.2]
  have hversion := h.version
  unfold getItem at hversion
  cases hlookup : d.lookup "version" with
  | none => rfl
  | some version =>
    rw [hlookup, Option.getD_some] at hversion
    cases version with
    | null => rfl
    | _ => exact if_pos (hversion.resolve_left nofun)

/-- A byte `_json_payloads` strips nowhere. -/
def Kept (y : UInt8) : Prop :=
  ([0] : Bytes).contains y = false ∧ ([0x20, 0x09, 0x0d, 0x0a] : Bytes).contains y = false

theorem cleanPayload_kept {x y : UInt8} (mid : Bytes) (hx : ([0x20, 0x09, 0x0d, 0x0a] : Bytes).contains x = false)
    (hy : Kept y) : cleanPayload (x :: mid ++ [y]) = x :: mid ++ [y] := by
  unfold cleanPayload
  rw [rstrip_append_singleton [0] _ y hy.1]
  exact strip_kept _ _ x y hx hy.2

/-- What opens like an object and has nothing to strip is its own candidate. -/
theorem jsonPayloads_kept {y : UInt8} (mid : Bytes) (hy : Kept y) :
    jsonPayloads (0x7b :: mid ++ [y]) = [0x7b :: mid ++ [y]] := by
  have hhead : ¬ (0x7b :: mid ++ [y]).take 4 = [0, 0, 0, 0] :=
    fun he => absurd (List.cons.inj he).1 (by decide)
  unfold jsonPayloads
  rw [cleanPayload_kept mid (by decide) hy]
  dsimp only
  rw [if_neg hhead]
  rfl

theorem jsonPayloads_retcode_kept {y : UInt8} (mid : Bytes) (hy : Kept y) :
    jsonPayloads (retcode ++ (0x7b :: mid ++ [y])) = [0x7b :: mid ++ [y]] := by
  have hshape : retcode ++ (0x7b :: mid ++ [y]) = 0 :: ([0, 0, 0, 0x7b] ++ mid) ++ [y] := rfl
  have hhead : (0 :: ([0, 0, 0, 0x7b] ++ mid) ++ [y]).take 4 = [0, 0, 0, 0] := rfl
  have hdrop : (0 :: ([0, 0, 0, 0x7b] ++ mid) ++ [y]).drop 4 = 0x7b :: mid ++ [y] := rfl
  unfold jsonPayloads
  rw [hshape, cleanPayload_kept _ (by decide) hy]
  dsimp only
  rw [if_pos hhead, hdrop, cleanPayload_kept mid (by decide) hy]
  rfl

theorem jsonPayloads_object (h : IsObjectText j) : jsonPayloads j = [j] := by
  obtain ⟨mid, rfl⟩ := h
  exact jsonPayloads_kept mid ⟨by decide, by decide⟩

theorem jsonPayloads_retcode (h : IsObjectText j) : jsonPayloads (retcode ++ j) = [j] := by
  obtain ⟨mid, rfl⟩ := h
  exact jsonPayloads_retcode_kept mid ⟨by decide, by decide⟩

/-- The object is reached past candidates that announce nothing, unless one of them is hostile. -/
theorem parse_reaches {data : Bytes} {pre post : List Bytes} {id : DiscoveryId} (ip : String)
    (hdata : candidates C data = pre ++ j :: post) (hpre : ∀ x ∈ pre, candidateId J x = none)
    (hj : candidateId J j = some id) :
    parseDiscoveryDatagram C J data ip = .ok (some ⟨id, ip⟩) ↔ ∀ x ∈ pre, ¬ Hostile J x := by
  have haborts : AbortsIn J (pre ++ j :: post) ↔ ∃ x ∈ pre, Hostile J x :=
    abortsIn_append_iff hpre hj
  rw [parseDiscoveryDatagram_eq, hdata]
  constructor
  · intro h x hx hhostile
    obtain ⟨e, he⟩ := tryCandidates_error ip _ (haborts.mpr ⟨x, hx, hhostile⟩)
    rw [h] at he
    cases he
  · intro h
    have hnot : ¬ AbortsIn J (pre ++ j :: post) := by
      intro ha
      obtain ⟨x, hx, hhostile⟩ := haborts.mp ha
      exact h x hx hhostile
    rw [tryCandidates_ok ip _ hnot, List.findSome?_append, List.findSome?_eq_none_iff.mpr hpre,
      List.findSome?_cons, hj]
    rfl

theorem parse_first {data : Bytes} {post : List Bytes} {id : DiscoveryId} (ip : String)
    (hdata : candidates C data = j :: post) (hj : candidateId J j = some id) :
    parseDiscoveryDatagram C J data ip = .ok (some ⟨id, ip⟩) := by
  have hpre : candidates C data = [] ++ j :: post := hdata
  refine (parse_reaches ip hpre (fun x hx => ?_) hj).mpr fun x hx => ?_
  · exact absurd hx List.not_mem_nil
  · exact absurd hx List.not_mem_nil

theorem candidates_of_payloads {data : Bytes} {payloads : List Bytes}
    (h : discoveryPayloads C data = .ok payloads) :
    candidates C data = payloads.flatMap jsonPayloads := by
  unfold candidates
  rw [h]

/-! ### The envelopes -/

theorem candidates_plain (h : IsObjectText j) : ∃ post, candidates C j = j :: post := by
  have hjson := jsonPayloads_object h
  have hopen : (j.take 4).head? = some 0x7b := by
    obtain ⟨mid, rfl⟩ := h
    rfl
  have hprefix6699 : ¬ j.take 4 = beBytes 4 framePrefix6699 := by
    intro he
    rw [he] at hopen
    exact absurd hopen (by decide)
  have hprefix55aa : ¬ j.take 4 = beBytes 4 framePrefix := by
    intro he
    rw [he] at hopen
    exact absurd hopen (by decide)
  obtain ⟨o, ho⟩ := decrypt_ok C j (discoveryUdpKey C)
  have hpay : discoveryPayloads C j = .ok (j :: o.toList) := by
    unfold discoveryPayloads
    rw [if_neg hprefix6699, if_neg hprefix55aa, ho]
    rfl
  refine ⟨o.toList.flatMap jsonPayloads, ?_⟩
  rw [candidates_of_payloads hpay, List.flatMap_cons, hjson]
  rfl

theorem decrypt_ciphertext :
    orNone isDecryptError (aesDecrypt C (ciphertext C j) (discoveryUdpKey C)) = .ok (some j) := by
  unfold ciphertext
  rw [aesDecrypt_encrypt]
  rfl

/-- The ciphertext is tried as JSON before it is decrypted. -/
theorem candidates_raw (hj : IsObjectText j) (h : Unlike C J j) :
    candidates C (ciphertext C j) = jsonPayloads (ciphertext C j) ++ j :: [] := by
  have hpay : discoveryPayloads C (ciphertext C j) = .ok [ciphertext C j, j] := by
    unfold discoveryPayloads
    rw [if_neg h.prefix6699, if_neg h.prefix55aa, decrypt_ciphertext]
    rfl
  rw [candidates_of_payloads hpay, List.flatMap_cons, List.flatMap_singleton, jsonPayloads_object hj]

theorem candidates_authenticated (hj : IsObjectText j) {nonce payload : Bytes} {sequence : Nat}
    (hnonce : nonce.length = 12) (hsequence : sequence < 2 ^ 32)
    (hlength : 12 + payload.length + 16 < 2 ^ 32) (hpayload : payload ∈ [j, retcode ++ j]) :
    candidates C (frame6699 C nonce sequence commandRequestDeviceInfo payload (discoveryUdpKey C)) =
      [j] := by
  have hparse : parse6699 C (frame6699 C nonce sequence commandRequestDeviceInfo payload
      (discoveryUdpKey C)) (discoveryUdpKey C) = .ok ⟨sequence, commandRequestDeviceInfo, payload⟩ :=
    parse6699_frame6699 _ hnonce hsequence (by decide) hlength
  have hhead : (frame6699 C nonce sequence commandRequestDeviceInfo payload (discoveryUdpKey C)).take 4 =
      beBytes 4 framePrefix6699 := by
    unfold frame6699 header6699
    dsimp only
    simp only [List.append_assoc]
    exact List.take_left' (length_beBytes _ _)
  have hpay : discoveryPayloads C
      (frame6699 C nonce sequence commandRequestDeviceInfo payload (discoveryUdpKey C)) =
        .ok [payload] := by
    unfold discoveryPayloads
    rw [if_pos hhead, hparse]
    rfl
  rw [candidates_of_payloads hpay, List.flatMap_singleton]
  rcases List.mem_cons.mp hpayload with rfl | hpayload
  · exact jsonPayloads_object hj
  · rw [List.mem_singleton.mp hpayload]
    exact jsonPayloads_retcode hj

/-- A frame's payload is tried before what can be decrypted of it. -/
theorem candidates_framed {f : TuyaFrame} (hf : f.Encodable .v31) {ds : List (Option Bytes)}
    (hds : ((distinctPair f.payload (withoutRetcode f.payload)).mapM fun p =>
      orNone isDecryptError (aesDecrypt C p (discoveryUdpKey C))) = .ok ds) :
    candidates C (f.bytes C .v31 []) =
      jsonPayloads f.payload ++ ds.reduceOption.flatMap jsonPayloads := by
  have hlay := f.layout C .v31 []
  have hother : ¬ (f.bytes C .v31 []).take 4 = beBytes 4 framePrefix6699 := by
    rw [hlay.framePrefix]
    decide
  have hpay : discoveryPayloads C (f.bytes C .v31 []) = .ok (f.payload :: ds.reduceOption) := by
    unfold discoveryPayloads
    rw [if_neg hother, if_pos hlay.framePrefix, hlay.parse hf]
    exact congrArg (· >>= fun decrypted : List (Option Bytes) =>
      (.ok (f.payload :: decrypted.reduceOption) : Except PyErr (List Bytes))) hds
  rw [candidates_of_payloads hpay, List.flatMap_cons]

theorem distinctPair_cons (a b : Bytes) : ∃ l, distinctPair a b = a :: l := by
  unfold distinctPair
  split
  · exact ⟨[], rfl⟩
  · exact ⟨[b], rfl⟩

theorem candidates_framed_clear (hj : IsObjectText j) {f : TuyaFrame} (hf : f.Encodable .v31)
    (hpayload : f.payload ∈ [j, retcode ++ j]) :
    ∃ post, candidates C (f.bytes C .v31 []) = j :: post := by
  have hjson : jsonPayloads f.payload = [j] := by
    rcases List.mem_cons.mp hpayload with h | h
    · rw [h, jsonPayloads_object hj]
    · rw [List.mem_singleton.mp h, jsonPayloads_retcode hj]
  obtain ⟨ds, hds⟩ := mapM_decrypt_ok C (distinctPair f.payload (withoutRetcode f.payload))
    (discoveryUdpKey C)
  refine ⟨ds.reduceOption.flatMap jsonPayloads, ?_⟩
  rw [candidates_framed hf hds, hjson]
  rfl

theorem candidates_framed_ciphertext (hj : IsObjectText j) {f : TuyaFrame} (hf : f.Encodable .v31)
    (hpayload : f.payload = ciphertext C j) :
    ∃ post, candidates C (f.bytes C .v31 []) = jsonPayloads (ciphertext C j) ++ j :: post := by
  obtain ⟨l, hl⟩ := distinctPair_cons f.payload (withoutRetcode f.payload)
  obtain ⟨ds, hds⟩ := mapM_decrypt_ok C l (discoveryUdpKey C)
  have hall : ((distinctPair f.payload (withoutRetcode f.payload)).mapM fun p =>
      orNone isDecryptError (aesDecrypt C p (discoveryUdpKey C))) = .ok (some j :: ds) := by
    rw [hl, List.mapM_cons, hds, hpayload, decrypt_ciphertext]
    rfl
  refine ⟨ds.reduceOption.flatMap jsonPayloads, ?_⟩
  rw [candidates_framed hf hall, hpayload]
  show _ ++ (j :: ds.reduceOption).flatMap jsonPayloads = _
  rw [List.flatMap_cons, jsonPayloads_object hj]
  rfl

/-- Behind a return code only the rest is whole blocks. -/
theorem candidates_framed_retcode (hj : IsObjectText j) {f : TuyaFrame} (hf : f.Encodable .v31)
    (hpayload : f.payload = retcode ++ ciphertext C j) :
    candidates C (f.bytes C .v31 []) = jsonPayloads (retcode ++ ciphertext C j) ++ j :: [] := by
  have hblocks : (ciphertext C j).length % 16 = 0 := length_aesEncrypt _ _
  have hlen : (retcode ++ ciphertext C j).length = 4 + (ciphertext C j).length := List.length_append
  have hpartial : orNone isDecryptError
      (aesDecrypt C (retcode ++ ciphertext C j) (discoveryUdpKey C)) = .ok none := by
    have hmod : (retcode ++ ciphertext C j).length % 16 ≠ 0 := by
      rw [hlen]
      omega
    rw [ aesDecrypt_partial _ hmod]
    rfl
  have hpair : distinctPair (retcode ++ ciphertext C j) (ciphertext C j) =
      [retcode ++ ciphertext C j, ciphertext C j] := by
    refine if_neg fun he => ?_
    have := congrArg List.length he
    omega
  have hall : ((distinctPair f.payload (withoutRetcode f.payload)).mapM fun p =>
      orNone isDecryptError (aesDecrypt C p (discoveryUdpKey C))) = .ok [none, some j] := by
    have hwithout : withoutRetcode (retcode ++ ciphertext C j) = ciphertext C j :=
      withoutRetcode_retcode _
    rw [hpayload, hwithout, hpair, List.mapM_cons, List.mapM_cons, hpartial, decrypt_ciphertext]
    rfl
  rw [candidates_framed hf hall, hpayload]
  show _ ++ [j].flatMap jsonPayloads = _
  rw [List.flatMap_singleton, jsonPayloads_object hj]

/-- A frame beyond the limit is dropped whole. -/
theorem candidates_oversize {f : TuyaFrame} (h : 1024 * 1024 < f.payload.length + 8) :
    candidates C (f.bytes C .v31 []) = [] := by
  have hlay := f.layout C .v31 []
  have hother : ¬ (f.bytes C .v31 []).take 4 = beBytes 4 framePrefix6699 := by
    rw [hlay.framePrefix]
    decide
  have hnone : orNone isFrameError (parseFrame C (f.bytes C .v31 []) .v31 []) = .ok none := by
    cases hparse : parseFrame C (f.bytes C .v31 []) .v31 [] with
    | ok g =>
      obtain ⟨henc, hbytes⟩ := parseFrame_eq_ok_iff.mp hparse
      have hlen := congrArg List.length hbytes
      rw [f.length_bytes, g.length_bytes] at hlen
      have hsize : trailerSize .v31 = 8 := rfl
      have hlimit := henc.length
      omega
    | error e =>
      have he := parseFrame_raises C (f.bytes C .v31 []) .v31 [] e hparse
      exact if_pos he
  have hpay : discoveryPayloads C (f.bytes C .v31 []) = .ok [] := by
    unfold discoveryPayloads
    rw [if_neg hother, if_pos hlay.framePrefix, hnone]
    rfl
  rw [candidates_of_payloads hpay]
  rfl

/-- No payload is longer than the ciphertext behind a return code. -/
theorem length_payload_le {p : Bytes}
    (hp : p ∈ [j, retcode ++ j, ciphertext C j, retcode ++ ciphertext C j]) :
    p.length ≤ (retcode ++ ciphertext C j).length := by
  have hpad : j.length ≤ (ciphertext C j).length := by
    unfold ciphertext aesEncrypt pkcs7Pad
    rw [C.length_ecbEncrypt, List.length_append]
    exact Nat.le_add_right _ _
  have hlen : ∀ x : Bytes, (retcode ++ x).length = 4 + x.length := fun _ => List.length_append
  rw [hlen]
  simp only [List.mem_cons, List.not_mem_nil, or_false] at hp
  rcases hp with rfl | rfl | rfl | rfl
  · omega
  · rw [hlen]
    omega
  · omega
  · rw [hlen]

variable (C j) in
/-- The ciphertext behind a return code, in a frame. -/
def retcodeFrame : TuyaFrame := ⟨0, 0, retcode ++ ciphertext C j⟩

theorem retcodeFrame_envelope (h : (retcode ++ ciphertext C j).length + 8 < 2 ^ 32) :
    Envelope C j ((retcodeFrame C j).bytes C .v31 []) :=
  .framed _ (Nat.two_pow_pos 32) (Nat.two_pow_pos 32) h (by simp [retcodeFrame])

/-- A frame within the limit is read up to the object. -/
theorem parse_framed {f : TuyaFrame} {id : DiscoveryId} (ip : String) (hj : IsObjectText j)
    (hf : f.Encodable .v31)
    (hpayload : f.payload ∈ [j, retcode ++ j, ciphertext C j, retcode ++ ciphertext C j])
    (hown : candidateId J j = some id) (hsilent : ∀ x ∈ guesses C j, candidateId J x = none)
    (hquiet : ∀ x ∈ guesses C j, ¬ Hostile J x) :
    parseDiscoveryDatagram C J (f.bytes C .v31 []) ip = .ok (some ⟨id, ip⟩) := by
  obtain ⟨hsilent₁, hsilent₂⟩ := List.forall_mem_append.mp hsilent
  obtain ⟨hquiet₁, hquiet₂⟩ := List.forall_mem_append.mp hquiet
  have hclear : f.payload ∈ [j, retcode ++ j] →
      parseDiscoveryDatagram C J (f.bytes C .v31 []) ip = .ok (some ⟨id, ip⟩) := by
    intro h
    obtain ⟨post, hpost⟩ := candidates_framed_clear hj hf h
    exact parse_first ip hpost hown
  simp only [List.mem_cons, List.not_mem_nil, or_false] at hpayload
  rcases hpayload with h | h | h | h
  · exact hclear (by simp [h])
  · exact hclear (by simp [h])
  · obtain ⟨post, hpost⟩ := candidates_framed_ciphertext hj hf h
    exact (parse_reaches ip hpost hsilent₁ hown).mpr hquiet₁
  · exact (parse_reaches ip (candidates_framed_retcode hj hf h) hsilent₂ hown).mpr hquiet₂

end Candidates

/-! ## Main result -/

/-- **All discovery envelopes are equivalent**, exactly as long as `json.loads` does not fail on a
ciphertext with a class the parser does not list, and the longest frame is within its limit. -/
theorem envelopes_equivalent_iff {C : TuyaCrypto} {J : JsonLib} {j : Bytes} {d : JsonObj}
    {id : DiscoveryId} (hj : IsObjectText j) (hdecode : J.decode j = .ok (.obj d))
    (hid : Announces J d id) (hcipher : Unlike C J j)
    (hfit : (retcode ++ ciphertext C j).length + 8 < 2 ^ 32) :
    AllAnnounce C J j id ↔
      (∀ x ∈ guesses C j, ¬ Hostile J x) ∧ (retcode ++ ciphertext C j).length + 8 ≤ 1024 * 1024 := by
  have hown : candidateId J j = some id := by
    unfold candidateId
    rw [hdecode]
    exact discoveryId_of_announces hid
  have hsilent : (∀ x ∈ jsonPayloads (ciphertext C j), candidateId J x = none) ∧
      ∀ x ∈ jsonPayloads (retcode ++ ciphertext C j), candidateId J x = none :=
    List.forall_mem_append.mp hcipher.silent
  constructor
  · intro h
    have hraw := h _ "" .raw
    have hframe := h _ "" (retcodeFrame_envelope hfit)
    have hlimit : (retcode ++ ciphertext C j).length + 8 ≤ 1024 * 1024 := by
      by_contra hlong
      have hover : 1024 * 1024 < (retcodeFrame C j).payload.length + 8 := Nat.lt_of_not_le hlong
      rw [parseDiscoveryDatagram_eq, candidates_oversize hover] at hframe
      cases hframe
    have henc : (retcodeFrame C j).Encodable .v31 :=
      ⟨Nat.two_pow_pos 32, Nat.two_pow_pos 32, hlimit⟩
    rw [parse_reaches "" (candidates_raw hj hcipher) hsilent.1 hown] at hraw
    rw [parse_reaches "" (candidates_framed_retcode hj henc rfl) hsilent.2 hown] at hframe
    exact ⟨List.forall_mem_append.mpr ⟨hraw, hframe⟩, hlimit⟩
  · rintro ⟨hguesses, hlimit⟩ data ip hdata
    have hraw := (List.forall_mem_append.mp hguesses).1
    cases hdata with
    | plain =>
      obtain ⟨post, hpost⟩ := candidates_plain (C := C) hj
      exact parse_first ip hpost hown
    | raw => exact (parse_reaches ip (candidates_raw hj hcipher) hsilent.1 hown).mpr hraw
    | framed f hsequence hcommand hlength hpayload =>
      have hle := length_payload_le hpayload
      have hsize : f.payload.length + trailerSize .v31 ≤ 1024 * 1024 :=
        (Nat.add_le_add_right hle 8).trans hlimit
      exact parse_framed ip hj ⟨hsequence, hcommand, hsize⟩ hpayload hown hcipher.silent hguesses
    | authenticated nonce sequence payload hnonce hsequence hlength hpayload =>
      exact parse_first ip (candidates_authenticated hj hnonce hsequence hlength hpayload) hown

/-! ## A ciphertext that reads as an oversized integer -/

/-- Exchange the quotation mark and the blank. -/
def swapQuote (b : UInt8) : UInt8 := if b = 0x22 then 0x20 else if b = 0x20 then 0x22 else b

theorem swapQuote_swapQuote (b : UInt8) : swapQuote (swapQuote b) = b := by
  unfold swapQuote
  split
  · next h => rw [h]; rfl
  · split
    · next h => rw [h]; rfl
    · rfl

theorem map_swapQuote (d : Bytes) : (d.map swapQuote).map swapQuote = d := by
  rw [List.map_map]
  exact List.map_id'' swapQuote_swapQuote d

/-- A cipher that moves the quotation marks. -/
def swapping : TuyaCrypto :=
  { TuyaCrypto.plain with
    ecbEncrypt := fun _ d => d.map swapQuote
    ecbDecrypt := fun _ d => d.map swapQuote
    length_ecbEncrypt := fun _ _ => List.length_map _
    length_ecbDecrypt := fun _ _ => List.length_map _
    ecbDecrypt_encrypt := fun _ d _ => map_swapQuote d
    ecbEncrypt_decrypt := fun _ d _ => map_swapQuote d }

def lampId : DiscoveryId := ⟨"lamp-0001", by decide⟩

/-- `":0,"gwId":"lamp-0001"`. -/
def objectTail : Bytes :=
  [0x22, 0x3a, 0x30, 0x2c, 0x22, 0x67, 0x77, 0x49, 0x64, 0x22, 0x3a, 0x22, 0x6c, 0x61, 0x6d, 0x70,
    0x2d, 0x30, 0x30, 0x30, 0x31, 0x22]

/-- An object whose first key is a blank, a `k`, a blank, a colon and `n` ones. -/
def longObject (n : Nat) : Bytes :=
  0x7b :: ([0x22, 0x20, 0x6b, 0x20, 0x3a] ++ (List.replicate n 0x31 ++ objectTail)) ++ [0x7d]

def longValue (n : Nat) : JsonObj :=
  [(String.ofList (' ' :: ['k', ' ', ':'] ++ List.replicate n '1'), .int 0),
    ("gwId", .str "lamp-0001")]

/-- `json.loads` as far as these texts go. -/
def longDecoder (n : Nat) : JsonLib :=
  .ofDecode fun b => if b = longObject n then .ok (.obj (longValue n))
    else if 4300 < countDigits b then .error .digitLimit else .error .malformed

/-- What the cipher makes of the object, up to the last byte. -/
def longCipher (n : Nat) : Bytes := [0x20, 0x22, 0x6b, 0x22, 0x3a] ++ (List.replicate n 0x31 ++
  (objectTail.map swapQuote ++ [0x7d, 0x06, 0x06, 0x06, 0x06, 0x06]))

theorem longObject_isObjectText (n : Nat) : IsObjectText (longObject n) := ⟨_, rfl⟩

theorem longObject_decode (n : Nat) :
    (longDecoder n).decode (longObject n) = .ok (.obj (longValue n)) := by
  unfold longDecoder JsonLib.ofDecode
  dsimp only
  rw [if_pos rfl]

theorem length_longObject (n : Nat) : (longObject n).length = n + 29 := by
  unfold longObject objectTail
  simp only [List.length_append, List.length_cons, List.length_replicate, List.length_nil]
  omega

theorem longValue_announces (J : JsonLib) (n : Nat) : Announces J (longValue n) lampId := by
  have hkey : ∀ (s : String) (rest : List Char), s.toList.head? ≠ some ' ' →
      (s == String.ofList (' ' :: rest)) = false := by
    intro s rest h
    rw [beq_eq_false_iff_ne]
    intro he
    rw [he, String.toList_ofList] at h
    exact h rfl
  refine ⟨.inl ?_, .inl ?_⟩
  · unfold getItem longValue
    rw [List.cons_append, List.lookup_cons, hkey _ _ (by decide)]
    rfl
  · unfold getItem longValue
    rw [List.cons_append, List.lookup_cons, hkey _ _ (by decide)]
    rfl

theorem longObject_ciphertext {n : Nat} (h : n % 16 = 13) :
    ciphertext swapping (longObject n) = 0x7b :: longCipher n ++ [0x06] := by
  have hpad : pkcs7Pad (longObject n) = longObject n ++ List.replicate 6 0x06 := by
    have hlen : 16 - (longObject n).length % 16 = 6 := by
      rw [length_longObject]
      omega
    unfold pkcs7Pad
    rw [hlen]
    rfl
  show (pkcs7Pad (longObject n)).map swapQuote = _
  rw [hpad]
  unfold longObject longCipher
  simp only [List.map_append, List.map_cons, List.map_replicate, List.append_assoc, List.cons_append,
    List.nil_append]
  rfl

theorem countDigits_append (a b : Bytes) : countDigits (a ++ b) = countDigits a + countDigits b := by
  unfold countDigits
  rw [List.filter_append, List.length_append]

theorem longCipher_hostile {n : Nat} (h : 4300 < n) :
    Hostile (longDecoder n) (0x7b :: longCipher n ++ [0x06]) := by
  have hones : countDigits (List.replicate n 0x31) = n := by
    unfold countDigits
    rw [List.filter_replicate_of_pos (by decide), List.length_replicate]
  have hdigits : 4300 < countDigits (0x7b :: longCipher n ++ [0x06]) := by
    unfold longCipher
    rw [← List.singleton_append, countDigits_append, countDigits_append, countDigits_append,
      countDigits_append, hones]
    omega
  have hother : (0x7b :: longCipher n ++ [0x06]) ≠ longObject n := by
    intro he
    have hlast := congrArg List.getLast? he
    unfold longObject at hlast
    rw [List.getLast?_concat, List.getLast?_concat] at hlast
    exact absurd (Option.some.inj hlast) (by decide)
  refine ⟨.digitLimit, ?_, nofun, nofun⟩
  unfold longDecoder JsonLib.ofDecode
  dsimp only
  rw [if_neg hother, if_pos hdigits]

theorem longObject_unlike {n : Nat} (hmod : n % 16 = 13) (hn : 4300 < n) :
    Unlike swapping (longDecoder n) (longObject n) := by
  have hcipher := longObject_ciphertext hmod
  have hkept : Kept 0x06 := ⟨by decide, by decide⟩
  have hguesses : guesses swapping (longObject n) =
      [0x7b :: longCipher n ++ [0x06], 0x7b :: longCipher n ++ [0x06]] := by
    unfold guesses
    rw [hcipher, jsonPayloads_kept _ hkept, jsonPayloads_retcode_kept _ hkept]
    rfl
  refine ⟨?_, ?_, ?_⟩
  · rw [hcipher]
    exact fun he => absurd (List.cons.inj he).1 (by decide)
  · rw [hcipher]
    exact fun he => absurd (List.cons.inj he).1 (by decide)
  · intro x hx
    rw [hguesses, List.mem_cons, List.mem_singleton, or_self] at hx
    rw [hx]
    exact (longCipher_hostile hn).announces_nothing

/-- Read as plain JSON, the object announces the lamp; encrypted, it raises. -/
theorem longObject_differs {n : Nat} (hmod : n % 16 = 13) (hn : 4300 < n) :
    ¬ AllAnnounce swapping (longDecoder n) (longObject n) lampId := by
  have hobject := longObject_isObjectText n
  have hunlike := longObject_unlike hmod hn
  have hown : candidateId (longDecoder n) (longObject n) = some lampId := by
    unfold candidateId
    rw [longObject_decode]
    exact discoveryId_of_announces (longValue_announces _ n)
  have hguess : 0x7b :: longCipher n ++ [0x06] ∈ jsonPayloads (ciphertext swapping (longObject n)) := by
    rw [longObject_ciphertext hmod, jsonPayloads_kept _ ⟨by decide, by decide⟩]
    exact List.mem_singleton_self _
  have hsilent := (List.forall_mem_append.mp hunlike.silent).1
  intro h
  have hraw := h _ "" .raw
  rw [parse_reaches "" (candidates_raw hobject hunlike) hsilent hown] at hraw
  exact hraw _ hguess (longCipher_hostile hn)

/-- An announcement whose ciphertext has an integer of 4301 digits. -/
theorem envelopes_differ :
    IsObjectText (longObject 4301) ∧
    (longDecoder 4301).decode (longObject 4301) = .ok (.obj (longValue 4301)) ∧
    Announces (longDecoder 4301) (longValue 4301) lampId ∧
    Unlike swapping (longDecoder 4301) (longObject 4301) ∧
    ¬ AllAnnounce swapping (longDecoder 4301) (longObject 4301) lampId :=
  ⟨longObject_isObjectText 4301, longObject_decode 4301, longValue_announces _ 4301,
    longObject_unlike (by decide) (by decide), longObject_differs (by decide) (by decide)⟩

/-! ## An announcement without secrecy -/

/-- `{"gwId":"lamp-0001"}`. -/
def lampObject : Bytes :=
  [0x7b, 0x22, 0x67, 0x77, 0x49, 0x64, 0x22, 0x3a, 0x22, 0x6c, 0x61, 0x6d, 0x70, 0x2d, 0x30, 0x30,
    0x30, 0x31, 0x22, 0x7d]

/-- `json.loads` as far as this text goes. -/
def lampDecoder : JsonLib :=
  .ofDecode fun b => if b = lampObject then .ok (.obj [("gwId", .str "lamp-0001")])
    else .error .malformed

theorem envelopes_equivalent_lamp : AllAnnounce .plain lampDecoder lampObject lampId := by
  have hobject : IsObjectText lampObject :=
    ⟨[0x22, 0x67, 0x77, 0x49, 0x64, 0x22, 0x3a, 0x22, 0x6c, 0x61, 0x6d, 0x70, 0x2d, 0x30, 0x30, 0x30,
      0x31, 0x22], rfl⟩
  have hdecode : lampDecoder.decode lampObject = .ok (.obj [("gwId", .str "lamp-0001")]) := rfl
  have hannounces : Announces lampDecoder [("gwId", .str "lamp-0001")] lampId := ⟨.inl rfl, .inl rfl⟩
  have hcipher : ciphertext .plain lampObject = lampObject ++ List.replicate 12 0x0c := by decide
  have hguesses : ∀ x ∈ guesses .plain lampObject, lampDecoder.decode x = .error .malformed := by
    have hall : guesses .plain lampObject =
        [lampObject ++ List.replicate 12 0x0c, lampObject ++ List.replicate 12 0x0c] := by decide
    have hpadded : lampDecoder.decode (lampObject ++ List.replicate 12 0x0c) = .error .malformed := rfl
    intro x hx
    rw [hall, List.mem_cons, List.mem_singleton, or_self] at hx
    rw [hx, hpadded]
  have hunlike : Unlike .plain lampDecoder lampObject := by
    refine ⟨by rw [hcipher]; decide, by rw [hcipher]; decide, fun x hx => ?_⟩
    unfold candidateId
    rw [hguesses x hx]
  have hlimit : (retcode ++ ciphertext .plain lampObject).length = 36 := by rw [hcipher]; rfl
  refine (envelopes_equivalent_iff hobject hdecode hannounces hunlike (by omega)).mpr ⟨?_, by omega⟩
  rintro x hx ⟨f, hf, hne, -⟩
  rw [hguesses x hx] at hf
  cases hf
  exact hne rfl

end Linker.Announcements
