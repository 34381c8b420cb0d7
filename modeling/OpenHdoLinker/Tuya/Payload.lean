import OpenHdoLinker.Tuya.Codec
import OpenHdoLinker.Tuya.Driver
import OpenHdoLinker.Lib.Base64
import OpenHdoLinker.Lib.JsonText

/-!
# Payloads

What a frame carries: `_payload_for_command` takes a different combination of
version header, encryption, base64 and digest for every protocol version and
command family, and `decode_payload` undoes it by looking at prefixes.

    control values → payload → frame → payload → the same data points
    query body     → payload → frame → payload → the same bytes         (control_messages_survive)
-/

namespace Linker

open Py

/-! ## Algorithm -/

/-- `data.startswith(start)`. -/
def startsWith (start data : Bytes) : Bool := data.take start.length = start

/-- `text.encode("ascii")`, of ASCII text. -/
def asciiBytes (text : List Char) : Bytes := text.map fun c => UInt8.ofNat c.toNat

section Algorithm

variable (C : TuyaCrypto) (floatRepr : ℚ → List Char)

/-- The text a 3.1 control message is signed with. -/
def digestInput (encrypted key : Bytes) : Bytes :=
  asciiBytes "data=".toList ++ encrypted ++ asciiBytes "||lpv=3.1||".toList ++ key

/-- `hexdigest().encode("ascii")[8:24]`. -/
def payloadDigest (encrypted key : Bytes) : Bytes :=
  slice (asciiBytes (hexdigest (C.md5 (digestInput encrypted key)))) 8 24

/-- `session_key if version == "3.4" and session_key is not None else key`. -/
def encryptionKey (version : ProtocolVersion) (key : Bytes) (sessionKey : Option Bytes) : Bytes :=
  if version = .v34 then sessionKey.getD key else key

/-- `_payload_for_command(version, command, body, key, session_key)`. -/
def payloadForCommand (version : ProtocolVersion) (command : Nat) (body : Json) (key : Bytes)
    (sessionKey : Option Bytes) : Bytes :=
  let clear := dumpsBytes floatRepr body
  if version = .v31 ∧ command = commandControl then
    let encrypted := base64Encode (aesEncrypt C clear key)
    ProtocolVersion.v31.bytes ++ payloadDigest C encrypted key ++ encrypted
  else
    let encryptionKey := encryptionKey version key sessionKey
    if version = .v34 then aesEncrypt C (version.header ++ clear) encryptionKey
    else if command ∈ noVersionHeader then
      if version ≠ .v31 then aesEncrypt C clear encryptionKey else clear
    else version.header ++ aesEncrypt C clear encryptionKey

/-- `decode_payload(frame, protocol_version=…, key=…, session_key=…)`. -/
def decodePayload (frame : TuyaFrame) (version : ProtocolVersion) (key : Bytes)
    (sessionKey : Option Bytes) : Except PyErr Bytes :=
  let payload := frame.payload
  if version = .v31 ∧ startsWith ProtocolVersion.v31.bytes payload then
    if payload.length < 19 then .error (tuyaProtocolError "truncated 3.1 payload")
    else
      match base64Decode (payload.drop 19) with
      | none => .error (tuyaProtocolError "invalid 3.1 encrypted payload")
      | some encrypted => valueErrorAs "invalid 3.1 encrypted payload" (aesDecrypt C encrypted key)
  else if version = .v34 ∧ frame.command = commandSessionResponse then aesDecrypt C payload key
  else if version = .v34 then do
    let decrypted ← aesDecrypt C payload (sessionKey.getD key)
    if startsWith version.header decrypted then .ok (decrypted.drop version.header.length)
    else .error (tuyaProtocolError "3.4 payload is missing its encrypted version header")
  else if version = .v32 ∨ version = .v33 then
    let encrypted := if startsWith version.header payload then payload.drop version.header.length
      else payload
    aesDecrypt C encrypted (encryptionKey version key sessionKey)
  else .ok payload

end Algorithm

/-! ## Lemmas -/

/-! ### Texts and digests -/

theorem startsWith_append (start rest : Bytes) : startsWith start (start ++ rest) = true := by
  unfold startsWith
  rw [List.take_left]
  exact decide_eq_true rfl

/-- What is looked for begins with another byte. -/
theorem startsWith_cons_ne {a b : UInt8} (h : b ≠ a) (start data : Bytes) :
    startsWith (a :: start) (b :: data) = false := by
  unfold startsWith
  rw [List.length_cons, List.take_succ_cons]
  exact decide_eq_false fun he => h (List.cons.inj he).1

/-- A version header begins with the digit 3. -/
theorem not_startsWith_header (version : ProtocolVersion) {b : UInt8} (h : b ≠ 0x33) (data : Bytes) :
    ¬ startsWith version.header (b :: data) = true := by
  have hstart : startsWith version.header (b :: data) = false := by
    cases version
    all_goals exact startsWith_cons_ne h _ _
  rw [hstart]
  exact nofun

theorem withoutRetcode_cons {b : UInt8} (h : b ≠ 0) (data : Bytes) :
    withoutRetcode (b :: data) = b :: data := by
  unfold withoutRetcode
  rw [List.take_succ_cons, if_neg fun he => h (List.cons.inj he).1]

theorem withoutRetcode_retcode (data : Bytes) : withoutRetcode ([0, 0, 0, 0] ++ data) = data := by
  show (if [0, 0, 0, 0] = ([0, 0, 0, 0] : Bytes) then data else _) = data
  rw [if_pos rfl]

theorem length_hexdigest (digest : Bytes) : (hexdigest digest).length = digest.length * 2 := by
  unfold hexdigest
  induction digest with
  | nil => rfl
  | cons b digest ih =>
    rw [List.flatMap_cons, List.length_append, ih, length_hexDigits (by decide) b.toNat_lt,
      List.length_cons]
    omega

section Payload

variable {C : TuyaCrypto} {floatRepr : ℚ → List Char}

theorem length_payloadDigest (encrypted key : Bytes) : (payloadDigest C encrypted key).length = 16 := by
  have hlen : (asciiBytes (hexdigest (C.md5 (digestInput encrypted key)))).length = 32 := by
    rw [asciiBytes, List.length_map, length_hexdigest, C.length_md5]
  unfold payloadDigest
  rw [length_slice (by rw [hlen]; decide)]

/-! ### Encryption -/

theorem aesDecrypt_encrypt (data key : Bytes) : aesDecrypt C (aesEncrypt C data key) key = .ok data := by
  have hpad := length_pkcs7Pad data
  have hblocks : ecbDecryptBlocks C (aesEncrypt C data key) key = .ok (pkcs7Pad data) := by
    unfold ecbDecryptBlocks aesEncrypt
    rw [if_pos (by rw [C.length_ecbEncrypt, hpad]), C.ecbDecrypt_encrypt _ _ hpad]
  simp only [aesDecrypt, hblocks, bind, Except.bind, pkcs7Unpad_pad]

theorem length_aesEncrypt (data key : Bytes) : (aesEncrypt C data key).length % 16 = 0 := by
  unfold aesEncrypt
  rw [C.length_ecbEncrypt, length_pkcs7Pad]

/-- Data that is not whole blocks raises a `ValueError` of the library. -/
theorem aesDecrypt_partial {data : Bytes} (key : Bytes) (h : data.length % 16 ≠ 0) :
    aesDecrypt C data key =
      .error (valueError "The length of the provided data is not a multiple of the block length.") := by
  unfold aesDecrypt ecbDecryptBlocks
  rw [if_neg h]
  rfl

/-! ### Decoding what was encoded -/

variable {version : ProtocolVersion} {sequence command : Nat} {key : Bytes} {sessionKey : Option Bytes}

theorem decodePayload_v34 {clear : Bytes} (hcommand : command ≠ commandSessionResponse) :
    decodePayload C ⟨sequence, command, aesEncrypt C (ProtocolVersion.v34.header ++ clear)
      (encryptionKey .v34 key sessionKey)⟩ .v34 key sessionKey = .ok clear := by
  have hkey : encryptionKey .v34 key sessionKey = sessionKey.getD key := if_pos rfl
  unfold decodePayload
  dsimp only
  rw [if_neg (fun h => by cases h.1), if_neg (fun h => hcommand h.2), if_pos rfl, hkey,
    aesDecrypt_encrypt]
  show (if startsWith ProtocolVersion.v34.header (ProtocolVersion.v34.header ++ clear) = true then
    Except.ok ((ProtocolVersion.v34.header ++ clear).drop ProtocolVersion.v34.header.length)
    else .error (tuyaProtocolError "3.4 payload is missing its encrypted version header")) = _
  rw [if_pos (startsWith_append _ _), List.drop_left]

/-- The 3.2 and 3.3 payloads, after a header has been taken off. -/
theorem decodePayload_v33 {payload encrypted : Bytes} (hversion : version = .v32 ∨ version = .v33)
    (h : (if startsWith version.header payload then payload.drop version.header.length else payload) =
      encrypted) :
    decodePayload C ⟨sequence, command, payload⟩ version key sessionKey = aesDecrypt C encrypted key := by
  have hne : version ≠ .v31 ∧ version ≠ .v34 := by
    rcases hversion with rfl | rfl
    · exact ⟨nofun, nofun⟩
    · exact ⟨nofun, nofun⟩
  have hkey : encryptionKey version key sessionKey = key := if_neg hne.2
  unfold decodePayload
  dsimp only
  rw [if_neg (fun h => hne.1 h.1), if_neg (fun h => hne.2 h.1), if_neg hne.2, if_pos hversion, h, hkey]

/-- The 3.2 and 3.3 payloads behind their header. -/
theorem decodePayload_headed (hversion : version = .v32 ∨ version = .v33) (clear : Bytes) :
    decodePayload C ⟨sequence, command, version.header ++ aesEncrypt C clear key⟩ version key
      sessionKey = .ok clear := by
  rw [decodePayload_v33 hversion (if_pos (startsWith_append _ _)), List.drop_left,
    aesDecrypt_encrypt]

/-- The 3.2 and 3.3 payloads without a header, unless the ciphertext begins like one. -/
theorem decodePayload_headless {clear : Bytes} (hversion : version = .v32 ∨ version = .v33)
    (hcipher : startsWith version.header (aesEncrypt C clear key) = false) :
    decodePayload C ⟨sequence, command, aesEncrypt C clear key⟩ version key sessionKey =
      .ok clear := by
  have hheader : ¬ startsWith version.header (aesEncrypt C clear key) = true := by
    rw [hcipher]
    exact nofun
  rw [decodePayload_v33 hversion (if_neg hheader), aesDecrypt_encrypt]

/-- A 3.1 payload without the mark of an encrypted one is taken as it is. -/
theorem decodePayload_v31 {payload : Bytes}
    (h : startsWith ProtocolVersion.v31.bytes payload = false) :
    decodePayload C ⟨sequence, command, payload⟩ .v31 key sessionKey = .ok payload := by
  unfold decodePayload
  dsimp only
  rw [if_neg (fun hc => by rw [h] at hc; cases hc.2), if_neg (fun hc => by cases hc.1), if_neg nofun,
    if_neg]
  rintro (hc | hc)
  · cases hc
  · cases hc

theorem decodePayload_v31_encrypted {data : Bytes} (digest : Bytes) (hdigest : digest.length = 16) :
    decodePayload C ⟨sequence, command, ProtocolVersion.v31.bytes ++ digest ++
      base64Encode (aesEncrypt C data key)⟩ .v31 key sessionKey = .ok data := by
  have hhead : (ProtocolVersion.v31.bytes ++ digest).length = 19 := by
    rw [List.length_append, hdigest]
    rfl
  unfold decodePayload
  dsimp only
  rw [if_pos ⟨rfl, by rw [List.append_assoc]; exact startsWith_append _ _⟩, if_neg,
    List.drop_left' hhead, base64Decode_encode]
  · show valueErrorAs _ (aesDecrypt C (aesEncrypt C data key) key) = _
    rw [aesDecrypt_encrypt]
    rfl
  · rw [List.length_append, hhead]
    omega

/-- A control message decodes to its text. -/
theorem decodePayload_control (body : Json) :
    decodePayload C ⟨sequence, controlCommand version,
      payloadForCommand C floatRepr version (controlCommand version) body key sessionKey⟩ version key
        sessionKey = .ok (dumpsBytes floatRepr body) := by
  have hcontrol : commandControl ∉ noVersionHeader := by decide
  cases version with
  | v31 => exact decodePayload_v31_encrypted _ (length_payloadDigest _ _)
  | v32 => exact decodePayload_headed (Or.inl rfl) _
  | v33 => exact decodePayload_headed (Or.inr rfl) _
  | v34 => exact decodePayload_v34 (by decide)

/-- The commands the driver queries with. -/
def queryCommands : List Nat := [commandDpQuery, commandDpQueryNew]

/-- A query decodes to its text. -/
theorem decodePayload_query (body : JsonObj) (hcommand : command ∈ queryCommands)
    (hcipher : version = .v32 ∨ version = .v33 →
      startsWith version.header (aesEncrypt C (dumpsBytes floatRepr (.obj body)) key) = false) :
    decodePayload C ⟨sequence, command,
      payloadForCommand C floatRepr version command (.obj body) key sessionKey⟩ version key
        sessionKey = .ok (dumpsBytes floatRepr (.obj body)) := by
  have hne : command ≠ commandControl ∧ command ≠ commandSessionResponse ∧
      command ∈ noVersionHeader := by
    rcases List.mem_cons.mp hcommand with rfl | h
    · decide
    · rw [List.mem_singleton.mp h]
      decide
  obtain ⟨t, ht⟩ := dumpsBytes_obj floatRepr body
  unfold payloadForCommand
  dsimp only
  rw [if_neg (fun h => hne.1 h.2), if_pos hne.2.2]
  cases version with
  | v31 =>
    refine decodePayload_v31 ?_
    show startsWith _ (dumpsBytes floatRepr (.obj body)) = false
    rw [ht]
    exact startsWith_cons_ne (by decide) _ _
  | v32 => exact decodePayload_headless (Or.inl rfl) (hcipher (Or.inl rfl))
  | v33 => exact decodePayload_headless (Or.inr rfl) (hcipher (Or.inr rfl))
  | v34 => exact decodePayload_v34 hne.2.1

end Payload

/-! ### Reading the data points back -/

theorem dpIndex_toString {n : Nat} (h : 1 ≤ n ∧ n ≤ 255) : dpIndex (toString n) = .ok n := by
  have hshort : (Nat.toDigits 10 n).length ≤ 3 :=
    (Nat.length_toDigits_le_iff (by decide) (by decide)).mpr (by omega)
  have hread : parseInt 10 (toString n) = some (n : Int) :=
    parseInt_toString (le_trans hshort (by decide))
  have hrange : 1 ≤ (n : Int) ∧ (n : Int) ≤ 255 := by omega
  unfold dpIndex
  rw [hread]
  dsimp only
  rw [if_pos hrange, Int.toNat_natCast]

/-- Within the range of data points, an index is known from its text. -/
theorem toString_inj {n k : Nat} (hn : 1 ≤ n ∧ n ≤ 255) (hk : 1 ≤ k ∧ k ≤ 255)
    (h : toString n = toString k) : n = k := by
  have he := dpIndex_toString hn
  rw [h, dpIndex_toString hk] at he
  cases he
  rfl

/-- The items of a `dps` object, indexes as text. -/
def dpItems (values : List (Nat × Json)) : JsonObj := values.map fun p => (toString p.1, p.2)

/-- Every index is a data point. -/
def DpIndexes (values : List (Nat × Json)) : Prop := ∀ p ∈ values, 1 ≤ p.1 ∧ p.1 ≤ 255

theorem lookup_dpItems {values : List (Nat × Json)} (hvalues : DpIndexes values) {n : Nat}
    (hn : 1 ≤ n ∧ n ≤ 255) : (dpItems values).lookup (toString n) = values.lookup n := by
  induction values with
  | nil => rfl
  | cons p values ih =>
    obtain ⟨k, v⟩ := p
    have hk := hvalues (k, v) List.mem_cons_self
    show List.lookup (toString n) ((toString k, v) :: dpItems values) = _
    rw [List.lookup_cons, List.lookup_cons, ih fun q hq => hvalues q (List.mem_cons_of_mem _ hq)]
    by_cases h : n = k
    · rw [h, beq_self_eq_true, beq_self_eq_true]
    · rw [beq_false_of_ne h, beq_false_of_ne fun he => h (toString_inj hn hk he)]

/-- An object all of whose keys are data points has its items in this form. -/
theorem exists_dpItems {items : JsonObj} (h : ∀ p ∈ items, ∃ n, (1 ≤ n ∧ n ≤ 255) ∧ p.1 = toString n) :
    ∃ values, DpIndexes values ∧ items = dpItems values := by
  induction items with
  | nil => exact ⟨[], nofun, rfl⟩
  | cons p items ih =>
    obtain ⟨n, hn, hp⟩ := h p List.mem_cons_self
    obtain ⟨values, hvalues, rfl⟩ := ih fun q hq => h q (List.mem_cons_of_mem _ hq)
    refine ⟨(n, p.2) :: values, ?_, ?_⟩
    · intro q hq
      rcases List.mem_cons.mp hq with rfl | hq
      · exact hn
      · exact hvalues q hq
    · show p :: _ = (toString n, p.2) :: _
      rw [← hp]
      rfl

theorem foldlM_dpItems {values : List (Nat × Json)} (hvalues : DpIndexes values) (dps : Dps) :
    (dpItems values).foldlM (fun result (p : String × Json) => do
      let index ← dpIndex p.1
      .ok (result.set index p.2)) dps = (.ok (dps.setAll values) : Except PyErr Dps) := by
  induction values generalizing dps with
  | nil => rfl
  | cons p values ih =>
    obtain ⟨n, v⟩ := p
    show List.foldlM _ dps ((toString n, v) :: dpItems values) = _
    rw [List.foldlM_cons, dpIndex_toString (hvalues (n, v) List.mem_cons_self)]
    exact ih (fun q hq => hvalues q (List.mem_cons_of_mem _ hq)) (dps.set n v)

/-- The same data points with the same values. -/
def SameDps (d e : Dps) : Prop := ∀ n, Option.Rel Json.Same (d.get? n) (e.get? n)

theorem SameDps.get?_some {dps dps' : Dps} (h : SameDps dps dps') {n : Nat} {v : Json}
    (hv : dps.get? n = some v) : ∃ w, dps'.get? n = some w ∧ v.Same w := by
  have hrel := h n
  rw [hv] at hrel
  cases hw : dps'.get? n with
  | none =>
    rw [hw] at hrel
    cases hrel
  | some w =>
    rw [hw] at hrel
    cases hrel with
    | some hvw => exact ⟨w, rfl, hvw⟩

theorem SameDps.get?_none {dps dps' : Dps} (h : SameDps dps dps') {n : Nat} (hn : dps.get? n = none) :
    dps'.get? n = none := by
  have hrel := h n
  rw [hn] at hrel
  cases hw : dps'.get? n with
  | none => rfl
  | some w =>
    rw [hw] at hrel
    cases hrel

/-- The items of a `dps` object read back are the data points that were written. -/
theorem foldlM_same {values : Dps} (hvalues : DpIndexes values.items) {items : JsonObj}
    (h : Json.Same (.obj (dpItems values.items)) (.obj items)) :
    ∃ dps, items.foldlM (fun result (p : String × Json) => do
      let index ← dpIndex p.1
      .ok (result.set index p.2)) Dict.empty = (.ok dps : Except PyErr Dps) ∧ SameDps values dps := by
  have hkeys : ∀ p ∈ items, ∃ n, (1 ≤ n ∧ n ≤ 255) ∧ p.1 = toString n := by
    intro p hp
    have hsome := (Dict.lookup_isSome_iff items p.1).mpr (List.mem_map.mpr ⟨p, hp, rfl⟩)
    by_contra hno
    have hnone : (dpItems values.items).lookup p.1 = none := by
      refine Dict.lookup_none_of_not_mem fun hmem => hno ?_
      obtain ⟨q, hq, hqp⟩ := List.mem_map.mp hmem
      obtain ⟨r, hr, rfl⟩ := List.mem_map.mp hq
      exact ⟨r.1, hvalues r hr, hqp.symm⟩
    rw [h.lookup_none hnone] at hsome
    cases hsome
  obtain ⟨read, hread, rfl⟩ := exists_dpItems hkeys
  have hnodup : (read.map Prod.fst).Nodup := by
    obtain ⟨e, he, hdict⟩ := h.obj_left
    cases he
    have hmap : (dpItems read).map Prod.fst = (read.map Prod.fst).map toString := by
      unfold dpItems
      rw [List.map_map, List.map_map]
      rfl
    rw [hmap] at hdict
    exact hdict.of_map _
  refine ⟨Dict.setAll Dict.empty read, foldlM_dpItems hread _, ?_⟩
  intro n
  rw [Dict.get?_setAll_nodup _ hnodup, Dict.get?_empty, Option.or_none]
  by_cases hn : 1 ≤ n ∧ n ≤ 255
  · rw [← lookup_dpItems hread hn]
    have hval : values.get? n = (dpItems values.items).lookup (toString n) :=
      (lookup_dpItems hvalues hn).symm
    rw [hval]
    cases hlook : (dpItems values.items).lookup (toString n) with
    | none =>
      rw [h.lookup_none hlook]
      exact Option.Rel.none
    | some v =>
      obtain ⟨w, hw, hvw⟩ := h.lookup hlook
      rw [hw]
      exact Option.Rel.some hvw
  · have hout : ∀ l : List (Nat × Json), DpIndexes l → l.lookup n = none := by
      intro l hl
      refine Dict.lookup_none_of_not_mem fun hmem => hn ?_
      obtain ⟨q, hq, rfl⟩ := List.mem_map.mp hmem
      exact hl q hq
    rw [show values.get? n = none from hout _ hvalues, hout _ hread]
    exact Option.Rel.none

theorem getItem_lookup {d : JsonObj} {key : String} {v : Json} (h : d.lookup key = some v) :
    getItem d key = v := by
  unfold getItem
  rw [h]
  rfl

theorem getItem_none {d : JsonObj} {key : String} (h : d.lookup key = none) :
    getItem d key = .null := by
  unfold getItem
  rw [h]
  rfl

/-- A control message that is read back has the data points that were written. -/
theorem parseDps_control {J : JsonLib} {floatRepr : ℚ → List Char} {d : TuyaDeviceConfig} {now : Int}
    {values : Dps} (hvalues : DpIndexes values.items)
    (hjson : J.ReadsBack floatRepr (controlBody d now values.items)) :
    ∃ dps, parseDps J (dumpsBytes floatRepr (controlBody d now values.items)) = .ok dps ∧
      SameDps values dps := by
  obtain ⟨w, hdecode, hsame⟩ := hjson
  have hparse : parseDps J (dumpsBytes floatRepr (controlBody d now values.items)) = dpsOfValue w := by
    unfold parseDps
    rw [J.loads_ok _ w hdecode]
  rw [hparse]
  unfold controlBody at hsame
  split at hsame
  · obtain ⟨e, rfl, -⟩ := hsame.obj_left
    have hdirect := getItem_none (hsame.lookup_none (k := "dps") rfl)
    obtain ⟨data, hdata, hsdata⟩ := hsame.lookup (k := "data") rfl
    obtain ⟨inner, rfl, -⟩ := hsdata.obj_left
    obtain ⟨dps, hdps, hsdps⟩ := hsdata.lookup (k := "dps") rfl
    obtain ⟨items, rfl, -⟩ := Json.Same.obj_left (d := dpItems values.items) hsdps
    obtain ⟨result, hfold, hresult⟩ := foldlM_same hvalues hsdps
    refine ⟨result, ?_, hresult⟩
    unfold dpsOfValue
    dsimp only [Json.obj?]
    rw [hdirect, getItem_lookup hdata]
    dsimp only [Json.obj?]
    rw [getItem_lookup hdps]
    exact hfold
  · obtain ⟨e, rfl, -⟩ := hsame.obj_left
    obtain ⟨dps, hdps, hsdps⟩ := hsame.lookup (k := "dps") rfl
    obtain ⟨items, rfl, -⟩ := Json.Same.obj_left (d := dpItems values.items) hsdps
    obtain ⟨result, hfold, hresult⟩ := foldlM_same hvalues hsdps
    refine ⟨result, ?_, hresult⟩
    unfold dpsOfValue
    dsimp only [Json.obj?]
    rw [getItem_lookup hdps]
    exact hfold

/-! ## Statement -/

/-- A message on its way: built, framed, parsed, decoded and freed of its return code, with the
same keys at both ends. -/
def deliver (C : TuyaCrypto) (floatRepr : ℚ → List Char) (version : ProtocolVersion)
    (sequence command : Nat) (body : Json) (key integrityKey : Bytes) (sessionKey : Option Bytes) :
    Except PyErr (TuyaFrame × Bytes) := do
  let payload := payloadForCommand C floatRepr version command body key sessionKey
  let frame ← parseFrame C (frameBytes C sequence command payload version integrityKey) version
    integrityKey
  let decoded ← decodePayload C frame version key sessionKey
  .ok (frame, withoutRetcode decoded)

/-- The frame of a message is within 1 MiB. -/
def FitsFrame (C : TuyaCrypto) (floatRepr : ℚ → List Char) (version : ProtocolVersion)
    (command : Nat) (body : Json) (key : Bytes) (sessionKey : Option Bytes) : Prop :=
  (payloadForCommand C floatRepr version command body key sessionKey).length + trailerSize version ≤
    1024 * 1024

/-! ## Main result -/

section Main

variable {C : TuyaCrypto} {floatRepr : ℚ → List Char} {version : ProtocolVersion}
variable {sequence command : Nat} {key integrityKey : Bytes} {sessionKey : Option Bytes}

/-- A payload that decodes to the text of an object is delivered. -/
theorem deliver_ok {body : JsonObj} (hsequence : sequence < 2 ^ 32) (hcommand : command < 2 ^ 32)
    (hfits : FitsFrame C floatRepr version command (.obj body) key sessionKey)
    (hdecode : decodePayload C ⟨sequence, command,
      payloadForCommand C floatRepr version command (.obj body) key sessionKey⟩ version key
        sessionKey = .ok (dumpsBytes floatRepr (.obj body))) :
    ∃ f, deliver C floatRepr version sequence command (.obj body) key integrityKey sessionKey =
      .ok (f, dumpsBytes floatRepr (.obj body)) ∧ f.sequence = sequence ∧ f.command = command := by
  have henc : TuyaFrame.Encodable version ⟨sequence, command,
      payloadForCommand C floatRepr version command (.obj body) key sessionKey⟩ :=
    ⟨hsequence, hcommand, hfits⟩
  have hparse := (TuyaFrame.layout C version integrityKey _).parse henc
  obtain ⟨t, ht⟩ := dumpsBytes_obj floatRepr body
  refine ⟨⟨sequence, command,
    payloadForCommand C floatRepr version command (.obj body) key sessionKey⟩, ?_, rfl, rfl⟩
  unfold deliver
  dsimp only
  rw [show parseFrame C (frameBytes C sequence command _ version integrityKey) version integrityKey =
    _ from hparse]
  show (decodePayload C _ version key sessionKey >>= _) = _
  rw [hdecode, ht]
  show Except.ok (_, withoutRetcode (0x7b :: t)) = _
  rw [withoutRetcode_cons (by decide)]

end Main

/-- **Control messages survive the wire format**, whatever the protocol version and the keys: the
data points of a write come back as they were, a query comes back byte for byte. -/
theorem control_messages_survive (C : TuyaCrypto) (J : JsonLib) (floatRepr : ℚ → List Char)
    (d : TuyaDeviceConfig) (sequence : Nat) (key integrityKey : Bytes) (sessionKey : Option Bytes)
    (hsequence : sequence < 2 ^ 32) :
    (∀ (now : Int) (values : Dps), DpIndexes values.items →
      J.ReadsBack floatRepr (controlBody d now values.items) →
      FitsFrame C floatRepr d.link.protocolVersion (controlCommand d.link.protocolVersion)
        (controlBody d now values.items) key sessionKey →
      ∃ f text dps, deliver C floatRepr d.link.protocolVersion sequence
          (controlCommand d.link.protocolVersion) (controlBody d now values.items) key integrityKey
          sessionKey = .ok (f, text) ∧
        f.sequence = sequence ∧ f.command = controlCommand d.link.protocolVersion ∧
        parseDps J text = .ok dps ∧ SameDps values dps) ∧
    ∀ (command : Nat) (body : JsonObj), command ∈ queryCommands →
      (d.link.protocolVersion = .v32 ∨ d.link.protocolVersion = .v33 →
        startsWith d.link.protocolVersion.header
          (aesEncrypt C (dumpsBytes floatRepr (.obj body)) key) = false) →
      FitsFrame C floatRepr d.link.protocolVersion command (.obj body) key sessionKey →
      ∃ f, deliver C floatRepr d.link.protocolVersion sequence command (.obj body) key integrityKey
          sessionKey = .ok (f, dumpsBytes floatRepr (.obj body)) ∧
        f.sequence = sequence ∧ f.command = command := by
  constructor
  · intro now values hvalues hjson hfits
    have hcommand : controlCommand d.link.protocolVersion < 2 ^ 32 := by
      cases d.link.protocolVersion <;> decide
    obtain ⟨body, hbody⟩ : ∃ body, controlBody d now values.items = .obj body := by
      unfold controlBody
      split
      · exact ⟨_, rfl⟩
      · exact ⟨_, rfl⟩
    obtain ⟨dps, hparse, hsame⟩ := parseDps_control hvalues hjson
    rw [hbody] at hfits hparse ⊢
    obtain ⟨f, hdeliver, hseq, hcmd⟩ := deliver_ok hsequence hcommand hfits (decodePayload_control _)
    exact ⟨f, _, dps, hdeliver, hseq, hcmd, hparse, hsame⟩
  · intro command body hquery hcipher hfits
    have hcommand : command < 2 ^ 32 := by
      rcases List.mem_cons.mp hquery with rfl | h
      · decide
      · rw [List.mem_singleton.mp h]
        decide
    exact deliver_ok hsequence hcommand hfits (decodePayload_query body hquery hcipher)

/-! ### A write to a 3.4 lamp and a query -/

/-- A lamp that negotiates a session key. -/
def sessionLamp : TuyaDeviceConfig where
  ip := "192.168.1.21"
  deviceId := "bf00000000000034aa"
  link := { lampLink with protocolVersion := .v34 }
  dps := some lampMapping
  id_ok := by decide

/-- The values `turn_off` writes. -/
def powerOff : Dps := ⟨[(1, .bool false)], by decide⟩

/-- `json.loads` on the text of that write, its keys in order. -/
def powerOffLib : JsonLib := .ofDecode fun b =>
  if b = dumpsBytes (fun _ => []) (controlBody sessionLamp 0 powerOff.items) then
    .ok (.obj [("data", .obj [("dps", .obj [("1", .bool false)])]), ("protocol", .int 5), ("t", .int 0)])
  else .error .malformed

theorem powerOff_readsBack :
    powerOffLib.ReadsBack (fun _ => []) (controlBody sessionLamp 0 powerOff.items) := by
  refine ⟨.obj [("data", .obj [("dps", .obj [("1", .bool false)])]), ("protocol", .int 5),
    ("t", .int 0)], ?_, ?_⟩
  · unfold powerOffLib
    dsimp only [JsonLib.ofDecode]
    rw [if_pos rfl]
  have hdata : Json.Same (.obj [("dps", .obj [("1", .bool false)])])
      (.obj [("dps", .obj [("1", .bool false)])]) := .singleton "dps" (.singleton "1" (.bool false))
  refine .obj (d := [("protocol", .int 5), ("t", .int 0),
    ("data", .obj [("dps", .obj [("1", .bool false)])])]) (by decide) ?_ ?_
  · intro k
    rw [Bool.eq_iff_iff, Dict.lookup_isSome_iff, Dict.lookup_isSome_iff]
    simp only [List.map_cons, List.map_nil, List.mem_cons, List.not_mem_nil, or_false]
    tauto
  · intro k v w hv hw
    have hk : k = "protocol" ∨ k = "t" ∨ k = "data" := by
      have hmem := (Dict.lookup_isSome_iff _ k).mp (by rw [hv]; rfl)
      simpa using hmem
    rcases hk with rfl | rfl | rfl
    · cases hv
      cases hw
      exact .int 5
    · cases hv
      cases hw
      exact .int 0
    · cases hv
      cases hw
      exact hdata

/-- What the two ends have agreed on. -/
def agreedKey : Bytes := List.replicate 16 0x2a

/-- The lamp is switched off and asked for its data points. -/
theorem control_messages_survive_powerOff :
    (∃ f text dps, deliver .plain (fun _ => []) .v34 1 commandControlNew
        (controlBody sessionLamp 0 powerOff.items) (asciiBytes sessionLamp.link.localKey.toList)
        agreedKey (some agreedKey) = .ok (f, text) ∧
      f.sequence = 1 ∧ f.command = commandControlNew ∧ parseDps powerOffLib text = .ok dps ∧
      SameDps powerOff dps) ∧
    ∃ f, deliver .plain (fun _ => []) .v34 1 commandDpQueryNew (.obj [])
        (asciiBytes sessionLamp.link.localKey.toList) agreedKey (some agreedKey) =
      .ok (f, dumpsBytes (fun _ => []) (.obj [])) ∧ f.sequence = 1 ∧ f.command = commandDpQueryNew := by
  obtain ⟨hwrite, hquery⟩ := control_messages_survive .plain powerOffLib (fun _ => []) sessionLamp 1
    (asciiBytes sessionLamp.link.localKey.toList) agreedKey (some agreedKey) (by decide)
  refine ⟨hwrite 0 powerOff ?_ powerOff_readsBack ?_, hquery commandDpQueryNew [] (by decide) ?_ ?_⟩
  · intro p hp
    rw [List.mem_singleton.mp hp]
    decide
  · unfold FitsFrame
    decide +kernel
  · rintro (h | h)
    · cases h
    · cases h
  · unfold FitsFrame
    decide +kernel

end Linker
