import OpenHdoLinker.Lib.Octets
import OpenHdoLinker.Lib.PyText

/-!
# Tuya local frames

The wire format of `tuya.py`: the 55AA frame with its CRC or HMAC trailer, the
6699 frame of current UDP discovery, the payload each protocol version carries,
and AES-ECB with PKCS#7 padding.  The ciphers and digests are a parameter
(`TuyaCrypto`) with the laws the protocol relies on.
-/

namespace Linker

open Py

/-! ## Errors -/

/-- `class TuyaProtocolError(ValueError)`. -/
def tuyaProtocolErrorClass : ExcClass := .derived "TuyaProtocolError" .ValueError

def tuyaProtocolError (text : String) : PyErr := ⟨tuyaProtocolErrorClass, text⟩

/-- `class TuyaConfigurationError(ValueError)`. -/
def tuyaConfigurationErrorClass : ExcClass := .derived "TuyaConfigurationError" .ValueError

def tuyaConfigurationError (text : String) : PyErr := ⟨tuyaConfigurationErrorClass, text⟩

/-! ## Constants -/

def framePrefix : Nat := 0x000055AA
def frameSuffix : Nat := 0x0000AA55
def framePrefix6699 : Nat := 0x00006699
def frameSuffix6699 : Nat := 0x00009966

def commandSessionStart : Nat := 3
def commandSessionResponse : Nat := 4
def commandSessionFinish : Nat := 5
def commandControl : Nat := 7
def commandStatus : Nat := 8
def commandHeartbeat : Nat := 9
def commandDpQuery : Nat := 10
def commandControlNew : Nat := 13
def commandDpQueryNew : Nat := 16
def commandRequestDeviceInfo : Nat := 37

/-- `SUPPORTED_PROTOCOLS`. -/
inductive ProtocolVersion
  | v31
  | v32
  | v33
  | v34
deriving DecidableEq, Repr

namespace ProtocolVersion

def text : ProtocolVersion → String
  | v31 => "3.1"
  | v32 => "3.2"
  | v33 => "3.3"
  | v34 => "3.4"

def ofText? (s : String) : Option ProtocolVersion := [v31, v32, v33, v34].find? (·.text = s)

/-- `version.encode("ascii")`. -/
def bytes : ProtocolVersion → Bytes
  | v31 => [0x33, 0x2e, 0x31]
  | v32 => [0x33, 0x2e, 0x32]
  | v33 => [0x33, 0x2e, 0x33]
  | v34 => [0x33, 0x2e, 0x34]

/-- `VERSION_HEADER[version]`. -/
def header (v : ProtocolVersion) : Bytes := v.bytes ++ List.replicate 12 0

end ProtocolVersion

/-- `NO_VERSION_HEADER`. -/
def noVersionHeader : List Nat :=
  [commandDpQuery, commandHeartbeat, commandSessionStart, commandSessionResponse,
    commandSessionFinish, commandDpQueryNew]

/-- `DISCOVERY_KEY`. -/
def discoveryKey : Bytes :=
  [0x79, 0x47, 0x41, 0x64, 0x6c, 0x6f, 0x70, 0x6f, 0x50, 0x56, 0x6c, 0x64, 0x41, 0x42, 0x66, 0x6e]

/-! ## Ciphers and digests -/

/-- The cryptographic library, keys first.  ECB works on whole blocks; `gcmDecrypt` is `none`
where the library raises `InvalidTag` or `ValueError`. -/
structure TuyaCrypto where
  ecbEncrypt : Bytes → Bytes → Bytes
  ecbDecrypt : Bytes → Bytes → Bytes
  gcmEncrypt : Bytes → Bytes → Bytes → Bytes → Bytes
  gcmDecrypt : Bytes → Bytes → Bytes → Bytes → Option Bytes
  hmacSha256 : Bytes → Bytes → Bytes
  sha256 : Bytes → Bytes
  md5 : Bytes → Bytes
  crc32 : Bytes → Nat
  length_ecbEncrypt : ∀ k d, (ecbEncrypt k d).length = d.length
  length_ecbDecrypt : ∀ k d, (ecbDecrypt k d).length = d.length
  ecbDecrypt_encrypt : ∀ k d, d.length % 16 = 0 → ecbDecrypt k (ecbEncrypt k d) = d
  ecbEncrypt_decrypt : ∀ k d, d.length % 16 = 0 → ecbEncrypt k (ecbDecrypt k d) = d
  length_gcmEncrypt : ∀ k n m a, (gcmEncrypt k n m a).length = m.length + 16
  gcmDecrypt_encrypt : ∀ k n m a, gcmDecrypt k n (gcmEncrypt k n m a) a = some m
  gcm_authentic : ∀ k n c a m, gcmDecrypt k n c a = some m → c = gcmEncrypt k n m a
  length_hmacSha256 : ∀ k m, (hmacSha256 k m).length = 32
  length_sha256 : ∀ m, (sha256 m).length = 32
  length_md5 : ∀ m, (md5 m).length = 16
  crc32_lt : ∀ m, crc32 m < 2 ^ 32

/-- A library with no secrecy: ciphertexts are the plaintext, digests are zero. -/
def TuyaCrypto.plain : TuyaCrypto where
  ecbEncrypt _ d := d
  ecbDecrypt _ d := d
  gcmEncrypt _ _ m _ := m ++ List.replicate 16 0
  gcmDecrypt _ _ c _ :=
    if c.drop (c.length - 16) = List.replicate 16 0 then some (c.take (c.length - 16)) else none
  hmacSha256 _ _ := List.replicate 32 0
  sha256 _ := List.replicate 32 0
  md5 _ := List.replicate 16 0
  crc32 _ := 0
  length_ecbEncrypt _ _ := rfl
  length_ecbDecrypt _ _ := rfl
  ecbDecrypt_encrypt _ _ _ := rfl
  ecbEncrypt_decrypt _ _ _ := rfl
  length_gcmEncrypt _ _ m _ := by simp
  gcmDecrypt_encrypt _ _ m _ := by
    have hlen : (m ++ List.replicate 16 (0 : UInt8)).length - 16 = m.length := by simp
    rw [hlen, List.drop_left, if_pos rfl, List.take_left]
  gcm_authentic _ _ c _ m h := by
    split at h
    · next hd =>
      cases h
      rw [← hd, List.take_append_drop]
    · cases h
  length_hmacSha256 _ _ := by simp
  length_sha256 _ := by simp
  length_md5 _ := by simp
  crc32_lt _ := by decide

section Frame

variable (C : TuyaCrypto)

/-- `DISCOVERY_UDP_KEY`. -/
def discoveryUdpKey : Bytes := C.md5 discoveryKey

/-! ## AES-ECB -/

/-- `_aes_encrypt(data, key)`. -/
def aesEncrypt (data key : Bytes) : Bytes := C.ecbEncrypt key (pkcs7Pad data)

/-- `cipher.update(data) + cipher.finalize()`: data that is not a whole number of blocks raises. -/
def ecbDecryptBlocks (data key : Bytes) : Except PyErr Bytes :=
  if data.length % 16 = 0 then .ok (C.ecbDecrypt key data)
  else .error (valueError "The length of the provided data is not a multiple of the block length.")

/-- `_aes_decrypt(data, key)`. -/
def aesDecrypt (data key : Bytes) : Except PyErr Bytes := do
  let result ← ecbDecryptBlocks C data key
  match pkcs7Unpad result with
  | some clear => .ok clear
  | none => .error (tuyaProtocolError "invalid AES padding")

/-! ## The 55AA frame -/

structure TuyaFrame where
  sequence : Nat
  command : Nat
  payload : Bytes
deriving DecidableEq

def trailerSize (version : ProtocolVersion) : Nat := if version = .v34 then 36 else 8

/-- The integrity check at the head of a trailer: HMAC under 3.4, CRC otherwise. -/
def integrity (version : ProtocolVersion) (integrityKey signed : Bytes) : Bytes :=
  if version = .v34 then C.hmacSha256 integrityKey signed else beBytes 4 (C.crc32 signed)

/-- `_frame_bytes(sequence, command, payload, protocol_version=…, integrity_key=…)`. -/
def frameBytes (sequence command : Nat) (payload : Bytes) (version : ProtocolVersion)
    (integrityKey : Bytes) : Bytes :=
  let length := payload.length + trailerSize version
  let header := beBytes 4 framePrefix ++ beBytes 4 sequence ++ beBytes 4 command ++ beBytes 4 length
  let signed := header ++ payload
  signed ++ integrity C version integrityKey signed ++ beBytes 4 frameSuffix

/-- `data[start:stop]`. -/
def slice (data : Bytes) (start stop : Nat) : Bytes := (data.take stop).drop start

/-- The last four bytes, `data[-4:]`. -/
def last4 (data : Bytes) : Bytes := data.drop (data.length - 4)

/-- `parse_frame(data, protocol_version=…, integrity_key=…)`. -/
def parseFrame (data : Bytes) (version : ProtocolVersion) (integrityKey : Bytes) :
    Except PyErr TuyaFrame :=
  if data.length < 24 ∨ data.take 4 ≠ beBytes 4 framePrefix ∨ last4 data ≠ beBytes 4 frameSuffix then
    .error (tuyaProtocolError "invalid Tuya frame prefix or suffix")
  else
    let sequence := beNat (slice data 4 8)
    let command := beNat (slice data 8 12)
    let length := beNat (slice data 12 16)
    if length > 1024 * 1024 ∨ data.length ≠ 16 + length then
      .error (tuyaProtocolError "invalid Tuya frame length")
    else if length < trailerSize version then
      .error (tuyaProtocolError "Tuya frame is shorter than its integrity trailer")
    else
      let payloadEnd := 16 + length - trailerSize version
      let payload := slice data 16 payloadEnd
      let signed := data.take payloadEnd
      let trailer := slice data payloadEnd (payloadEnd + trailerSize version)
      if version = .v34 then
        if trailer.take 32 ≠ C.hmacSha256 integrityKey signed then
          .error (tuyaProtocolError "Tuya frame HMAC verification failed")
        else .ok ⟨sequence, command, payload⟩
      else if beNat (trailer.take 4) ≠ C.crc32 signed then
        .error (tuyaProtocolError "Tuya frame CRC verification failed")
      else .ok ⟨sequence, command, payload⟩

/-- `_without_retcode(payload)`. -/
def withoutRetcode (payload : Bytes) : Bytes :=
  if payload.take 4 = [0, 0, 0, 0] then payload.drop 4 else payload

/-! ## The 6699 frame -/

/-- `_parse_6699(data, key)`. -/
def parse6699 (data key : Bytes) : Except PyErr TuyaFrame :=
  if data.length < 18 + 28 + 4 ∨ data.take 4 ≠ beBytes 4 framePrefix6699 ∨
      last4 data ≠ beBytes 4 frameSuffix6699 then
    .error (tuyaProtocolError "invalid Tuya 6699 frame prefix or suffix")
  else
    let reserved := beNat (slice data 4 6)
    let sequence := beNat (slice data 6 10)
    let command := beNat (slice data 10 14)
    let length := beNat (slice data 14 18)
    if reserved ≠ 0 ∨ length < 28 ∨ data.length ≠ 18 + length + 4 then
      .error (tuyaProtocolError "invalid Tuya 6699 frame length")
    else
      let encrypted := slice data 18 (18 + length)
      match C.gcmDecrypt key (encrypted.take 12) (encrypted.drop 12) (slice data 4 18) with
      | some payload => .ok ⟨sequence, command, payload⟩
      | none => .error (tuyaProtocolError "Tuya 6699 discovery authentication failed")

/-! ## Lemmas -/

/-- `except TuyaProtocolError` catches it. -/
def IsTuyaProtocolError (e : PyErr) : Prop := e.isA tuyaProtocolErrorClass = true

theorem isTuyaProtocolError (text : String) : IsTuyaProtocolError (tuyaProtocolError text) :=
  isA_self tuyaProtocolErrorClass text

theorem parseFrame_raises (data : Bytes) (version : ProtocolVersion) (integrityKey : Bytes) :
    Raises IsTuyaProtocolError (parseFrame C data version integrityKey) := by
  unfold parseFrame
  dsimp only
  split
  · exact raises_error (isTuyaProtocolError _)
  · split
    · exact raises_error (isTuyaProtocolError _)
    · split
      · exact raises_error (isTuyaProtocolError _)
      · split
        · split
          · exact raises_error (isTuyaProtocolError _)
          · exact raises_ok _
        · split
          · exact raises_error (isTuyaProtocolError _)
          · exact raises_ok _

theorem parse6699_raises (data key : Bytes) :
    Raises IsTuyaProtocolError (parse6699 C data key) := by
  unfold parse6699
  dsimp only
  split
  · exact raises_error (isTuyaProtocolError _)
  · split
    · exact raises_error (isTuyaProtocolError _)
    · split
      · exact raises_ok _
      · exact raises_error (isTuyaProtocolError _)

/-- `except (TuyaProtocolError, ValueError)` catches whatever decryption raises. -/
theorem aesDecrypt_raises (data key : Bytes) :
    Raises (fun e => e.isA .ValueError = true) (aesDecrypt C data key) := by
  unfold aesDecrypt
  refine raises_bind ?_ ?_
  · unfold ecbDecryptBlocks
    split
    · exact raises_ok _
    · exact raises_error (isA_self _ _)
  · intro result _
    split
    · exact raises_ok _
    · exact raises_error (isA_derived _ _ _ _ (by decide))

end Frame

end Linker
