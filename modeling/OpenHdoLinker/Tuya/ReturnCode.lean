import OpenHdoLinker.Tuya.Payload

/-!
# Replies with a return code

A device may put four zero bytes in front of the payload of a reply.  `_exchange`
takes them off after decryption, so they are transparent where the payload is not
encrypted, and elsewhere the ciphertext is no longer a whole number of blocks.

    both forms of the reply give the body ↔ the protocol version is 3.1     (retcode_transparent_iff)
-/

namespace Linker

open Py

/-! ## Algorithm -/

/-- What one attempt of `_exchange` meets: the session key of the moment, the reply frame or the
exception before it, and how the `disconnect` of its `except` clause ends. -/
structure ExchangeAttempt where
  sessionKey : Option Bytes
  reply : Except PyErr TuyaFrame
  disconnect : Except PyErr Unit

/-- The exceptions after which `_exchange` tries again. -/
def exchangeErrors : List ExcClass :=
  [.TimeoutError, .ConnectionError, .IncompleteReadError, .OSError, tuyaProtocolErrorClass]

section Algorithm

variable (C : TuyaCrypto) (version : ProtocolVersion) (key : Bytes)

/-- The end of the `try` block: the reply, decoded and freed of its return code. -/
def replyBytes (a : ExchangeAttempt) : Except PyErr Bytes := do
  let frame ← a.reply
  let decoded ← decodePayload C frame version key a.sessionKey
  .ok (withoutRetcode decoded)

/-- `_exchange(command, body)` over its attempts; `last` is the text of the last error. -/
def exchangeResult (last : String) : List ExchangeAttempt → Except PyErr Bytes
  | [] => .error ⟨.ConnectionError, "Tuya exchange failed: " ++ last⟩
  | a :: attempts =>
    match replyBytes C version key a with
    | .ok payload => .ok payload
    | .error e =>
      if e.isAny exchangeErrors then do
        a.disconnect
        exchangeResult e.text attempts
      else .error e

/-- The payload of a device's reply to a query, without a return code. -/
def replyPayload (body : Bytes) (sessionKey : Option Bytes) : Bytes :=
  match version with
  | .v31 => body
  | .v32 | .v33 => aesEncrypt C body key
  | .v34 => aesEncrypt C (version.header ++ body) (encryptionKey version key sessionKey)

end Algorithm

/-! ## Statement -/

/-- The text of a JSON object begins with its brace or with whitespace. -/
def IsObjectText (body : Bytes) : Prop :=
  ∃ b t, body = b :: t ∧ b ∈ ([0x20, 0x09, 0x0a, 0x0d, 0x7b] : Bytes)

/-- `_exchange` returns the body for a reply with this payload. -/
def Answers (C : TuyaCrypto) (version : ProtocolVersion) (key : Bytes) (sessionKey : Option Bytes)
    (sequence command : Nat) (attempts : List ExchangeAttempt) (disconnect : Except PyErr Unit)
    (payload body : Bytes) : Prop :=
  exchangeResult C version key "" (⟨sessionKey, .ok ⟨sequence, command, payload⟩, disconnect⟩ ::
    attempts) = .ok body

/-! ## Lemmas -/

section Replies

variable {C : TuyaCrypto} {version : ProtocolVersion} {key : Bytes} {sessionKey : Option Bytes}
variable {sequence command : Nat} {disconnect : Except PyErr Unit} {payload body : Bytes}

theorem IsObjectText.not_marked (h : IsObjectText body) :
    startsWith ProtocolVersion.v31.bytes body = false ∧ withoutRetcode body = body := by
  obtain ⟨b, t, rfl, hb⟩ := h
  have hmark : b ≠ 0x33 := fun he => absurd (he ▸ hb) (by decide)
  have hzero : b ≠ 0 := fun he => absurd (he ▸ hb) (by decide)
  exact ⟨startsWith_cons_ne hmark _ _, withoutRetcode_cons hzero t⟩

theorem replyBytes_ok {decoded : Bytes}
    (h : decodePayload C ⟨sequence, command, payload⟩ version key sessionKey = .ok decoded) :
    replyBytes C version key ⟨sessionKey, .ok ⟨sequence, command, payload⟩, disconnect⟩ =
      .ok (withoutRetcode decoded) := by
  show (decodePayload C ⟨sequence, command, payload⟩ version key sessionKey >>= _) = _
  rw [h]
  rfl

theorem replyBytes_error {e : PyErr}
    (h : decodePayload C ⟨sequence, command, payload⟩ version key sessionKey = .error e) :
    replyBytes C version key ⟨sessionKey, .ok ⟨sequence, command, payload⟩, disconnect⟩ =
      .error e := by
  show (decodePayload C ⟨sequence, command, payload⟩ version key sessionKey >>= _) = _
  rw [h]
  rfl

/-- The first attempt that decodes decides. -/
theorem answers_of_ok {attempts : List ExchangeAttempt}
    (h : replyBytes C version key ⟨sessionKey, .ok ⟨sequence, command, payload⟩, disconnect⟩ =
      .ok body) : Answers C version key sessionKey sequence command attempts disconnect payload body := by
  unfold Answers exchangeResult
  rw [h]

/-- An exception `_exchange` does not expect ends it. -/
theorem not_answers_of_error {attempts : List ExchangeAttempt} {e : PyErr}
    (h : replyBytes C version key ⟨sessionKey, .ok ⟨sequence, command, payload⟩, disconnect⟩ =
      .error e) (he : e.isAny exchangeErrors = false) :
    ¬ Answers C version key sessionKey sequence command attempts disconnect payload body := by
  unfold Answers exchangeResult
  rw [h]
  dsimp only
  rw [he]
  exact nofun

/-- In front of a ciphertext the return code leaves a partial block. -/
theorem retcode_partial {data : Bytes} (h : data.length % 16 = 0) :
    (([0, 0, 0, 0] : Bytes) ++ data).length % 16 ≠ 0 := by
  rw [List.length_append]
  show (4 + data.length) % 16 ≠ 0
  omega

/-- An encrypted reply behind a return code is not decrypted. -/
theorem decodePayload_retcode {data : Bytes} (h : data.length % 16 = 0) (hversion : version ≠ .v31) :
    decodePayload C ⟨sequence, command, [0, 0, 0, 0] ++ data⟩ version key sessionKey =
      .error (valueError "The length of the provided data is not a multiple of the block length.") := by
  have hpartial := retcode_partial h
  have hheader : ¬ startsWith version.header ([0, 0, 0, 0] ++ data) = true :=
    not_startsWith_header version (by decide) _
  cases version with
  | v31 => exact absurd rfl hversion
  | v32 =>
    rw [decodePayload_v33 (Or.inl rfl) (if_neg hheader), aesDecrypt_partial key hpartial]
  | v33 =>
    rw [decodePayload_v33 (Or.inr rfl) (if_neg hheader), aesDecrypt_partial key hpartial]
  | v34 =>
    unfold decodePayload
    dsimp only
    rw [if_neg (fun h => by cases h.1), aesDecrypt_partial key hpartial,
      aesDecrypt_partial (sessionKey.getD key) hpartial]
    split
    · rfl
    · rfl

/-- Under 3.1 both forms of the reply are taken as they are. -/
theorem answers_v31 (hbody : IsObjectText body) (attempts : List ExchangeAttempt) :
    Answers C .v31 key sessionKey sequence command attempts disconnect body body ∧
    Answers C .v31 key sessionKey sequence command attempts disconnect ([0, 0, 0, 0] ++ body) body := by
  have hzero : startsWith ProtocolVersion.v31.bytes ([0, 0, 0, 0] ++ body) = false :=
    startsWith_cons_ne (by decide) _ _
  constructor
  · refine answers_of_ok ?_
    rw [replyBytes_ok (decodePayload_v31 hbody.not_marked.1), hbody.not_marked.2]
  · refine answers_of_ok ?_
    rw [replyBytes_ok (decodePayload_v31 hzero), withoutRetcode_retcode]

/-- Behind a return code the other versions fail with the library's `ValueError`. -/
theorem not_answers_retcode (hversion : version ≠ .v31) (attempts : List ExchangeAttempt) :
    ¬ Answers C version key sessionKey sequence command attempts disconnect
      ([0, 0, 0, 0] ++ replyPayload C version key body sessionKey) body := by
  have hblocks : (replyPayload C version key body sessionKey).length % 16 = 0 := by
    cases version with
    | v31 => exact absurd rfl hversion
    | v32 => exact length_aesEncrypt _ _
    | v33 => exact length_aesEncrypt _ _
    | v34 => exact length_aesEncrypt _ _
  exact not_answers_of_error (replyBytes_error (decodePayload_retcode hblocks hversion)) (by decide)

/-- Without a return code every version gives the body. -/
theorem answers_plain (hbody : IsObjectText body) (hcommand : command ∈ queryCommands)
    (hcipher : version = .v32 ∨ version = .v33 →
      startsWith version.header (aesEncrypt C body key) = false) (attempts : List ExchangeAttempt) :
    Answers C version key sessionKey sequence command attempts disconnect
      (replyPayload C version key body sessionKey) body := by
  have hresponse : command ≠ commandSessionResponse := by
    rintro rfl
    exact absurd hcommand (by decide)
  cases version with
  | v31 => exact (answers_v31 hbody attempts).1
  | v32 =>
    refine answers_of_ok ((replyBytes_ok ?_).trans (by rw [hbody.not_marked.2]))
    exact decodePayload_headless (Or.inl rfl) (hcipher (Or.inl rfl))
  | v33 =>
    refine answers_of_ok ((replyBytes_ok ?_).trans (by rw [hbody.not_marked.2]))
    exact decodePayload_headless (Or.inr rfl) (hcipher (Or.inr rfl))
  | v34 =>
    refine answers_of_ok ((replyBytes_ok ?_).trans (by rw [hbody.not_marked.2]))
    exact decodePayload_v34 hresponse

end Replies

/-! ## Main result -/

/-- **Return codes are transparent under 3.1 alone**: both forms of a reply give the body exactly
there. -/
theorem retcode_transparent_iff (C : TuyaCrypto) (version : ProtocolVersion) (key : Bytes)
    (sessionKey : Option Bytes) (body : Bytes) (hbody : IsObjectText body) (sequence command : Nat)
    (hcommand : command ∈ queryCommands)
    (hcipher : version = .v32 ∨ version = .v33 →
      startsWith version.header (aesEncrypt C body key) = false)
    (disconnect : Except PyErr Unit) (attempts : List ExchangeAttempt) :
    (Answers C version key sessionKey sequence command attempts disconnect
        (replyPayload C version key body sessionKey) body ∧
      Answers C version key sessionKey sequence command attempts disconnect
        ([0, 0, 0, 0] ++ replyPayload C version key body sessionKey) body) ↔ version = .v31 := by
  constructor
  · rintro ⟨-, hretcode⟩
    by_contra hversion
    exact not_answers_retcode hversion attempts hretcode
  · intro hversion
    refine ⟨answers_plain hbody hcommand hcipher attempts, ?_⟩
    subst hversion
    exact (answers_v31 hbody attempts).2

/-- A 3.1 lamp's answer to a query. -/
theorem retcode_transparent_v31 :
    Answers .plain .v31 (asciiBytes lampLink.localKey.toList) none 1 commandDpQuery [] (.ok ())
      offReply offReply ∧
    Answers .plain .v31 (asciiBytes lampLink.localKey.toList) none 1 commandDpQuery [] (.ok ())
      ([0, 0, 0, 0] ++ offReply) offReply :=
  (retcode_transparent_iff .plain .v31 (asciiBytes lampLink.localKey.toList) none offReply
    ⟨0x7b, offReply.tail, by decide, by decide⟩ 1 commandDpQuery (by decide)
    (by rintro (h | h) <;> cases h) (.ok ()) []).mpr rfl

/-- A 3.3 reply with an empty object, its ciphertext without a version header: behind a return code
`_exchange` raises. -/
theorem retcode_raises_v33 :
    startsWith ProtocolVersion.v33.header
      (aesEncrypt .plain [0x7b, 0x7d] (asciiBytes lampLink.localKey.toList)) = false ∧
    ¬ (Answers .plain .v33 (asciiBytes lampLink.localKey.toList) none 1 commandDpQuery [] (.ok ())
        (replyPayload .plain .v33 (asciiBytes lampLink.localKey.toList) [0x7b, 0x7d] none)
        [0x7b, 0x7d] ∧
      Answers .plain .v33 (asciiBytes lampLink.localKey.toList) none 1 commandDpQuery [] (.ok ())
        ([0, 0, 0, 0] ++
          replyPayload .plain .v33 (asciiBytes lampLink.localKey.toList) [0x7b, 0x7d] none)
        [0x7b, 0x7d]) := by
  refine ⟨startsWith_cons_ne (by decide) _ _, ?_⟩
  rintro ⟨-, hretcode⟩
  refine not_answers_retcode ?_ [] hretcode
  exact nofun

end Linker
