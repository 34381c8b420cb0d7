import OpenHdoLinker.Tuya.ReturnCode
import OpenHdoLinker.Lib.PyDict

/-!
# One exchange with the device

`_exchange`, running alone: up to `retries + 1` attempts, each of which connects if
there is no open connection, writes the request and waits for the reply.  What the
transport does in each attempt is a script (`Attempt`).  The exchange gives the
first reply that can be decoded, and otherwise ends disconnected with a
`ConnectionError` after the last attempt, exactly when no attempt before the first
decodable reply is disturbed: no ciphertext with a partial block, and no reset
connection that is closed while attempts are left.

    Meets (exchange over the script) ↔ Undisturbed script          (exchange_meets_iff)
-/

namespace Linker.Exchange

open Py

/-! ## Algorithm -/

/-- Timeouts, lost connections and other failures of a transport. -/
def IsTransportError (e : PyErr) : Prop :=
  e.isAny [.TimeoutError, .ConnectionError, .IncompleteReadError, .OSError] = true

/-- The `except` clause of `_exchange` lists the exception. -/
def IsListed (e : PyErr) : Prop := e.isAny exchangeErrors = true

/-- How `wait_closed` fails after a reset, and how an exchange does. -/
def IsConnectionError (e : PyErr) : Prop := e.isA .ConnectionError = true

/-- What `_negotiate_session` meets: its two writes, and between them the payload of the response
frame, or the failure to read one. -/
structure Negotiation where
  start : Except PyErr Unit
  response : Except PyErr Bytes
  finish : Except PyErr Unit
  start_ok : Raises IsTransportError start
  response_ok : Raises IsListed response
  finish_ok : Raises IsTransportError finish

/-- What one attempt meets, as far as it gets: opening a connection, negotiating, closing it again
in `connect`, writing the request, the command and the payload of the reply, and closing the
connection in the `except` clause. -/
structure Attempt where
  opened : Except PyErr Unit
  negotiation : Negotiation
  abandoned : Except PyErr Unit
  written : Except PyErr Unit
  reply : Except PyErr (Nat × Bytes)
  closed : Except PyErr Unit
  opened_ok : Raises IsTransportError opened
  abandoned_ok : Raises IsConnectionError abandoned
  written_ok : Raises IsTransportError written
  reply_ok : Raises IsTransportError reply
  closed_ok : Raises IsConnectionError closed

/-- `self._writer`, if there is one: whether it is closing. -/
inductive Writer
  | usable
  | closing
deriving DecidableEq

/-- The fields of the driver an exchange works on, the attempts made so far and the bytes written. -/
structure Link where
  writer : Option Writer
  reader : Bool
  readerTask : Bool
  sessionKey : Option Bytes
  pending : Dict Nat Unit
  sequence : Nat
  lastError : Option String
  tried : Nat
  sent : List Bytes

/-- The 16 bytes `_negotiate_session` sends, `b"0123456789abcdef"`. -/
def localNonce : Bytes := asciiBytes "0123456789abcdef".toList

section Algorithm

variable (C : TuyaCrypto) (floatRepr : ℚ → List Char) (d : TuyaLink)

/-- `self.device.key_bytes`. -/
def keyBytes : Bytes := asciiBytes d.localKey.toList

/-- `_next_sequence()`. -/
def nextSequence : PyM Link Nat := do
  PyM.modify fun s => { s with sequence := (s.sequence + 1) % 2 ^ 32 }
  let s ← PyM.get
  pure s.sequence

/-- `_write(data)`. -/
def write (written : Except PyErr Unit) (data : Bytes) : PyM Link Unit := do
  let s ← PyM.get
  if s.writer = some .usable then do
    PyM.modify fun s => { s with sent := s.sent ++ [data] }
    PyM.outcome written
  else PyM.raise ⟨.ConnectionError, "Tuya device is not connected"⟩

/-- The fields as `disconnect` leaves them. -/
def Link.dropped (s : Link) : Link :=
  { s with writer := none, reader := false, readerTask := false, sessionKey := none,
           pending := Dict.empty }

/-- `disconnect()`; `closed` is how `wait_closed` ends. -/
def disconnect (closed : Except PyErr Unit) : PyM Link Unit := do
  let s ← PyM.get
  PyM.modify Link.dropped
  match s.writer with
  | some _ => PyM.outcome closed
  | none => pure ()

/-- The checks of `_negotiate_session` on the response: the decrypted bytes. -/
def verifiedResponse (response : Bytes) : Except PyErr Bytes := do
  let remote ← aesDecrypt C response (keyBytes d)
  if remote.length < 48 ∨ slice remote 16 48 ≠ C.hmacSha256 (keyBytes d) localNonce then
    .error (tuyaProtocolError "Tuya session negotiation response failed verification")
  else .ok remote

/-- The session key for a response. -/
def sessionKeyOf (remote : Bytes) : Bytes :=
  C.ecbEncrypt (keyBytes d) (List.zipWith (· ^^^ ·) localNonce (remote.take 16))

/-- `_negotiate_session()`. -/
def negotiateSession (n : Negotiation) : PyM Link Unit := do
  let sequence ← nextSequence
  write n.start (frameBytes C sequence commandSessionStart
    (aesEncrypt C localNonce (keyBytes d)) .v34 (keyBytes d))
  let response ← PyM.outcome n.response
  let remote ← PyM.outcome (verifiedResponse C d response)
  let finish := C.hmacSha256 (keyBytes d) (remote.take 16)
  let sequence ← nextSequence
  write n.finish (frameBytes C sequence commandSessionFinish
    (aesEncrypt C finish (keyBytes d)) .v34 (keyBytes d))
  PyM.modify fun s => { s with sessionKey := some (sessionKeyOf C d remote) }

/-- `connect()`. -/
def connect (a : Attempt) : PyM Link Unit := do
  let s ← PyM.get
  if s.writer = some .usable then pure ()
  else do
    PyM.outcome a.opened
    PyM.modify fun s => { s with writer := some .usable, reader := true, sessionKey := none }
    PyM.tryExcept
      (do
        if d.protocolVersion = .v34 then negotiateSession C d a.negotiation else pure ()
        PyM.modify fun s => { s with readerTask := true, lastError := none })
      (fun e => do
        disconnect a.abandoned
        PyM.raise e)

/-- The key a request is signed with. -/
def signingKey (sessionKey : Option Bytes) : Bytes :=
  match sessionKey with
  | some k => if d.protocolVersion = .v34 ∧ k ≠ [] then k else keyBytes d
  | none => keyBytes d

/-- The `try` block of an attempt, once it has a sequence number. -/
def request (a : Attempt) (command : Nat) (body : Json) (sequence : Nat) : PyM Link Bytes := do
  PyM.modify fun s => { s with pending := s.pending.set sequence () }
  let s ← PyM.get
  let payload :=
    payloadForCommand C floatRepr d.protocolVersion command body (keyBytes d) s.sessionKey
  write a.written
    (frameBytes C sequence command payload d.protocolVersion (signingKey d s.sessionKey))
  let reply ← PyM.outcome a.reply
  -- the reader takes the request out before it completes the future
  PyM.modify fun s => { s with pending := s.pending.erase sequence }
  let s ← PyM.get
  let decoded ← PyM.outcome
    (decodePayload C ⟨sequence, reply.1, reply.2⟩ d.protocolVersion (keyBytes d) s.sessionKey)
  pure (withoutRetcode decoded)

/-- The `except` clause of an attempt: a listed exception is what is left to report. -/
def recover (a : Attempt) (sequence : Option Nat) (e : PyErr) : PyM Link (Except PyErr Bytes) :=
  if e.isAny exchangeErrors then do
    PyM.modify fun s => { s with lastError := some e.text }
    match sequence with
    | some n => PyM.modify fun s => { s with pending := s.pending.erase n }
    | none => pure ()
    disconnect a.closed
    pure (.error e)
  else PyM.raise e

/-- One attempt: the decoded reply, or the exception it was given up for. -/
def attempt (a : Attempt) (command : Nat) (body : Json) : PyM Link (Except PyErr Bytes) := do
  PyM.modify fun s => { s with tried := s.tried + 1 }
  let connected ← PyM.tryExcept
    (do
      connect C d a
      pure (.ok []))
    (recover a none)
  match connected with
  | .error e => pure (.error e)
  | .ok _ => do
    let sequence ← nextSequence
    PyM.tryExcept (Except.ok <$> request C floatRepr d a command body sequence)
      (recover a (some sequence))

/-- The loop of `_exchange` over what is left of the script; `last` is the text of `last_error`. -/
def exchangeLoop (command : Nat) (body : Json) (last : String) : List Attempt → PyM Link Bytes
  | [] => PyM.raise ⟨.ConnectionError, "Tuya exchange failed: " ++ last⟩
  | a :: rest => do
    match ← attempt C floatRepr d a command body with
    | .ok payload => pure payload
    | .error e => exchangeLoop command body e.text rest

/-- The attempts of one exchange. -/
def attempts (script : Nat → Attempt) : List Attempt := (List.range (d.retries + 1)).map script

/-- `_exchange(command, body)`. -/
def exchange (script : Nat → Attempt) (command : Nat) (body : Json) : PyM Link Bytes :=
  exchangeLoop C floatRepr d command body "None" (attempts d script)

end Algorithm

/-! ## Statement -/

/-- What an attempt starts with: no writer, a closing one, or an open connection and its session
key. -/
inductive Hold
  | nothing
  | closing
  | connection (sessionKey : Option Bytes)

def Link.hold (s : Link) : Hold :=
  match s.writer with
  | none => .nothing
  | some .closing => .closing
  | some .usable => .connection s.sessionKey

section Statement

variable (C : TuyaCrypto) (d : TuyaLink)

/-- The session key a negotiation ends with. -/
def negotiated (n : Negotiation) : Except PyErr Bytes := do
  n.start
  let response ← n.response
  let remote ← verifiedResponse C d response
  n.finish
  .ok (sessionKeyOf C d remote)

/-- The session key of a new connection. -/
def established (a : Attempt) : Except PyErr (Option Bytes) := do
  a.opened
  if d.protocolVersion = .v34 then
    match negotiated C d a.negotiation with
    | .ok k => .ok (some k)
    | .error e => do
      a.abandoned
      .error e
  else .ok none

/-- The session key of the connection an attempt has. -/
def connected (h : Hold) (a : Attempt) : Except PyErr (Option Bytes) :=
  match h with
  | .connection sessionKey => .ok sessionKey
  | _ => established C d a

/-- The decoded reply on a connection. -/
def answered (sessionKey : Option Bytes) (a : Attempt) : Except PyErr Bytes := do
  a.written
  let reply ← a.reply
  let decoded ← decodePayload C ⟨0, reply.1, reply.2⟩ d.protocolVersion (keyBytes d) sessionKey
  .ok (withoutRetcode decoded)

/-- What an attempt by itself comes to. -/
def outcomeOf (h : Hold) (a : Attempt) : Except PyErr Bytes := do
  let sessionKey ← connected C d h a
  answered C d sessionKey a

/-- The first decodable reply; every attempt after the first starts without a connection. -/
def firstReply : Hold → List Attempt → Option Bytes
  | _, [] => none
  | h, a :: rest =>
    match outcomeOf C d h a with
    | .ok payload => some payload
    | .error _ => firstReply .nothing rest

structure Disconnected (s : Link) : Prop where
  writer : s.writer = none
  reader : s.reader = false
  sessionKey : s.sessionKey = none
  pending : s.pending = Dict.empty

/-- What is promised of an exchange that starts with `s`, over the given attempts. -/
def Meets (s : Link) (script : List Attempt) (result : Except PyErr Bytes × Link) : Prop :=
  match firstReply C d s.hold script with
  | some payload => result.1 = .ok payload
  | none => (∃ e, result.1 = .error e ∧ IsConnectionError e) ∧
      result.2.tried = s.tried + script.length ∧ Disconnected result.2

/-- The part of a payload that `decode_payload` decrypts. -/
def ciphertextOf (version : ProtocolVersion) (payload : Bytes) : Bytes :=
  if (version = .v32 ∨ version = .v33) ∧ startsWith version.header payload then
    payload.drop version.header.length
  else payload

/-- An encrypted reply that is not whole blocks. -/
def IsPartial (version : ProtocolVersion) (payload : Bytes) : Prop :=
  version ≠ .v31 ∧ (ciphertextOf version payload).length % 16 ≠ 0

/-- The attempt meets a ciphertext with a partial block: in the negotiation, unless closing that
connection fails, or in the reply. -/
inductive PartialBlock (h : Hold) (a : Attempt) : Prop
  | response (hnew : ∀ k, h ≠ .connection k) (hversion : d.protocolVersion = .v34)
      (hopened : a.opened = .ok ()) (hstart : a.negotiation.start = .ok ()) (payload : Bytes)
      (hresponse : a.negotiation.response = .ok payload) (hlength : payload.length % 16 ≠ 0)
      (habandoned : a.abandoned = .ok ())
  | reply (sessionKey : Option Bytes) (hconnected : connected C d h a = .ok sessionKey)
      (hwritten : a.written = .ok ()) (command : Nat) (payload : Bytes)
      (hreply : a.reply = .ok (command, payload)) (hlength : IsPartial d.protocolVersion payload)

/-- The attempt has a writer to close when it fails. -/
def HoldsWriter (h : Hold) (a : Attempt) : Prop :=
  (h = .closing ∧ a.opened ≠ .ok ()) ∨ ∃ k, connected C d h a = .ok k

/-- The connection the attempt has to close was reset. -/
def Interrupted (h : Hold) (a : Attempt) : Prop := HoldsWriter C d h a ∧ a.closed ≠ .ok ()

/-- Up to the first decodable reply no attempt meets a partial block, and none but the last has to
close a connection that was reset. -/
def Undisturbed : Hold → List Attempt → Prop
  | _, [] => True
  | h, a :: rest => (∃ payload, outcomeOf C d h a = .ok payload) ∨
      (¬ PartialBlock C d h a ∧ (rest ≠ [] → ¬ Interrupted C d h a) ∧ Undisturbed .nothing rest)

end Statement

/-! ## Lemmas -/

/-! ### Which exceptions are listed -/

theorem isListed_protocol (text : String) : IsListed (tuyaProtocolError text) := rfl

theorem IsTransportError.listed {e : PyErr} (h : IsTransportError e) : IsListed e := by
  unfold IsTransportError PyErr.isAny at h
  rw [List.any_eq_true] at h
  obtain ⟨c, hc, he⟩ := h
  unfold IsListed PyErr.isAny
  rw [List.any_eq_true]
  exact ⟨c, List.mem_append_left [tuyaProtocolErrorClass] hc, he⟩

theorem IsConnectionError.listed {e : PyErr} (h : IsConnectionError e) : IsListed e := by
  unfold IsListed PyErr.isAny
  rw [List.any_eq_true]
  exact ⟨.ConnectionError, by decide, h⟩

/-- The library's `ValueError` is neither listed nor a lost connection. -/
theorem valueError_unlisted (text : String) :
    ¬ IsListed (valueError text) ∧ ¬ IsConnectionError (valueError text) :=
  ⟨Bool.false_ne_true, Bool.false_ne_true⟩

section Decoding

variable {C : TuyaCrypto}

theorem aesDecrypt_whole {data : Bytes} (key : Bytes) (h : data.length % 16 = 0) :
    Raises IsListed (aesDecrypt C data key) := by
  unfold aesDecrypt ecbDecryptBlocks
  rw [if_pos h]
  refine raises_bind (raises_ok _) ?_
  intro result _
  split
  · exact raises_ok _
  · exact raises_error (isListed_protocol _)

/-- Whole blocks are decoded, or fail with the protocol's own error. -/
theorem decodePayload_whole {f : TuyaFrame} {version : ProtocolVersion} (key : Bytes)
    (sessionKey : Option Bytes) (h : ¬ IsPartial version f.payload) :
    Raises IsListed (decodePayload C f version key sessionKey) := by
  have hwhole : version ≠ .v31 → (ciphertextOf version f.payload).length % 16 = 0 := by
    intro hversion
    by_contra hlength
    exact h ⟨hversion, hlength⟩
  unfold ciphertextOf at hwhole
  unfold decodePayload
  dsimp only
  split
  · split
    · exact raises_error (isListed_protocol _)
    · split
      · exact raises_error (isListed_protocol _)
      · next encrypted _ =>
        unfold valueErrorAs
        have hraises := aesDecrypt_raises C encrypted key
        split
        · exact raises_ok _
        · next e he =>
          rw [if_pos (hraises e he)]
          exact raises_error (isListed_protocol _)
  · split
    · next hv34 =>
      rw [hv34.1] at hwhole
      exact aesDecrypt_whole key (hwhole nofun)
    · split
      · next hv34 =>
        rw [hv34] at hwhole
        refine raises_bind (aesDecrypt_whole _ (hwhole nofun)) ?_
        intro decrypted _
        split
        · exact raises_ok _
        · exact raises_error (isListed_protocol _)
      · split
        · next hheaded =>
          have hversion : version ≠ .v31 := by
            rintro rfl
            rcases hheaded with h | h
            · cases h
            · cases h
          have hlen := hwhole hversion
          simp only [hheaded, true_and] at hlen
          exact aesDecrypt_whole _ hlen
        · exact raises_ok _

theorem decodePayload_partial {f : TuyaFrame} {version : ProtocolVersion} (key : Bytes)
    (sessionKey : Option Bytes) (h : IsPartial version f.payload) :
    ∃ text, decodePayload C f version key sessionKey = .error (valueError text) := by
  obtain ⟨hversion, hlength⟩ := h
  unfold ciphertextOf at hlength
  refine ⟨"The length of the provided data is not a multiple of the block length.", ?_⟩
  unfold decodePayload
  dsimp only
  rw [if_neg fun h => hversion h.1]
  by_cases hv34 : version = .v34
  · have hlen : f.payload.length % 16 ≠ 0 := by
      rw [if_neg (by rw [hv34]; rintro ⟨h | h, -⟩ <;> cases h)] at hlength
      exact hlength
    rw [ aesDecrypt_partial key hlen, aesDecrypt_partial (sessionKey.getD key) hlen]
    split
    · rfl
    · rfl
  · have hheaded : version = .v32 ∨ version = .v33 := by
      cases version with
      | v31 => exact absurd rfl hversion
      | v32 => exact Or.inl rfl
      | v33 => exact Or.inr rfl
      | v34 => exact absurd rfl hv34
    simp only [hheaded, true_and] at hlength
    rw [if_neg fun h => hv34 h.1, if_neg hv34, if_pos hheaded, aesDecrypt_partial _ hlength]

end Decoding

/-! ### The steps of an attempt -/

section Steps

variable {C : TuyaCrypto} {d : TuyaLink} {s : Link} {a : Attempt}

theorem Link.dropped_disconnected (s : Link) : Disconnected s.dropped := ⟨rfl, rfl, rfl, rfl⟩

theorem write_usable (hs : s.writer = some .usable) (written : Except PyErr Unit) (data : Bytes) :
    write written data s = (written, { s with sent := s.sent ++ [data] }) := by
  unfold write
  rw [PyM.get_bind, if_pos hs]
  rfl

theorem disconnect_run (closed : Except PyErr Unit) (s : Link) :
    disconnect closed s = (if s.writer = none then .ok () else closed, s.dropped) := by
  unfold disconnect
  rw [PyM.get_bind, PyM.modify_bind]
  cases s.writer with
  | none => rfl
  | some w => rfl

/-- The state with the next sequence number. -/
def Link.advanced (s : Link) : Link := { s with sequence := (s.sequence + 1) % 2 ^ 32 }

theorem nextSequence_run (s : Link) : nextSequence s = (.ok s.advanced.sequence, s.advanced) := rfl

/-- A negotiation leaves the writer, and the session key it ends with. -/
theorem negotiateSession_run (n : Negotiation) (hs : s.writer = some .usable) :
    ∃ t, negotiateSession C d n s = ((negotiated C d n).map fun _ => (), t) ∧
      t.writer = some .usable ∧ t.tried = s.tried ∧
      ∀ k, negotiated C d n = .ok k → t.sessionKey = some k := by
  unfold negotiateSession
  rw [PyM.bind_ok (nextSequence_run s)]
  have hfirst := fun data => write_usable (s := s.advanced) hs n.start data
  cases hstart : n.start with
  | error e =>
    have hres : negotiated C d n = .error e := by unfold negotiated; rw [hstart]; rfl
    rw [hstart] at hfirst
    rw [PyM.bind_error (hfirst _), hres]
    exact ⟨_, rfl, hs, rfl, nofun⟩
  | ok _ =>
    rw [hstart] at hfirst
    rw [PyM.bind_ok (hfirst _)]
    cases hresponse : n.response with
    | error e =>
      have hres : negotiated C d n = .error e := by unfold negotiated; rw [hstart, hresponse]; rfl
      rw [PyM.outcome_error_bind, hres]
      exact ⟨_, rfl, hs, rfl, nofun⟩
    | ok response =>
      rw [PyM.outcome_ok_bind]
      cases hremote : verifiedResponse C d response with
      | error e =>
        have hres : negotiated C d n = .error e := by
          unfold negotiated
          rw [hstart, hresponse]
          show (verifiedResponse C d response >>= fun remote => n.finish >>= fun _ =>
            Except.ok (sessionKeyOf C d remote)) = _
          rw [hremote]
          rfl
        rw [PyM.outcome_error_bind, hres]
        exact ⟨_, rfl, hs, rfl, nofun⟩
      | ok remote =>
        have hres : negotiated C d n = n.finish >>= fun _ => .ok (sessionKeyOf C d remote) := by
          unfold negotiated
          rw [hstart, hresponse]
          show (verifiedResponse C d response >>= fun remote => n.finish >>= fun _ =>
            Except.ok (sessionKeyOf C d remote)) = _
          rw [hremote]
          rfl
        rw [PyM.outcome_ok_bind, PyM.bind_ok (nextSequence_run _), hres]
        generalize hu : Link.advanced _ = u
        have husable : u.writer = some .usable := by rw [← hu]; exact hs
        have htried : u.tried = s.tried := by rw [← hu]; rfl
        have hlast := fun data => write_usable husable n.finish data
        cases hfinish : n.finish with
        | error e =>
          rw [hfinish] at hlast
          rw [PyM.bind_error (hlast _)]
          exact ⟨_, rfl, husable, htried, nofun⟩
        | ok _ =>
          rw [hfinish] at hlast
          rw [PyM.bind_ok (hlast _)]
          refine ⟨_, rfl, husable, htried, ?_⟩
          rintro k ⟨⟩
          rfl

/-- From a link without an open connection `connect` opens one, or fails with the writer it found or
with none. -/
theorem connect_new (hs : s.writer ≠ some .usable) :
    ∃ t, connect C d a s = ((established C d a).map fun _ => (), t) ∧ t.tried = s.tried ∧
      (∀ k, established C d a = .ok k → t.writer = some .usable ∧ t.sessionKey = k) ∧
      ∀ e, established C d a = .error e →
        if a.opened = .ok () then t.writer = none else t.writer = s.writer := by
  unfold connect
  rw [PyM.get_bind, if_neg hs]
  cases hopened : a.opened with
  | error e =>
    have hres : established C d a = .error e := by unfold established; rw [hopened]; rfl
    rw [PyM.outcome_error_bind, hres]
    exact ⟨_, rfl, rfl, nofun, fun e _ => by rw [if_neg nofun]⟩
  | ok _ =>
    rw [PyM.outcome_ok_bind, PyM.modify_bind]
    by_cases hversion : d.protocolVersion = .v34
    · obtain ⟨t, hrun, hwriter, htried, hkey⟩ := negotiateSession_run (C := C) (d := d)
        (s := { s with writer := some .usable, reader := true, sessionKey := none }) a.negotiation rfl
      have hres : established C d a = match negotiated C d a.negotiation with
          | .ok k => .ok (some k)
          | .error e => a.abandoned >>= fun _ => .error e := by
        unfold established
        rw [hopened]
        exact if_pos hversion
      cases hnegotiated : negotiated C d a.negotiation with
      | ok k =>
        rw [hnegotiated] at hrun hres
        rw [hres, if_pos hversion, PyM.tryExcept_ok (by rw [PyM.bind_ok hrun]; rfl)]
        refine ⟨_, rfl, htried, ?_, nofun⟩
        rintro k' ⟨⟩
        exact ⟨hwriter, hkey k hnegotiated⟩
      | error e =>
        rw [hnegotiated] at hrun hres
        have hclose : disconnect a.abandoned t = (a.abandoned, t.dropped) := by
          rw [disconnect_run, if_neg (by rw [hwriter]; exact nofun)]
        rw [hres, if_pos hversion, PyM.tryExcept_error (PyM.bind_error hrun)]
        cases habandoned : a.abandoned with
        | ok _ =>
          rw [habandoned] at hclose
          rw [PyM.bind_ok hclose]
          exact ⟨_, rfl, htried, nofun, fun _ _ => by rw [if_pos rfl]; rfl⟩
        | error e' =>
          rw [habandoned] at hclose
          rw [PyM.bind_error hclose]
          exact ⟨_, rfl, htried, nofun, fun _ _ => by rw [if_pos rfl]; rfl⟩
    · have hres : established C d a = .ok none := by
        unfold established
        rw [hopened]
        exact if_neg hversion
      rw [if_neg hversion, hres]
      refine ⟨_, rfl, rfl, ?_, nofun⟩
      rintro k ⟨⟩
      exact ⟨rfl, rfl⟩

theorem hold_usable (hs : s.writer = some .usable) : s.hold = .connection s.sessionKey := by
  unfold Link.hold
  rw [hs]

theorem connected_new (hs : s.writer ≠ some .usable) :
    connected C d s.hold a = established C d a := by
  unfold Link.hold
  cases hwriter : s.writer with
  | none => rfl
  | some w =>
    cases w with
    | usable => exact absurd hwriter hs
    | closing => rfl

theorem connect_ok {k : Option Bytes} (h : connected C d s.hold a = .ok k) :
    ∃ t, connect C d a s = (.ok (), t) ∧ t.writer = some .usable ∧ t.sessionKey = k ∧
      t.tried = s.tried := by
  by_cases hs : s.writer = some .usable
  · rw [hold_usable hs] at h
    cases h
    unfold connect
    rw [PyM.get_bind, if_pos hs]
    exact ⟨s, rfl, hs, rfl, rfl⟩
  · rw [connected_new hs] at h
    obtain ⟨t, hrun, htried, hkey, -⟩ := connect_new (C := C) (d := d) (a := a) hs
    rw [h] at hrun
    obtain ⟨hwriter, hsession⟩ := hkey k h
    exact ⟨t, hrun, hwriter, hsession, htried⟩

theorem connect_error {e : PyErr} (h : connected C d s.hold a = .error e) :
    ∃ t, connect C d a s = (.error e, t) ∧ t.tried = s.tried ∧
      (t.writer = none ↔ ¬ HoldsWriter C d s.hold a) := by
  have hs : s.writer ≠ some .usable := by
    intro hs
    rw [hold_usable hs] at h
    cases h
  have hholds : HoldsWriter C d s.hold a ↔ s.hold = .closing ∧ a.opened ≠ .ok () := by
    unfold HoldsWriter
    rw [h]
    simp
  have hclosing : s.hold = .closing ↔ s.writer ≠ none := by
    unfold Link.hold
    cases hwriter : s.writer with
    | none => simp
    | some w =>
      cases w with
      | usable => exact absurd hwriter hs
      | closing => simp
  rw [connected_new hs] at h
  obtain ⟨t, hrun, htried, -, hwriter⟩ := connect_new (C := C) (d := d) (a := a) hs
  rw [h] at hrun
  refine ⟨t, hrun, htried, ?_⟩
  have hleft := hwriter e h
  rw [hholds, hclosing]
  by_cases hopened : a.opened = .ok ()
  · rw [if_pos hopened] at hleft
    simp [hleft, hopened]
  · rw [if_neg hopened] at hleft
    simp [hleft, hopened]

/-- A request keeps the writer, whatever it meets. -/
theorem request_run (floatRepr : ℚ → List Char) (command : Nat) (body : Json) (sequence : Nat)
    (hs : s.writer = some .usable) :
    ∃ t, request C floatRepr d a command body sequence s = (answered C d s.sessionKey a, t) ∧
      t.writer = some .usable ∧ t.tried = s.tried := by
  unfold request answered
  rw [PyM.modify_bind, PyM.get_bind]
  have hwrite := fun data => write_usable
    (s := { s with pending := s.pending.set sequence () }) hs a.written data
  cases hwritten : a.written with
  | error e =>
    rw [hwritten] at hwrite
    rw [PyM.bind_error (hwrite _)]
    exact ⟨_, rfl, hs, rfl⟩
  | ok _ =>
    rw [hwritten] at hwrite
    rw [PyM.bind_ok (hwrite _)]
    cases hreply : a.reply with
    | error e => exact ⟨_, rfl, hs, rfl⟩
    | ok r =>
      rw [PyM.outcome_ok_bind, PyM.modify_bind, PyM.get_bind]
      have hdecode : decodePayload C ⟨sequence, r.1, r.2⟩ d.protocolVersion (keyBytes d) s.sessionKey =
          decodePayload C ⟨0, r.1, r.2⟩ d.protocolVersion (keyBytes d) s.sessionKey := rfl
      show ∃ t, (PyM.outcome (decodePayload C ⟨sequence, r.1, r.2⟩ d.protocolVersion (keyBytes d)
        s.sessionKey) >>= fun decoded => pure (withoutRetcode decoded)) _ =
          (decodePayload C ⟨0, r.1, r.2⟩ d.protocolVersion (keyBytes d) s.sessionKey >>=
            fun decoded => Except.ok (withoutRetcode decoded), t) ∧ _
      rw [hdecode]
      cases decodePayload C ⟨0, r.1, r.2⟩ d.protocolVersion (keyBytes d) s.sessionKey with
      | error e => exact ⟨_, rfl, hs, rfl⟩
      | ok decoded => exact ⟨_, rfl, hs, rfl⟩

theorem recover_listed (sequence : Option Nat) {e : PyErr} (he : IsListed e) :
    ∃ t, recover a sequence e s =
        ((if s.writer = none then .ok () else a.closed) >>= fun _ => .ok (.error e), t) ∧
      Disconnected t ∧ t.tried = s.tried := by
  have hlisted : e.isAny exchangeErrors = true := he
  unfold recover
  rw [if_pos hlisted, PyM.modify_bind]
  have hclose : ∀ u : Link, u.writer = s.writer → (disconnect a.closed >>= fun _ =>
      (pure (.error e) : PyM Link (Except PyErr Bytes))) u =
        ((if s.writer = none then .ok () else a.closed) >>= fun _ => .ok (.error e), u.dropped) := by
    intro u hu
    rw [PyM.bind_apply, disconnect_run, hu]
    cases (if s.writer = none then .ok () else a.closed : Except PyErr Unit) with
    | ok _ => rfl
    | error e' => rfl
  cases sequence with
  | none => exact ⟨_, hclose _ rfl, Link.dropped_disconnected _, rfl⟩
  | some n => exact ⟨_, hclose _ rfl, Link.dropped_disconnected _, rfl⟩

theorem recover_unlisted (sequence : Option Nat) {e : PyErr} (he : ¬ IsListed e) :
    recover a sequence e s = (.error e, s) := by
  have hunlisted : ¬ e.isAny exchangeErrors = true := he
  unfold recover
  rw [if_neg hunlisted]
  rfl

/-- Nothing follows the `except` clause in an attempt. -/
theorem recover_bind (sequence : Option Nat) (e : PyErr) (m : PyM Link (Except PyErr Bytes)) :
    (recover a sequence e >>= fun r => match r with
      | .error e => pure (.error e)
      | .ok _ => m) s = recover a sequence e s := by
  rw [PyM.bind_apply]
  by_cases he : IsListed e
  · obtain ⟨t, hrun, -⟩ := recover_listed (s := s) (a := a) sequence he
    rw [hrun]
    cases (if s.writer = none then .ok () else a.closed : Except PyErr Unit) with
    | ok _ => rfl
    | error e' => rfl
  · rw [recover_unlisted sequence he]

/-- With a connection, what is left of an attempt is its request. -/
theorem attempt_connected (floatRepr : ℚ → List Char) (command : Nat) (body : Json) {t : Link}
    (h : connect C d a { s with tried := s.tried + 1 } = (.ok (), t)) :
    attempt C floatRepr d a command body s =
      PyM.tryExcept (Except.ok <$> request C floatRepr d a command body t.advanced.sequence)
        (recover a (some t.advanced.sequence)) t.advanced := by
  unfold attempt
  rw [PyM.modify_bind, PyM.bind_ok (PyM.tryExcept_ok (by rw [PyM.bind_ok h]; rfl))]
  rfl

theorem attempt_ok (floatRepr : ℚ → List Char) (command : Nat) (body : Json) {payload : Bytes}
    (h : outcomeOf C d s.hold a = .ok payload) :
    ∃ t, attempt C floatRepr d a command body s = (.ok (.ok payload), t) := by
  obtain ⟨k, hk, hanswer⟩ := bind_eq_ok h
  obtain ⟨t, hrun, hwriter, hkey, -⟩ := connect_ok (s := { s with tried := s.tried + 1 }) hk
  obtain ⟨u, hrequest, -⟩ := request_run (C := C) (d := d) (a := a) (s := t.advanced)
    floatRepr command body t.advanced.sequence hwriter
  have hkey' : t.advanced.sessionKey = k := hkey
  rw [hkey', hanswer] at hrequest
  refine ⟨u, ?_⟩
  rw [attempt_connected floatRepr command body hrun]
  refine PyM.tryExcept_ok ?_
  rw [PyM.map_apply, hrequest]
  rfl

/-- A failed attempt ends in its `except` clause. -/
theorem attempt_error (floatRepr : ℚ → List Char) (command : Nat) (body : Json) {e : PyErr}
    (h : outcomeOf C d s.hold a = .error e) :
    ∃ sequence u, attempt C floatRepr d a command body s = recover a sequence e u ∧
      u.tried = s.tried + 1 ∧ (u.writer = none ↔ ¬ HoldsWriter C d s.hold a) := by
  cases hk : connected C d s.hold a with
  | error e' =>
    have he : e' = e := by
      unfold outcomeOf at h
      rw [hk] at h
      cases h
      rfl
    obtain ⟨t, hrun, htried, hwriter⟩ := connect_error (s := { s with tried := s.tried + 1 }) hk
    rw [he] at hrun
    refine ⟨none, t, ?_, htried, hwriter⟩
    unfold attempt
    rw [PyM.modify_bind, ← recover_bind none e, PyM.bind_apply, PyM.bind_apply,
      PyM.tryExcept_error (PyM.bind_error hrun)]
  | ok k =>
    obtain ⟨t, hrun, hwriter, hkey, htried⟩ := connect_ok (s := { s with tried := s.tried + 1 }) hk
    obtain ⟨u, hrequest, husable, hsame⟩ := request_run (C := C) (d := d) (a := a)
      (s := t.advanced) floatRepr command body t.advanced.sequence hwriter
    have hanswer : answered C d t.advanced.sessionKey a = .error e := by
      have hkey' : t.advanced.sessionKey = k := hkey
      unfold outcomeOf at h
      rw [hk] at h
      rw [hkey']
      exact h
    rw [hanswer] at hrequest
    have hholds : HoldsWriter C d s.hold a := Or.inr ⟨k, hk⟩
    refine ⟨some t.advanced.sequence, u, ?_, ?_, ?_⟩
    · rw [attempt_connected floatRepr command body hrun]
      refine PyM.tryExcept_error ?_
      rw [PyM.map_apply, hrequest]
      rfl
    · rw [hsame]
      exact htried
    · rw [husable]
      simp [hholds]

end Steps

/-! ### What an attempt raises -/

section Outcomes

variable {C : TuyaCrypto} {d : TuyaLink} {h : Hold} {a : Attempt}

theorem verifiedResponse_whole {response : Bytes} (hwhole : response.length % 16 = 0) :
    Raises IsListed (verifiedResponse C d response) := by
  unfold verifiedResponse
  refine raises_bind (aesDecrypt_whole _ hwhole) ?_
  intro remote _
  split
  · exact raises_error (isListed_protocol _)
  · exact raises_ok _

theorem verifiedResponse_partial {response : Bytes} (hlength : response.length % 16 ≠ 0) :
    ∃ text, verifiedResponse C d response = .error (valueError text) := by
  unfold verifiedResponse
  rw [ aesDecrypt_partial _ hlength]
  exact ⟨_, rfl⟩

theorem negotiated_whole {n : Negotiation} (hwhole : ∀ payload, n.start = .ok () →
    n.response = .ok payload → payload.length % 16 = 0) : Raises IsListed (negotiated C d n) := by
  unfold negotiated
  refine raises_bind (n.start_ok.mono fun _ he => he.listed) ?_
  intro _ hstart
  refine raises_bind n.response_ok ?_
  intro response hresponse
  refine raises_bind (verifiedResponse_whole (hwhole response hstart hresponse)) ?_
  intro remote _
  refine raises_bind (n.finish_ok.mono fun _ he => he.listed) ?_
  intro _ _
  exact raises_ok _

theorem connected_of_new (hnew : ∀ k, h ≠ .connection k) :
    connected C d h a = established C d a := by
  cases h with
  | nothing => rfl
  | closing => rfl
  | connection k => exact absurd rfl (hnew k)

theorem established_listed (hnew : ∀ k, h ≠ .connection k) (hblock : ¬ PartialBlock C d h a) :
    Raises IsListed (established C d a) := by
  unfold established
  refine raises_bind (a.opened_ok.mono fun _ he => he.listed) ?_
  intro _ hopened
  split
  · next hversion =>
    cases habandoned : a.abandoned with
    | error e' =>
      have he' : IsListed e' := (a.abandoned_ok e' habandoned).listed
      split
      · exact raises_ok _
      · exact raises_error he'
    | ok _ =>
      have hraises := negotiated_whole (C := C) (d := d) (n := a.negotiation) (by
        intro payload hstart hresponse
        by_contra hlength
        exact hblock
          (.response hnew hversion hopened hstart payload hresponse hlength habandoned))
      split
      · exact raises_ok _
      · next e he => exact raises_error (hraises e he)
  · exact raises_ok _

/-- Without a partial block an attempt fails only with what its `except` clause lists. -/
theorem outcomeOf_listed (hblock : ¬ PartialBlock C d h a) :
    Raises IsListed (outcomeOf C d h a) := by
  have hconnected : Raises IsListed (connected C d h a) := by
    cases h with
    | connection k => exact raises_ok _
    | nothing => exact established_listed (fun k => Hold.noConfusion) hblock
    | closing => exact established_listed (fun k => Hold.noConfusion) hblock
  unfold outcomeOf
  refine raises_bind hconnected ?_
  intro k hk
  unfold answered
  refine raises_bind (a.written_ok.mono fun _ he => he.listed) ?_
  intro _ hwritten
  refine raises_bind (a.reply_ok.mono fun _ he => he.listed) ?_
  rintro ⟨command, payload⟩ hreply
  refine raises_bind (decodePayload_whole _ k ?_) ?_
  · intro hlength
    exact hblock (.reply k hk hwritten command payload hreply hlength)
  · intro decoded _
    exact raises_ok _

/-- A partial block is the library's `ValueError`. -/
theorem outcomeOf_partial (hblock : PartialBlock C d h a) :
    ∃ text, outcomeOf C d h a = .error (valueError text) := by
  unfold outcomeOf
  cases hblock with
  | response hnew hversion hopened hstart payload hresponse hlength habandoned =>
    obtain ⟨text, hremote⟩ := verifiedResponse_partial (C := C) (d := d) hlength
    have hnegotiated : negotiated C d a.negotiation = .error (valueError text) := by
      unfold negotiated
      rw [hstart, hresponse]
      show (verifiedResponse C d payload >>= fun remote => a.negotiation.finish >>= fun _ =>
        Except.ok (sessionKeyOf C d remote)) = _
      rw [hremote]
      rfl
    have hestablished : established C d a = .error (valueError text) := by
      unfold established
      rw [hopened, if_pos hversion, hnegotiated, habandoned]
      rfl
    rw [connected_of_new hnew, hestablished]
    exact ⟨text, rfl⟩
  | reply k hconnected hwritten command payload hreply hlength =>
    obtain ⟨text, hdecode⟩ := decodePayload_partial (C := C)
      (f := ⟨0, command, payload⟩) (keyBytes d) k hlength
    rw [hconnected]
    unfold answered
    show ∃ text, (a.written >>= fun _ => a.reply >>= fun reply =>
      decodePayload C ⟨0, reply.1, reply.2⟩ d.protocolVersion (keyBytes d) k >>= fun decoded =>
        Except.ok (withoutRetcode decoded)) = .error (valueError text)
    rw [hwritten, hreply]
    show ∃ text, (decodePayload C ⟨0, command, payload⟩ d.protocolVersion (keyBytes d) k >>=
      fun decoded => Except.ok (withoutRetcode decoded)) = .error (valueError text)
    rw [hdecode]
    exact ⟨text, rfl⟩

end Outcomes

/-! ### The loop -/

section Loop

variable {C : TuyaCrypto} {floatRepr : ℚ → List Char} {d : TuyaLink} {command : Nat} {body : Json}
  {s t : Link} {a : Attempt} {rest : List Attempt} {last : String} {e e' : PyErr}

theorem exchangeLoop_answered {payload : Bytes}
    (h : attempt C floatRepr d a command body s = (.ok (.ok payload), t)) :
    exchangeLoop C floatRepr d command body last (a :: rest) s = (.ok payload, t) := by
  rw [exchangeLoop, PyM.bind_ok h]
  rfl

theorem exchangeLoop_again (h : attempt C floatRepr d a command body s = (.ok (.error e), t)) :
    exchangeLoop C floatRepr d command body last (a :: rest) s =
      exchangeLoop C floatRepr d command body e.text rest t := by
  rw [exchangeLoop, PyM.bind_ok h]

theorem exchangeLoop_aborted (h : attempt C floatRepr d a command body s = (.error e, t)) :
    exchangeLoop C floatRepr d command body last (a :: rest) s = (.error e, t) := by
  rw [exchangeLoop, PyM.bind_error h]

theorem Disconnected.hold (h : Disconnected s) : s.hold = .nothing := by
  unfold Link.hold
  rw [h.writer]

theorem firstReply_failed {h : Hold} (ha : outcomeOf C d h a = .error e) :
    firstReply C d h (a :: rest) = firstReply C d .nothing rest := by
  rw [firstReply, ha]

theorem meets_failed (ha : outcomeOf C d s.hold a = .error e) (ht : t.hold = .nothing)
    (htried : t.tried = s.tried + 1) (result : Except PyErr Bytes × Link) :
    Meets C d s (a :: rest) result ↔ Meets C d t rest result := by
  have hlen : s.tried + (a :: rest).length = t.tried + rest.length := by
    rw [List.length_cons, htried]
    omega
  unfold Meets
  rw [firstReply_failed ha, ht, hlen]

theorem undisturbed_failed {h : Hold} (ha : outcomeOf C d h a = .error e) :
    Undisturbed C d h (a :: rest) ↔ ¬ PartialBlock C d h a ∧ (rest ≠ [] → ¬ Interrupted C d h a) ∧
      Undisturbed C d .nothing rest := by
  rw [Undisturbed, ha]
  simp

/-- An exchange that raises meets its promise only with a `ConnectionError` after its last attempt. -/
theorem Meets.of_error {script : List Attempt} (h : Meets C d s script (.error e, t)) :
    IsConnectionError e ∧ t.tried = s.tried + script.length := by
  unfold Meets at h
  cases hreply : firstReply C d s.hold script with
  | some payload =>
    rw [hreply] at h
    cases h
  | none =>
    rw [hreply] at h
    obtain ⟨⟨e', he', hconnection⟩, htried, -⟩ := h
    cases he'
    exact ⟨hconnection, htried⟩

/-- The `ValueError` of the library passes the `except` clause. -/
theorem attempt_partial (floatRepr : ℚ → List Char) (command : Nat) (body : Json)
    (hblock : PartialBlock C d s.hold a) :
    ∃ text u, attempt C floatRepr d a command body s = (.error (valueError text), u) := by
  obtain ⟨text, ha⟩ := outcomeOf_partial hblock
  obtain ⟨sequence, u, hrun, -, -⟩ := attempt_error floatRepr command body ha
  rw [recover_unlisted sequence (valueError_unlisted text).1] at hrun
  exact ⟨text, u, hrun⟩

/-- Any other failure is recovered from, as far as closing the connection goes. -/
theorem attempt_recovers (floatRepr : ℚ → List Char) (command : Nat) (body : Json)
    (ha : outcomeOf C d s.hold a = .error e) (hblock : ¬ PartialBlock C d s.hold a) :
    ∃ closed t, attempt C floatRepr d a command body s =
        (closed >>= fun _ => .ok (.error e), t) ∧
      Disconnected t ∧ t.tried = s.tried + 1 ∧
      (Interrupted C d s.hold a → closed = a.closed) ∧
      (¬ Interrupted C d s.hold a → closed = .ok ()) := by
  obtain ⟨sequence, u, hrun, htried, hwriter⟩ := attempt_error floatRepr command body ha
  obtain ⟨t, hrecover, hdisconnected, hsame⟩ := recover_listed (s := u) (a := a) sequence
    (outcomeOf_listed hblock e ha)
  refine ⟨_, t, hrun.trans hrecover, hdisconnected, hsame.trans htried, ?_, ?_⟩
  · intro hinterrupted
    exact if_neg fun hu => hwriter.1 hu hinterrupted.1
  · intro hinterrupted
    split
    · rfl
    · next hu =>
      by_contra hclosed
      refine hinterrupted ⟨?_, hclosed⟩
      by_contra hholds
      exact hu (hwriter.2 hholds)

/-- A loop that ends in an attempt with a connection error has met its promise exactly when that
attempt was the last. -/
theorem meets_aborted_iff (ha : outcomeOf C d s.hold a = .error e) (ht : Disconnected t)
    (htried : t.tried = s.tried + 1) (he : IsConnectionError e') :
    Meets C d s (a :: rest) (.error e', t) ↔ rest = [] := by
  constructor
  · intro hmeets
    have hlast := hmeets.of_error.2
    rw [htried, List.length_cons] at hlast
    apply List.eq_nil_of_length_eq_zero
    omega
  · rintro rfl
    rw [meets_failed ha ht.hold htried]
    exact ⟨⟨e', rfl, he⟩, rfl, ht⟩

theorem exchangeLoop_meets_iff (script : List Attempt) : ∀ (s : Link) (last : String),
    (script = [] → Disconnected s) →
    (Meets C d s script (exchangeLoop C floatRepr d command body last script s) ↔
      Undisturbed C d s.hold script) := by
  induction script with
  | nil =>
    intro s last hs
    have hmeets : Meets C d s [] (exchangeLoop C floatRepr d command body last [] s) :=
      ⟨⟨_, rfl, isA_self _ _⟩, rfl, hs rfl⟩
    exact iff_of_true hmeets trivial
  | cons a rest ih =>
    intro s last _
    cases ha : outcomeOf C d s.hold a with
    | ok payload =>
      obtain ⟨t, hrun⟩ := attempt_ok floatRepr command body ha
      rw [exchangeLoop_answered hrun]
      apply iff_of_true
      · unfold Meets
        rw [firstReply, ha]
      · exact Or.inl ⟨payload, ha⟩
    | error e =>
      rw [undisturbed_failed ha]
      by_cases hblock : PartialBlock C d s.hold a
      · obtain ⟨text, u, hrun⟩ := attempt_partial floatRepr command body hblock
        rw [exchangeLoop_aborted hrun]
        apply iff_of_false
        · intro hmeets
          exact (valueError_unlisted text).2 hmeets.of_error.1
        · intro hundisturbed
          exact hundisturbed.1 hblock
      · obtain ⟨closed, t, hrun, hdisconnected, htried, hreset, hclosed⟩ :=
          attempt_recovers floatRepr command body ha hblock
        by_cases hinterrupted : Interrupted C d s.hold a
        · -- `disconnect` raises in the `except` clause, and the loop ends here
          rw [hreset hinterrupted] at hrun
          cases hfails : a.closed with
          | ok _ => exact absurd hfails hinterrupted.2
          | error e' =>
            rw [hfails] at hrun
            rw [exchangeLoop_aborted hrun,
              meets_aborted_iff ha hdisconnected htried (a.closed_ok e' hfails)]
            constructor
            · rintro rfl
              exact ⟨hblock, fun h => absurd rfl h, trivial⟩
            · intro hundisturbed
              by_contra hrest
              exact hundisturbed.2.1 hrest hinterrupted
        · rw [hclosed hinterrupted] at hrun
          rw [exchangeLoop_again hrun, meets_failed ha hdisconnected.hold htried,
            ih t e.text fun _ => hdisconnected, hdisconnected.hold]
          simp [hblock, hinterrupted]

end Loop

/-! ## Main result -/

theorem attempts_length (d : TuyaLink) (script : Nat → Attempt) :
    (attempts d script).length = d.retries + 1 := by
  unfold attempts
  rw [List.length_map, List.length_range]

/-- An exchange gives the first decodable reply, or ends disconnected with a `ConnectionError` after
`retries + 1` attempts, exactly when no attempt up to then is disturbed. -/
theorem exchange_meets_iff (C : TuyaCrypto) (floatRepr : ℚ → List Char) (d : TuyaLink)
    (script : Nat → Attempt) (command : Nat) (body : Json) (s : Link) :
    Meets C d s (attempts d script) (exchange C floatRepr d script command body s) ↔
      Undisturbed C d s.hold (attempts d script) := by
  unfold exchange
  apply exchangeLoop_meets_iff
  intro hempty
  have hlen := attempts_length d script
  rw [hempty] at hlen
  cases hlen

/-- A driver that has not connected yet. -/
def idle : Link := ⟨none, false, false, none, Dict.empty, 0, none, 0, []⟩

/-- Connects, writes, and reads a reply with this payload. -/
def replying (payload : Bytes) : Attempt where
  opened := .ok ()
  negotiation := ⟨.ok (), .ok [], .ok (), nofun, nofun, nofun⟩
  abandoned := .ok ()
  written := .ok ()
  reply := .ok (commandDpQuery, payload)
  closed := .ok ()
  opened_ok := nofun
  abandoned_ok := nofun
  written_ok := nofun
  reply_ok := nofun
  closed_ok := nofun

/-- Connects and writes; no reply comes, and the peer resets the connection as it is closed. -/
def resetting : Attempt :=
  { replying [] with
    reply := .error ⟨.TimeoutError, ""⟩
    closed := .error ⟨.ConnectionResetError, "Connection reset by peer"⟩
    reply_ok := raises_error (by unfold IsTransportError; decide)
    closed_ok := raises_error (by unfold IsConnectionError; decide) }

/-- The attempt, and then one that reads the lamp's state. -/
def beforeReply (a : Attempt) : Nat → Attempt
  | 0 => a
  | _ => replying (aesEncrypt .plain offReply (keyBytes lampLink))

theorem not_meets_of_error {C : TuyaCrypto} {d : TuyaLink} {s : Link} {script : List Attempt}
    {result : Except PyErr Bytes × Link} {payload : Bytes} {e : PyErr}
    (hreply : firstReply C d s.hold script = some payload) (hresult : result.1 = .error e) :
    ¬ Meets C d s script result := by
  intro h
  unfold Meets at h
  rw [hreply, hresult] at h
  cases h

/-- A reply that is a return code alone, and a reset connection, both end the exchange although the
next attempt would have been answered. -/
theorem exchange_gives_up :
    ¬ Meets .plain lampLink idle (attempts lampLink (beforeReply (replying [0, 0, 0, 0])))
        (exchange .plain (fun _ => []) lampLink (beforeReply (replying [0, 0, 0, 0]))
          commandDpQuery .null idle) ∧
      ¬ Meets .plain lampLink idle (attempts lampLink (beforeReply resetting))
        (exchange .plain (fun _ => []) lampLink (beforeReply resetting) commandDpQuery .null idle) := by
  constructor
  · have hreply : firstReply .plain lampLink idle.hold
        (attempts lampLink (beforeReply (replying [0, 0, 0, 0]))) = some offReply := by decide +kernel
    exact not_meets_of_error hreply rfl
  · have hreply : firstReply .plain lampLink idle.hold
        (attempts lampLink (beforeReply resetting)) = some offReply := by decide +kernel
    exact not_meets_of_error hreply rfl

end Linker.Exchange
