import OpenHdoLinker.Tuya.Exchange
import OpenHdoLinker.Tuya.ReaderLoop

/-!
# The 3.4 session on the wire

`_negotiate_session` on the byte stream of its connection: it skips frames up to the
response and derives the session key from what the response proves.  Opposite is a device
that holds the same local key (`Peer`).

    the negotiation succeeds ↔ the first response frame of the stream decrypts to a nonce and
    the HMAC of the driver's nonce                                        (negotiate_ok_iff)
    both ends hold one session key, and under it a request is read by the device and its
    reply by the driver                                                   (session_agrees)
-/

namespace Linker.Handshake

open Py

/-! ## Algorithm -/

section Reader

variable (C : TuyaCrypto)

/-- `_read_frame_until(command)`, on a stream. -/
def readFrameUntil (key : Bytes) (command : Nat) (r : StreamReader) :
    Except PyErr TuyaFrame × StreamReader :=
  match _h : readFrame C .v34 key r with
  | (.error e, r') => (.error e, r')
  | (.ok f, r') => if f.command = command then (.ok f, r') else readFrameUntil key command r'
termination_by r.pending.length
decreasing_by exact nextFrame_shorter C .v34 key (readFrame_ok C .v34 key _h)

end Reader

/-! ### Reading up to a command -/

section Reading

variable {C : TuyaCrypto} {key : Bytes} {command : Nat}

theorem isListed_of_protocol {e : PyErr} (h : IsTuyaProtocolError e) : Exchange.IsListed e := by
  unfold Exchange.IsListed PyErr.isAny
  rw [List.any_eq_true]
  exact ⟨tuyaProtocolErrorClass, by decide, h⟩

/-- The first frame with the command, or the exception that ends the stream. -/
def firstOf (command : Nat) (stream : List TuyaFrame × PyErr) : Except PyErr TuyaFrame :=
  match stream.1.find? fun f => f.command = command with
  | some f => .ok f
  | none => .error stream.2

theorem firstOf_found {f : TuyaFrame} (h : f.command = command) (fs : List TuyaFrame) (e : PyErr) :
    firstOf command (f :: fs, e) = .ok f := by
  unfold firstOf
  simp only [List.find?_cons, h, decide_true]

theorem firstOf_skipped {f : TuyaFrame} (h : f.command ≠ command) (fs : List TuyaFrame) (e : PyErr) :
    firstOf command (f :: fs, e) = firstOf command (fs, e) := by
  unfold firstOf
  simp only [List.find?_cons, h, decide_false]

theorem readFrameUntil_error {r r' : StreamReader} {e : PyErr}
    (h : readFrame C .v34 key r = (.error e, r')) :
    readFrameUntil C key command r = (.error e, r') := by
  rw [readFrameUntil]
  split
  next he =>
    rw [h] at he
    cases he
    rfl
  next hf =>
    rw [h] at hf
    cases hf

theorem readFrameUntil_ok {r r' : StreamReader} {f : TuyaFrame}
    (h : readFrame C .v34 key r = (.ok f, r')) :
    readFrameUntil C key command r =
      if f.command = command then (.ok f, r') else readFrameUntil C key command r' := by
  rw [readFrameUntil]
  split
  next he =>
    rw [h] at he
    cases he
  next hf =>
    rw [h] at hf
    cases hf
    rfl

/-- However its bytes are chunked, the first frame of the stream with the command is read. -/
theorem readFrameUntil_eq (r : StreamReader) :
    (readFrameUntil C key command r).1 = firstOf command (streamFrames C .v34 key r.pending) := by
  induction r using readFrameUntil.induct C key command with
  | case1 r e r' hread =>
    rw [readFrameUntil_error hread, streamFrames_error C _ _ (readFrame_error C _ _ hread)]
    rfl
  | case2 r f r' hread hf =>
    rw [readFrameUntil_ok hread, if_pos hf, streamFrames_ok C _ _ (readFrame_ok C _ _ hread)]
    rw [firstOf_found hf]
  | case3 r f r' hread hf ih =>
    rw [readFrameUntil_ok hread, if_neg hf, streamFrames_ok C _ _ (readFrame_ok C _ _ hread), ih,
      firstOf_skipped hf]

/-- Frames with other commands are skipped, and nothing behind the frame is read. -/
theorem readFrameUntil_bytes {before : List TuyaFrame} (hbefore : ∀ f ∈ before, f.Encodable .v34)
    (hskip : ∀ f ∈ before, f.command ≠ command) {f : TuyaFrame} (hf : f.Encodable .v34)
    (hcommand : f.command = command) {r : StreamReader} {rest : Bytes}
    (h : r.pending = before.flatMap (fun f => f.bytes C .v34 key) ++ (f.bytes C .v34 key ++ rest)) :
    ∃ r', readFrameUntil C key command r = (.ok f, r') ∧ r'.pending = rest := by
  induction before generalizing r with
  | nil =>
    obtain ⟨r', hread, hrest⟩ := readFrame_bytes hf h
    refine ⟨r', ?_, hrest⟩
    rw [readFrameUntil_ok hread, if_pos hcommand]
  | cons g before ih =>
    obtain ⟨hg, hbefore⟩ := List.forall_mem_cons.mp hbefore
    obtain ⟨hgc, hskip⟩ := List.forall_mem_cons.mp hskip
    rw [List.flatMap_cons, List.append_assoc] at h
    obtain ⟨r₁, hread, hrest⟩ := readFrame_bytes hg h
    obtain ⟨r', hr', hrest'⟩ := ih hbefore hskip hrest
    refine ⟨r', ?_, hrest'⟩
    rw [readFrameUntil_ok hread, if_neg hgc, hr']

variable (C) in
theorem readFrameUntil_raises (key : Bytes) (command : Nat) (r : StreamReader) :
    Raises Exchange.IsListed (readFrameUntil C key command r).1 := by
  intro e he
  rw [readFrameUntil_eq] at he
  unfold firstOf at he
  split at he
  · cases he
  · cases he
    rcases streamFrames_last C .v34 key r.pending with ⟨n, got, hend⟩ | hend
    · rw [hend]
      exact rfl
    · exact isListed_of_protocol hend

end Reading

/-! ### The negotiation -/

section Negotiation

variable (C : TuyaCrypto)

/-- What `_negotiate_session` meets on a connection whose writes succeed. -/
def negotiationOf (key : Bytes) (r : StreamReader) : Exchange.Negotiation where
  start := .ok ()
  response := TuyaFrame.payload <$> (readFrameUntil C key commandSessionResponse r).1
  finish := .ok ()
  start_ok := raises_ok _
  response_ok := raises_map _ (readFrameUntil_raises C key commandSessionResponse r)
  finish_ok := raises_ok _

/-- `_negotiate_session()` on a connection. -/
def negotiate (d : TuyaLink) (r : StreamReader) : PyM Exchange.Link Unit :=
  Exchange.negotiateSession C d (negotiationOf C (Exchange.keyBytes d) r)

/-! ### The device -/

/-- A device with its local key and the nonce it draws for a session. -/
structure Peer where
  key : Bytes
  nonce : Bytes
  nonce_length : nonce.length = 16

namespace Peer

variable (p : Peer)

/-- The payload that proves the device knows the key. -/
def response (start : TuyaFrame) : Except PyErr Bytes := do
  let nonce ← aesDecrypt C start.payload p.key
  .ok (aesEncrypt C (p.nonce ++ C.hmacSha256 p.key nonce) p.key)

/-- The proof of the driver, as the device checks it. -/
def Accepts (finish : TuyaFrame) : Prop :=
  finish.command = commandSessionFinish ∧
    aesDecrypt C finish.payload p.key = .ok (C.hmacSha256 p.key p.nonce)

/-- The session key the device derives. -/
def sessionKey (start : TuyaFrame) : Except PyErr Bytes := do
  let nonce ← aesDecrypt C start.payload p.key
  .ok (C.ecbEncrypt p.key (List.zipWith (· ^^^ ·) nonce p.nonce))

end Peer

/-- Whoever has the key reads the frame off its bytes. -/
def Legible (integrityKey : Bytes) (f : TuyaFrame) : Prop :=
  parseFrame C (f.bytes C .v34 integrityKey) .v34 integrityKey = .ok f

/-- What the device answers to a request under the session key. -/
def replyUnder (sessionKey : Bytes) (command : Nat) (text : Bytes) : Nat × Bytes :=
  (command, aesEncrypt C (ProtocolVersion.v34.header ++ text) sessionKey)

end Negotiation

/-! ## Statement -/

/-- The response proves that its sender knows the key: it decrypts to a nonce and the HMAC of the
driver's nonce. -/
def Proves (C : TuyaCrypto) (key : Bytes) (f : TuyaFrame) (nonce : Bytes) : Prop :=
  nonce.length = 16 ∧ ∃ more,
    aesDecrypt C f.payload key = .ok (nonce ++ C.hmacSha256 key Exchange.localNonce ++ more)

/-! ## Lemmas -/

theorem length_localNonce : Exchange.localNonce.length = 16 := rfl

/-- Where the tag of a response is. -/
theorem slice_response {nonce tag : Bytes} (hn : nonce.length = 16) (ht : tag.length = 32)
    (more : Bytes) : slice (nonce ++ tag ++ more) 16 48 = tag :=
  slice_append (List.append_assoc nonce tag more) hn (by rw [ht])

theorem take_slice_drop (data : Bytes) : data.take 16 ++ slice data 16 48 ++ data.drop 48 = data := by
  have htake : data.take 16 = (data.take 48).take 16 := by
    rw [List.take_take]
    rfl
  unfold slice
  rw [htake, List.take_append_drop, List.take_append_drop]

section Negotiation

variable {C : TuyaCrypto} {d : TuyaLink}

/-- The driver checks what a proof proves. -/
theorem verifiedResponse_iff {f : TuyaFrame} {remote : Bytes} :
    Exchange.verifiedResponse C d f.payload = .ok remote ↔
      aesDecrypt C f.payload (Exchange.keyBytes d) = .ok remote ∧
        Proves C (Exchange.keyBytes d) f (remote.take 16) := by
  unfold Exchange.verifiedResponse
  cases hdecrypt : aesDecrypt C f.payload (Exchange.keyBytes d) with
  | error e => exact ⟨nofun, fun h => nomatch h.1⟩
  | ok clear =>
    show (if clear.length < 48 ∨ slice clear 16 48 ≠ _ then Except.error _ else .ok clear) = _ ↔ _
    constructor
    · intro h
      split at h
      · cases h
      · next hc =>
        cases h
        obtain ⟨hlen, htag⟩ := not_or.mp hc
        refine ⟨rfl, List.length_take_of_le (by omega), remote.drop 48, ?_⟩
        rw [hdecrypt, ← not_not.mp htag, take_slice_drop]
    · rintro ⟨hclear, hn, more, hproof⟩
      cases hclear
      rw [hdecrypt] at hproof
      have hsplit := Except.ok.inj hproof
      have htag := C.length_hmacSha256 (Exchange.keyBytes d) Exchange.localNonce
      have hlen := congrArg List.length hsplit
      rw [List.length_append, List.length_append, hn, htag] at hlen
      have hslice : slice remote 16 48 =
          C.hmacSha256 (Exchange.keyBytes d) Exchange.localNonce := by
        rw [hsplit]
        exact slice_response hn htag more
      rw [if_neg (not_or.mpr ⟨by omega, not_not.mpr hslice⟩)]

/-- The session key that follows from the device's nonce. -/
def sessionKeyFor (C : TuyaCrypto) (key nonce : Bytes) : Bytes :=
  C.ecbEncrypt key (List.zipWith (· ^^^ ·) Exchange.localNonce nonce)

theorem Proves.unique {key : Bytes} {f : TuyaFrame} {a b : Bytes} (ha : Proves C key f a)
    (hb : Proves C key f b) : a = b := by
  obtain ⟨hla, more, ha⟩ := ha
  obtain ⟨hlb, more', hb⟩ := hb
  have h := Except.ok.inj (ha.symm.trans hb)
  rw [List.append_assoc, List.append_assoc] at h
  exact (List.append_inj h (by rw [hla, hlb])).1

/-- A response that proves the key is verified. -/
theorem Proves.verified {f : TuyaFrame} {nonce : Bytes}
    (h : Proves C (Exchange.keyBytes d) f nonce) :
    ∃ remote, Exchange.verifiedResponse C d f.payload = .ok remote ∧ remote.take 16 = nonce := by
  obtain ⟨hn, more, hdecrypt⟩ := h
  have htake : (nonce ++ C.hmacSha256 (Exchange.keyBytes d) Exchange.localNonce ++ more).take 16 =
      nonce := by
    rw [List.append_assoc, List.take_left' hn]
  refine ⟨_, verifiedResponse_iff.mpr ⟨hdecrypt, ?_⟩, htake⟩
  rw [htake]
  exact ⟨hn, more, hdecrypt⟩

theorem negotiated_eq (r : StreamReader) :
    Exchange.negotiated C d (negotiationOf C (Exchange.keyBytes d) r) =
      firstOf commandSessionResponse (streamFrames C .v34 (Exchange.keyBytes d) r.pending) >>=
        fun f => Exchange.verifiedResponse C d f.payload >>=
          fun remote => .ok (Exchange.sessionKeyOf C d remote) := by
  rw [← readFrameUntil_eq]
  unfold Exchange.negotiated negotiationOf
  dsimp only
  cases (readFrameUntil C (Exchange.keyBytes d) commandSessionResponse r).1 with
  | error e => rfl
  | ok f => rfl

theorem negotiated_iff {r : StreamReader} {k : Bytes} :
    Exchange.negotiated C d (negotiationOf C (Exchange.keyBytes d) r) = .ok k ↔
      ∃ f nonce, firstOf commandSessionResponse
          (streamFrames C .v34 (Exchange.keyBytes d) r.pending) = .ok f ∧
        Proves C (Exchange.keyBytes d) f nonce ∧ k = sessionKeyFor C (Exchange.keyBytes d) nonce := by
  rw [negotiated_eq]
  constructor
  · intro h
    obtain ⟨f, hf, h⟩ := bind_eq_ok h
    obtain ⟨remote, hremote, h⟩ := bind_eq_ok h
    cases h
    exact ⟨f, remote.take 16, hf, (verifiedResponse_iff.mp hremote).2, rfl⟩
  · rintro ⟨f, nonce, hf, hproves, rfl⟩
    obtain ⟨remote, hremote, rfl⟩ := hproves.verified
    rw [hf]
    show (Exchange.verifiedResponse C d f.payload >>= fun remote =>
      Except.ok (Exchange.sessionKeyOf C d remote)) = _
    rw [hremote]
    rfl

end Negotiation

/-! ## The negotiation -/

/-- **Who gets a session**: for every stream and every chunking of it, the negotiation succeeds with
a session key exactly when the first response frame of the stream, before anything that cannot be
read, decrypts under the local key to a nonce and the HMAC of the driver's nonce; the key is then
the one that follows from the two nonces. -/
theorem negotiate_ok_iff (C : TuyaCrypto) (d : TuyaLink) (r : StreamReader) (s : Exchange.Link)
    (hs : s.writer = some .usable) (k : Bytes) :
    (∃ t, negotiate C d r s = (.ok (), t) ∧ t.sessionKey = some k) ↔
      ∃ f nonce, firstOf commandSessionResponse
          (streamFrames C .v34 (Exchange.keyBytes d) r.pending) = .ok f ∧
        Proves C (Exchange.keyBytes d) f nonce ∧ k = sessionKeyFor C (Exchange.keyBytes d) nonce := by
  rw [← negotiated_iff]
  obtain ⟨t, hrun, -, -, hkey⟩ :=
    Exchange.negotiateSession_run (C := C) (d := d) (negotiationOf C (Exchange.keyBytes d) r) hs
  unfold negotiate
  rw [hrun]
  constructor
  · rintro ⟨u, hu, hk⟩
    cases hn : Exchange.negotiated C d (negotiationOf C (Exchange.keyBytes d) r) with
    | error e =>
      rw [hn] at hu
      cases hu
    | ok k' =>
      rw [hn] at hu
      cases hu
      rw [← Option.some.inj ((hkey k' hn).symm.trans hk)]
  · intro hn
    exact ⟨t, by rw [hn]; rfl, hkey k hn⟩

/-! ## The session -/

section Session

variable (C : TuyaCrypto) (floatRepr : ℚ → List Char) (d : TuyaLink) (p : Peer)

/-- The first frame of a negotiation. -/
def startFrame (s : Exchange.Link) : TuyaFrame :=
  ⟨s.advanced.sequence, commandSessionStart, aesEncrypt C Exchange.localNonce (Exchange.keyBytes d)⟩

/-- The last frame of a negotiation with a device that drew the nonce. -/
def finishFrame (nonce : Bytes) (s : Exchange.Link) : TuyaFrame :=
  ⟨s.advanced.advanced.sequence, commandSessionFinish,
    aesEncrypt C (C.hmacSha256 (Exchange.keyBytes d) nonce) (Exchange.keyBytes d)⟩

/-- A request under the session key. -/
def requestFrame (key : Bytes) (command : Nat) (body : Json) (s : Exchange.Link) : TuyaFrame :=
  ⟨s.advanced.advanced.advanced.sequence, command,
    payloadForCommand C floatRepr .v34 command body (Exchange.keyBytes d) (some key)⟩

/-- An attempt on a connection with these bytes, whose request is answered with this reply. -/
def attemptOn (r : StreamReader) (reply : Nat × Bytes) : Exchange.Attempt where
  opened := .ok ()
  negotiation := negotiationOf C (Exchange.keyBytes d) r
  abandoned := .ok ()
  written := .ok ()
  reply := .ok reply
  closed := .ok ()
  opened_ok := raises_ok _
  abandoned_ok := raises_ok _
  written_ok := raises_ok _
  reply_ok := raises_ok _
  closed_ok := raises_ok _

variable {C d} in
/-- A negotiation that is proved to: what it writes, and the key it ends with. -/
theorem negotiate_run {r : StreamReader} {f : TuyaFrame} {nonce : Bytes} {s : Exchange.Link}
    (hf : firstOf commandSessionResponse
      (streamFrames C .v34 (Exchange.keyBytes d) r.pending) = .ok f)
    (hproves : Proves C (Exchange.keyBytes d) f nonce) (hs : s.writer = some .usable) :
    negotiate C d r s = (.ok (), { s.advanced.advanced with
      sent := s.sent ++ [(startFrame C d s).bytes C .v34 (Exchange.keyBytes d),
        (finishFrame C d nonce s).bytes C .v34 (Exchange.keyBytes d)]
      sessionKey := some (sessionKeyFor C (Exchange.keyBytes d) nonce) }) := by
  obtain ⟨remote, hremote, rfl⟩ := hproves.verified
  have hresponse : (negotiationOf C (Exchange.keyBytes d) r).response = .ok f.payload := by
    unfold negotiationOf
    dsimp only
    rw [readFrameUntil_eq, hf]
    rfl
  have hwrites : (negotiationOf C (Exchange.keyBytes d) r).start = .ok () ∧
      (negotiationOf C (Exchange.keyBytes d) r).finish = .ok () := ⟨rfl, rfl⟩
  unfold negotiate Exchange.negotiateSession
  rw [hwrites.1, hwrites.2, hresponse, PyM.bind_ok (Exchange.nextSequence_run s),
    PyM.bind_ok (Exchange.write_usable (s := s.advanced) hs _ _), PyM.outcome_ok_bind, hremote,
    PyM.outcome_ok_bind, PyM.bind_ok (Exchange.nextSequence_run _)]
  refine (PyM.bind_ok (Exchange.write_usable ?_ _ _)).trans ?_
  · exact hs
  · rw [PyM.modify_apply, List.append_cons s.sent]
    rfl

variable {C d} in
theorem connect_run {r : StreamReader} (reply : Nat × Bytes) {f : TuyaFrame} {nonce : Bytes}
    {s : Exchange.Link} (hversion : d.protocolVersion = .v34)
    (hf : firstOf commandSessionResponse
      (streamFrames C .v34 (Exchange.keyBytes d) r.pending) = .ok f)
    (hproves : Proves C (Exchange.keyBytes d) f nonce) (hs : s.writer = none) :
    ∃ u, Exchange.connect C d (attemptOn C d r reply) s = (.ok (), u) ∧
      u.writer = some .usable ∧ u.sequence = s.advanced.advanced.sequence ∧
      u.sessionKey = some (sessionKeyFor C (Exchange.keyBytes d) nonce) ∧
      u.sent = s.sent ++ [(startFrame C d s).bytes C .v34 (Exchange.keyBytes d),
        (finishFrame C d nonce s).bytes C .v34 (Exchange.keyBytes d)] := by
  have hrun := negotiate_run
    (s := { s with writer := some .usable, reader := true, sessionKey := none }) hf hproves rfl
  have hopened : PyM.outcome (attemptOn C d r reply).opened s = (.ok (), s) := rfl
  have hsame : Exchange.negotiateSession C d (attemptOn C d r reply).negotiation =
      negotiate C d r := rfl
  unfold Exchange.connect
  rw [PyM.get_bind, if_neg (by rw [hs]; nofun), PyM.bind_ok hopened, PyM.modify_bind,
    if_pos hversion, hsame, PyM.tryExcept_ok ((PyM.bind_ok hrun).trans (PyM.modify_apply _ _))]
  exact ⟨_, rfl, rfl, rfl, rfl, rfl⟩

variable {C} in
/-- Either end reads what the other sends under the session key. -/
theorem decode_underSession (sequence : Nat) (key k : Bytes) {command : Nat}
    (hcommand : command ≠ commandSessionResponse) (text : Bytes) :
    decodePayload C ⟨sequence, command, aesEncrypt C (ProtocolVersion.v34.header ++ text) k⟩ .v34 key
      (some k) = .ok text := by
  have hkey : encryptionKey .v34 key (some k) = k := if_pos rfl
  have h : decodePayload C ⟨sequence, command, aesEncrypt C (ProtocolVersion.v34.header ++ text)
      (encryptionKey .v34 key (some k))⟩ .v34 key (some k) = .ok text := decodePayload_v34 hcommand
  rwa [hkey] at h

/-- A request on the connection, and its reply. -/
theorem request_answered (r : StreamReader) {k : Bytes} (command : Nat) {replyCommand : Nat}
    (body : Json) (text : Bytes) {s : Exchange.Link} (sequence : Nat)
    (hversion : d.protocolVersion = .v34) (hs : s.writer = some .usable)
    (hk : s.sessionKey = some k) (hne : k ≠ []) (hreply : replyCommand ≠ commandSessionResponse) :
    ∃ t, Exchange.request C floatRepr d (attemptOn C d r (replyUnder C k replyCommand text)) command
        body sequence s = (.ok (withoutRetcode text), t) ∧ t.sessionKey = some k ∧
      t.sent = s.sent ++ [(⟨sequence, command, payloadForCommand C floatRepr .v34 command body
        (Exchange.keyBytes d) (some k)⟩ : TuyaFrame).bytes C .v34 k] := by
  have hsign : Exchange.signingKey d (some k) = k := if_pos ⟨hversion, hne⟩
  have hdecode := decode_underSession (C := C) sequence (Exchange.keyBytes d) k hreply text
  unfold Exchange.request
  rw [PyM.modify_bind, PyM.get_bind]
  dsimp only
  rw [hversion, hk, hsign]
  have hwrite := fun data => Exchange.write_usable
    (s := { s with pending := s.pending.set sequence (), sessionKey := some k }) hs (.ok ()) data
  have hwritten : (attemptOn C d r (replyUnder C k replyCommand text)).written = .ok () := rfl
  have hanswer : (attemptOn C d r (replyUnder C k replyCommand text)).reply =
      .ok (replyUnder C k replyCommand text) := rfl
  rw [hwritten, PyM.bind_ok (hwrite _), hanswer, PyM.outcome_ok_bind, PyM.modify_bind, PyM.get_bind]
  unfold replyUnder
  dsimp only
  rw [hdecode, PyM.outcome_ok_bind]
  exact ⟨_, rfl, rfl, rfl⟩

end Session

section Agreement

variable (C : TuyaCrypto) (d : TuyaLink) (p : Peer)

/-- The response frame of the device. -/
def responseFrame (sequence : Nat) (response : Bytes) : TuyaFrame :=
  ⟨sequence, commandSessionResponse, response⟩

/-- The bytes of a connection on which the device answers a negotiation, behind frames that are no
responses and before anything. -/
def AnsweredOn (response data : Bytes) : Prop :=
  ∃ (before : List TuyaFrame) (sequence : Nat) (rest : Bytes),
    (∀ f ∈ before, f.Encodable .v34 ∧ f.command ≠ commandSessionResponse) ∧ sequence < 2 ^ 32 ∧
    data = before.flatMap (fun f => f.bytes C .v34 (Exchange.keyBytes d)) ++
      ((responseFrame sequence response).bytes C .v34 (Exchange.keyBytes d) ++ rest)

variable {C d p}

/-- The device's answer, for the nonce the driver sends. -/
theorem Peer.response_start (hkey : p.key = Exchange.keyBytes d) (s : Exchange.Link) :
    p.response C (startFrame C d s) = .ok (aesEncrypt C
      (p.nonce ++ C.hmacSha256 (Exchange.keyBytes d) Exchange.localNonce) (Exchange.keyBytes d)) := by
  unfold Peer.response startFrame
  rw [hkey]
  dsimp only
  rw [aesDecrypt_encrypt]
  rfl

theorem Peer.sessionKey_start (hkey : p.key = Exchange.keyBytes d) (s : Exchange.Link) :
    p.sessionKey C (startFrame C d s) =
      .ok (sessionKeyFor C (Exchange.keyBytes d) p.nonce) := by
  unfold Peer.sessionKey startFrame
  rw [hkey]
  dsimp only
  rw [aesDecrypt_encrypt]
  rfl

theorem Peer.accepts_finish (hkey : p.key = Exchange.keyBytes d) (s : Exchange.Link) :
    p.Accepts C (finishFrame C d p.nonce s) := by
  refine ⟨rfl, ?_⟩
  rw [hkey]
  exact aesDecrypt_encrypt _ _

theorem sessionKeyFor_ne_nil (key : Bytes) {nonce : Bytes} (hn : nonce.length = 16) :
    sessionKeyFor C key nonce ≠ [] := by
  intro h
  have hlen := congrArg List.length h
  unfold sessionKeyFor at hlen
  rw [C.length_ecbEncrypt, List.length_zipWith, hn, length_localNonce] at hlen
  cases hlen

theorem length_aesEncrypt_eq (data key : Bytes) :
    (aesEncrypt C data key).length = data.length + (16 - data.length % 16) := by
  unfold aesEncrypt pkcs7Pad
  rw [C.length_ecbEncrypt, List.length_append, List.length_replicate]

theorem legible {integrityKey : Bytes} {f : TuyaFrame} (hf : f.Encodable .v34) :
    Legible C integrityKey f := parseFrame_eq_ok_iff.mpr ⟨hf, rfl⟩

theorem encodable_start (s : Exchange.Link) : (startFrame C d s).Encodable .v34 where
  sequence := Nat.mod_lt _ (by decide)
  command := show commandSessionStart < 2 ^ 32 by decide
  length := by
    show (aesEncrypt C Exchange.localNonce (Exchange.keyBytes d)).length + _ ≤ _
    rw [length_aesEncrypt_eq, length_localNonce]
    decide

theorem encodable_finish (nonce : Bytes) (s : Exchange.Link) :
    (finishFrame C d nonce s).Encodable .v34 where
  sequence := Nat.mod_lt _ (by decide)
  command := show commandSessionFinish < 2 ^ 32 by decide
  length := by
    show (aesEncrypt C (C.hmacSha256 (Exchange.keyBytes d) nonce) (Exchange.keyBytes d)).length + _ ≤ _
    rw [length_aesEncrypt_eq, C.length_hmacSha256]
    decide

/-- On a connection with the device's answer, the first response is the device's. -/
theorem AnsweredOn.first {response : Bytes} {r : StreamReader}
    (hlen : response.length + 36 ≤ 1024 * 1024) (h : AnsweredOn C d response r.pending) :
    ∃ q, firstOf commandSessionResponse (streamFrames C .v34 (Exchange.keyBytes d) r.pending) =
      .ok (responseFrame q response) := by
  obtain ⟨before, q, rest, hbefore, hq, hdata⟩ := h
  have hcommand : commandSessionResponse < 2 ^ 32 := by decide
  have hencodable : (responseFrame q response).Encodable .v34 := ⟨hq, hcommand, hlen⟩
  obtain ⟨r', hread, -⟩ := readFrameUntil_bytes (fun f hf => (hbefore f hf).1)
    (fun f hf => (hbefore f hf).2) hencodable rfl hdata
  refine ⟨q, ?_⟩
  rw [← readFrameUntil_eq, hread]

/-- The device's answer proves that it knows the key. -/
theorem proves_response (nonce : Bytes) (hn : nonce.length = 16) (q : Nat) :
    Proves C (Exchange.keyBytes d) (responseFrame q (aesEncrypt C
      (nonce ++ C.hmacSha256 (Exchange.keyBytes d) Exchange.localNonce) (Exchange.keyBytes d)))
      nonce := by
  refine ⟨hn, [], ?_⟩
  rw [List.append_nil]
  exact aesDecrypt_encrypt _ _

/-- **Both ends hold one session**: for every connection on which a device with the same local key
answers the negotiation, whatever frames come before and however the bytes are chunked, the driver
ends with the session key of the device, its two frames are those the device accepts, and a request
of any command and body is sent under that key, read by the device as its JSON text, and answered
to the caller by the text of the device's reply. -/
theorem session_agrees (floatRepr : ℚ → List Char) (hversion : d.protocolVersion = .v34)
    (hkey : p.key = Exchange.keyBytes d) (s : Exchange.Link) (hs : s.writer = none) :
    ∃ response k, p.response C (startFrame C d s) = .ok response ∧
      p.sessionKey C (startFrame C d s) = .ok k ∧ p.Accepts C (finishFrame C d p.nonce s) ∧
      Legible C p.key (startFrame C d s) ∧ Legible C p.key (finishFrame C d p.nonce s) ∧
      ∀ (r : StreamReader) (command replyCommand : Nat) (body : Json) (text : Bytes)
        (script : Nat → Exchange.Attempt), AnsweredOn C d response r.pending →
        command ≠ commandSessionResponse → replyCommand ≠ commandSessionResponse →
        script 0 = attemptOn C d r (replyUnder C k replyCommand text) →
        ∃ t, Exchange.exchange C floatRepr d script command body s =
            (.ok (withoutRetcode text), t) ∧
          t.sessionKey = some k ∧
          t.sent = s.sent ++ [(startFrame C d s).bytes C .v34 p.key,
            (finishFrame C d p.nonce s).bytes C .v34 p.key,
            (requestFrame C floatRepr d k command body s).bytes C .v34 k] ∧
          ((requestFrame C floatRepr d k command body s).Encodable .v34 →
            Legible C k (requestFrame C floatRepr d k command body s)) ∧
          decodePayload C (requestFrame C floatRepr d k command body s) .v34 p.key (some k) =
            .ok (dumpsBytes floatRepr body) := by
  refine ⟨_, _, Peer.response_start hkey s, Peer.sessionKey_start hkey s,
    Peer.accepts_finish hkey s, legible (encodable_start s),
    legible (encodable_finish p.nonce s), ?_⟩
  intro r command replyCommand body text script hanswered hcommand hreply hscript
  have hlen : (aesEncrypt C (p.nonce ++ C.hmacSha256 (Exchange.keyBytes d) Exchange.localNonce)
      (Exchange.keyBytes d)).length + 36 ≤ 1024 * 1024 := by
    rw [length_aesEncrypt_eq, List.length_append, p.nonce_length, C.length_hmacSha256]
    decide
  obtain ⟨q, hfirst⟩ := hanswered.first hlen
  have hproves := proves_response (C := C) (d := d) p.nonce p.nonce_length q
  obtain ⟨u, hconnect, husable, hsequence, hukey, husent⟩ :=
    connect_run (replyUnder C (sessionKeyFor C (Exchange.keyBytes d) p.nonce) replyCommand text)
      (s := { s with tried := s.tried + 1 }) hversion hfirst hproves hs
  have hattempts : Exchange.attempts d script =
      script 0 :: (List.range d.retries).map fun n => script (n + 1) := by
    unfold Exchange.attempts
    rw [List.range_succ_eq_map, List.map_cons, List.map_map]
    rfl
  have husable' : u.advanced.writer = some .usable := husable
  have hukey' : u.advanced.sessionKey = some (sessionKeyFor C (Exchange.keyBytes d) p.nonce) := hukey
  obtain ⟨t, hrequest, hkeyt, hsent⟩ := request_answered C floatRepr d r command body text
    u.advanced.sequence hversion husable' hukey'
    (sessionKeyFor_ne_nil (Exchange.keyBytes d) p.nonce_length) hreply
  have hframe : u.advanced.sequence = s.advanced.advanced.advanced.sequence := by
    show (u.sequence + 1) % 2 ^ 32 = _
    rw [hsequence]
    rfl
  refine ⟨t, ?_, hkeyt, ?_, ?_, ?_⟩
  · unfold Exchange.exchange
    rw [hattempts, hscript]
    refine Exchange.exchangeLoop_answered ?_
    rw [Exchange.attempt_connected floatRepr command body hconnect]
    refine PyM.tryExcept_ok ?_
    rw [PyM.map_apply, hrequest]
    rfl
  · rw [hsent, hframe, hkey]
    show u.sent ++ _ = _
    rw [husent, List.append_assoc]
    rfl
  · exact legible
  · exact decode_underSession _ _ _ hcommand _

end Agreement

/-! ## A lamp with protocol 3.4 -/

def sessionPeer : Peer := ⟨Exchange.keyBytes sessionLamp.link, List.replicate 16 0x41, rfl⟩

def idleLink : Exchange.Link := ⟨none, false, false, none, Dict.empty, 0, none, 0, []⟩

/-- A status push and a heartbeat, before the response. -/
def chatter : List TuyaFrame := [⟨0, commandStatus, [1, 2, 3]⟩, ⟨0, commandHeartbeat, []⟩]

theorem chatter_before : ∀ f ∈ chatter, f.Encodable .v34 ∧ f.command ≠ commandSessionResponse := by
  intro f hf
  unfold chatter at hf
  rcases List.mem_cons.mp hf with rfl | hf
  · exact ⟨⟨by decide, by decide, by decide⟩, by decide⟩
  · rw [List.mem_singleton.mp hf]
    exact ⟨⟨by decide, by decide, by decide⟩, by decide⟩

/-- The lamp's nonce with a proof, as the payload of its response. -/
def answerWith (proof : Bytes) : Bytes :=
  aesEncrypt .plain (sessionPeer.nonce ++ proof) sessionPeer.key

/-- A connection on which the response comes behind other frames, byte by byte. -/
def answered (proof : Bytes) : StreamReader :=
  .ofChunks ((chatter.flatMap (fun f : TuyaFrame => f.bytes .plain .v34 sessionPeer.key) ++
    ((responseFrame 2 (answerWith proof)).bytes .plain .v34 sessionPeer.key ++ [0, 0])).map
      fun b => [b])

theorem answered_on (proof : Bytes) :
    AnsweredOn .plain sessionLamp.link (answerWith proof) (answered proof).pending := by
  refine ⟨chatter, 2, [0, 0], chatter_before, by decide, ?_⟩
  show [] ++ List.flatten (List.map _ _) = _
  rw [List.nil_append, ← List.flatMap_def, List.flatMap_singleton']
  rfl

theorem length_answerWith {proof : Bytes} (h : proof.length = 32) :
    (answerWith proof).length + 36 ≤ 1024 * 1024 := by
  unfold answerWith
  rw [length_aesEncrypt_eq, List.length_append, sessionPeer.nonce_length, h]
  decide

def wrongProof : Bytes := List.replicate 32 1

/-- Behind a push and a heartbeat, the right proof gives a session, and another proof none. -/
theorem negotiate_ok_iff_answered :
    (∃ t, negotiate .plain sessionLamp.link
        (answered (TuyaCrypto.plain.hmacSha256 sessionPeer.key Exchange.localNonce))
        { idleLink with writer := some .usable } = (.ok (), t) ∧
      t.sessionKey = some (sessionKeyFor .plain sessionPeer.key sessionPeer.nonce)) ∧
    ¬ ∃ k t, negotiate .plain sessionLamp.link (answered wrongProof)
        { idleLink with writer := some .usable } = (.ok (), t) ∧ t.sessionKey = some k := by
  refine ⟨?_, ?_⟩
  · obtain ⟨q, hfirst⟩ := (answered_on (TuyaCrypto.plain.hmacSha256 sessionPeer.key
      Exchange.localNonce)).first (length_answerWith rfl)
    exact (negotiate_ok_iff .plain sessionLamp.link _ { idleLink with writer := some .usable } rfl _).mpr
      ⟨_, sessionPeer.nonce, hfirst, proves_response sessionPeer.nonce rfl q, rfl⟩
  · rintro ⟨k, hk⟩
    obtain ⟨f, nonce, hf, ⟨hn, more, hproof⟩, -⟩ := (negotiate_ok_iff .plain sessionLamp.link _
      { idleLink with writer := some .usable } rfl k).mp hk
    obtain ⟨q, hfirst⟩ := (answered_on wrongProof).first (length_answerWith rfl)
    cases hf.symm.trans hfirst
    have hplain : sessionPeer.nonce ++ wrongProof =
        nonce ++ TuyaCrypto.plain.hmacSha256 sessionPeer.key Exchange.localNonce ++ more :=
      Except.ok.inj ((aesDecrypt_encrypt _ _).symm.trans hproof)
    rw [List.append_assoc] at hplain
    obtain ⟨-, htag⟩ := List.append_inj hplain (sessionPeer.nonce_length.trans hn.symm)
    -- the tag of the wrong proof is ones, the right one zeros
    have hhead : some (1 : UInt8) = some 0 := congrArg List.head? htag
    exact absurd hhead (by decide)

/-- The lamp answers the negotiation and a query. -/
theorem session_agrees_lamp :
    ∃ response k, sessionPeer.response .plain (startFrame .plain sessionLamp.link idleLink) =
        .ok response ∧
      sessionPeer.sessionKey .plain (startFrame .plain sessionLamp.link idleLink) = .ok k ∧
      ∀ script : Nat → Exchange.Attempt,
        script 0 = attemptOn .plain sessionLamp.link
          (.ofChunks [(responseFrame 1 response).bytes .plain .v34 sessionPeer.key])
          (replyUnder .plain k commandDpQueryNew [0x7b, 0x7d]) →
        ∃ t, Exchange.exchange .plain (fun _ => []) sessionLamp.link script commandDpQueryNew
          (.obj []) idleLink = (.ok (withoutRetcode [0x7b, 0x7d]), t) ∧ t.sessionKey = some k := by
  obtain ⟨response, k, hresponse, hk, -, -, -, hall⟩ := session_agrees (C := .plain)
    (p := sessionPeer) (fun _ => []) (d := sessionLamp.link) rfl rfl idleLink rfl
  refine ⟨response, k, hresponse, hk, fun script hscript => ?_⟩
  obtain ⟨t, hrun, hkey, -⟩ := hall _ commandDpQueryNew commandDpQueryNew (.obj []) _ script
    ⟨[], 1, [], by simp, by decide, by simp [StreamReader.pending, StreamReader.ofChunks]; rfl⟩
    (by decide) (by decide) hscript
  exact ⟨t, hrun, hkey⟩

end Linker.Handshake
