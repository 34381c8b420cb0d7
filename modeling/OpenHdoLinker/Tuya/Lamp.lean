import OpenHdoLinker.Tuya.Exchange
import OpenHdoLinker.Tuya.Light
import OpenHdoLinker.Lib.JsonReader

/-!
# The lamp at the other end of an exchange

A lamp holds the local key of the driver and a value for each of its data points.  A
control message that reaches it writes what it holds, a query is answered with all data
points.  Requests and replies are lost at will, and `_exchange` sends a request again as
often as it has attempts, so the lamp may get it any number of times.

    the lamp after an exchange = (the request)^[n] of the lamp, and n > 0 if it returned
                                                                        (Carried.served)
    a query that returned gives the text of the lamp's own report      (Carried.reported)
-/

namespace Linker.Remote

open Py

/-! ## The lamp -/

/-- A value that is written to a data point. -/
def isScalar : Json → Bool
  | .bool _ => true
  | .int _ => true
  | .str _ => true
  | _ => false

def isDataPoint (p : Nat × Json) : Bool := decide (1 ≤ p.1 ∧ p.1 ≤ 255) && isScalar p.2

/-- A data point with any JSON value that has no floats in it. -/
def IsReportable (p : Nat × Json) : Prop := (1 ≤ p.1 ∧ p.1 ≤ 255) ∧ p.2.Plain

theorem plain_of_isScalar {v : Json} (h : isScalar v = true) : v.Plain := by
  cases v with
  | bool b => exact .bool b
  | int i => exact .int i
  | str s => exact .str s
  | null => cases h
  | float x => cases h
  | arr l => cases h
  | obj d => cases h

theorem isDataPoint_iff {p : Nat × Json} :
    isDataPoint p = true ↔ (1 ≤ p.1 ∧ p.1 ≤ 255) ∧ isScalar p.2 = true := by
  unfold isDataPoint
  rw [Bool.and_eq_true, decide_eq_true_eq]

theorem reportable_of_isDataPoint {p : Nat × Json} (h : isDataPoint p = true) : IsReportable p :=
  ⟨(isDataPoint_iff.mp h).1, plain_of_isScalar (isDataPoint_iff.mp h).2⟩

structure Lamp where
  dps : Dps
  valid : ∀ n v, dps.get? n = some v → IsReportable (n, v)

namespace Lamp

variable (J : JsonLib) (floatRepr : ℚ → List Char) (l : Lamp)

/-- What is no data point is not written. -/
def write (values : List (Nat × Json)) : Lamp where
  dps := l.dps.setAll (values.filter isDataPoint)
  valid n v h := by
    rcases Dict.mem_of_get?_setAll h with hmem | hold
    · exact reportable_of_isDataPoint (List.mem_filter.mp hmem).2
    · exact l.valid n v hold

/-- The lamp after a request. -/
def served (command : Nat) (text : Bytes) : Lamp :=
  if command = commandControl ∨ command = commandControlNew then
    match parseDps J text with
    | .ok values => l.write values.items
    | .error _ => l
  else l

/-- The text of an answer to a query. -/
def report : Bytes := dumpsBytes floatRepr (.obj [("dps", dpsBody l.dps.items)])

end Lamp

/-! ## Carrying a request -/

section Carrying

variable (C : TuyaCrypto) (J : JsonLib) (floatRepr : ℚ → List Char) (d : TuyaLink)

/-- The command and the text the lamp reads off the bytes of a request. -/
def readRequest (sessionKey : Option Bytes) (data : Bytes) : Except PyErr (Nat × Bytes) := do
  let frame ← parseFrame C data d.protocolVersion (Exchange.signingKey d sessionKey)
  let text ← decodePayload C frame d.protocolVersion (Exchange.keyBytes d) sessionKey
  .ok (frame.command, text)

/-- The bytes of a request get lost, or they reach the lamp; a reply that comes to a query is the
lamp's report. -/
inductive Reaches (sessionKey : Option Bytes) (data : Bytes) (a : Exchange.Attempt) :
    Lamp → Lamp → Prop
  | lost {l : Lamp} {e : PyErr} (hreply : a.reply = .error e) : Reaches sessionKey data a l l
  | served {l : Lamp} {command : Nat} {text : Bytes}
      (hread : readRequest C d sessionKey data = .ok (command, text))
      (hreply : ∀ reply, a.reply = .ok reply → command ∈ queryCommands → reply = (command,
        replyPayload C d.protocolVersion (Exchange.keyBytes d) (l.report floatRepr) sessionKey)) :
      Reaches sessionKey data a l (l.served J command text)

variable (command : Nat) (body : Json)

/-- What an attempt does to the lamp: nothing without a connection, else what the bytes it has
written do. -/
inductive Attempted (s : Exchange.Link) (a : Exchange.Attempt) : Lamp → Lamp → Prop
  | unconnected {l : Lamp} {e : PyErr} (hconnected : Exchange.connected C d s.hold a = .error e) :
      Attempted s a l l
  | sent {l l' : Lamp} {sessionKey : Option Bytes} {data : Bytes}
      (hconnected : Exchange.connected C d s.hold a = .ok sessionKey)
      (hdata : (Exchange.attempt C floatRepr d a command body s).2.sent.getLast? = some data)
      (hreaches : Reaches C J floatRepr d sessionKey data a l l') : Attempted s a l l'

/-- What the attempts of an exchange do to the lamp. -/
inductive Carried : Exchange.Link → List Exchange.Attempt → Lamp → Lamp → Prop
  | nil {s : Exchange.Link} {l : Lamp} : Carried s [] l l
  | ends {s : Exchange.Link} {a : Exchange.Attempt} {rest : List Exchange.Attempt} {l l' : Lamp}
      (ha : Attempted C J floatRepr d command body s a l l')
      (hends : ∀ e, (Exchange.attempt C floatRepr d a command body s).1 ≠ .ok (.error e)) :
      Carried s (a :: rest) l l'
  | again {s : Exchange.Link} {a : Exchange.Attempt} {rest : List Exchange.Attempt}
      {l l' l'' : Lamp} {e : PyErr} (ha : Attempted C J floatRepr d command body s a l l')
      (hagain : (Exchange.attempt C floatRepr d a command body s).1 = .ok (.error e))
      (hrest : Carried (Exchange.attempt C floatRepr d a command body s).2 rest l' l'') :
      Carried s (a :: rest) l l''

end Carrying

/-! ## Lemmas -/

/-! ### What an attempt writes -/

section Attempt

variable {C : TuyaCrypto} {floatRepr : ℚ → List Char} {d : TuyaLink} {command : Nat} {body : Json}
  {s : Exchange.Link} {a : Exchange.Attempt}

variable (C floatRepr d command body) in
/-- The frame of a request. -/
def requestFrame (sessionKey : Option Bytes) (sequence : Nat) : TuyaFrame :=
  ⟨sequence, command, payloadForCommand C floatRepr d.protocolVersion command body
    (Exchange.keyBytes d) sessionKey⟩

variable (C floatRepr d command body) in
def requestBytes (sessionKey : Option Bytes) (sequence : Nat) : Bytes :=
  (requestFrame C floatRepr d command body sessionKey sequence).bytes C d.protocolVersion
    (Exchange.signingKey d sessionKey)

theorem disconnect_sent (closed : Except PyErr Unit) (sent : List Bytes) :
    PyM.Preserves (fun s : Exchange.Link => s.sent = sent) (Exchange.disconnect closed) := by
  intro s hs
  unfold Exchange.disconnect
  rw [PyM.get_bind, PyM.modify_bind]
  cases s.writer with
  | none => exact hs
  | some w => exact hs

theorem recover_sent (sequence : Option Nat) (e : PyErr) (sent : List Bytes) :
    PyM.Preserves (fun s : Exchange.Link => s.sent = sent) (Exchange.recover a sequence e) := by
  unfold Exchange.recover
  split
  · refine PyM.preserves_bind (PyM.preserves_modify fun _ h => h) fun _ => ?_
    have hrest : PyM.Preserves (fun s : Exchange.Link => s.sent = sent)
        (Exchange.disconnect a.closed >>= fun _ => pure (Except.error (α := Bytes) e)) :=
      PyM.preserves_bind (disconnect_sent a.closed sent) fun _ => PyM.preserves_pure _
    cases sequence with
    | none => exact hrest
    | some n => exact PyM.preserves_bind (PyM.preserves_modify fun _ h => h) fun _ => hrest
  · exact PyM.preserves_raise _

variable (floatRepr command body) in
/-- A request writes its frame, and nothing after it. -/
theorem request_sent (sequence : Nat) (hs : s.writer = some .usable) :
    (Exchange.request C floatRepr d a command body sequence s).2.sent =
      s.sent ++ [requestBytes C floatRepr d command body s.sessionKey sequence] := by
  unfold Exchange.request
  rw [PyM.modify_bind, PyM.get_bind]
  refine PyM.bind_after (I := fun t : Exchange.Link => t.sent = _) ?_ fun _ => ?_
  · rw [Exchange.write_usable (s := { s with pending := s.pending.set sequence () }) hs]
    rfl
  · refine PyM.preserves_bind (PyM.preserves_outcome _) fun reply => ?_
    refine PyM.preserves_bind (PyM.preserves_modify fun _ h => h) fun _ => ?_
    refine PyM.preserves_bind PyM.preserves_get fun _ => ?_
    exact PyM.preserves_bind (PyM.preserves_outcome _) fun _ => PyM.preserves_pure _

variable (floatRepr command body) in
/-- The last bytes of an attempt on a connection are those of the request. -/
theorem attempt_sent {k : Option Bytes} (h : Exchange.connected C d s.hold a = .ok k) :
    ∃ sequence, sequence < 2 ^ 32 ∧
      (Exchange.attempt C floatRepr d a command body s).2.sent.getLast? =
        some (requestBytes C floatRepr d command body k sequence) := by
  obtain ⟨t, hrun, hwriter, hkey, -⟩ :=
    Exchange.connect_ok (s := { s with tried := s.tried + 1 }) h
  refine ⟨t.advanced.sequence, Nat.mod_lt _ (by decide), ?_⟩
  rw [Exchange.attempt_connected floatRepr command body hrun]
  have hsent := request_sent floatRepr command body (C := C) (d := d) (a := a) (s := t.advanced)
    t.advanced.sequence hwriter
  have hkey' : t.advanced.sessionKey = k := hkey
  rw [hkey'] at hsent
  rw [PyM.tryExcept_after (I := fun u : Exchange.Link => u.sent = t.advanced.sent ++
      [requestBytes C floatRepr d command body k t.advanced.sequence])
    (by rw [PyM.map_apply]; exact hsent) fun e => recover_sent _ e _]
  exact List.getLast?_concat

/-- An `except` clause gives no reply. -/
theorem recover_answers (sequence : Option Nat) (e : PyErr) (p : Bytes) :
    (Exchange.recover a sequence e s).1 ≠ .ok (.ok p) := by
  intro h
  by_cases he : Exchange.IsListed e
  · obtain ⟨t, hrun, -⟩ := Exchange.recover_listed (s := s) (a := a) sequence he
    rw [hrun] at h
    obtain ⟨_, -, h⟩ := bind_eq_ok h
    cases h
  · rw [Exchange.recover_unlisted sequence he] at h
    cases h

/-- An attempt gives what it comes to by itself. -/
theorem attempt_answers {p : Bytes}
    (h : (Exchange.attempt C floatRepr d a command body s).1 = .ok (.ok p)) :
    Exchange.outcomeOf C d s.hold a = .ok p := by
  cases ho : Exchange.outcomeOf C d s.hold a with
  | ok q =>
    obtain ⟨t, hrun⟩ := Exchange.attempt_ok floatRepr command body ho
    rw [hrun] at h
    cases h
    rfl
  | error e =>
    obtain ⟨sequence, u, hrun, -⟩ := Exchange.attempt_error floatRepr command body ho
    rw [hrun] at h
    exact absurd h (recover_answers sequence e p)

end Attempt

/-! ### What the lamp reads -/

section Reading

variable {C : TuyaCrypto} {J : JsonLib} {floatRepr : ℚ → List Char} {d : TuyaLink} {command : Nat}
  {body : Json} {sessionKey : Option Bytes}

/-- The lamp takes a request of the driver for the frame it is. -/
theorem readRequest_own {sequence c : Nat} {text : Bytes} (hsequence : sequence < 2 ^ 32)
    (hcommand : command < 2 ^ 32)
    (h : readRequest C d sessionKey (requestBytes C floatRepr d command body sessionKey sequence) =
      .ok (c, text)) :
    c = command ∧ decodePayload C (requestFrame C floatRepr d command body sessionKey sequence)
      d.protocolVersion (Exchange.keyBytes d) sessionKey = .ok text := by
  obtain ⟨f, hparse, h⟩ := bind_eq_ok h
  obtain ⟨text', hdecode, h⟩ := bind_eq_ok h
  cases h
  obtain ⟨hf, hbytes⟩ := parseFrame_eq_ok_iff.mp hparse
  have hlen := congrArg List.length hbytes
  unfold requestBytes at hlen
  rw [TuyaFrame.length_bytes, TuyaFrame.length_bytes] at hlen
  have hlimit := hf.length
  have hown : (requestFrame C floatRepr d command body sessionKey sequence).Encodable
      d.protocolVersion := ⟨hsequence, hcommand, by omega⟩
  have hparse' : parseFrame C (requestBytes C floatRepr d command body sessionKey sequence)
      d.protocolVersion (Exchange.signingKey d sessionKey) =
        .ok (requestFrame C floatRepr d command body sessionKey sequence) :=
    parseFrame_eq_ok_iff.mpr ⟨hown, rfl⟩
  rw [hparse] at hparse'
  cases hparse'
  exact ⟨rfl, hdecode⟩

/-- The lamp reads every request that fits a frame. -/
theorem readRequest_sent {sequence : Nat} {text : Bytes} (hsequence : sequence < 2 ^ 32)
    (hcommand : command < 2 ^ 32)
    (hfits : FitsFrame C floatRepr d.protocolVersion command body (Exchange.keyBytes d) sessionKey)
    (hdecode : decodePayload C (requestFrame C floatRepr d command body sessionKey sequence)
      d.protocolVersion (Exchange.keyBytes d) sessionKey = .ok text) :
    readRequest C d sessionKey (requestBytes C floatRepr d command body sessionKey sequence) =
      .ok (command, text) := by
  have hparse : parseFrame C (requestBytes C floatRepr d command body sessionKey sequence)
      d.protocolVersion (Exchange.signingKey d sessionKey) =
        .ok (requestFrame C floatRepr d command body sessionKey sequence) :=
    parseFrame_eq_ok_iff.mpr ⟨⟨hsequence, hcommand, hfits⟩, rfl⟩
  unfold readRequest
  rw [hparse]
  show (decodePayload C _ _ _ _ >>= _) = _
  rw [hdecode]
  rfl

/-- The commands the driver sends over an exchange. -/
def IsRequest (d : TuyaLink) (command : Nat) : Prop :=
  command = controlCommand d.protocolVersion ∨ command ∈ queryCommands

theorem IsRequest.lt (h : IsRequest d command) : command < 2 ^ 32 := by
  rcases h with rfl | h
  · unfold controlCommand
    split
    · decide
    · decide
  · rcases List.mem_cons.mp h with rfl | h
    · decide
    · rw [List.mem_singleton.mp h]
      decide

theorem Lamp.served_query (h : command ∈ queryCommands) (l : Lamp) (text : Bytes) :
    l.served J command text = l := by
  refine if_neg ?_
  rintro (rfl | rfl)
  · exact absurd h (by decide)
  · exact absurd h (by decide)

/-- A request does to the lamp what its own text says. -/
theorem served_own {sequence c : Nat} {text : Bytes} (hrequest : IsRequest d command)
    (hsequence : sequence < 2 ^ 32)
    (h : readRequest C d sessionKey (requestBytes C floatRepr d command body sessionKey sequence) =
      .ok (c, text)) (l : Lamp) :
    c = command ∧ l.served J c text = l.served J command (dumpsBytes floatRepr body) := by
  obtain ⟨rfl, hdecode⟩ := readRequest_own hsequence hrequest.lt h
  refine ⟨rfl, ?_⟩
  rcases hrequest with rfl | hquery
  · have hcontrol : decodePayload C (requestFrame C floatRepr d _ body sessionKey sequence)
        d.protocolVersion (Exchange.keyBytes d) sessionKey = .ok (dumpsBytes floatRepr body) :=
      decodePayload_control body
    cases hcontrol.symm.trans hdecode
    rfl
  · rw [l.served_query hquery, l.served_query hquery]

theorem startsWith_length {start data : Bytes} (h : startsWith start data = true) :
    start.length ≤ data.length := by
  have hlen := congrArg List.length (of_decide_eq_true h)
  rw [List.length_take] at hlen
  omega

/-- A reply to a query that can be decoded is the text it was made of. -/
theorem decode_reply {version : ProtocolVersion} {key text p : Bytes} {sequence : Nat}
    (hcommand : command ∈ queryCommands) (htext : IsObjectText text)
    (h : decodePayload C ⟨sequence, command, replyPayload C version key text sessionKey⟩ version key
      sessionKey = .ok p) : p = text := by
  have hresponse : command ≠ commandSessionResponse := by
    rintro rfl
    exact absurd hcommand (by decide)
  have hheadless : (version = .v32 ∨ version = .v33) →
      decodePayload C ⟨sequence, command, aesEncrypt C text key⟩ version key sessionKey = .ok p →
        p = text := by
    intro hversion hp
    by_cases hheader : startsWith version.header (aesEncrypt C text key) = true
    · -- what is left of the ciphertext behind its first 15 bytes is not whole blocks
      have hfifteen : version.header.length = 15 := by
        rcases hversion with rfl | rfl
        · rfl
        · rfl
      have hlong := startsWith_length hheader
      have hwhole := length_aesEncrypt (C := C) text key
      have hpartial : ((aesEncrypt C text key).drop version.header.length).length % 16 ≠ 0 := by
        rw [List.length_drop]
        omega
      rw [decodePayload_v33 hversion (if_pos hheader), aesDecrypt_partial key hpartial] at hp
      cases hp
    · rw [decodePayload_headless hversion (Bool.eq_false_iff.mpr hheader)] at hp
      cases hp
      rfl
  cases version with
  | v31 =>
    have hplain : decodePayload C ⟨sequence, command, text⟩ .v31 key sessionKey = .ok text :=
      decodePayload_v31 htext.not_marked.1
    cases hplain.symm.trans h
    rfl
  | v32 => exact hheadless (.inl rfl) h
  | v33 => exact hheadless (.inr rfl) h
  | v34 =>
    cases (decodePayload_v34 hresponse).symm.trans h
    rfl

end Reading

/-! ### What an exchange does -/

section Exchanging

variable {C : TuyaCrypto} {J : JsonLib} {floatRepr : ℚ → List Char} {d : TuyaLink} {command : Nat}
  {body : Json} {s : Exchange.Link} {a : Exchange.Attempt} {as : List Exchange.Attempt} {l l' : Lamp}

theorem isObjectText_report (l : Lamp) : IsObjectText (l.report floatRepr) := by
  obtain ⟨t, ht⟩ := dumpsBytes_obj floatRepr [("dps", dpsBody l.dps.items)]
  exact ⟨0x7b, t, ht, by decide⟩

/-- What an attempt that returned was answered on its connection. -/
theorem outcomeOf_ok {h : Exchange.Hold} {p : Bytes} (ho : Exchange.outcomeOf C d h a = .ok p) :
    ∃ k reply decoded, Exchange.connected C d h a = .ok k ∧ a.reply = .ok reply ∧
      decodePayload C ⟨0, reply.1, reply.2⟩ d.protocolVersion (Exchange.keyBytes d) k = .ok decoded ∧
      p = withoutRetcode decoded := by
  obtain ⟨k, hk, hanswer⟩ := bind_eq_ok ho
  obtain ⟨_, -, hanswer⟩ := bind_eq_ok hanswer
  obtain ⟨reply, hreply, hanswer⟩ := bind_eq_ok hanswer
  obtain ⟨decoded, hdecoded, hanswer⟩ := bind_eq_ok hanswer
  cases hanswer
  exact ⟨k, reply, decoded, hk, hreply, hdecoded, rfl⟩

/-- **One attempt**: the lamp gets the request or not, and gets it if the attempt returns. -/
theorem Attempted.cases (hrequest : IsRequest d command)
    (h : Attempted C J floatRepr d command body s a l l') :
    (l' = l ∧ ∀ p, (Exchange.attempt C floatRepr d a command body s).1 ≠ .ok (.ok p)) ∨
    (l' = l.served J command (dumpsBytes floatRepr body) ∧
      ∀ p, (Exchange.attempt C floatRepr d a command body s).1 = .ok (.ok p) →
        command ∈ queryCommands → p = l.report floatRepr) := by
  cases h with
  | unconnected hconnected =>
    refine .inl ⟨rfl, fun p hp => ?_⟩
    obtain ⟨k, -, -, hk, -⟩ := outcomeOf_ok (attempt_answers hp)
    cases hconnected.symm.trans hk
  | sent hconnected hdata hreaches =>
    obtain ⟨sequence, hsequence, hown⟩ := attempt_sent floatRepr command body hconnected
    cases hdata.symm.trans hown
    cases hreaches with
    | lost hreply =>
      refine .inl ⟨rfl, fun p hp => ?_⟩
      obtain ⟨-, reply, -, -, hreply', -⟩ := outcomeOf_ok (attempt_answers hp)
      cases hreply.symm.trans hreply'
    | served hread hreply =>
      obtain ⟨rfl, hserved⟩ := served_own hrequest hsequence hread l
      refine .inr ⟨hserved, fun p hp hquery => ?_⟩
      obtain ⟨k, reply, decoded, hk, hreplied, hdecoded, rfl⟩ := outcomeOf_ok (attempt_answers hp)
      cases hconnected.symm.trans hk
      cases hreply reply hreplied hquery
      cases decode_reply hquery (isObjectText_report l) hdecoded
      exact (isObjectText_report l).not_marked.2

/-- **An exchange**: the lamp gets the request some number of times, at least once if the exchange
returns; what a query returns is the lamp's report. -/
theorem Carried.served (hrequest : IsRequest d command)
    (h : Carried C J floatRepr d command body s as l l') (last : String) :
    ∃ n, l' = (fun x : Lamp => x.served J command (dumpsBytes floatRepr body))^[n] l ∧
      ∀ p, (Exchange.exchangeLoop C floatRepr d command body last as s).1 = .ok p →
        0 < n ∧ (command ∈ queryCommands → p = l'.report floatRepr) := by
  induction h generalizing last with
  | nil =>
    refine ⟨0, rfl, fun p hp => ?_⟩
    cases hp
  | @ends s a rest l l' ha hends =>
    have hreturned : ∀ p,
        (Exchange.exchangeLoop C floatRepr d command body last (a :: rest) s).1 = .ok p →
          (Exchange.attempt C floatRepr d a command body s).1 = .ok (.ok p) := by
      intro p hp
      cases hattempt : Exchange.attempt C floatRepr d a command body s with
      | mk r t =>
        rw [hattempt] at hends
        cases r with
        | error e =>
          rw [Exchange.exchangeLoop_aborted hattempt] at hp
          cases hp
        | ok r =>
          cases r with
          | error e => exact absurd rfl (hends e)
          | ok q =>
            rw [Exchange.exchangeLoop_answered hattempt] at hp
            cases hp
            rfl
    rcases ha.cases hrequest with ⟨rfl, hno⟩ | ⟨rfl, hreport⟩
    · exact ⟨0, rfl, fun p hp => absurd (hreturned p hp) (hno p)⟩
    · refine ⟨1, rfl, fun p hp => ⟨Nat.one_pos, fun hquery => ?_⟩⟩
      rw [l.served_query hquery]
      exact hreport p (hreturned p hp) hquery
  | @again s a rest l l' l'' e ha hagain _ ih =>
    obtain ⟨n, hn, hreturned⟩ := ih e.text
    have hloop : Exchange.exchangeLoop C floatRepr d command body last (a :: rest) s =
        Exchange.exchangeLoop C floatRepr d command body e.text rest
          (Exchange.attempt C floatRepr d a command body s).2 :=
      Exchange.exchangeLoop_again (Prod.ext hagain rfl)
    rw [hloop]
    rcases ha.cases hrequest with ⟨rfl, -⟩ | ⟨rfl, -⟩
    · exact ⟨n, hn, hreturned⟩
    · refine ⟨n + 1, hn, fun p hp => ?_⟩
      obtain ⟨-, hquery⟩ := hreturned p hp
      exact ⟨Nat.succ_pos n, hquery⟩

/-- An attempt that is answered carries its request. -/
theorem Carried.answered {k : Option Bytes} {p text : Bytes}
    (hconnected : Exchange.connected C d s.hold a = .ok k)
    (hanswered : Exchange.outcomeOf C d s.hold a = .ok p)
    (hread : ∀ q < 2 ^ 32, readRequest C d k (requestBytes C floatRepr d command body k q) =
      .ok (command, text))
    (hreply : ∀ reply, a.reply = .ok reply → command ∈ queryCommands → reply = (command,
        replyPayload C d.protocolVersion (Exchange.keyBytes d) (l.report floatRepr) k)) :
    Carried C J floatRepr d command body s (a :: as) l (l.served J command text) := by
  obtain ⟨q, hq, hdata⟩ := attempt_sent floatRepr command body hconnected
  refine .ends (.sent hconnected hdata (.served (hread q hq) hreply)) ?_
  obtain ⟨t, ht⟩ := Exchange.attempt_ok floatRepr command body hanswered
  intro e he
  rw [ht] at he
  cases he

end Exchanging

/-! ### The data points -/

section DataPoints

variable {J : JsonLib} {floatRepr : ℚ → List Char}

theorem eq_of_isScalar {v w : Json} (h : isScalar v = true) (hsame : v.Same w) : v = w := by
  cases hsame with
  | null => rfl
  | bool b => rfl
  | int i => rfl
  | float x => rfl
  | str s => rfl
  | arr _ _ => cases h
  | obj _ _ _ => cases h

/-- The object of some data points is written and read back as a Python value. -/
theorem plain_dpsBody {values : Dps} (h : ∀ p ∈ values.items, IsReportable p) :
    (dpsBody values.items).Plain := by
  refine .obj ?_ ?_
  · rw [List.map_map]
    have hmap : (Prod.fst ∘ fun p : Nat × Json => (toString p.1, p.2)) = toString ∘ Prod.fst := rfl
    rw [hmap, ← List.map_map]
    refine List.Nodup.map_on ?_ values.nodup
    intro x hx y hy hxy
    obtain ⟨p, hp, rfl⟩ := List.mem_map.mp hx
    obtain ⟨q, hq, rfl⟩ := List.mem_map.mp hy
    exact toString_inj (h p hp).1 (h q hq).1 hxy
  · intro p hp
    obtain ⟨q, hq, rfl⟩ := List.mem_map.mp hp
    exact (h q hq).2

/-- The same scalars at the same data points. -/
theorem get?_of_same {values read : Dps} (h : ∀ p ∈ values.items, isDataPoint p = true)
    (hsame : SameDps values read) (n : Nat) : read.get? n = values.get? n := by
  cases hv : values.get? n with
  | none => exact hsame.get?_none hv
  | some v =>
    obtain ⟨w, hw, hvw⟩ := hsame.get?_some hv
    have hmem := (values.mem_items_iff n v).mpr hv
    rw [hw, ← eq_of_isScalar (isDataPoint_iff.mp (h _ hmem)).2 hvw]

theorem Lamp.dataPoints (l : Lamp) : ∀ p ∈ l.dps.items, IsReportable p :=
  fun p hp => l.valid p.1 p.2 ((l.dps.mem_items_iff p.1 p.2).mp hp)

theorem Lamp.plain_report (l : Lamp) : Json.Plain (.obj [("dps", dpsBody l.dps.items)]) := by
  refine .obj (List.nodup_singleton _) fun q hq => ?_
  rw [List.mem_singleton.mp hq]
  exact plain_dpsBody l.dataPoints

theorem Lamp.get?_write (l : Lamp) {read values : Dps}
    (h : ∀ p ∈ values.items, isDataPoint p = true)
    (hread : ∀ n, read.get? n = values.get? n) (n : Nat) :
    (l.write read.items).dps.get? n = (l.dps.setAll values.items).get? n := by
  have hfilter : read.items.filter isDataPoint = read.items := by
    refine List.filter_eq_self.mpr fun p hp => h p ?_
    exact (values.mem_items_iff p.1 p.2).mpr
      ((hread p.1).symm.trans ((read.mem_items_iff p.1 p.2).mp hp))
  show (l.dps.setAll (read.items.filter isDataPoint)).get? n = _
  rw [hfilter, Dict.get?_setAll_nodup _ read.nodup, Dict.get?_setAll_nodup _ values.nodup]
  exact congrArg (·.or (l.dps.get? n)) (hread n)

/-- A control message that reaches the lamp writes its data points. -/
theorem served_control {d : TuyaDeviceConfig} {now : Int} {values : Dps}
    (hvalues : ∀ p ∈ values.items, isDataPoint p = true)
    (hjson : J.ReadsBack floatRepr (controlBody d now values.items)) (l : Lamp) (n : Nat) :
    (l.served J (controlCommand d.link.protocolVersion)
      (dumpsBytes floatRepr (controlBody d now values.items))).dps.get? n =
        (l.dps.setAll values.items).get? n := by
  have hindexes : DpIndexes values.items := fun p hp => (isDataPoint_iff.mp (hvalues p hp)).1
  obtain ⟨read, hparse, hsame⟩ := parseDps_control hindexes hjson
  have hcommand : controlCommand d.link.protocolVersion = commandControl ∨
      controlCommand d.link.protocolVersion = commandControlNew := by
    unfold controlCommand
    split
    · exact .inr rfl
    · exact .inl rfl
  unfold Lamp.served
  rw [if_pos hcommand, hparse]
  exact l.get?_write hvalues (get?_of_same hvalues hsame) n

/-- The lamp's report is read as its data points. -/
theorem parseDps_report (l : Lamp) (hjson : ∀ v, Json.Plain v → J.ReadsBack floatRepr v) :
    ∃ read, parseDps J (l.report floatRepr) = .ok read ∧ SameDps l.dps read := by
  obtain ⟨w, hdecode, hsame⟩ := hjson _ l.plain_report
  obtain ⟨e, rfl, -⟩ := hsame.obj_left
  obtain ⟨dps, hdps, hsdps⟩ := hsame.lookup (k := "dps") rfl
  obtain ⟨items, rfl, -⟩ := Json.Same.obj_left (d := dpItems l.dps.items) hsdps
  have hindexes : DpIndexes l.dps.items := fun p hp => (l.dataPoints p hp).1
  obtain ⟨read, hfold, hread⟩ := foldlM_same hindexes hsdps
  refine ⟨read, ?_, hread⟩
  unfold parseDps Lamp.report
  rw [J.loads_ok _ _ hdecode]
  unfold dpsOfValue
  dsimp only [Json.obj?]
  rw [getItem_lookup hdps]
  exact hfold

/-- A lamp has the values it has, read back. -/
theorem Lamp.sameDps (l : Lamp) {dps : Dps} (h : ∀ n, l.dps.get? n = dps.get? n) :
    SameDps dps l.dps := by
  intro n
  rw [← h n]
  cases hv : l.dps.get? n with
  | none => exact .none
  | some v => exact .some (.of_keysOnce (l.valid n v hv).2.keysOnce)

/-- The order of the keys in an object is not read: no object is a colour or a number. -/
theorem decodeColor_same (m : TuyaDpMapping) {v w : Json} (h : v.Same w) :
    m.decodeColor v = m.decodeColor w := by
  cases h <;> rfl

theorem scaleFromDp_same (name : String) (low high : Nat) {v w : Json} (h : v.Same w) :
    scaleFromDp name low high v = scaleFromDp name low high w := by
  cases h <;> rfl

/-- A light is shown by the same values, read back. -/
theorem shows_same {m : TuyaDpMapping} {dps dps' : Dps} {light : Light} (h : SameDps dps dps')
    (hs : Shows m dps light) : Shows m dps' light := by
  refine ⟨?_, ?_, ?_, ?_⟩
  · obtain ⟨w, hw, hsame⟩ := h.get?_some hs.power
    cases hsame
    exact hw
  · obtain ⟨v, c, hv, hc, hl⟩ := hs.rgb
    obtain ⟨w, hw, hsame⟩ := h.get?_some hv
    exact ⟨w, c, hw, (decodeColor_same m hsame).symm.trans hc, hl⟩
  · obtain ⟨v, n, hv, hn, hl⟩ := hs.brightness
    obtain ⟨w, hw, hsame⟩ := h.get?_some hv
    exact ⟨w, n, hw, (scaleFromDp_same _ _ _ hsame).symm.trans hn, hl⟩
  · have hwhite : whiteOfDps dps' m = whiteOfDps dps m := by
      unfold whiteOfDps
      cases hm : m.white with
      | none => rfl
      | some x =>
        dsimp only
        cases hv : dps.get? x.dp with
        | none => rw [h.get?_none hv]
        | some v =>
          obtain ⟨w, hw, hsame⟩ := h.get?_some hv
          rw [hw]
          dsimp only
          unfold TuyaDpMapping.whiteFromDp
          rw [hm]
          dsimp only
          rw [scaleFromDp_same _ _ _ hsame]
    rw [hwhite]
    exact hs.white

/-- What a write sends is written and read back as a Python value. -/
theorem plain_controlBody (d : TuyaDeviceConfig) (now : Int) {values : Dps}
    (h : ∀ p ∈ values.items, isDataPoint p = true) : (controlBody d now values.items).Plain := by
  have hdps := plain_dpsBody fun p hp => reportable_of_isDataPoint (h p hp)
  unfold controlBody
  split
  · refine .obj (show ["protocol", "t", "data"].Nodup by decide) fun q hq => ?_
    simp only [List.mem_cons, List.not_mem_nil, or_false] at hq
    rcases hq with rfl | rfl | rfl
    · exact .int 5
    · exact .int now
    · refine .obj (List.nodup_singleton _) fun r hr => ?_
      rw [List.mem_singleton.mp hr]
      exact hdps
  · refine .obj (show ["devId", "uid", "t", "dps"].Nodup by decide) fun q hq => ?_
    simp only [List.mem_cons, List.not_mem_nil, or_false] at hq
    rcases hq with rfl | rfl | rfl | rfl
    · exact .str d.deviceId
    · exact .str d.deviceId
    · exact .int now
    · exact hdps

end DataPoints

end Linker.Remote
