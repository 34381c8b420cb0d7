import OpenHdoLinker.Tuya.Announcements

/-!
# The sockets of a scan

`_discover_sync` with every call that touches a socket.  The operating system and the
network decide what each call does (`Replies`); the scan keeps the sockets it opened and
closed, and the two variables its `finally` block closes from.

A listener is in the list that is closed only after its three set-up calls, the sender is
in its variable from its creation on.

    NoLeak (discoverSync … ports fresh).2 ↔ SetUpSafe R.listener 0 ports   (noLeak_iff)
-/

namespace Linker.Sockets

open Py PyM Announcements

/-! ## Algorithm -/

/-- The sockets of a process in the order it creates them. -/
abbrev SocketId : Type := Nat

/-- What the calls on a listener do: `none` where they return. -/
structure ListenerReplies where
  created : Option PyErr
  optionSet : Option PyErr
  bound : Nat → Option PyErr
  unblocked : Option PyErr

/-- What the calls on a probe of `_discovery_local_ip` do. -/
structure ProbeReplies where
  created : Option PyErr
  connected : String × Nat → Option PyErr
  sockname : Except PyErr String

/-- What `sock.recvfrom` does for a readable socket. -/
inductive Received
  | datagram (data : Bytes) (address : String)
  | raises (error : PyErr)

/-- What every call on a socket does during one scan.  A round is what `select` gives, and the
clock ends the scan after the last of them. -/
structure Replies where
  listener : Nat → ListenerReplies
  senderCreated : Option PyErr
  senderOptionSet : Option PyErr
  senderBound : Option PyErr
  probe : Nat → ProbeReplies
  sent : Option PyErr
  rounds : List (Except PyErr (List Received))

/-- What `_discovery_local_ip` asks of a parsed address. -/
structure RouteAddress where
  version : Nat
  isLoopback : Bool
  isUnspecified : Bool

/-- The sockets opened and closed so far, and the local variables. -/
structure ScanState where
  opened : Nat
  closed : List SocketId
  sockets : List SocketId
  sender : Option SocketId
  sent : List (Bytes × String × Nat)
  found : Dict DiscoveryId String

def fresh : ScanState := ⟨0, [], [], none, [], Dict.empty⟩

/-- A call that returns nothing. -/
def reply (failure : Option PyErr) : PyM ScanState Unit :=
  match failure with
  | none => pure ()
  | some e => raise e

/-- `socket.socket(socket.AF_INET, socket.SOCK_DGRAM)`. -/
def newSocket (failure : Option PyErr) : PyM ScanState SocketId := do
  reply failure
  let s ← get
  modify fun s => { s with opened := s.opened + 1 }
  pure s.opened

/-- `sock.close()`. -/
def close (sock : SocketId) : PyM ScanState Unit :=
  modify fun s => { s with closed := sock :: s.closed }

/-- One turn of `for port in self.discovery_options.ports`. -/
def listen (r : ListenerReplies) (port : Nat) : PyM ScanState Unit := do
  let sock ← newSocket r.created
  reply r.optionSet
  reply (r.bound port)
  reply r.unblocked
  modify fun s => { s with sockets := s.sockets ++ [sock] }

def listenAll (replies : Nat → ListenerReplies) : Nat → List Nat → PyM ScanState Unit
  | _, [] => pure ()
  | i, port :: ports => do
    listen (replies i) port
    listenAll replies (i + 1) ports

section Scan

variable (C : TuyaCrypto) (J : JsonLib) (floatRepr : ℚ → List Char)
  (ipAddress : String → Option RouteAddress) (broadcast : String) (nonce : Bytes) (R : Replies)

/-- One turn of `_discovery_local_ip`. -/
def probeTarget (r : ProbeReplies) (target : String × Nat) : PyM ScanState (Option String) := do
  let probe ← newSocket r.created
  tryFinally
    (tryExcept
      (do
        reply (r.connected target)
        let address ← outcome r.sockname
        match ipAddress address with
        | none => raise (valueError (reprOf (some address) ++
            " does not appear to be an IPv4 or IPv6 address"))
        | some parsed =>
          pure (if parsed.version = 4 ∧ parsed.isLoopback = false ∧ parsed.isUnspecified = false then
            some address else none))
      fun e => if e.isA .OSError then pure none else raise e)
    (close probe)

/-- `_discovery_local_ip(broadcast_address)`. -/
def localIp : PyM ScanState (Option String) := do
  match ← probeTarget ipAddress (R.probe 0) (broadcast, 7000) with
  | some address => pure (some address)
  | none => probeTarget ipAddress (R.probe 1) ("192.0.2.1", 1)

def openSender : PyM ScanState Unit := do
  let sender ← newSocket R.senderCreated
  modify fun s => { s with sender := some sender }
  reply R.senderOptionSet
  reply R.senderBound

/-- The request a device answers with its announcement. -/
def request (ip : String) : Bytes :=
  frame6699 C nonce 0 commandRequestDeviceInfo
    (dumpsBytes floatRepr (.obj [("from", .str "app"), ("ip", .str ip)])) (discoveryUdpKey C)

/-- `sender.sendto(request, (broadcast_address, 7000))`. -/
def sendRequest (ip : String) : PyM ScanState Unit := do
  reply R.sent
  modify fun s => { s with sent := s.sent ++ [(request C floatRepr nonce ip, broadcast, 7000)] }

/-- The request, where there is a route to send it on. -/
def announce : PyM ScanState Unit := do
  match ← localIp ipAddress broadcast R with
  | none => pure ()
  | some ip => sendRequest C floatRepr broadcast nonce R ip

/-- One readable socket. -/
def receive : Received → PyM ScanState Unit
  | .raises e => if e.isA .OSError then pure () else raise e
  | .datagram data address => do
    let s ← get
    let found ← outcome (scanStep C J s.found (.datagram data address))
    modify fun s => { s with found := found }

def receiveAll : List Received → PyM ScanState Unit
  | [] => pure ()
  | received :: rest => do
    receive C J received
    receiveAll rest

/-- `while time.monotonic() < deadline`. -/
def selectLoop : List (Except PyErr (List Received)) → PyM ScanState Unit
  | [] => pure ()
  | round :: rounds => do
    let readable ← outcome round
    receiveAll C J readable
    selectLoop rounds

/-- What follows the listeners in the `try` block. -/
def scan : PyM ScanState (List DiscoveryItem) := do
  openSender R
  announce C floatRepr ipAddress broadcast nonce R
  selectLoop C J R.rounds
  let s ← get
  pure (s.found.items.map fun p => ⟨p.1, p.2⟩)

/-- The `finally` block. -/
def closeAll : PyM ScanState Unit :=
  modify fun s => { s with closed := s.closed ++ s.sockets ++ s.sender.toList }

/-- `_discover_sync(timeout_s)`. -/
def discoverSync (ports : List Nat) : PyM ScanState (List DiscoveryItem) :=
  tryFinally
    (do
      listenAll R.listener 0 ports
      scan C J floatRepr ipAddress broadcast nonce R)
    closeAll

end Scan

/-! ## Statement -/

/-- Every socket that was created is closed. -/
def NoLeak (s : ScanState) : Prop := ∀ sock < s.opened, sock ∈ s.closed

/-- The calls between the creation of a listener and its place in the list return. -/
structure ListenerReplies.Ready (r : ListenerReplies) (port : Nat) : Prop where
  optionSet : r.optionSet = none
  bound : r.bound port = none
  unblocked : r.unblocked = none

/-- A listener that is created is set up, as long as all before it were created. -/
def SetUpSafe (replies : Nat → ListenerReplies) : Nat → List Nat → Prop
  | _, [] => True
  | i, port :: ports => (replies i).created = none →
      (replies i).Ready port ∧ SetUpSafe replies (i + 1) ports

/-! ## Lemmas -/

/-- What the `finally` block will have closed. -/
def Covered (s : ScanState) : Prop :=
  ∀ sock < s.opened, sock ∈ s.closed ∨ sock ∈ s.sockets ∨ s.sender = some sock

theorem noLeak_closeAll (s : ScanState) : NoLeak (closeAll s).2 ↔ Covered s := by
  unfold closeAll NoLeak Covered
  simp only [modify_apply, List.mem_append, Option.mem_toList, or_assoc]

/-! ### Listeners -/

/-- The state between two listeners: all that is open is in the list. -/
structure Listening (s : ScanState) : Prop where
  closed : s.closed = []
  sender : s.sender = none
  sockets : s.sockets = List.range s.opened

theorem Listening.covered {s : ScanState} (h : Listening s) : Covered s := by
  intro sock hsock
  refine .inr (.inl ?_)
  rw [h.sockets]
  exact List.mem_range.mpr hsock

variable {r : ListenerReplies} {port : Nat}

theorem listen_not_created {e : PyErr} (h : r.created = some e) (s : ScanState) :
    listen r port s = (.error e, s) := by
  unfold listen newSocket
  rw [h]
  rfl

/-- The state after the creation of a socket. -/
def ScanState.create (s : ScanState) : ScanState := { s with opened := s.opened + 1 }

theorem listen_ready (hcreated : r.created = none) (h : r.Ready port) (s : ScanState) :
    listen r port s = (.ok (), { s.create with sockets := s.sockets ++ [s.opened] }) := by
  unfold listen newSocket
  rw [hcreated, h.optionSet, h.bound, h.unblocked]
  rfl

/-- A listener that is not set up is in no variable. -/
theorem listen_lost (hcreated : r.created = none) (h : ¬ r.Ready port) (s : ScanState) :
    ∃ e, listen r port s = (.error e, s.create) := by
  unfold listen newSocket
  rw [hcreated]
  cases hoption : r.optionSet with
  | some e => exact ⟨e, rfl⟩
  | none =>
    cases hbound : r.bound port with
    | some e => exact ⟨e, rfl⟩
    | none =>
      cases hunblocked : r.unblocked with
      | some e => exact ⟨e, rfl⟩
      | none => exact absurd ⟨hoption, hbound, hunblocked⟩ h

theorem listening_next {s : ScanState} (h : Listening s) :
    Listening { s.create with sockets := s.sockets ++ [s.opened] } := by
  refine ⟨h.closed, h.sender, ?_⟩
  change s.sockets ++ [s.opened] = List.range (s.opened + 1)
  rw [h.sockets, List.range_succ]

theorem not_covered_create {s : ScanState} (h : Listening s) : ¬ Covered s.create := by
  intro hc
  have hlast := hc s.opened (Nat.lt_succ_self _)
  change s.opened ∈ s.closed ∨ s.opened ∈ s.sockets ∨ s.sender = some s.opened at hlast
  rw [h.closed, h.sender, h.sockets] at hlast
  simp at hlast

variable {replies : Nat → ListenerReplies}

/-- Whether the listeners are set up or not, those that are open are in the list. -/
theorem listenAll_safe {i : Nat} {ports : List Nat} (h : SetUpSafe replies i ports) {s : ScanState}
    (hs : Listening s) : Listening (listenAll replies i ports s).2 := by
  induction ports generalizing i s with
  | nil => exact hs
  | cons port ports ih =>
    unfold listenAll
    cases hcreated : (replies i).created with
    | some e =>
      rw [bind_error (listen_not_created hcreated s)]
      exact hs
    | none =>
      obtain ⟨hready, hrest⟩ := h hcreated
      rw [bind_ok (listen_ready hcreated hready s)]
      exact ih hrest (listening_next hs)

/-- The first listener that fails after its creation ends the scan, still open. -/
theorem listenAll_leaks {i : Nat} {ports : List Nat} (h : ¬ SetUpSafe replies i ports)
    {s : ScanState} (hs : Listening s) :
    ∃ e s', listenAll replies i ports s = (.error e, s') ∧ ¬ Covered s' := by
  induction ports generalizing i s with
  | nil => exact absurd trivial h
  | cons port ports ih =>
    unfold listenAll
    unfold SetUpSafe at h
    rw [Classical.not_imp] at h
    obtain ⟨hcreated, hrest⟩ := h
    by_cases hready : (replies i).Ready port
    · rw [bind_ok (listen_ready hcreated hready s)]
      exact ih (fun hsafe => hrest ⟨hready, hsafe⟩) (listening_next hs)
    · obtain ⟨e, he⟩ := listen_lost hcreated hready s
      exact ⟨e, s.create, bind_error he, not_covered_create hs⟩

/-! ### The rest of the scan -/

theorem preserves_reply {I : ScanState → Prop} (failure : Option PyErr) :
    Preserves I (reply failure) := by
  cases failure with
  | none => exact preserves_pure ()
  | some e => exact preserves_raise e

section Scan

variable {C : TuyaCrypto} {J : JsonLib} {floatRepr : ℚ → List Char}
  {ipAddress : String → Option RouteAddress} {broadcast : String} {nonce : Bytes} {R : Replies}

/-- The state after a probe: its socket is open no longer. -/
def ScanState.probed (s : ScanState) : ScanState := { s.create with closed := s.opened :: s.closed }

/-- A probe that is created is closed, whatever happens to it. -/
theorem probeTarget_state (r : ProbeReplies) (target : String × Nat) (s : ScanState) :
    (probeTarget ipAddress r target s).2 = s ∨ (probeTarget ipAddress r target s).2 = s.probed := by
  unfold probeTarget newSocket
  cases hcreated : r.created with
  | some e => exact .inl rfl
  | none =>
    refine .inr ?_
    change (tryFinally _ (close s.opened) s.create).2 = s.probed
    rw [tryFinally_snd]
    generalize hbody : (tryExcept _ _ s.create).2 = t
    have ht : t = s.create := by
      rw [← hbody]
      refine preserves_tryExcept (I := fun t => t = s.create) ?_ ?_ s.create rfl
      · refine preserves_bind (preserves_reply _) fun _ => ?_
        refine preserves_bind (preserves_outcome _) fun address => ?_
        cases ipAddress address with
        | none => exact preserves_raise _
        | some parsed => exact preserves_pure _
      · intro e
        split
        · exact preserves_pure none
        · exact preserves_raise e
    rw [ht]
    rfl

/-- All that the request changes: the probes come and go, and it may be sent. -/
theorem preserves_announce {I : ScanState → Prop} (hprobed : ∀ s, I s → I s.probed)
    (hsent : ∀ s sent, I s → I { s with sent := sent }) :
    Preserves I (announce C floatRepr ipAddress broadcast nonce R) := by
  have hprobe (r : ProbeReplies) (target : String × Nat) :
      Preserves I (probeTarget ipAddress r target) := by
    intro s hs
    rcases probeTarget_state r target s with h | h
    · rw [h]
      exact hs
    · rw [h]
      exact hprobed s hs
  have hlocal : Preserves I (localIp ipAddress broadcast R) := by
    refine preserves_bind (hprobe _ _) fun address => ?_
    cases address with
    | none => exact hprobe _ _
    | some address => exact preserves_pure _
  refine preserves_bind hlocal fun address => ?_
  cases address with
  | none => exact preserves_pure ()
  | some ip =>
    exact preserves_bind (preserves_reply _) fun _ => preserves_modify fun s hs => hsent s _ hs

theorem covered_probed {s : ScanState} (hs : Covered s) : Covered s.probed := by
  intro sock hsock
  rcases Nat.lt_succ_iff_lt_or_eq.mp hsock with hold | rfl
  · rcases hs sock hold with hclosed | hrest
    · exact .inl (List.mem_cons_of_mem _ hclosed)
    · exact .inr hrest
  · exact .inl List.mem_cons_self

theorem preserves_receive (received : Received) : Preserves Covered (receive C J received) := by
  cases received with
  | raises e =>
    rw [receive]
    split
    · exact preserves_pure ()
    · exact preserves_raise e
  | datagram data address =>
    refine preserves_bind preserves_get fun s => ?_
    exact preserves_bind (preserves_outcome _) fun found => preserves_modify fun _ h => h

theorem preserves_receiveAll (received : List Received) :
    Preserves Covered (receiveAll C J received) := by
  induction received with
  | nil => exact preserves_pure ()
  | cons r rs ih => exact preserves_bind (preserves_receive r) fun _ => ih

theorem preserves_selectLoop (rounds : List (Except PyErr (List Received))) :
    Preserves Covered (selectLoop C J rounds) := by
  induction rounds with
  | nil => exact preserves_pure ()
  | cons round rounds ih =>
    refine preserves_bind (preserves_outcome round) fun readable => ?_
    exact preserves_bind (preserves_receiveAll readable) fun _ => ih

/-- The sender is in its variable before anything else can raise. -/
theorem openSender_covered {s : ScanState} (hs : Listening s) : Covered (openSender R s).2 := by
  unfold openSender newSocket
  cases hcreated : R.senderCreated with
  | some e => exact hs.covered
  | none =>
    change Covered ((reply R.senderOptionSet >>= fun _ => reply R.senderBound)
      { s.create with sender := some s.opened }).2
    refine preserves_bind (preserves_reply _) (fun _ => preserves_reply _) _ ?_
    intro sock hsock
    rcases Nat.lt_succ_iff_lt_or_eq.mp hsock with hold | rfl
    · rcases hs.covered sock hold with hclosed | hlist | hsender
      · exact .inl hclosed
      · exact .inr (.inl hlist)
      · rw [hs.sender] at hsender
        cases hsender
    · exact .inr (.inr rfl)

theorem scan_covered {s : ScanState} (hs : Listening s) :
    Covered (scan C J floatRepr ipAddress broadcast nonce R s).2 := by
  refine bind_after (openSender_covered hs) fun _ => ?_
  refine preserves_bind (preserves_announce (fun _ => covered_probed) fun _ _ h => h) fun _ => ?_
  refine preserves_bind (preserves_selectLoop R.rounds) fun _ => ?_
  exact preserves_bind preserves_get fun _ => preserves_pure _

/-! ### What a scan returns -/

/-- The receive loop on what a socket gave. -/
def Received.event : Received → ScanEvent
  | .datagram data address => .datagram data address
  | .raises _ => .receiveError

/-- What the sockets gave in all rounds. -/
def Replies.events (R : Replies) : List ScanEvent :=
  (R.rounds.flatMap fun round => round.toOption.getD []).map Received.event

theorem receive_ok {received : Received} {s s' : ScanState}
    (h : receive C J received s = (.ok (), s')) :
    scanStep C J s.found received.event = .ok s'.found := by
  cases received with
  | raises e =>
    rw [receive] at h
    split at h
    · cases h
      rfl
    · cases h
  | datagram data address =>
    obtain ⟨found, hfound, hset⟩ := outcome_bind_run_ok (show (outcome (scanStep C J s.found
      (.datagram data address)) >>= fun found => modify fun s => { s with found := found }) s =
        (.ok (), s') from h)
    cases hset
    exact hfound

theorem receiveAll_ok {received : List Received} {s s' : ScanState}
    (h : receiveAll C J received s = (.ok (), s')) :
    (received.map Received.event).foldlM (scanStep C J) s.found = .ok s'.found := by
  induction received generalizing s with
  | nil =>
    cases h
    rfl
  | cons r rs ih =>
    obtain ⟨u, t, hr, hrest⟩ := bind_run_ok h
    rw [List.map_cons, List.foldlM_cons, receive_ok hr]
    exact ih hrest

theorem selectLoop_ok {rounds : List (Except PyErr (List Received))} {s s' : ScanState}
    (h : selectLoop C J rounds s = (.ok (), s')) :
    ((rounds.flatMap fun round => round.toOption.getD []).map Received.event).foldlM (scanStep C J)
      s.found = .ok s'.found := by
  induction rounds generalizing s with
  | nil =>
    cases h
    rfl
  | cons round rounds ih =>
    obtain ⟨readable, hround, h⟩ := outcome_bind_run_ok h
    obtain ⟨u, t, hreadable, hrest⟩ := bind_run_ok h
    subst hround
    rw [List.flatMap_cons, List.map_append, List.foldlM_append]
    change ((readable.map Received.event).foldlM (scanStep C J) s.found >>= _) = _
    rw [receiveAll_ok hreadable]
    exact ih hrest

/-! Up to the receive loop nothing is found. -/

/-- Nothing is found yet. -/
def NoneFound (s : ScanState) : Prop := s.found = Dict.empty

theorem noneFound_newSocket (failure : Option PyErr) : Preserves NoneFound (newSocket failure) := by
  refine preserves_bind (preserves_reply failure) fun _ => ?_
  refine preserves_bind preserves_get fun s => ?_
  exact preserves_bind (preserves_modify fun _ h => h) fun _ => preserves_pure _

theorem noneFound_listenAll (i : Nat) (ports : List Nat) :
    Preserves NoneFound (listenAll replies i ports) := by
  induction ports generalizing i with
  | nil => exact preserves_pure ()
  | cons port ports ih =>
    refine preserves_bind ?_ fun _ => ih (i + 1)
    refine preserves_bind (noneFound_newSocket _) fun sock => ?_
    refine preserves_bind (preserves_reply _) fun _ => ?_
    refine preserves_bind (preserves_reply _) fun _ => ?_
    exact preserves_bind (preserves_reply _) fun _ => preserves_modify fun _ h => h

theorem noneFound_openSender : Preserves NoneFound (openSender R) := by
  refine preserves_bind (noneFound_newSocket _) fun sock => ?_
  refine preserves_bind (preserves_modify fun _ h => h) fun _ => ?_
  exact preserves_bind (preserves_reply _) fun _ => preserves_reply _

/-- A scan that returns gives what the receive loop makes of the datagrams its sockets gave. -/
theorem discoverSync_items {ports : List Nat} {items : List DiscoveryItem}
    (h : (discoverSync C J floatRepr ipAddress broadcast nonce R ports fresh).1 = .ok items) :
    Linker.discoverSync C J R.events = .ok items := by
  unfold discoverSync PyM.tryFinally at h
  generalize hbody : (listenAll R.listener 0 ports >>= fun _ =>
    scan C J floatRepr ipAddress broadcast nonce R) fresh = out at h
  obtain ⟨r, s⟩ := out
  change r = .ok items at h
  subst h
  obtain ⟨_, s₁, hlisten, hbody⟩ := bind_run_ok hbody
  obtain ⟨_, s₂, hsender, hbody⟩ := bind_run_ok hbody
  obtain ⟨_, s₃, hannounce, hbody⟩ := bind_run_ok hbody
  obtain ⟨_, s₄, hloop, hbody⟩ := bind_run_ok hbody
  have hfresh : NoneFound fresh := rfl
  have h₁ : NoneFound s₁ := (noneFound_listenAll 0 ports).run hfresh hlisten
  have h₂ : NoneFound s₂ := noneFound_openSender.run h₁ hsender
  have hprobes : Preserves NoneFound (announce C floatRepr ipAddress broadcast nonce R) :=
    preserves_announce (fun _ h => h) fun _ _ h => h
  have h₃ : s₃.found = Dict.empty := hprobes.run h₂ hannounce
  have hfound := selectLoop_ok hloop
  rw [h₃] at hfound
  unfold Linker.discoverSync Replies.events
  rw [hfound]
  cases hbody
  rfl

end Scan

/-! ## Main result -/

/-- **A scan leaks no socket**, exactly when no listener fails between its creation and its place in
the list: whatever else raises, and wherever, all that was created is closed. -/
theorem noLeak_iff (C : TuyaCrypto) (J : JsonLib) (floatRepr : ℚ → List Char)
    (ipAddress : String → Option RouteAddress) (broadcast : String) (nonce : Bytes) (R : Replies)
    (ports : List Nat) :
    NoLeak (discoverSync C J floatRepr ipAddress broadcast nonce R ports fresh).2 ↔
      SetUpSafe R.listener 0 ports := by
  have hfresh : Listening fresh := ⟨rfl, rfl, rfl⟩
  unfold discoverSync
  rw [tryFinally_snd, noLeak_closeAll]
  constructor
  · intro hcovered
    by_contra hsafe
    obtain ⟨e, s, hlisten, hlost⟩ := listenAll_leaks hsafe hfresh
    rw [bind_error hlisten] at hcovered
    exact hlost hcovered
  · intro hsafe
    have hlistening := listenAll_safe hsafe hfresh
    rw [bind_apply]
    cases hlisten : listenAll R.listener 0 ports fresh with
    | mk r s =>
      rw [hlisten] at hlistening
      cases r with
      | error e => exact hlistening.covered
      | ok u => exact scan_covered hlistening

/-- Another program holds port 6667. -/
def portTaken : Replies where
  listener _ := ⟨none, none, fun port =>
    if port = 6667 then some ⟨.OSError, "address already in use"⟩ else none, none⟩
  senderCreated := none
  senderOptionSet := none
  senderBound := none
  probe _ := ⟨none, fun _ => none, .ok "192.168.1.10"⟩
  sent := none
  rounds := []

/-- The second listener cannot bind, and is never closed. -/
theorem bind_failure_leaks : ¬ NoLeak (discoverSync .plain digitLimited (fun _ => [])
    (fun _ => some ⟨4, false, false⟩) "255.255.255.255" [] portTaken [6666, 6667, 7000] fresh).2 := by
  intro h
  have hlost := h 1 (Nat.lt_succ_self 1)
  change 1 ∈ [0] at hlost
  simp at hlost

end Linker.Sockets
