import OpenHdoLinker.Lib.Runs
import OpenHdoLinker.Boundary.Actuation
import OpenHdoLinker.Tuya.Handshake
import OpenHdoLinker.Tuya.Lamp

/-!
# The light behind the wire

The boundary over the Tuya driver, the driver's exchanges with a lamp, and the lamp, which
may also be changed from elsewhere.  Connections, requests and replies are lost at will; a
request that is lost is lost for good.  Opposite is a light and what is asked of it.

    every run of boundary, wire and lamp is a run of the light     (light_over_the_wire)

An applied command has done to the lamp what it says and reports the light it has left, a
failed one has done so or nothing, a poll reports the light, and no push, no scan and no
repeated command touches it.
-/

namespace Linker.Remote

open Py

/-! ## Algorithm -/

structure State where
  system : System TuyaState
  link : Exchange.Link
  lamp : Lamp

/-- What there is to see of a step: the lamp changed from elsewhere, what a poll returned, or a
command run on the device with the state its result reports. -/
inductive Seen
  | quiet
  | touched (light : Light)
  | polled (state : Option LightState)
  | commanded (op : LightOp) (report : Option JsonObj)

def lightOp : Operation → LightOp
  | .turnOn => .turnOn none none none
  | .turnOff => .turnOff
  | .setBrightness n => .setBrightness n
  | .setRgb c => .setRgb c

/-- The operation a message runs on the device, unless its key is in the journal. -/
def operationOf (L : PyLib) (b : BoundaryState) (m : Envelope) : Option Operation :=
  match admitCommand L b.lightId m with
  | .ok (.ok metadata) =>
    match b.journal.get? metadata.idempotencyKey with
    | some _ => none
    | none => (planOperation m).toOption
  | _ => none

/-- The state of an applied result. -/
def reportOf : Except PyErr (Envelope ⊕ List Envelope) → Option JsonObj
  | .ok (.inl result) =>
    if (getItem result.payload "status").str? = some "applied" then
      (getItem result.payload "state").obj?
    else none
  | _ => none

/-- What there is to see of a message and the result it is answered with. -/
def seen (L : PyLib) (b : BoundaryState) (m : Envelope)
    (result : Except PyErr (Envelope ⊕ List Envelope)) : Seen :=
  if m.type = "discovery.start" then .quiet
  else
    match operationOf L b m with
    | some op => .commanded (lightOp op) (reportOf result)
    | none => .quiet

/-- The requests a step of the driver has made. -/
def newRequests (s t : System TuyaState) : List (Nat × Json) :=
  t.driver.requests.drop s.driver.requests.length

section Machine

variable (L : PyLib) (config : LinkerConfig) (stamps : Nat → Stamp)
variable (C : TuyaCrypto) (ipAddress : String → Option IpAddress) (floatRepr : ℚ → List Char)
variable (d : TuyaDeviceConfig) (m : TuyaDpMapping)

/-- Requests exchanged with the lamp, one after the other, and what the exchanges return. -/
inductive Served : Exchange.Link → Lamp → List (Nat × Json) → List (Except PyErr Bytes) →
    Exchange.Link → Lamp → Prop
  | nil {k : Exchange.Link} {l : Lamp} {outs : List (Except PyErr Bytes)} : Served k l [] outs k l
  | cons {k k' k'' : Exchange.Link} {l l' l'' : Lamp} {command : Nat} {body : Json}
      {rest : List (Nat × Json)} {out : Except PyErr Bytes} {outs : List (Except PyErr Bytes)}
      (script : Nat → Exchange.Attempt)
      (hexchange : Exchange.exchange C floatRepr d.link script command body k = (out, k'))
      (hcarried : Carried C L.toJsonLib floatRepr d.link command body k
        (Exchange.attempts d.link script) l l')
      (hrest : Served k' l' rest outs k'' l'') :
      Served k l ((command, body) :: rest) (out :: outs) k'' l''

/-- A message of the server other than a pairing, a poll, a push of the device, a change of the lamp
from elsewhere, and the connection in another state. -/
inductive Step : State → Seen → State → Prop
  | message {s t : State} {e : Envelope} {timedOut : Bool}
      {scan : Except PyErr (List DiscoveryItem)} {pairing : PairOutcomes} {write : WriteOutcomes}
      {result : Except PyErr (Envelope ⊕ List Envelope)} (hpairing : e.type ≠ "pairing.start")
      (hrun : handle L config stamps (tuyaDriver C L.toJsonLib ipAddress scan pairing write) timedOut
        e s.system = (result, t.system))
      (hserved : Served L C floatRepr d s.link s.lamp (newRequests s.system t.system)
        [write.ack, write.reply] t.link t.lamp) :
      Step s (seen L s.system.boundary e result) t
  | poll {s t : State} {reply : Except PyErr Bytes} {state : Except PyErr LightState}
      {driver : TuyaState}
      (hrun : pollState L.toJsonLib s.system.boundary.deviceId reply s.system.driver =
        (state, driver))
      (hsystem : t.system = { s.system with driver := driver })
      (hserved : Served L C floatRepr d s.link s.lamp (newRequests s.system t.system) [reply]
        t.link t.lamp) :
      Step s (.polled state.toOption) t
  | push {s : State} (sessionKey : Option Bytes) (frame : TuyaFrame) :
      Step s .quiet { s with system := { s.system with
        driver := (Life.statusState C L.toJsonLib sessionKey frame s.system.driver).2 } }
  | touched {s : State} (lamp : Lamp) (light : Light) (hshows : Shows m lamp.dps light) :
      Step s (.touched light) { s with lamp := lamp }
  | relinked {s : State} (link : Exchange.Link) : Step s .quiet { s with link := link }

end Machine

/-! ## Statement -/

/-- The payload of a state of the light. -/
def IsReport (report : JsonObj) (light : Light) : Prop :=
  ∃ (state : LightState) (lightId : Option String),
    state.toPayload lightId = .ok report ∧ state.light = light

/-- What the light does, and says, when it is asked. -/
inductive LightStep : Light → Seen → Light → Prop
  | quiet (l : Light) : LightStep l .quiet l
  | touched (l l' : Light) : LightStep l (.touched l') l'
  | polled {l : Light} {state : Option LightState} (h : ∀ s ∈ state, s.light = l) :
      LightStep l (.polled state) l
  | applied {l : Light} {op : LightOp} {report : JsonObj} (h : IsReport report (op.apply l)) :
      LightStep l (.commanded op (some report)) (op.apply l)
  | failed {l l' : Light} {op : LightOp} (h : l' = l ∨ l' = op.apply l) :
      LightStep l (.commanded op none) l'

/-- The driver and the boundary are bound to the device, and the lamp shows the light. -/
structure Follows (d : TuyaDeviceConfig) (m : TuyaDpMapping) (s : State) (light : Light) : Prop where
  device : s.system.driver.device = some d
  bound : s.system.boundary.deviceId = some d.deviceId
  shows : Shows m s.lamp.dps light

/-! ## Lemmas -/

/-! ### Operations -/

section Operations

variable {m : TuyaDpMapping} {op : Operation}

theorem writtenValues_eq (m : TuyaDpMapping) (op : Operation) :
    Commands.writtenValues m op = opValues m (lightOp op) := by
  cases op with
  | turnOn => rfl
  | turnOff => rfl
  | setBrightness n => rfl
  | setRgb c => rfl

theorem lightOp_inRange {e : Envelope} (h : planOperation e = .ok op) : (lightOp op).InRange := by
  cases op with
  | turnOn => exact ⟨by simp, by simp⟩
  | turnOff => trivial
  | setRgb c => trivial
  | setBrightness n =>
    have hn : brightnessArg (getItem e.payload "brightness") = .ok n := by
      unfold planOperation at h
      split at h
      · split at h
        · next power _ => cases power <;> cases h
        · cases h
      · split at h
        · cases hb : brightnessArg (getItem e.payload "brightness") with
          | error x => rw [hb] at h; cases h
          | ok k => rw [hb] at h; cases h; rfl
        · cases hc : Rgb.fromPayload (getItem e.payload "rgb_color") with
          | error x => rw [hc] at h; cases h
          | ok c => rw [hc] at h; cases h
    unfold brightnessArg at hn
    split at hn
    · split at hn
      · next hrange => cases hn; exact hrange
      · cases hn
    · cases hn

theorem lightOp_white (op : Operation) : (lightOp op).wantsWhite = false := by
  cases op <;> rfl

/-- Asking twice is asking once. -/
theorem apply_apply (op : LightOp) (l : Light) : op.apply (op.apply l) = op.apply l := by
  cases op with
  | turnOn rgb brightness white =>
    cases rgb <;> cases brightness <;> cases white <;> rfl
  | turnOff => rfl
  | setBrightness n => rfl
  | setRgb c => rfl
  | setWhite n => rfl

theorem apply_iterate (op : LightOp) (l : Light) {n : Nat} (h : 0 < n) :
    op.apply^[n] l = op.apply l := by
  induction n with
  | zero => omega
  | succ n ih =>
    rw [Function.iterate_succ_apply']
    by_cases hn : 0 < n
    · rw [ih hn, apply_apply]
    · rw [Nat.eq_zero_of_not_pos hn]
      rfl

/-- An operation of the boundary writes one data point. -/
theorem writtenValues_single {vs : List (Nat × Json)} (h : Commands.writtenValues m op = .ok vs) :
    ∃ p, vs = [p] ∧ isDataPoint p = true := by
  cases op with
  | turnOn =>
    cases h
    exact ⟨_, rfl, isDataPoint_iff.mpr ⟨m.power_ok, rfl⟩⟩
  | turnOff =>
    cases h
    exact ⟨_, rfl, isDataPoint_iff.mpr ⟨m.power_ok, rfl⟩⟩
  | setRgb c =>
    cases h
    exact ⟨_, rfl, isDataPoint_iff.mpr ⟨m.color_ok, rfl⟩⟩
  | setBrightness n =>
    unfold Commands.writtenValues at h
    dsimp only at h
    cases hv : m.brightnessToDp n with
    | error e => rw [hv] at h; cases h
    | ok v =>
      rw [hv] at h
      cases h
      exact ⟨_, rfl, isDataPoint_iff.mpr ⟨m.brightness_ok, rfl⟩⟩

end Operations

/-! ### What the driver asks -/

section Driver

variable {J : JsonLib} {d : TuyaDeviceConfig} {m : TuyaDpMapping} {t : TuyaState}

/-- The request of a poll. -/
def pollRequest (d : TuyaDeviceConfig) (m : TuyaDpMapping) : Nat × Json :=
  (pollCommand d.link.protocolVersion, pollBody d.link.protocolVersion m)

/-- The requests of a write: the poll follows an acknowledgement. -/
def writeRequests (d : TuyaDeviceConfig) (m : TuyaDpMapping) (w : WriteOutcomes)
    (vs : List (Nat × Json)) : List (Nat × Json) :=
  Actuation.controlOf d w.now vs :: match w.ack with
    | .ok _ => [pollRequest d m]
    | .error _ => []

/-- The driver has the device and has made these requests. -/
def Asked (d : TuyaDeviceConfig) (requests : List (Nat × Json)) (t : TuyaState) : Prop :=
  t.device = some d ∧ t.requests = requests

theorem mappingOf_some (hm : d.dps = some m) : mappingOf d = .ok m := by
  unfold mappingOf
  rw [hm]

/-- A poll of the device asks for its data points, and nothing else. -/
theorem pollState_asks {requests : List (Nat × Json)} (ht : Asked d requests t)
    (hm : d.dps = some m) (reply : Except PyErr Bytes) :
    Asked d (requests ++ [pollRequest d m]) (pollState J (some d.deviceId) reply t).2 := by
  obtain ⟨hd, rfl⟩ := ht
  unfold pollState
  rw [PyM.bind_ok (checkDevice_configured t d hd), mappingOf_some hm, PyM.outcome_ok_bind]
  refine PyM.bind_after (I := Asked d _) ⟨hd, rfl⟩ fun payload => ?_
  refine PyM.preserves_bind (PyM.preserves_outcome _) fun dps => ?_
  refine PyM.preserves_bind (PyM.preserves_modify fun _ h => h) fun _ => ?_
  refine PyM.preserves_bind PyM.preserves_get fun u => ?_
  refine PyM.preserves_bind (PyM.preserves_outcome _) fun state => ?_
  exact PyM.preserves_bind (PyM.preserves_modify fun _ h => h) fun _ => PyM.preserves_pure _

theorem writeCommand_asks (values : TuyaDpMapping → Except PyErr (List (Nat × Json)))
    {requests vs : List (Nat × Json)} (ht : Asked d requests t) (hm : d.dps = some m)
    (hvs : values m = .ok vs) (w : WriteOutcomes) :
    Asked d (requests ++ writeRequests d m w vs)
      (writeCommand J w (some d.deviceId) values t).2 := by
  obtain ⟨hd, rfl⟩ := ht
  rw [writeCommand_values hd hm, hvs, PyM.outcome_ok_bind]
  unfold setValues writeRequests
  rw [PyM.bind_apply, exchange_apply]
  cases w.ack with
  | error e => exact ⟨hd, rfl⟩
  | ok ack =>
    have hpoll := pollState_asks (J := J) (t := { t with
      requests := t.requests ++ [Actuation.controlOf d w.now vs] }) ⟨hd, rfl⟩ hm w.reply
    rw [List.append_assoc] at hpoll
    refine PyM.bind_after (I := Asked d _) hpoll fun state => ?_
    exact PyM.preserves_bind (PyM.preserves_modify fun _ h => h) fun _ => PyM.preserves_pure _

theorem revisioned_light (previous : Option LightState) (state : LightState) :
    (revisioned previous state).light = state.light := by
  cases previous <;> rfl

/-- The lamp's report maps to the light the lamp shows. -/
theorem mapped_light {floatRepr : ℚ → List Char} {l : Lamp} {light : Light} {dps : Dps}
    {mapped : LightState} (hjson : ∀ v, Json.Plain v → J.ReadsBack floatRepr v)
    (hshows : Shows m l.dps light) (hparse : parseDps J (l.report floatRepr) = .ok dps)
    (hmapped : stateFromDps d.deviceId dps m = .ok mapped) : mapped.light = light := by
  obtain ⟨read, hread, hsame⟩ := parseDps_report l hjson
  cases hread.symm.trans hparse
  obtain ⟨x, hx, hlight⟩ := state_of_shows d.id_ok.1 (shows_same hsame hshows)
  cases hx.symm.trans hmapped
  exact hlight

end Driver

/-! ### What the lamp makes of it -/

section Lamp

variable {L : PyLib} {C : TuyaCrypto} {floatRepr : ℚ → List Char} {d : TuyaDeviceConfig}
  {m : TuyaDpMapping} {k k' : Exchange.Link} {l l' : Lamp} {light : Light}

theorem Served.none {outs : List (Except PyErr Bytes)}
    (h : Served L C floatRepr d k l [] outs k' l') : l' = l := by
  cases h
  rfl

/-- The first of some requests. -/
theorem Served.head {command : Nat} {body : Json} {rest : List (Nat × Json)}
    {out : Except PyErr Bytes} {outs : List (Except PyErr Bytes)}
    (hrequest : IsRequest d.link command)
    (h : Served L C floatRepr d k l ((command, body) :: rest) (out :: outs) k' l') :
    ∃ n x y, Served L C floatRepr d y x rest outs k' l' ∧
      x = (fun z : Lamp => z.served L.toJsonLib command (dumpsBytes floatRepr body))^[n] l ∧
      ∀ p, out = .ok p → 0 < n ∧ (command ∈ queryCommands → p = x.report floatRepr) := by
  cases h with
  | @cons _ k₁ _ _ l₁ _ _ _ _ _ _ script hexchange hcarried hrest =>
    obtain ⟨n, hn, hreturned⟩ := hcarried.served hrequest "None"
    refine ⟨n, l₁, k₁, hrest, hn, fun p hp => hreturned p ?_⟩
    have hloop : Exchange.exchangeLoop C floatRepr d.link command body "None"
        (Exchange.attempts d.link script) k = (out, k₁) := hexchange
    rw [hloop]
    exact hp

theorem pollCommand_query (version : ProtocolVersion) : pollCommand version ∈ queryCommands := by
  cases version <;> decide

/-- A poll leaves the lamp as it is, and gets its report if it gets anything. -/
theorem Served.poll {out : Except PyErr Bytes} {outs : List (Except PyErr Bytes)}
    (h : Served L C floatRepr d k l [pollRequest d m] (out :: outs) k' l') :
    l' = l ∧ ∀ p, out = .ok p → p = l.report floatRepr := by
  have hquery := pollCommand_query d.link.protocolVersion
  obtain ⟨n, x, y, hrest, hx, hreturned⟩ := h.head (.inr hquery)
  have hid : (fun z : Lamp => z.served L.toJsonLib (pollCommand d.link.protocolVersion)
      (dumpsBytes floatRepr (pollBody d.link.protocolVersion m))) = id :=
    funext fun z => z.served_query hquery _
  rw [hid, Function.iterate_id] at hx
  have hx' : x = l := hx
  cases hrest.none
  subst hx'
  exact ⟨rfl, fun p hp => (hreturned p hp).2 hquery⟩

/-- What the request does to the lamp it does to the light, again and again. -/
theorem shows_iterate (f : Lamp → Lamp) (change : Light → Light)
    (hf : ∀ (x : Lamp) light, Shows m x.dps light → Shows m (f x).dps (change light)) (n : Nat)
    (h : Shows m l.dps light) : Shows m (f^[n] l).dps (change^[n] light) := by
  induction n with
  | zero => exact h
  | succ n ih =>
    rw [Function.iterate_succ_apply', Function.iterate_succ_apply']
    exact hf _ _ ih

/-- **A write**: the lamp does what is asked or nothing, does it if the write is acknowledged, and
the poll behind it gets the lamp's report. -/
theorem Served.write {op : LightOp} {w : WriteOutcomes} {p : Nat × Json}
    (hjson : ∀ v, Json.Plain v → L.toJsonLib.ReadsBack floatRepr v)
    (hp : isDataPoint p = true)
    (hop : ∀ (dps : Dps) light, Shows m dps light → Shows m (dps.setAll [p]) (op.apply light))
    (hshows : Shows m l.dps light)
    (h : Served L C floatRepr d k l (writeRequests d m w [p]) [w.ack, w.reply] k' l') :
    ∃ light', Shows m l'.dps light' ∧ (light' = light ∨ light' = op.apply light) ∧
      (∀ ack, w.ack = .ok ack → light' = op.apply light ∧
        ∀ reply, w.reply = .ok reply → reply = l'.report floatRepr) := by
  let values : Dps := ⟨[p], List.nodup_singleton _⟩
  have hvalues : ∀ q ∈ values.items, isDataPoint q = true := by
    intro q hq
    rw [List.mem_singleton.mp hq]
    exact hp
  have hbody := plain_controlBody d w.now hvalues
  unfold writeRequests Actuation.controlOf at h
  obtain ⟨n, x, y, hrest, rfl, hacked⟩ := h.head (.inl rfl)
  have hshows' := shows_iterate (fun z : Lamp => z.served L.toJsonLib
      (controlCommand d.link.protocolVersion)
      (dumpsBytes floatRepr (controlBody d w.now values.items))) op.apply
    (fun z light hz => shows_same (Lamp.sameDps _ (served_control hvalues (hjson _ hbody) z))
      (hop z.dps light hz))
    n hshows
  have hnone : ∀ n, op.apply^[n] light = light ∨ op.apply^[n] light = op.apply light := by
    intro n
    by_cases hn : 0 < n
    · exact .inr (apply_iterate op light hn)
    · rw [Nat.eq_zero_of_not_pos hn]
      exact .inl rfl
  cases hack : w.ack with
  | error e =>
    rw [hack] at hrest
    rw [hrest.none]
    exact ⟨_, hshows', hnone n, nofun⟩
  | ok ack =>
    rw [hack] at hrest
    obtain ⟨rfl, hreported⟩ := hrest.poll
    refine ⟨_, hshows', hnone n, fun ack' _ => ⟨?_, hreported⟩⟩
    exact apply_iterate op light (hacked ack hack).1

end Lamp

/-! ### One step -/

section Step

variable {L : PyLib} {config : LinkerConfig} {stamps : Nat → Stamp}
variable {C : TuyaCrypto} {ipAddress : String → Option IpAddress} {floatRepr : ℚ → List Char}
variable {d : TuyaDeviceConfig} {m : TuyaDpMapping}

theorem newRequests_append {s t : System TuyaState} {requests : List (Nat × Json)}
    (h : t.driver.requests = s.driver.requests ++ requests) : newRequests s t = requests := by
  unfold newRequests
  rw [h, List.drop_left]

theorem newRequests_same {s t : System TuyaState} (h : t.driver.requests = s.driver.requests) :
    newRequests s t = [] := newRequests_append (h.trans (List.append_nil _).symm)

/-- Without new requests the lamp is left alone. -/
theorem Follows.idle {s t : State} {light : Light} {outs : List (Except PyErr Bytes)}
    (h : Follows d m s light) (hasked : Asked d s.system.driver.requests t.system.driver)
    (hbound : t.system.boundary.deviceId = s.system.boundary.deviceId)
    (hserved : Served L C floatRepr d s.link s.lamp (newRequests s.system t.system) outs t.link
      t.lamp) : Follows d m t light := by
  rw [newRequests_same hasked.2] at hserved
  refine ⟨hasked.1, hbound.trans h.bound, ?_⟩
  rw [hserved.none]
  exact h.shows

variable (L config stamps C ipAddress) in
/-- A scan makes no requests. -/
theorem handleDiscovery_asks {requests : List (Nat × Json)} {deviceId : Option String}
    (timedOut : Bool) (scan : Except PyErr (List DiscoveryItem)) (o : PairOutcomes)
    (w : WriteOutcomes) (e : Envelope) :
    PyM.Preserves (fun s => Asked d requests s.driver ∧ s.boundary.deviceId = deviceId)
      (handleDiscovery L config stamps (tuyaDriver C L.toJsonLib ipAddress scan o w) timedOut e) :=
  handleDiscovery_preserves L config stamps (K := Asked d requests) (fun _ h => h.1)
    (fun _ _ h hk => ⟨hk, h.2⟩) (fun _ h => h)
    (fun _ => Actuation.discover_frame C (fun _ _ h => h) scan) e

theorem handle_command (timedOut : Bool) {e : Envelope}
    {scan : Except PyErr (List DiscoveryItem)} {o : PairOutcomes} {w : WriteOutcomes}
    {r : Except PyErr Envelope} {s t : System TuyaState} (hdiscovery : e.type ≠ "discovery.start")
    (hpairing : e.type ≠ "pairing.start")
    (h : handleCommand L config stamps (tuyaDriver C L.toJsonLib ipAddress scan o w) e s = (r, t)) :
    handle L config stamps (tuyaDriver C L.toJsonLib ipAddress scan o w) timedOut e s =
      (Sum.inl <$> r, t) := by
  unfold handle
  rw [if_neg hdiscovery, if_neg hpairing, PyM.map_apply, h]

variable (L config stamps) in
theorem handleCommand_bound (driver : VendorRgbDriver TuyaState) (e : Envelope)
    (s : System TuyaState) : (handleCommand L config stamps driver e s).2.boundary.deviceId =
      s.boundary.deviceId :=
  handleCommand_preserves L config stamps (K := fun _ => True)
    (I := fun t => t.boundary.deviceId = s.boundary.deviceId) (fun _ _ => trivial)
    (fun _ _ h _ => h) (fun _ h => h) (fun _ _ h => h) (fun _ _ _ _ _ => trivial) e s rfl

theorem operationOf_run {b : BoundaryState} {e : Envelope} {metadata : CommandMetadata}
    {op : Operation} (hadmitted : admitCommand L b.lightId e = .ok (.ok metadata))
    (hnew : b.journal.get? metadata.idempotencyKey = none) (hplan : planOperation e = .ok op) :
    operationOf L b e = some op := by
  unfold operationOf
  rw [hadmitted]
  dsimp only
  rw [hnew, hplan]
  rfl

theorem operationOf_none {b : BoundaryState} {e : Envelope}
    (h : ∀ metadata op, admitCommand L b.lightId e = .ok (.ok metadata) →
      b.journal.get? metadata.idempotencyKey = none → planOperation e ≠ .ok op) :
    operationOf L b e = none := by
  unfold operationOf
  split
  · next metadata hadmitted =>
    split
    · rfl
    · next hnew =>
      cases hplan : planOperation e with
      | error x => rfl
      | ok op => exact absurd hplan (h metadata op hadmitted hnew)
  · rfl

/-- An applied result holds the payload of the state that was returned. -/
theorem driverPayload_report {metadata : CommandMetadata} {r : Except PyErr LightState}
    {report : JsonObj}
    (hstatus : (getItem (driverPayload metadata r) "status").str? = some "applied")
    (hstate : (getItem (driverPayload metadata r) "state").obj? = some report) :
    ∃ state, r = .ok state ∧ state.toPayload (some metadata.lightId) = .ok report := by
  cases r with
  | error e =>
    have hfailed : some "failed" = some "applied" := hstatus
    exact absurd hfailed (by decide)
  | ok state =>
    change (getItem (statePayload metadata state) "status").str? = _ at hstatus
    change (getItem (statePayload metadata state) "state").obj? = _ at hstate
    unfold statePayload at hstatus hstate
    cases hpayload : state.toPayload (some metadata.lightId) with
    | error x =>
      rw [hpayload] at hstatus
      have hfailed : some "failed" = some "applied" := hstatus
      exact absurd hfailed (by decide)
    | ok p =>
      rw [hpayload] at hstate
      cases hstate
      exact ⟨state, rfl, hpayload⟩

variable (config stamps) in
/-- An applied result of a command that was run carries the state its driver call returned. -/
theorem reportOf_run (driver : VendorRgbDriver TuyaState) (report : JsonObj) {e : Envelope}
    {s : System TuyaState} {metadata : CommandMetadata} {op : Operation}
    (hadmitted : admitCommand L s.boundary.lightId e = .ok (.ok metadata))
    (hnew : s.boundary.journal.get? metadata.idempotencyKey = none)
    (hplan : planOperation e = .ok op)
    (h : reportOf (Sum.inl <$> (handleCommand L config stamps driver e s).1) = some report) :
    ∃ state, (runOperation driver s.boundary.deviceId metadata.commandId op s.driver).1 = .ok state ∧
      state.toPayload (some metadata.lightId) = .ok report := by
  cases hrun : handleCommand L config stamps driver e s with
  | mk r t =>
    rw [hrun] at h
    cases r with
    | error x => cases h
    | ok result =>
      have hpayload : result.payload = driverPayload metadata
          (runOperation driver s.boundary.deviceId metadata.commandId op s.driver).1 := by
        rcases handleCommand_run_ok L config stamps driver hrun with
          ⟨_, hrefused, -⟩ | ⟨metadata', hadmitted', hcase⟩
        · rw [hadmitted] at hrefused
          cases hrefused
        · rw [hadmitted] at hadmitted'
          cases hadmitted'
          rcases hcase with ⟨_, hcached, -⟩ | ⟨-, ⟨_, hexecute⟩, -⟩
          · rw [hnew] at hcached
            cases hcached
          · rcases execute_run_ok config stamps driver hexecute with ⟨_, herror, -⟩ | ⟨_, hop, hp⟩
            · rw [hplan] at herror
              cases herror
            · rw [hplan] at hop
              cases hop
              exact hp
      change reportOf (.ok (.inl result)) = some report at h
      unfold reportOf at h
      dsimp only at h
      rw [hpayload] at h
      split at h
      · next hstatus => exact driverPayload_report hstatus h
      · cases h

/-- **A command that is run** does to the light what it asks, if its result is applied. -/
theorem command_follows {s t : State} {light : Light} {e : Envelope} {metadata : CommandMetadata}
    {op : Operation} {scan : Except PyErr (List DiscoveryItem)} {o : PairOutcomes}
    {w : WriteOutcomes} {r : Except PyErr Envelope}
    (hjson : ∀ v, Json.Plain v → L.toJsonLib.ReadsBack floatRepr v) (hm : d.dps = some m)
    (hformat : m.colorFormat = .rgbHex) (hspans : m.WideSpans) (h : Follows d m s light)
    (hadmitted : admitCommand L s.system.boundary.lightId e = .ok (.ok metadata))
    (hnew : s.system.boundary.journal.get? metadata.idempotencyKey = none)
    (hplan : planOperation e = .ok op)
    (hrun : handleCommand L config stamps (tuyaDriver C L.toJsonLib ipAddress scan o w) e s.system =
      (r, t.system))
    (hdriver : t.system.driver = (runOperation (tuyaDriver C L.toJsonLib ipAddress scan o w)
      s.system.boundary.deviceId metadata.commandId op s.system.driver).2)
    (hserved : Served L C floatRepr d s.link s.lamp (newRequests s.system t.system)
      [w.ack, w.reply] t.link t.lamp) :
    ∃ light', LightStep light (.commanded (lightOp op) (reportOf (Sum.inl <$> r))) light' ∧
      Follows d m t light' := by
  have hreport := fun report => reportOf_run config stamps
    (tuyaDriver C L.toJsonLib ipAddress scan o w) report hadmitted hnew hplan
  rw [hrun] at hreport
  rw [Commands.runOperation_tuyaDriver, h.bound] at hdriver hreport
  obtain ⟨vs, hvs, hop⟩ := (part_opValues hformat hspans (lightOp_inRange hplan)
    (fun hwhite => absurd hwhite (by rw [lightOp_white]; nofun))).shows
  rw [← writtenValues_eq] at hvs
  obtain ⟨p, rfl, hp⟩ := writtenValues_single hvs
  have hasked := writeCommand_asks (J := L.toJsonLib)
    (fun mapping => Commands.writtenValues mapping op) ⟨h.device, rfl⟩ hm hvs w
  rw [← hdriver] at hasked
  rw [newRequests_append hasked.2] at hserved
  obtain ⟨light', hshows, hlight, hacked⟩ := hserved.write hjson hp hop h.shows
  have hbound := handleCommand_bound L config stamps
    (tuyaDriver C L.toJsonLib ipAddress scan o w) e s.system
  rw [hrun] at hbound
  refine ⟨light', ?_, hasked.1, hbound.trans h.bound, hshows⟩
  cases hr : reportOf (Sum.inl <$> r) with
  | none => exact .failed hlight
  | some report =>
    obtain ⟨state, hstate, hpayload⟩ := hreport report hr
    cases hwrite : writeCommand L.toJsonLib w (some d.deviceId)
        (fun mapping => Commands.writtenValues mapping op) s.system.driver with
    | mk written u =>
      rw [hwrite] at hstate
      change written = .ok state at hstate
      subst hstate
      obtain ⟨d', m', -, ack, reply, dps, mapped, hd', -, hm', -, hack, hreply, hparse, hmapped,
        rfl⟩ := Commands.writeCommand_run_ok hwrite
      cases h.device.symm.trans hd'
      cases hm.symm.trans hm'
      obtain ⟨rfl, hreported⟩ := hacked ack hack
      rw [hreported reply hreply] at hparse
      exact .applied ⟨_, _, hpayload,
        (revisioned_light _ _).trans (mapped_light hjson hshows hparse hmapped)⟩

/-- A message of the server is followed by the light. -/
theorem message_follows {s t : State} {light : Light} {e : Envelope} {timedOut : Bool}
    {scan : Except PyErr (List DiscoveryItem)} {o : PairOutcomes} {w : WriteOutcomes}
    {result : Except PyErr (Envelope ⊕ List Envelope)}
    (hjson : ∀ v, Json.Plain v → L.toJsonLib.ReadsBack floatRepr v) (hm : d.dps = some m)
    (hformat : m.colorFormat = .rgbHex) (hspans : m.WideSpans) (h : Follows d m s light)
    (hpairing : e.type ≠ "pairing.start")
    (hrun : handle L config stamps (tuyaDriver C L.toJsonLib ipAddress scan o w) timedOut e
      s.system = (result, t.system))
    (hserved : Served L C floatRepr d s.link s.lamp (newRequests s.system t.system)
      [w.ack, w.reply] t.link t.lamp) :
    ∃ light', LightStep light (seen L s.system.boundary e result) light' ∧ Follows d m t light' := by
  unfold seen
  by_cases hdiscovery : e.type = "discovery.start"
  · unfold handle at hrun
    rw [if_pos hdiscovery] at hrun ⊢
    obtain ⟨hasked, hbound⟩ := PyM.preserves_map Sum.inr
      (handleDiscovery_asks L config stamps C ipAddress timedOut scan o w e)
      s.system ⟨⟨h.device, rfl⟩, rfl⟩
    rw [hrun] at hasked hbound
    exact ⟨light, .quiet light, h.idle hasked hbound hserved⟩
  · rw [if_neg hdiscovery]
    cases hcommand : handleCommand L config stamps (tuyaDriver C L.toJsonLib ipAddress scan o w) e
        s.system with
    | mk r u =>
      rw [handle_command timedOut hdiscovery hpairing hcommand] at hrun
      obtain ⟨rfl, rfl⟩ := Prod.mk.inj hrun
      have hcases := Actuation.handleCommand_driver L config stamps
        (tuyaDriver C L.toJsonLib ipAddress scan o w) e s.system
      rw [hcommand] at hcases
      rcases hcases with ⟨metadata, op, hadmitted, hnew, hplan, hdriver, -⟩ | ⟨hno, hdriver⟩
      · rw [operationOf_run hadmitted hnew hplan]
        exact command_follows hjson hm hformat hspans h hadmitted hnew hplan hcommand hdriver hserved
      · rw [operationOf_none hno]
        have hbound := handleCommand_bound L config stamps
          (tuyaDriver C L.toJsonLib ipAddress scan o w) e s.system
        rw [hcommand] at hbound
        refine ⟨light, .quiet light, h.idle ?_ hbound hserved⟩
        rw [hdriver]
        exact ⟨h.device, rfl⟩

/-- **Every step is followed by the light.** -/
theorem step_follows (hjson : ∀ v, Json.Plain v → L.toJsonLib.ReadsBack floatRepr v)
    (hm : d.dps = some m) (hformat : m.colorFormat = .rgbHex) (hspans : m.WideSpans) :
    Runs.Simulates (Follows d m) (Step L config stamps C ipAddress floatRepr d m) LightStep := by
  intro s light label t h hstep
  cases hstep with
  | message hpairing hrun hserved =>
    exact message_follows hjson hm hformat hspans h hpairing hrun hserved
  | @poll _ reply state driver hrun hsystem hserved =>
    have hasked := pollState_asks (J := L.toJsonLib) ⟨h.device, rfl⟩ hm reply
    rw [← h.bound, hrun] at hasked
    have hdriver : t.system.driver = driver := by rw [hsystem]
    rw [← hdriver] at hasked
    rw [newRequests_append hasked.2] at hserved
    obtain ⟨hlamp, hreported⟩ := hserved.poll
    refine ⟨light, .polled fun x hx => ?_, hasked.1, ?_, ?_⟩
    · cases state with
      | error e => cases hx
      | ok y =>
        cases hx
        obtain ⟨d', m', payload, dps, mapped, hd', -, hm', hpayload, hparse, hmapped, rfl⟩ :=
          pollState_run_ok L.toJsonLib hrun
        cases h.device.symm.trans hd'
        cases hm.symm.trans hm'
        rw [hreported payload hpayload] at hparse
        exact (revisioned_light _ _).trans (mapped_light hjson h.shows hparse hmapped)
    · rw [hsystem]
      exact h.bound
    · rw [hlamp]
      exact h.shows
  | push sessionKey frame =>
    refine ⟨light, .quiet light, ?_, h.bound, h.shows⟩
    exact Actuation.statusState_frame C L.toJsonLib (I := fun u => u.device = some d)
      (fun _ _ h => h) (fun _ _ h => h) sessionKey frame s.system.driver h.device
  | touched lamp light' hshows => exact ⟨light', .touched light light', h.device, h.bound, hshows⟩
  | relinked link => exact ⟨light, .quiet light, h.device, h.bound, h.shows⟩

end Step

/-! ## Main result -/

/-- **The light behind the wire**: for a lamp with colours in hexadecimal and scales of at least 256
values that holds the device's key, every run of the boundary, the exchanges and the lamp, whatever
is lost on the way, pushed, polled, scanned or repeated, is a run of the light with the same labels:
an applied command has done what it asks and reports the light it has left, a failed one has done so
or nothing, and nothing else touches the light. -/
theorem light_over_the_wire (L : PyLib) (config : LinkerConfig) (stamps : Nat → Stamp)
    (C : TuyaCrypto) (ipAddress : String → Option IpAddress) (floatRepr : ℚ → List Char)
    (d : TuyaDeviceConfig) (m : TuyaDpMapping) (hm : d.dps = some m)
    (hformat : m.colorFormat = .rgbHex) (hspans : m.WideSpans)
    (hjson : ∀ v, Json.Plain v → L.toJsonLib.ReadsBack floatRepr v) {s t : State}
    {labels : List Seen} {light : Light} (h : Follows d m s light)
    (hrun : Runs.Path (Step L config stamps C ipAddress floatRepr d m) s labels t) :
    ∃ light', Runs.Path LightStep light labels light' ∧ Follows d m t light' :=
  hrun.simulate (step_follows hjson hm hformat hspans) h

/-! ## A lamp that is switched on -/

def offLamp : Lamp where
  dps := offDps
  valid n v h := by
    have hall : ∀ p ∈ offDps.items, isDataPoint p = true := by decide
    exact reportable_of_isDataPoint (hall (n, v) ((offDps.mem_items_iff n v).mpr h))

/-- The lamp acknowledges a request, or answers it, with its report. -/
def answering (command : Nat) (l : Lamp) : Exchange.Attempt :=
  Handshake.attemptOn .plain lampLink (.ofChunks [])
    (command, replyPayload .plain .v33 (Exchange.keyBytes lampLink) (l.report fun _ => []) none)

def openLink : Exchange.Link := { Handshake.idleLink with writer := some .usable }

def readerLib : PyLib := ⟨jsonReader, fun _ => none⟩

def onLamp : Lamp := offLamp.write [(1, .bool true)]

theorem onLamp_served : offLamp.served jsonReader commandControl
    (dumpsBytes (fun _ => []) (controlBody Commands.lamp 0 [(1, .bool true)])) = onLamp := by
  have hparse : parseDps jsonReader (dumpsBytes (fun _ => [])
      (controlBody Commands.lamp 0 [(1, .bool true)])) = .ok ⟨[(1, .bool true)], by decide⟩ := rfl
  unfold Lamp.served
  rw [if_pos (.inl rfl), hparse]
  rfl

def onWrite : WriteOutcomes := ⟨0, .ok (offLamp.report fun _ => []), .ok (onLamp.report fun _ => [])⟩

def offState : State :=
  ⟨⟨⟨some "light.desk", some Commands.lamp.deviceId, none, Dict.empty⟩, Commands.lampState, 0, []⟩,
    openLink, offLamp⟩

def offLight : Light := ⟨false, some fullRed, some 0, none⟩

theorem offState_follows : Follows Commands.lamp lampMapping offState offLight where
  device := rfl
  bound := rfl
  shows := ⟨rfl, ⟨_, _, rfl, rfl, rfl⟩, ⟨_, _, rfl, scaleFromDp_low _ 10 1000 (by decide), rfl⟩, rfl⟩

/-- The link after the acknowledgement. -/
def ackedLink : Exchange.Link :=
  (Exchange.exchange .plain (fun _ => []) lampLink (fun _ => answering commandControl offLamp)
    commandControl (controlBody Commands.lamp 0 [(1, .bool true)]) openLink).2

theorem acked : (Exchange.exchange .plain (fun _ => []) lampLink
    (fun _ => answering commandControl offLamp) commandControl
    (controlBody Commands.lamp 0 [(1, .bool true)]) openLink).1 = onWrite.ack := rfl

theorem ackedLink_hold : ackedLink.hold = .connection none := rfl

theorem reported : (Exchange.exchange .plain (fun _ => []) lampLink
    (fun _ => answering commandDpQuery onLamp) commandDpQuery (pollBody .v33 lampMapping)
    ackedLink).1 = onWrite.reply := rfl

set_option maxRecDepth 4000 in
theorem onBody_fits : FitsFrame .plain (fun _ => []) .v33 commandControl
    (controlBody Commands.lamp 0 [(1, .bool true)]) (Exchange.keyBytes lampLink) none :=
  show (_ : Nat) ≤ _ by decide

set_option maxRecDepth 4000 in
theorem pollBody_fits : FitsFrame .plain (fun _ => []) .v33 commandDpQuery
    (pollBody .v33 lampMapping) (Exchange.keyBytes lampLink) none :=
  show (_ : Nat) ≤ _ by decide

/-- Both requests of the command reach the lamp, and both replies come back. -/
theorem onWrite_served : ∃ k, Served readerLib .plain (fun _ => []) Commands.lamp openLink offLamp
    (writeRequests Commands.lamp lampMapping onWrite [(1, .bool true)]) [onWrite.ack, onWrite.reply]
    k onLamp := by
  have hack : Carried .plain jsonReader (fun _ => []) lampLink commandControl
      (controlBody Commands.lamp 0 [(1, .bool true)]) openLink
      (Exchange.attempts lampLink fun _ => answering commandControl offLamp) offLamp onLamp := by
    rw [← onLamp_served]
    refine Carried.answered (k := none) (p := offLamp.report fun _ => []) rfl rfl (fun q hq => ?_) ?_
    · exact readRequest_sent hq (by decide) onBody_fits
        (show decodePayload .plain ⟨q, controlCommand .v33, _⟩ .v33 _ _ = _ from
          decodePayload_control _)
    · intro reply _ hquery
      exact absurd hquery (by decide)
  have hreport : Carried .plain jsonReader (fun _ => []) lampLink commandDpQuery
      (pollBody .v33 lampMapping) ackedLink
      (Exchange.attempts lampLink fun _ => answering commandDpQuery onLamp) onLamp onLamp := by
    rw [← onLamp.served_query (J := jsonReader) (show commandDpQuery ∈ queryCommands by decide)
      (dumpsBytes (fun _ => []) (pollBody .v33 lampMapping))]
    refine Carried.answered (k := none) (p := onLamp.report fun _ => []) ?_ ?_ (fun q hq => ?_) ?_
    · rw [ackedLink_hold]
      rfl
    · rw [ackedLink_hold]
      rfl
    · exact readRequest_sent hq (by decide) pollBody_fits
        (decodePayload_query _ (by decide) fun _ => by decide)
    · intro reply hreply _
      cases hreply
      rfl
  exact ⟨_, .cons (fun _ => answering commandControl offLamp) (Prod.ext acked rfl) hack
    (.cons (fun _ => answering commandDpQuery onLamp) (Prod.ext reported rfl) hreport .nil)⟩

def onLight : Light := ⟨true, some fullRed, some 0, none⟩

theorem onLamp_shows : Shows lampMapping onLamp.dps onLight :=
  ⟨rfl, ⟨_, _, rfl, rfl, rfl⟩, ⟨_, _, rfl, scaleFromDp_low _ 10 1000 (by decide), rfl⟩, rfl⟩

theorem powerOn_admitted_reader : admitCommand readerLib (some "light.desk") Commands.powerOn =
    .ok (.ok ⟨"light.desk", Stamp.zero.id, "k1", none⟩) := by
  have hid : requiredUuid readerLib Commands.powerOn.payload "command_id" = .ok Stamp.zero.id :=
    requiredUuid_str readerLib rfl
  have hm : commandMetadata readerLib (some "light.desk") Commands.powerOn =
      ⟨"light.desk", Stamp.zero.id, "k1", none⟩ := by
    unfold commandMetadata
    rw [hid]
    rfl
  unfold admitCommand
  rw [if_neg (by decide), if_neg nofun]
  dsimp only
  rw [hm]
  rfl

/-- The lamp is off; it is switched on, acknowledges and reports itself, and so does the result. -/
theorem light_over_the_wire_on : ∃ (t : State) (report : JsonObj),
    Runs.Path (Step readerLib .default (fun _ => Stamp.zero) .plain (fun _ => none) (fun _ => [])
      Commands.lamp lampMapping) offState [.commanded (.turnOn none none none) (some report)] t ∧
    IsReport report onLight ∧ Shows lampMapping t.lamp.dps onLight := by
  obtain ⟨k, hserved⟩ := onWrite_served
  obtain ⟨read, hread, hsame⟩ := parseDps_report onLamp
    fun _ hv => jsonReader_readsBack (fun _ => []) hv
  obtain ⟨mapped, hmapped, -⟩ := state_of_shows Commands.lamp.id_ok.1 (shows_same hsame onLamp_shows)
  obtain ⟨u, hwrite⟩ : ∃ u, writeCommand jsonReader onWrite (some Commands.lamp.deviceId)
      (fun m => Commands.writtenValues m .turnOn) Commands.lampState =
        (.ok (revisioned Commands.lampState.state mapped), u) :=
    Commands.writeCommand_ok rfl rfl rfl rfl rfl hread hmapped
  obtain ⟨report, hreport⟩ := revisioned_toPayload hmapped Commands.lampState.state (some "light.desk")
  have hasked : Asked Commands.lamp
      (Commands.lampState.requests ++
        writeRequests Commands.lamp lampMapping onWrite [(1, .bool true)])
      (writeCommand jsonReader onWrite (some Commands.lamp.deviceId)
        (fun m => Commands.writtenValues m .turnOn) Commands.lampState).2 :=
    writeCommand_asks _ ⟨rfl, rfl⟩ rfl rfl onWrite
  rw [hwrite] at hasked
  have hop : runOperation (tuyaDriver .plain readerLib.toJsonLib (fun _ => none) (.ok [])
      Commands.noPairing onWrite) (some Commands.lamp.deviceId) Stamp.zero.id .turnOn
      Commands.lampState = (.ok (revisioned Commands.lampState.state mapped), u) := by
    rw [Commands.runOperation_tuyaDriver]
    exact hwrite
  obtain ⟨r, hrun, hpayload⟩ := handleCommand_fresh readerLib .default (fun _ => Stamp.zero) _
    (s := offState.system) powerOn_admitted_reader rfl rfl hop
  have hhandle := handle_command false (e := Commands.powerOn) (by decide) (by decide) hrun
  have hreported : reportOf (.ok (.inl r)) = some report := by
    unfold reportOf
    dsimp only
    rw [hpayload]
    unfold statePayload
    dsimp only
    rw [hreport]
    rfl
  have hseen : seen readerLib offState.system.boundary Commands.powerOn (.ok (.inl r)) =
      .commanded (.turnOn none none none) (some report) := by
    unfold seen
    rw [if_neg (by decide), operationOf_run powerOn_admitted_reader rfl rfl, hreported]
    rfl
  obtain ⟨after, hpath⟩ : ∃ after, Runs.Path (Step readerLib .default (fun _ => Stamp.zero) .plain
      (fun _ => none) (fun _ => []) Commands.lamp lampMapping) offState
      [.commanded (.turnOn none none none) (some report)] ⟨after, k, onLamp⟩ := by
    rw [← hseen]
    refine ⟨_, .cons (.message (by decide) hhandle ?_) (.nil _)⟩
    rw [newRequests_append hasked.2]
    exact hserved
  obtain ⟨light, hlight, hfollows⟩ := light_over_the_wire readerLib .default (fun _ => Stamp.zero)
    .plain (fun _ => none) (fun _ => []) Commands.lamp lampMapping rfl rfl wideSpans_lamp
    (fun v hv => jsonReader_readsBack _ hv) offState_follows hpath
  cases hlight with
  | cons hstep hrest =>
    cases hrest
    cases hstep with
    | applied h => exact ⟨_, report, hpath, h, hfollows.shows⟩

end Linker.Remote
