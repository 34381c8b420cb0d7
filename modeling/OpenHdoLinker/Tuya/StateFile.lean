import OpenHdoLinker.Lib.JsonText
import OpenHdoLinker.Lib.Storage
import OpenHdoLinker.Restart

/-!
# The pairing-state file, call by call

`_save_pairing_state` on the files themselves: a new file beside the state file is written,
synced and renamed onto it, and unlinked when that fails.  A buffered stream passes the text on as
it likes, any call may fail, and between two calls the process may be killed or the power cut.

    savePairingFile ≡ savePairingState, on what the state file reads     (savePairingFile_eq)

Over any run of such attempts the file is a cell (`Storage.Cell`): what start-up loads is a whole
binding that was saved, and without a power cut the last one (stateFile_survives).
-/

namespace Linker.Saving

open Py Storage

abbrev Files : Type := Fs String UInt8

/-! ## Algorithm -/

/-- `json.dump({"version": 1, ...}, stream, separators=(",", ":"))`. -/
def recordText (candidateId : String) (d : TuyaDeviceConfig) : String :=
  String.ofList ('\x7b' :: (commaJoin [quoted "version" ++ ':' :: ['1'],
    quoted "candidate_id" ++ ':' :: quoted candidateId,
    quoted "device_id" ++ ':' :: quoted d.deviceId,
    quoted "ip" ++ ':' :: quoted d.ip] ++ ['\x7d']))

/-- The text in a file opened with `encoding="utf-8"`, through `json.load`. -/
def loadFile (J : JsonLib) (content : Bytes) : StateFile :=
  match String.fromUTF8? ⟨content.toArray⟩ with
  | some text => J.decodeStr text
  | none => .error .undecodable

/-- What the state file is to the driver. -/
def fileAt (J : JsonLib) (files : Files) (name : String) : Option StateFile :=
  (files.read name).map (loadFile J)

/-- A call on the stream: how much it passes to the system at a time, and how it ends. -/
structure StreamCall where
  sizes : List Nat
  result : Except PyErr Unit

/-- What the surroundings answer to the steps of one save.  `create` is the random part of the new
name; `dumped` is how much of the text `json.dump` wrote when it raises. -/
structure SaveOutcomes where
  mkdir : Except PyErr Unit
  create : Except PyErr String
  dump : StreamCall
  dumped : Nat
  flush : StreamCall
  fsync : Except PyErr Unit
  close : StreamCall
  replace : Except PyErr Unit
  unlink : Except PyErr Unit

/-- The files now and after each system call before, the stream's buffer, and the variable
`temporary_path`. -/
structure Call where
  files : Files
  seen : List Files
  buffer : Bytes
  temporaryPath : Option String

def Call.start (files : Files) : Call := ⟨files, [], [], none⟩

/-- The files at each moment of the call, the last first. -/
def Call.moments (s : Call) : List Files := s.files :: s.seen

def syscall (f : Files → Files) : PyM Call Unit :=
  PyM.modify fun s => { s with files := f s.files, seen := s.files :: s.seen }

/-- The stream writes the first `n` bytes of its buffer to the file, if there are any. -/
def pass (i n : Nat) : PyM Call Unit :=
  PyM.modify fun s =>
    if s.buffer.take n = [] then s
    else { s with files := s.files.write i (s.buffer.take n), seen := s.files :: s.seen,
                  buffer := s.buffer.drop n }

def passAll (i : Nat) : List Nat → PyM Call Unit
  | [] => pure ()
  | n :: sizes => do
    pass i n
    passAll i sizes

/-- `json.dump(payload, stream)`. -/
def dump (o : SaveOutcomes) (i : Nat) (text : Bytes) : PyM Call Unit := do
  PyM.modify fun s => { s with buffer := match o.dump.result with
    | .ok _ => s.buffer ++ text
    | .error _ => s.buffer ++ text.take o.dumped }
  passAll i o.dump.sizes
  PyM.outcome o.dump.result

/-- `stream.flush()`, and `stream.close()` but for the closing. -/
def flush (c : StreamCall) (i : Nat) : PyM Call Unit := do
  passAll i c.sizes
  PyM.outcome c.result
  let s ← PyM.get
  pass i s.buffer.length

/-- The body of the `with` block. -/
def writeBody (o : SaveOutcomes) (i : Nat) (temporary : String) (text : Bytes) :
    PyM Call Unit := do
  PyM.modify fun s => { s with temporaryPath := some temporary }
  dump o i text
  flush o.flush i
  PyM.outcome o.fsync
  syscall (·.sync i)

/-- `prefix=f".{self._state_path.name}."` and the random part. -/
def temporaryName (name random : String) : String := "." ++ name ++ "." ++ random

/-- The `with` block: the new file's name. -/
def writeTemporary (o : SaveOutcomes) (name : String) (text : Bytes) : PyM Call String := do
  let random ← PyM.outcome o.create
  let s ← PyM.get
  syscall (·.create (temporaryName name random))
  PyM.tryFinally (writeBody o s.files.inodes.length (temporaryName name random) text)
    (flush o.close s.files.inodes.length)
  pure (temporaryName name random)

/-- The `finally` block. -/
def unlinkTemporary (o : SaveOutcomes) : PyM Call Unit := do
  let s ← PyM.get
  match s.temporaryPath with
  | none => pure ()
  | some temporary =>
    PyM.tryExcept (do
        PyM.outcome o.unlink
        syscall (·.unlink temporary))
      fun e => if e.isA .FileNotFoundError then pure () else PyM.raise e

/-- The `try` block. -/
def replaceFile (o : SaveOutcomes) (name : String) (text : Bytes) : PyM Call Unit := do
  let temporary ← writeTemporary o name text
  PyM.outcome o.replace
  syscall (·.replace temporary name)
  PyM.modify fun s => { s with temporaryPath := none }

section Save

variable (C : TuyaCrypto)

/-- `_save_pairing_state(candidate_id, device)`, of a driver whose state file is `name`. -/
def savePairingFile (o : SaveOutcomes) (name candidateId : String) (d : TuyaDeviceConfig) :
    PyM Call Unit :=
  if candidateId ≠ candidateIdOf C d.deviceId then
    PyM.raise (tuyaConfigurationError "pairing state candidate does not match device")
  else do
    PyM.outcome o.mkdir
    PyM.tryFinally (replaceFile o name (utf8 (recordText candidateId d))) (unlinkTemporary o)

/-- How the `with` block ends: what `close` raises replaces what the body raised. -/
def SaveOutcomes.write (o : SaveOutcomes) : Except PyErr Unit :=
  match o.close.result with
  | .error e => .error e
  | .ok _ => do
    o.dump.result
    o.flush.result
    o.fsync

/-- The same answers, for the save that is one step to the driver. -/
def SaveOutcomes.inPair (o : SaveOutcomes) (p : PairOutcomes) : PairOutcomes :=
  { p with mkdir := o.mkdir, create := o.create.map fun _ => (), write := o.write,
           replace := o.replace, unlink := o.unlink }

/-! ### Attempts, kills and power cuts -/

/-- The device and the candidate of one attempt to pair, and what the save of it meets. -/
structure Attempt where
  candidateId : String
  ip : String
  deviceId : String
  outcomes : SaveOutcomes

/-- An attempt ends, or the process is killed or the power cut at one of its moments. -/
inductive Event
  | save (a : Attempt)
  | kill (a : Attempt) (moment : Nat)
  | powerCut (a : Attempt) (moment version : Nat) (left : Nat → Bytes)

variable (ipAddress : String → Option IpAddress) (profile : TuyaPairingConfig) (name : String)

/-- The binding an attempt is about, which `pair` builds before it saves it. -/
def Attempt.device (a : Attempt) : Except PyErr TuyaDeviceConfig :=
  TuyaDeviceConfig.init ipAddress a.ip a.deviceId profile.link (some profile.dps)

/-- The name of the new file is one that is free. -/
def Attempt.Fresh (a : Attempt) (files : Files) : Prop :=
  ∀ random, a.outcomes.create = .ok random → files.names (temporaryName name random) = none

/-- The files at each moment of an attempt. -/
def Attempt.moments (a : Attempt) (files : Files) : List Files :=
  match a.device ipAddress profile with
  | .error _ => [files]
  | .ok d => (savePairingFile C a.outcomes name a.candidateId d (Call.start files)).2.moments

def Event.attempt : Event → Attempt
  | .save a => a
  | .kill a _ => a
  | .powerCut a _ _ _ => a

instance (a : Attempt) (files : Files) : Decidable (a.Fresh name files) :=
  match h : a.outcomes.create with
  | .error _ => isTrue (by intro r hr; rw [h] at hr; cases hr)
  | .ok random =>
    decidable_of_iff (files.names (temporaryName name random) = none) (by
      constructor
      · intro hf r hr
        rw [h] at hr
        cases hr
        exact hf
      · intro hf
        exact hf random h)

/-- The files after an event. -/
def step (files : Files) (e : Event) : Option Files :=
  if e.attempt.Fresh name files then
    match e with
    | .save a => (a.moments C ipAddress profile name files).head?
    | .kill a n => (a.moments C ipAddress profile name files)[n]?
    | .powerCut a n version left =>
      (a.moments C ipAddress profile name files)[n]?.map (Fs.cut version left)
  else none

/-! ## Statement -/

/-- How a save ends, if its candidate is that of its device. -/
def SaveOutcomes.result (o : SaveOutcomes) : Except PyErr Unit := do
  o.mkdir
  let _ ← o.create
  o.write
  o.replace

/-- The device and the light id the driver is bound to. -/
abbrev Bond : Type := TuyaDeviceConfig × String

/-- What is in the file of a binding. -/
def encode (b : Bond) : Bytes := utf8 (recordText b.2 b.1)

/-- The binding an attempt saves, if it does. -/
def Attempt.written (a : Attempt) : Option Bond :=
  match a.device ipAddress profile with
  | .error _ => none
  | .ok d =>
    if a.candidateId = candidateIdOf C d.deviceId ∧ a.outcomes.result.isOk then
      some (d, a.candidateId)
    else none

/-- What an event does to the saved binding.  A save sets it or leaves it; a kill in the middle may
come before or after that; a power cut may also bring back a binding from before. -/
inductive CellStep : Cell Bond → Event → Cell Bond → Prop
  | saved {c a b} (h : a.written C ipAddress profile = some b) : CellStep c (.save a) (c.set b)
  | failed {c a} (h : a.written C ipAddress profile = none) : CellStep c (.save a) c
  | killedBefore {c a n} : CellStep c (.kill a n) c
  | killedAfter {c a b n} (h : a.written C ipAddress profile = some b) :
      CellStep c (.kill a n) (c.set b)
  | cutBefore {c a n k left v} (hv : v ∈ c.values) : CellStep c (.powerCut a n k left) ⟨v, []⟩
  | cutAfter {c a b n k left v} (h : a.written C ipAddress profile = some b)
      (hv : v ∈ (c.set b).values) : CellStep c (.powerCut a n k left) ⟨v, []⟩

inductive CellRun : Cell Bond → List Event → Cell Bond → Prop
  | nil {c} : CellRun c [] c
  | cons {c c' c'' e es} (h : CellStep C ipAddress profile c e c') (hrun : CellRun c' es c'') :
      CellRun c (e :: es) c''

/-- The attempt saves its binding, or the new file can be unlinked. -/
def Attempt.Tidy (a : Attempt) : Prop :=
  (a.written C ipAddress profile).isSome ∨ a.outcomes.unlink = .ok ()

/-- `json.load` gives back what `json.dump` wrote of a binding. -/
def ReadsRecord (J : JsonLib) (b : Bond) : Prop :=
  J.decodeStr (recordText b.2 b.1) = .ok (pairingRecord b.2 b.1)

end Save

/-! ## Lemmas -/

/-! ### The stream -/

section Stream

variable {files : Files} {name temporary : String} {c : Cell Bond} {i : Nat} {text : Bytes}
  {s s' : Call}

/-- The new file is being written: what it has and what the stream still holds is the text. -/
structure Writing (files : Files) (name : String) (c : Cell Bond) (temporary : String) (i : Nat)
    (text : Bytes) (s : Call) : Prop where
  scratch : ∃ f, Scratch encode files s.files name c temporary i f ∧ f.data ++ s.buffer = text
  seen : ∀ x ∈ s.seen, Stores encode x name c
  temporaryPath : s.temporaryPath = some temporary

theorem Writing.stores (h : Writing files name c temporary i text s) :
    Stores encode s.files name c := by
  obtain ⟨f, hf, -⟩ := h.scratch
  exact hf.stores

/-- Another system call adds the files as they were to those seen. -/
theorem Writing.seen_cons (h : Writing files name c temporary i text s) :
    ∀ x ∈ s.files :: s.seen, Stores encode x name c := by
  intro x hx
  rcases List.mem_cons.mp hx with rfl | hx
  · exact h.stores
  · exact h.seen x hx

theorem pass_preserves (n : Nat) :
    PyM.Preserves (Writing files name c temporary i text) (pass i n) := by
  apply PyM.preserves_modify
  intro s h
  split
  · exact h
  · obtain ⟨f, hf, htext⟩ := h.scratch
    refine ⟨⟨_, hf.write (s.buffer.take n), ?_⟩, h.seen_cons, h.temporaryPath⟩
    show (f.data ++ s.buffer.take n) ++ s.buffer.drop n = text
    rw [List.append_assoc, List.take_append_drop, htext]

theorem passAll_preserves (sizes : List Nat) :
    PyM.Preserves (Writing files name c temporary i text) (passAll i sizes) := by
  induction sizes with
  | nil => exact PyM.preserves_pure ()
  | cons n sizes ih => exact PyM.preserves_bind (pass_preserves n) fun _ => ih

theorem passAll_fst (sizes : List Nat) (s : Call) : (passAll i sizes s).1 = .ok () := by
  induction sizes generalizing s with
  | nil => rfl
  | cons n sizes ih => exact ih _

theorem flush_preserves (o : StreamCall) :
    PyM.Preserves (Writing files name c temporary i text) (flush o i) := by
  refine PyM.preserves_bind (passAll_preserves _) fun _ => ?_
  refine PyM.preserves_bind (PyM.preserves_outcome _) fun _ => ?_
  exact PyM.preserves_bind PyM.preserves_get fun _ => pass_preserves _

/-- What the stream passes on does not decide how the call ends. -/
theorem passAll_bind {α : Type} (sizes : List Nat) (m : PyM Call α) (s : Call) :
    (do passAll i sizes; m) s = m (passAll i sizes s).2 := by
  rw [PyM.bind_apply]
  have h := passAll_fst (i := i) sizes s
  generalize passAll i sizes s = p at h
  obtain ⟨r, t⟩ := p
  cases h
  rfl

theorem flush_fst (o : StreamCall) (s : Call) : (flush o i s).1 = o.result := by
  unfold flush
  rw [passAll_bind]
  cases o.result with
  | error e => rfl
  | ok u => rfl

/-- A flush that returns leaves nothing in the buffer. -/
theorem flush_buffer {o : StreamCall} (h : o.result = .ok ()) (s : Call) :
    (flush o i s).2.buffer = [] := by
  unfold flush
  rw [passAll_bind, h]
  generalize (passAll i o.sizes s).2 = t
  show (if t.buffer.take t.buffer.length = [] then t else _).buffer = []
  rw [List.take_length]
  split
  · assumption
  · exact List.drop_length

theorem passAll_idle (sizes : List Nat) (h : s.buffer = []) : (passAll i sizes s).2 = s := by
  induction sizes with
  | nil => rfl
  | cons n sizes ih =>
    have hpass : pass i n s = (.ok (), s) := by simp [pass, h]
    show ((do pass i n; passAll i sizes) s).2 = s
    rw [PyM.bind_ok hpass]
    exact ih

/-- With an empty buffer the system is not called. -/
theorem flush_idle (o : StreamCall) (h : s.buffer = []) : (flush o i s).2 = s := by
  unfold flush
  rw [passAll_bind, passAll_idle _ h]
  cases o.result with
  | error e => rfl
  | ok u => simp [pass, h]

/-- The text is in the stream once `json.dump` returns. -/
theorem dump_spec (o : SaveOutcomes) (text : Bytes)
    (h : Writing files name c temporary i [] s) (hb : s.buffer = []) :
    ∃ written, Writing files name c temporary i written (dump o i text s).2 ∧
      (o.dump.result = .ok () → written = text) := by
  obtain ⟨f, hf, hdata⟩ := h.scratch
  have hfile : f.data = [] := by
    rw [hb, List.append_nil] at hdata
    exact hdata
  have hgen : ∀ more, Writing files name c temporary i more { s with buffer := more } := by
    intro more
    refine ⟨⟨f, hf, ?_⟩, h.seen, h.temporaryPath⟩
    show f.data ++ more = more
    rw [hfile, List.nil_append]
  unfold dump
  rw [PyM.modify_bind, hb]
  cases o.dump.result with
  | error e =>
    refine ⟨text.take o.dumped, ?_, nofun⟩
    exact PyM.bind_after (passAll_preserves _ _ (hgen _)) fun _ => PyM.preserves_outcome _
  | ok u =>
    refine ⟨text, ?_, fun _ => rfl⟩
    exact PyM.bind_after (passAll_preserves _ _ (hgen _)) fun _ => PyM.preserves_outcome _

theorem dump_fst (o : SaveOutcomes) (text : Bytes) (s : Call) :
    (dump o i text s).1 = o.dump.result := by
  unfold dump
  rw [PyM.modify_bind, passAll_bind]
  rfl

/-! ### The `with` block -/

/-- The new file has the text, on the disk. -/
structure Synced (files : Files) (name : String) (c : Cell Bond) (temporary : String) (i : Nat)
    (text : Bytes) (s : Call) : Prop where
  scratch : Scratch encode files s.files name c temporary i ⟨text, true⟩
  buffer : s.buffer = []
  seen : ∀ x ∈ s.seen, Stores encode x name c
  temporaryPath : s.temporaryPath = some temporary

theorem Synced.writing (h : Synced files name c temporary i text s) :
    Writing files name c temporary i text s :=
  ⟨⟨_, h.scratch, by rw [h.buffer, List.append_nil]⟩, h.seen, h.temporaryPath⟩

/-- Syncing the file once the stream has passed everything on. -/
theorem Writing.sync (h : Writing files name c temporary i text s) (hb : s.buffer = []) :
    Synced files name c temporary i text (syscall (·.sync i) s).2 := by
  obtain ⟨f, hf, hdata⟩ := h.scratch
  rw [hb, List.append_nil] at hdata
  refine ⟨?_, hb, h.seen_cons, h.temporaryPath⟩
  have := hf.sync
  rwa [hdata] at this

theorem writeBody_spec (o : SaveOutcomes) (text : Bytes)
    (hf : Scratch encode files s.files name c temporary i ⟨[], false⟩) (hb : s.buffer = [])
    (hseen : ∀ x ∈ s.seen, Stores encode x name c) :
    ∃ r s', writeBody o i temporary text s = (r, s') ∧
      r = (do o.dump.result; o.flush.result; o.fsync) ∧
      (r = .ok () → Synced files name c temporary i text s') ∧
      ∃ written, Writing files name c temporary i written s' := by
  have hstart : Writing files name c temporary i [] { s with temporaryPath := some temporary } :=
    ⟨⟨_, hf, by rw [List.nil_append]; exact hb⟩, hseen, rfl⟩
  obtain ⟨written, hw, htext⟩ := dump_spec o text hstart hb
  have hdump := dump_fst (i := i) o text { s with temporaryPath := some temporary }
  unfold writeBody
  rw [PyM.modify_bind, PyM.bind_apply]
  generalize dump o i text { s with temporaryPath := some temporary } = p at hw hdump
  obtain ⟨r₁, s₁⟩ := p
  dsimp only at hdump hw
  subst hdump
  cases hd : o.dump.result with
  | error e => exact ⟨_, _, rfl, rfl, nofun, written, hw⟩
  | ok u =>
    have hw' := htext hd
    subst hw'
    have hflushed := flush_preserves o.flush s₁ hw
    have hflush := flush_fst (i := i) o.flush s₁
    have hempty := flush_buffer (i := i) (o := o.flush) (s := s₁)
    dsimp only
    rw [PyM.bind_apply]
    generalize flush o.flush i s₁ = p at hflushed hflush hempty
    obtain ⟨r₂, s₂⟩ := p
    dsimp only at hflush hflushed hempty
    subst hflush
    cases hr : o.flush.result with
    | error e => exact ⟨_, _, rfl, rfl, nofun, _, hflushed⟩
    | ok v =>
      have hsync := hflushed.sync (hempty hr)
      cases hfs : o.fsync with
      | error e => exact ⟨_, _, rfl, rfl, nofun, _, hflushed⟩
      | ok w => exact ⟨_, _, rfl, rfl, fun _ => hsync, _, hsync.writing⟩

theorem tryFinally_apply {α : Type} (body : PyM Call α) (cleanup : PyM Call Unit) {s s₁ : Call}
    {r : Except PyErr α} (h : body s = (r, s₁)) :
    PyM.tryFinally body cleanup s = (match (cleanup s₁).1 with
      | .ok _ => r
      | .error e => .error e, (cleanup s₁).2) := by
  unfold PyM.tryFinally
  rw [h]
  dsimp only
  generalize cleanup s₁ = p
  obtain ⟨r₂, s₂⟩ := p
  cases r₂ with
  | ok u => rfl
  | error e => rfl

/-- The `with` block returns with the text on the disk, or raises with the new file unfinished. -/
theorem writeTemporary_spec (o : SaveOutcomes) (text : Bytes) {random : String}
    (hstores : Stores encode files name c) (hfree : files.names (temporaryName name random) = none)
    (hother : temporaryName name random ≠ name) (hcreate : o.create = .ok random) :
    ∃ r s', writeTemporary o name text (Call.start files) = (r, s') ∧
      r = (fun _ => temporaryName name random) <$> o.write ∧
      (r.isOk → Synced files name c (temporaryName name random) files.inodes.length text s') ∧
      ∃ written,
        Writing files name c (temporaryName name random) files.inodes.length written s' := by
  have hf := hstores.create hother hfree
  obtain ⟨r₁, s₁, hbody, hr, hok, written, hw⟩ := writeBody_spec
    (s := ⟨files.create (temporaryName name random), [files], [], none⟩) o text hf rfl
    (by
      intro x hx
      rw [List.mem_singleton.mp hx]
      exact hstores)
  have htry := tryFinally_apply _ (flush o.close files.inodes.length) hbody
  have hclose := flush_preserves o.close s₁ hw
  have hidle := flush_idle (i := files.inodes.length) o.close (s := s₁)
  rw [flush_fst] at htry
  unfold writeTemporary
  rw [hcreate]
  show ∃ r s', ((PyM.tryFinally (writeBody o files.inodes.length (temporaryName name random) text)
    (flush o.close files.inodes.length) >>= fun _ => pure (temporaryName name random))
      ⟨files.create (temporaryName name random), [files], [], none⟩ : Except PyErr String × Call) =
        (r, s') ∧ _
  rw [PyM.bind_apply, htry]
  unfold SaveOutcomes.write
  cases hc : o.close.result with
  | error e => exact ⟨_, _, rfl, rfl, nofun, _, hclose⟩
  | ok u =>
    rw [← hr]
    cases r₁ with
    | error e => exact ⟨_, _, rfl, rfl, nofun, _, hclose⟩
    | ok v =>
      have hsynced := hok rfl
      rw [hidle hsynced.buffer]
      exact ⟨_, _, rfl, rfl, fun _ => hsynced, _, hsynced.writing⟩

/-! ### The save -/

theorem temporaryName_ne (name random : String) : temporaryName name random ≠ name := by
  intro h
  have hlen := congrArg String.length h
  unfold temporaryName at hlen
  simp only [String.length_append] at hlen
  have hdot : ".".length = 1 := by decide
  omega

/-- What `finally` raises, given what the `try` block raised. -/
def SaveOutcomes.cleaned (o : SaveOutcomes) (e : PyErr) : PyErr :=
  match o.unlink with
  | .ok _ => e
  | .error e' => if e'.isA .FileNotFoundError then e else e'

/-- How a save ends. -/
def SaveOutcomes.ending (o : SaveOutcomes) : Except PyErr Unit := do
  o.mkdir
  let _ ← o.create
  (do
    o.write
    o.replace).mapError o.cleaned

theorem isOk_mapError {α : Type} (r : Except PyErr α) (f : PyErr → PyErr) :
    (r.mapError f).isOk = r.isOk := by
  cases r with
  | ok a => rfl
  | error e => rfl

theorem isOk_ending (o : SaveOutcomes) : o.ending.isOk = o.result.isOk := by
  unfold SaveOutcomes.ending SaveOutcomes.result
  cases o.mkdir with
  | error e => rfl
  | ok u =>
    cases o.create with
    | error e => rfl
    | ok random => exact isOk_mapError _ _

/-- The `finally` block after the `try` block raised `e`, the new file still there. -/
theorem unlinkTemporary_spec (o : SaveOutcomes) (e : PyErr)
    (h : Writing files name c temporary i text s) :
    ∃ s', (match (unlinkTemporary o s).1 with
        | .ok _ => (.error e : Except PyErr Unit)
        | .error e' => .error e') = .error (o.cleaned e) ∧
      (unlinkTemporary o s).2 = s' ∧ Stores encode s'.files name c ∧
      (∀ x ∈ s'.seen, Stores encode x name c) ∧
      (o.unlink = .ok () → ∀ n, s'.files.read n = files.read n) := by
  obtain ⟨f, hf, -⟩ := h.scratch
  unfold unlinkTemporary SaveOutcomes.cleaned
  rw [PyM.get_bind, h.temporaryPath]
  cases hu : o.unlink with
  | ok u => exact ⟨_, rfl, rfl, hf.unlink, h.seen_cons, fun _ => hf.unlink_read⟩
  | error e' =>
    dsimp only
    rw [PyM.tryExcept_error (PyM.outcome_error_bind e' _ s)]
    by_cases hn : e'.isA .FileNotFoundError = true
    · rw [if_pos hn, if_pos hn]
      exact ⟨_, rfl, rfl, h.stores, h.seen, nofun⟩
    · rw [if_neg hn, if_neg hn]
      exact ⟨_, rfl, rfl, h.stores, h.seen, nofun⟩

/-- What a save comes to: it sets the cell as it returns, or raises and leaves it, and at every
moment before its last the cell is as it was. -/
theorem savePairingFile_spec (C : TuyaCrypto) (o : SaveOutcomes) (candidateId : String)
    (d : TuyaDeviceConfig) (hstores : Stores encode files name c)
    (hfresh : ∀ random, o.create = .ok random →
      files.names (temporaryName name random) = none) :
    ∃ r s', savePairingFile C o name candidateId d (Call.start files) = (r, s') ∧
      r = (if candidateId ≠ candidateIdOf C d.deviceId then
          .error (tuyaConfigurationError "pairing state candidate does not match device")
        else o.ending) ∧
      (∀ x ∈ s'.seen, Stores encode x name c) ∧
      (r = .ok () → Stores encode s'.files name (c.set (d, candidateId)) ∧
        files.SameBut name s'.files) ∧
      (∀ e, r = .error e → Stores encode s'.files name c ∧
        (o.unlink = .ok () → ∀ n, s'.files.read n = files.read n)) := by
  have hnone : ∀ e : PyErr, ∃ r s', ((.error e, Call.start files) : Except PyErr Unit × Call) =
      (r, s') ∧ r = .error e ∧ (∀ x ∈ s'.seen, Stores encode x name c) ∧
      (r = .ok () → Stores encode s'.files name (c.set (d, candidateId)) ∧
        files.SameBut name s'.files) ∧
      (∀ e, r = .error e → Stores encode s'.files name c ∧
        (o.unlink = .ok () → ∀ n, s'.files.read n = files.read n)) :=
    fun e => ⟨_, _, rfl, rfl, nofun, nofun, fun _ _ => ⟨hstores, fun _ _ => rfl⟩⟩
  unfold savePairingFile
  by_cases hid : candidateId ≠ candidateIdOf C d.deviceId
  · rw [if_pos hid, if_pos hid]
    exact hnone _
  · rw [if_neg hid, if_neg hid]
    unfold SaveOutcomes.ending
    cases o.mkdir with
    | error e => exact hnone e
    | ok u =>
      show ∃ r s', PyM.tryFinally _ _ (Call.start files) = (r, s') ∧ _
      cases hcreate : o.create with
      | error e =>
        have hbody : replaceFile o name (utf8 (recordText candidateId d)) (Call.start files) =
            (.error e, Call.start files) := by
          unfold replaceFile writeTemporary
          rw [hcreate]
          rfl
        rw [tryFinally_apply _ _ hbody]
        exact hnone e
      | ok random =>
        obtain ⟨r₁, s₁, hwrite, hr₁, hok, written, hw⟩ :=
          writeTemporary_spec o (utf8 (recordText candidateId d)) hstores
            (hfresh random hcreate) (temporaryName_ne name random) hcreate
        cases hwr : o.write with
        | error e =>
          rw [hwr] at hr₁
          subst hr₁
          have hbody : replaceFile o name (utf8 (recordText candidateId d)) (Call.start files) =
              (.error e, s₁) := PyM.bind_error hwrite
          obtain ⟨s', hend, rfl, hs, hseen, hread⟩ := unlinkTemporary_spec o e hw
          rw [tryFinally_apply _ _ hbody, hend]
          exact ⟨_, _, rfl, rfl, hseen, nofun, fun _ _ => ⟨hs, hread⟩⟩
        | ok v =>
          rw [hwr] at hr₁
          subst hr₁
          have hsynced := hok rfl
          cases hrep : o.replace with
          | error e =>
            have hbody : replaceFile o name (utf8 (recordText candidateId d)) (Call.start files) =
                (.error e, s₁) := by
              unfold replaceFile
              rw [PyM.bind_ok hwrite, hrep]
              rfl
            obtain ⟨s', hend, rfl, hs, hseen, hread⟩ := unlinkTemporary_spec o e hw
            rw [tryFinally_apply _ _ hbody, hend]
            exact ⟨_, _, rfl, rfl, hseen, nofun, fun _ _ => ⟨hs, hread⟩⟩
          | ok w =>
            have hbody : replaceFile o name (utf8 (recordText candidateId d)) (Call.start files) =
                (.ok (), ⟨s₁.files.replace (temporaryName name random) name,
                  s₁.files :: s₁.seen, s₁.buffer, none⟩) := by
              unfold replaceFile
              rw [PyM.bind_ok hwrite, hrep]
              rfl
            rw [tryFinally_apply _ _ hbody]
            refine ⟨_, _, rfl, rfl, hsynced.writing.seen_cons, ?_, nofun⟩
            exact fun _ => ⟨hsynced.scratch.replace (v := (d, candidateId)),
              hsynced.scratch.replace_sameBut⟩

end Stream

/-! ### The save as one step of the driver -/

section Refine

variable (C : TuyaCrypto) (J : JsonLib) {o : SaveOutcomes} {p : PairOutcomes} {name : String}

/-- The one-step save, given the same answers: it ends alike, and sets the file when it returns. -/
theorem savePairingState_apply (candidateId : String) (d : TuyaDeviceConfig) {t : TuyaState}
    (hpath : t.statePath = some name) :
    ∃ t', savePairingState C (o.inPair p) candidateId d t =
        (if candidateId ≠ candidateIdOf C d.deviceId then
          .error (tuyaConfigurationError "pairing state candidate does not match device")
        else o.ending, t') ∧
      t'.file = (match (if candidateId ≠ candidateIdOf C d.deviceId then
          .error (tuyaConfigurationError "pairing state candidate does not match device")
        else o.ending : Except PyErr Unit) with
      | .ok _ => some (.ok (pairingRecord candidateId d))
      | .error _ => t.file) := by
  unfold savePairingState
  rw [PyM.get_bind, hpath]
  dsimp only
  by_cases hid : candidateId ≠ candidateIdOf C d.deviceId
  · rw [if_pos hid, if_pos hid]
    exact ⟨t, rfl, rfl⟩
  · rw [if_neg hid, if_neg hid]
    unfold SaveOutcomes.ending SaveOutcomes.inPair
    cases o.mkdir with
    | error e => exact ⟨t, rfl, rfl⟩
    | ok u =>
      cases o.create with
      | error e => exact ⟨t, rfl, rfl⟩
      | ok random =>
        have hclean : ∀ e, (Linker.unlinkTemporary (o.inPair p) >>= fun _ => PyM.raise e :
            PyM TuyaState Unit) t = (.error (o.cleaned e), t) := by
          intro e
          unfold Linker.unlinkTemporary SaveOutcomes.cleaned SaveOutcomes.inPair
          cases o.unlink with
          | ok v => rfl
          | error e' =>
            by_cases hn : e'.isA .FileNotFoundError = true
            · simp [PyM.bind_apply, PyM.tryExcept, PyM.outcome, hn]
            · simp [PyM.bind_apply, PyM.tryExcept, PyM.outcome, hn]
        show ∃ t', ((PyM.tryExcept (do
            PyM.outcome o.write
            PyM.outcome o.replace) fun e => do
              Linker.unlinkTemporary (o.inPair p)
              PyM.raise e) >>= fun _ => PyM.modify fun s =>
                { s with file := some (.ok (pairingRecord candidateId d)) } : PyM TuyaState Unit) t =
                  ((do o.write; o.replace).mapError o.cleaned, t') ∧ t'.file = (match
                    (do o.write; o.replace).mapError o.cleaned with
                  | .ok _ => some (.ok (pairingRecord candidateId d))
                  | .error _ => t.file)
        cases o.write with
        | error e =>
          rw [PyM.bind_error ((PyM.tryExcept_error (by rfl)).trans (hclean e))]
          exact ⟨t, rfl, rfl⟩
        | ok v =>
          cases o.replace with
          | error e =>
            rw [PyM.bind_error ((PyM.tryExcept_error (by rfl)).trans (hclean e))]
            exact ⟨t, rfl, rfl⟩
          | ok w => exact ⟨_, rfl, rfl⟩

theorem fromUTF8?_utf8 (text : String) : String.fromUTF8? ⟨(utf8 text).toArray⟩ = some text := by
  have hbytes : (⟨(utf8 text).toArray⟩ : ByteArray) = text.toUTF8 := by
    unfold utf8
    rw [Array.toArray_toList]
  rw [hbytes]
  have hvalid : text.toUTF8.IsValidUTF8 := text.isValidUTF8
  unfold String.fromUTF8?
  rw [dif_pos hvalid]
  rfl

variable {C J}

/-- A saved binding is read as it was written. -/
theorem loadFile_encode {b : Bond} (hJ : ReadsRecord J b) :
    loadFile J (encode b) = .ok (pairingRecord b.2 b.1) := by
  unfold loadFile encode
  rw [fromUTF8?_utf8]
  exact hJ

theorem fileAt_stores {files : Files} {c : Cell Bond}
    (hJ : ∀ b, c.value = some b → ReadsRecord J b) (h : Stores encode files name c) :
    fileAt J files name = c.value.map fun b => .ok (pairingRecord b.2 b.1) := by
  unfold fileAt
  rw [h.read]
  cases hv : c.value with
  | none => rfl
  | some b => exact congrArg some (loadFile_encode (hJ b hv))

/-- **The save call by call refines the save in one step**: they end alike, and the driver's file
is what the state file reads. -/
theorem savePairingFile_eq {files : Files} {c : Cell Bond} {t : TuyaState} {candidateId : String}
    {d : TuyaDeviceConfig} (hold : ∀ b, c.value = some b → ReadsRecord J b)
    (hnew : ReadsRecord J (d, candidateId)) (hstores : Stores encode files name c)
    (hfresh : ∀ random, o.create = .ok random → files.names (temporaryName name random) = none)
    (hpath : t.statePath = some name) (hfile : t.file = fileAt J files name) :
    ∃ r s' t', savePairingFile C o name candidateId d (Call.start files) = (r, s') ∧
      savePairingState C (o.inPair p) candidateId d t = (r, t') ∧
      t'.file = fileAt J s'.files name := by
  obtain ⟨r, s', hsave, hr, -, hok, herr⟩ :=
    savePairingFile_spec C o candidateId d hstores hfresh
  obtain ⟨t', hstep, ht'⟩ := savePairingState_apply C (o := o) (p := p) candidateId d hpath
  rw [← hr] at hstep ht'
  refine ⟨r, s', t', hsave, hstep, ?_⟩
  rw [ht']
  cases r with
  | ok u =>
    have hnow : ∀ b, (c.set (d, candidateId)).value = some b → ReadsRecord J b := by
      intro b hb
      cases hb
      exact hnew
    rw [fileAt_stores hnow (hok rfl).1]
    rfl
  | error e => rw [fileAt_stores hold (herr e rfl).1, ← fileAt_stores hold hstores, hfile]

end Refine

/-! ### Runs -/

section Run

variable (C : TuyaCrypto) (ipAddress : String → Option IpAddress) (profile : TuyaPairingConfig)
variable {name : String} {files files' : Files} {c c' : Cell Bond}

/-- The moments of an attempt: at the first one left the cell is that of the end, before it the one
it was. -/
theorem moments_spec (a : Attempt) (hstores : Stores encode files name c)
    (hfresh : a.Fresh name files) :
    ∃ last before, a.moments C ipAddress profile name files = last :: before ∧
      (∀ x ∈ before, Stores encode x name c) ∧
      (match a.written C ipAddress profile with
        | some b => Stores encode last name (c.set b)
        | none => Stores encode last name c) ∧
      (a.Tidy C ipAddress profile → files.SameBut name last) := by
  unfold Attempt.Tidy Attempt.moments Attempt.written
  cases a.device ipAddress profile with
  | error e => exact ⟨files, [], rfl, nofun, hstores, fun _ _ _ => rfl⟩
  | ok d =>
    obtain ⟨r, s', hsave, hr, hseen, hok, herr⟩ :=
      savePairingFile_spec C a.outcomes a.candidateId d hstores hfresh
    dsimp only
    rw [hsave]
    refine ⟨s'.files, s'.seen, rfl, hseen, ?_⟩
    by_cases hid : a.candidateId = candidateIdOf C d.deviceId
    · rw [if_neg (not_not.mpr hid)] at hr
      rw [← isOk_ending, ← hr]
      cases r with
      | ok u =>
        rw [if_pos ⟨hid, rfl⟩]
        exact ⟨(hok rfl).1, fun _ => (hok rfl).2⟩
      | error e =>
        rw [if_neg (by rintro ⟨-, h⟩; cases h)]
        refine ⟨(herr e rfl).1, fun ht n _ => (herr e rfl).2 (ht.resolve_left ?_) n⟩
        exact Bool.false_ne_true
    · rw [if_pos hid] at hr
      subst hr
      rw [if_neg (fun h => hid h.1)]
      refine ⟨(herr _ rfl).1, fun ht n _ => (herr _ rfl).2 (ht.resolve_left ?_) n⟩
      exact Bool.false_ne_true

/-- **One event.**  The files go on storing the cell that the event makes of it. -/
theorem step_cell {e : Event} (hstores : Stores encode files name c)
    (hstep : step C ipAddress profile name files e = some files') :
    ∃ c', CellStep C ipAddress profile c e c' ∧ Stores encode files' name c' := by
  unfold step at hstep
  split at hstep
  case isFalse => cases hstep
  case isTrue hfresh =>
    obtain ⟨last, before, hm, hbefore, hlast, -⟩ :=
      moments_spec C ipAddress profile e.attempt hstores hfresh
    -- a moment before the last has the old cell, the last one the new
    have hmoment : ∀ (n : Nat) x, (last :: before)[n]? = some x → Stores encode x name c ∨
        ∃ b, e.attempt.written C ipAddress profile = some b ∧ Stores encode x name (c.set b) := by
      intro n x hx
      cases n with
      | zero =>
        cases hx
        cases hw : e.attempt.written C ipAddress profile with
        | none => rw [hw] at hlast; exact .inl hlast
        | some b => rw [hw] at hlast; exact .inr ⟨b, rfl, hlast⟩
      | succ n => exact .inl (hbefore x (List.mem_of_getElem? hx))
    cases e with
    | save a =>
      dsimp only [Event.attempt] at hm hlast hstep
      rw [hm] at hstep
      cases hstep
      cases hw : a.written C ipAddress profile with
      | none => rw [hw] at hlast; exact ⟨c, .failed hw, hlast⟩
      | some b => rw [hw] at hlast; exact ⟨c.set b, .saved hw, hlast⟩
    | kill a n =>
      dsimp only [Event.attempt] at hm hmoment hstep
      rw [hm] at hstep
      rcases hmoment n files' hstep with h | ⟨b, hw, h⟩
      · exact ⟨c, .killedBefore, h⟩
      · exact ⟨c.set b, .killedAfter hw, h⟩
    | powerCut a n k left =>
      dsimp only [Event.attempt] at hm hmoment hstep
      rw [hm] at hstep
      obtain ⟨x, hx, rfl⟩ := Option.map_eq_some_iff.mp hstep
      rcases hmoment n x hx with h | ⟨b, hw, h⟩
      · obtain ⟨v, hv, h'⟩ := h.cut k left
        exact ⟨_, .cutBefore hv, h'⟩
      · obtain ⟨v, hv, h'⟩ := h.cut k left
        exact ⟨_, .cutAfter hw hv, h'⟩

theorem run_cell {es : List Event} (hstores : Stores encode files name c)
    (hrun : Runs.run (step C ipAddress profile name) files es = some files') :
    ∃ c', CellRun C ipAddress profile c es c' ∧ Stores encode files' name c' := by
  induction es generalizing files c with
  | nil => cases hrun; exact ⟨c, .nil, hstores⟩
  | cons e es ih =>
    obtain ⟨t, ht, hrest⟩ := Runs.run_cons_some hrun
    obtain ⟨c₁, hc₁, hs₁⟩ := step_cell C ipAddress profile hstores ht
    obtain ⟨c₂, hc₂, hs₂⟩ := ih hs₁ hrest
    exact ⟨c₂, .cons hc₁ hc₂, hs₂⟩

/-- An attempt that ends leaves the other files as they were, and no new one. -/
theorem save_sameBut {a : Attempt} (hstores : Stores encode files name c)
    (hstep : step C ipAddress profile name files (.save a) = some files')
    (htidy : a.Tidy C ipAddress profile) : files.SameBut name files' := by
  unfold step at hstep
  split at hstep
  case isFalse => cases hstep
  case isTrue hfresh =>
    obtain ⟨last, before, hm, -, -, hsame⟩ := moments_spec C ipAddress profile a hstores hfresh
    dsimp only at hstep
    rw [hm] at hstep
    cases hstep
    exact hsame htidy

/-- Start-up accepts a binding that was written. -/
def Loads (b : Bond) : Prop :=
  TuyaDeviceConfig.init ipAddress b.1.ip b.1.deviceId profile.link (some profile.dps) = .ok b.1 ∧
    b.2 = candidateIdOf C b.1.deviceId

theorem written_loads {a : Attempt} {b : Bond} (h : a.written C ipAddress profile = some b) :
    Loads C ipAddress profile b := by
  unfold Attempt.written at h
  cases hd : a.device ipAddress profile with
  | error e => rw [hd] at h; cases h
  | ok d =>
    rw [hd] at h
    dsimp only at h
    split at h
    case isFalse => cases h
    case isTrue hcond =>
      cases h
      have hinit : TuyaDeviceConfig.init ipAddress a.ip a.deviceId profile.link
          (some profile.dps) = .ok d := hd
      obtain ⟨hip, hdev, -, -⟩ := TuyaDeviceConfig.init_eq_ok _ _ _ _ _ _ hinit
      refine ⟨?_, hcond.1⟩
      dsimp only
      rw [hip, hdev]
      exact hinit

/-- The cell has no binding but those some attempt wrote. -/
theorem cellStep_values {P : Bond → Prop} {e : Event} (hc : ∀ b, some b ∈ c.values → P b)
    (he : ∀ b, e.attempt.written C ipAddress profile = some b → P b)
    (h : CellStep C ipAddress profile c e c') : ∀ b, some b ∈ c'.values → P b := by
  have hset : ∀ {x : Bond}, e.attempt.written C ipAddress profile = some x →
      ∀ b, some b ∈ (c.set x).values → P b := by
    intro x hw b hb
    rcases List.mem_cons.mp hb with hb | hb
    · cases hb
      exact he _ hw
    · exact hc b hb
  have hcut : ∀ {v : Option Bond} {b : Bond}, some b ∈ (Cell.values ⟨v, []⟩) → some b = v :=
    fun hb => List.mem_singleton.mp hb
  cases h with
  | saved hw => exact hset hw
  | failed => exact hc
  | killedBefore => exact hc
  | killedAfter hw => exact hset hw
  | cutBefore hv => exact fun b hb => hc b (hcut hb ▸ hv)
  | cutAfter hw hv => exact fun b hb => hset hw b (hcut hb ▸ hv)

theorem cellRun_values {P : Bond → Prop} {es : List Event} (h : CellRun C ipAddress profile c es c')
    (hc : ∀ b, some b ∈ c.values → P b)
    (hes : ∀ e ∈ es, ∀ b, e.attempt.written C ipAddress profile = some b → P b) :
    ∀ b, some b ∈ c'.values → P b := by
  induction h with
  | nil => exact hc
  | cons hstep _ ih =>
    obtain ⟨he, hrest⟩ := List.forall_mem_cons.mp hes
    exact ih (cellStep_values C ipAddress profile hc he hstep) hrest

/-! ## Main result -/

/-- **The state file over any run of attempts, kills and power cuts.**  It is a cell: start-up
never finds it torn or invalid, and loads the binding the cell has.  An attempt that then ends
touches no other file and leaves no new one, if it saves its binding or can unlink the new file. -/
theorem stateFile_survives {J : JsonLib} (hnone : Stores encode files name ⟨none, []⟩)
    {es : List Event}
    (hJ : ∀ e ∈ es, ∀ b, e.attempt.written C ipAddress profile = some b → ReadsRecord J b)
    (hrun : Runs.run (step C ipAddress profile name) files es = some files') :
    (∃ c, CellRun C ipAddress profile ⟨none, []⟩ es c ∧
      loadPairingState C ipAddress profile (fileAt J files' name) = .ok c.value) ∧
    ∀ (a : Attempt) (next : Files), step C ipAddress profile name files' (.save a) = some next →
      a.Tidy C ipAddress profile → files'.SameBut name next := by
  obtain ⟨c, hc, hs⟩ := run_cell C ipAddress profile hnone hrun
  refine ⟨?_, fun a next hstep htidy => save_sameBut C ipAddress profile hs hstep htidy⟩
  have hempty : ∀ {P : Bond → Prop} b, some b ∈ (Cell.values ⟨none, []⟩) → P b := by
    intro P b hb
    cases List.mem_singleton.mp hb
  have hmem : ∀ b, c.value = some b → some b ∈ c.values := by
    intro b hb
    rw [← hb]
    exact List.mem_cons_self
  have hloads := cellRun_values C ipAddress profile (P := Loads C ipAddress profile) hc hempty
    fun _ _ _ hw => written_loads C ipAddress profile hw
  refine ⟨c, hc, ?_⟩
  rw [fileAt_stores (fun b hb => cellRun_values C ipAddress profile hc hempty hJ b (hmem b hb)) hs]
  cases hv : c.value with
  | none => rfl
  | some b =>
    obtain ⟨hinit, hid⟩ := hloads b (hmem b hv)
    obtain ⟨d, candidateId⟩ := b
    dsimp only at hinit hid
    subst hid
    exact Restart.loadPairingState_record C ipAddress profile hinit

end Run

/-! ### A save, and one after which the power is cut -/

/-- Every step of the save succeeds; the stream passes the text on in two pieces. -/
def SaveOutcomes.allWell (random : String) : SaveOutcomes :=
  ⟨.ok (), .ok random, ⟨[7], .ok ()⟩, 0, ⟨[], .ok ()⟩, .ok (), ⟨[], .ok ()⟩, .ok (), .ok ()⟩

def saveDigit (random : String) : Attempt :=
  ⟨candidateIdOf TuyaCrypto.plain "0123456789", digitItem.ip, "0123456789", .allWell random⟩

/-- The second save is done when the power is cut, and the directory is the one before. -/
def saveAndCut : List Event :=
  [.save (saveDigit "a"), .powerCut (saveDigit "b") 0 1 fun _ => [0x7b]]

/-- A library that reads the text of one binding. -/
def recordLib (b : Bond) : JsonLib :=
  { JsonLib.ofDecode fun _ => .error .malformed with
    decodeStr := fun text =>
      if text = recordText b.2 b.1 then .ok (pairingRecord b.2 b.1) else .error .malformed }

theorem recordLib_reads (b : Bond) : ReadsRecord (recordLib b) b := by
  show (if recordText b.2 b.1 = recordText b.2 b.1 then _ else _) = _
  exact if_pos rfl

theorem saveDigit_written (random : String) : (saveDigit random).written TuyaCrypto.plain
    privateAddress ⟨lampLink, lampMapping⟩ =
      some (digitLamp, candidateIdOf TuyaCrypto.plain "0123456789") := by
  have hdev : (saveDigit random).device privateAddress ⟨lampLink, lampMapping⟩ =
      .ok digitLamp := by
    show TuyaDeviceConfig.init privateAddress digitItem.ip digitItem.id.val lampLink
      (some lampMapping) = .ok digitLamp
    rfl
  unfold Attempt.written
  rw [hdev]
  exact if_pos ⟨rfl, rfl⟩

/-- The new file cannot be renamed onto the state file. -/
def failing : Attempt :=
  ⟨candidateIdOf TuyaCrypto.plain "0123456789", digitItem.ip, "0123456789",
    { SaveOutcomes.allWell "c" with replace := .error ⟨.OSError, "no space left on device"⟩ }⟩

/-- A save, one after which the power is cut, and one that fails. -/
theorem stateFile_survives_cut : ∃ files' next,
    (∃ c, CellRun TuyaCrypto.plain privateAddress ⟨lampLink, lampMapping⟩ ⟨none, []⟩ saveAndCut c ∧
      loadPairingState TuyaCrypto.plain privateAddress ⟨lampLink, lampMapping⟩
        (fileAt (recordLib (digitLamp, candidateIdOf TuyaCrypto.plain "0123456789")) files'
          "pairing.json") = .ok c.value) ∧
    step TuyaCrypto.plain privateAddress ⟨lampLink, lampMapping⟩ "pairing.json" files'
      (.save failing) = some next ∧
    files'.SameBut "pairing.json" next := by
  have hsome : (Runs.run (step TuyaCrypto.plain privateAddress ⟨lampLink, lampMapping⟩
      "pairing.json") Fs.empty (saveAndCut ++ [.save failing])).isSome = true := by decide +kernel
  obtain ⟨next, hall⟩ := Option.isSome_iff_exists.mp hsome
  obtain ⟨files', hrun, hlast⟩ := Runs.run_append_some hall
  obtain ⟨t, hstep, hnil⟩ := Runs.run_cons_some hlast
  cases hnil
  have hread : ∀ e ∈ saveAndCut, ∀ b, e.attempt.written TuyaCrypto.plain privateAddress
      ⟨lampLink, lampMapping⟩ = some b →
        ReadsRecord (recordLib (digitLamp, candidateIdOf TuyaCrypto.plain "0123456789")) b := by
    intro e he b hb
    have hattempt : ∃ random, e.attempt = saveDigit random := by
      rcases List.mem_pair.mp he with h | h
      · exact ⟨"a", congrArg Event.attempt h⟩
      · exact ⟨"b", congrArg Event.attempt h⟩
    obtain ⟨random, hattempt⟩ := hattempt
    rw [hattempt, saveDigit_written] at hb
    cases hb
    exact recordLib_reads _
  obtain ⟨hcell, htidy⟩ := stateFile_survives _ _ _ stores_empty hread hrun
  exact ⟨files', next, hcell, hstep, htidy failing next hstep (.inr rfl)⟩

end Linker.Saving
