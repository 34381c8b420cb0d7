import OpenHdoLinker.Lib.PyJson

/-!
# Values shared by the boundary and the drivers

`Rgb`, `DeviceDescriptor`, `DiscoveryCandidate` and `LightState` carry what their
`__post_init__` checks as fields, so an invalid value cannot be built; `init`
is the constructor call, which raises where the check fails.
-/

namespace Linker

open Py

/-! ## Identifier patterns -/

def isLower (c : Char) : Bool := 'a' ≤ c && c ≤ 'z'

def isUpper (c : Char) : Bool := 'A' ≤ c && c ≤ 'Z'

def isDigit (c : Char) : Bool := '0' ≤ c && c ≤ '9'

/-- `[a-z0-9._-]`. -/
def isNameChar (c : Char) : Bool := isLower c || isDigit c || c = '.' || c = '_' || c = '-'

/-- `^[a-z][a-z0-9._-]{low,63}$`, matched in full. -/
def matchesName (low : Nat) (s : String) : Bool :=
  match s.toList with
  | [] => false
  | c :: cs => isLower c && cs.all isNameChar && low ≤ cs.length && cs.length ≤ 63

/-- `^[a-z][a-z0-9._-]{1,63}$`: linker, transport, light and candidate ids. -/
def isIdentifier (s : String) : Bool := matchesName 1 s

theorem isIdentifier_length (s : String) (h : isIdentifier s = true) :
    s ≠ "" ∧ s.length ≤ 64 := by
  have hlen : s.length = s.toList.length := String.length_toList.symm
  constructor
  · intro he
    rw [he] at h
    cases h
  · unfold isIdentifier matchesName at h
    rw [hlen]
    cases hs : s.toList with
    | nil => simp
    | cons c cs =>
      rw [hs] at h
      simp only [Bool.and_eq_true, decide_eq_true_eq] at h
      rw [List.length_cons]
      omega

/-! ## Rgb -/

structure Rgb where
  r : Nat
  g : Nat
  b : Nat
  r_le : r ≤ 255
  g_le : g ≤ 255
  b_le : b ≤ 255
deriving DecidableEq

namespace Rgb

theorem toNat_le_of_channel {i : Int} (h : 0 ≤ i ∧ i ≤ 255) : i.toNat ≤ 255 := by
  omega

/-- `type(value) is int and 0 <= value <= 255`. -/
def channel? (v : Json) : Option { n : Nat // n ≤ 255 } :=
  match v with
  | .int i => if h : 0 ≤ i ∧ i ≤ 255 then some ⟨i.toNat, toNat_le_of_channel h⟩ else none
  | _ => none

/-- `Rgb(r, g, b)`. -/
def init (r g b : Json) : Except PyErr Rgb :=
  match channel? r, channel? g, channel? b with
  | some r, some g, some b => .ok ⟨r, g, b, r.2, g.2, b.2⟩
  | _, _, _ => .error (valueError "RGB channels must be integers from 0 to 255")

def fromPayload (value : Json) : Except PyErr Rgb :=
  match value with
  | .obj d =>
    match d.lookup "r", d.lookup "g", d.lookup "b" with
    | some r, some g, some b => init r g b
    | _, _, _ => .error (valueError "rgb requires r, g, and b")
  | _ => .error (valueError "rgb must be an object")

def toPayload (c : Rgb) : Json := .obj [("r", .int c.r), ("g", .int c.g), ("b", .int c.b)]

theorem channel?_ofNat (n : Nat) (h : n ≤ 255) : channel? (.int n) = some ⟨n, h⟩ := by
  simp only [channel?]
  rw [dif_pos (by omega)]
  simp

theorem init_ofNat (r g b : Nat) (hr : r ≤ 255) (hg : g ≤ 255) (hb : b ≤ 255) :
    init (.int r) (.int g) (.int b) = .ok ⟨r, g, b, hr, hg, hb⟩ := by
  unfold init
  rw [channel?_ofNat r hr, channel?_ofNat g hg, channel?_ofNat b hb]

/-- A payload is read back as the colour it was written from. -/
theorem fromPayload_toPayload (c : Rgb) : fromPayload c.toPayload = .ok c := by
  show init (.int c.r) (.int c.g) (.int c.b) = .ok c
  rw [init_ofNat _ _ _ c.r_le c.g_le c.b_le]

end Rgb

/-! ## DeviceDescriptor -/

def supportedModes : List String := ["RGB", "RGBW", "CCT"]

structure DeviceDescriptor where
  id : String
  name : String
  colorModes : List String
  id_ok : isIdentifier id = true
  name_ok : name ≠ "" ∧ name.length ≤ 128
  modes_ok : colorModes ≠ [] ∧ ∀ m ∈ colorModes, m ∈ supportedModes
  modes_nodup : colorModes.Nodup
deriving DecidableEq

namespace DeviceDescriptor

/-- `DeviceDescriptor(id, name, color_modes)`. -/
def init (id name : String) (colorModes : List String) : Except PyErr DeviceDescriptor :=
  if hid : isIdentifier id = true then
    if hname : name ≠ "" ∧ name.length ≤ 128 then
      if hmodes : colorModes ≠ [] ∧ ∀ m ∈ colorModes, m ∈ supportedModes then
        if hnodup : colorModes.Nodup then .ok ⟨id, name, colorModes, hid, hname, hmodes, hnodup⟩
        else .error (valueError "color_modes must be unique")
      else .error (valueError "color_modes must contain supported Light modes")
    else .error (valueError "device descriptor fields are required")
  else .error (valueError "light id must be a lowercase OpenHDO identifier")

/-- `dataclasses.replace(descriptor, id=id)`: the check runs again. -/
def replaceId (d : DeviceDescriptor) (id : String) : Except PyErr DeviceDescriptor :=
  init id d.name d.colorModes

theorem replaceId_ok (d : DeviceDescriptor) (id : String) (h : isIdentifier id = true) :
    d.replaceId id = .ok ⟨id, d.name, d.colorModes, h, d.name_ok, d.modes_ok, d.modes_nodup⟩ := by
  unfold replaceId init
  rw [dif_pos h, dif_pos d.name_ok, dif_pos d.modes_ok, dif_pos d.modes_nodup]

/-- The one capability a light announces. -/
def capability (d : DeviceDescriptor) : Json :=
  .obj ([("kind", .str "light"), ("power", .bool true),
    ("brightness", .obj [("min", .int 0), ("max", .int 255)])] ++
    (if d.colorModes ≠ [] then [("color_modes", .arr (d.colorModes.map .str))] else []) ++
    (if "RGB" ∈ d.colorModes ∨ "RGBW" ∈ d.colorModes then
      [("rgb_channel_range", .obj [("min", .int 0), ("max", .int 255)])] else []))

def toPayload (d : DeviceDescriptor) : JsonObj :=
  [("id", .str d.id), ("name", .str d.name), ("capabilities", .arr [d.capability])]

end DeviceDescriptor

/-! ## DiscoveryCandidate -/

/-- The candidate sent to the server after LAN discovery. -/
structure DiscoveryCandidate where
  candidateId : String
  name : String
  capabilities : List Json
  transport : String
  requiresPairing : Bool
  id_ok : isIdentifier candidateId = true
  name_ok : name ≠ "" ∧ name.length ≤ 128
  transport_ok : transport = "wifi"
  capabilities_ok : capabilities ≠ []

namespace DiscoveryCandidate

/-- `DiscoveryCandidate(candidate_id, name, capabilities)` with the default transport. -/
def init (candidateId name : String) (capabilities : List Json) :
    Except PyErr DiscoveryCandidate :=
  if hid : isIdentifier candidateId = true then
    if hname : name ≠ "" ∧ name.length ≤ 128 then
      if hcap : capabilities ≠ [] then
        .ok ⟨candidateId, name, capabilities, "wifi", true, hid, hname, rfl, hcap⟩
      else .error (valueError "discovery candidates require at least one capability")
    else .error (valueError "candidate name must contain 1 to 128 characters")
  else .error (valueError "candidate_id must be a lowercase OpenHDO identifier")

def fromDescriptor (d : DeviceDescriptor) : Except PyErr DiscoveryCandidate :=
  init d.id d.name [d.capability]

/-- Every descriptor is a candidate: the two checks agree. -/
theorem fromDescriptor_ok (d : DeviceDescriptor) :
    ∃ c, fromDescriptor d = .ok c ∧ c.candidateId = d.id := by
  refine ⟨⟨d.id, d.name, [d.capability], "wifi", true, d.id_ok, d.name_ok, rfl, by simp⟩, ?_, rfl⟩
  unfold fromDescriptor init
  rw [dif_pos d.id_ok, dif_pos d.name_ok, dif_pos (by simp)]

def toPayload (c : DiscoveryCandidate) : JsonObj :=
  [("candidate_id", .str c.candidateId), ("name", .str c.name), ("transport", .str c.transport),
    ("capabilities", .arr c.capabilities), ("requires_pairing", .bool c.requiresPairing)]

end DiscoveryCandidate

/-! ## LightState -/

structure LightState where
  deviceId : String
  available : Bool
  on : Bool
  rgb : Option Rgb
  brightness : Option Int
  white : Option Int
  stateRevision : Int
  device_ok : deviceId ≠ ""
  brightness_ok : ∀ n ∈ brightness, 0 ≤ n ∧ n ≤ 255
  white_ok : ∀ n ∈ white, 0 ≤ n ∧ n ≤ 255
  revision_ok : 0 ≤ stateRevision

namespace LightState

/-- `LightState(device_id, available, on, rgb, brightness, observed_at, white, state_revision)`. -/
def init (deviceId : String) (available on : Bool) (rgb : Option Rgb) (brightness white : Option Int)
    (stateRevision : Int) : Except PyErr LightState :=
  if hd : deviceId ≠ "" then
    if hb : ∀ n ∈ brightness, 0 ≤ n ∧ n ≤ 255 then
      if hw : ∀ n ∈ white, 0 ≤ n ∧ n ≤ 255 then
        if hr : 0 ≤ stateRevision then
          .ok ⟨deviceId, available, on, rgb, brightness, white, stateRevision, hd, hb, hw, hr⟩
        else .error (valueError "state_revision must be a non-negative integer")
      else .error (valueError "white must be an integer from 0 to 255")
    else .error (valueError "brightness must be an integer from 0 to 255")
  else .error (valueError "device_id is required")

/-- What a successful construction holds. -/
theorem init_eq_ok (deviceId : String) (available on : Bool) (rgb : Option Rgb)
    (brightness white : Option Int) (revision : Int) (s : LightState)
    (h : init deviceId available on rgb brightness white revision = .ok s) :
    s.deviceId = deviceId ∧ s.on = on ∧ s.rgb = rgb ∧ s.brightness = brightness ∧
      s.white = white ∧ s.stateRevision = revision := by
  unfold init at h
  split at h
  · split at h
    · split at h
      · split at h
        · cases h; exact ⟨rfl, rfl, rfl, rfl, rfl, rfl⟩
        · cases h
      · cases h
    · cases h
  · cases h

/-- `replace(state, state_revision=revision)`, for a revision that is not negative. -/
def withRevision (s : LightState) (revision : Nat) : LightState :=
  ⟨s.deviceId, s.available, s.on, s.rgb, s.brightness, s.white, revision, s.device_ok,
    s.brightness_ok, s.white_ok, Int.natCast_nonneg revision⟩

/-- `state.to_payload(light_id=light_id)`. -/
def toPayload (s : LightState) (lightId : Option String) : Except PyErr JsonObj :=
  match s.brightness, s.rgb with
  | some brightness, some rgb =>
    let light := match lightId with
      | some l => if l = "" then s.deviceId else l
      | none => s.deviceId
    .ok [("light_id", .str light), ("power", .bool s.on), ("brightness", .int brightness),
      ("rgb_color", rgb.toPayload), ("state_revision", .int s.stateRevision)]
  | _, _ => .error (valueError "reported Light state requires brightness and rgb")

theorem toPayload_revision {s : LightState} {lightId : Option String} {p : JsonObj}
    (h : s.toPayload lightId = .ok p) : getItem p "state_revision" = .int s.stateRevision := by
  unfold toPayload at h
  split at h
  · cases h
    rfl
  · cases h

end LightState

end Linker
