import OpenHdoLinker.RuntimeConfig
import OpenHdoLinker.Restart
import OpenHdoLinker.Boundary.Answers

/-!
# Starting up

`cli._run` up to the boundary, in both modes.  An accepted configuration with a
device starts, and `register()` announces its light, exactly when the device id is
itself a light id: `descriptor(light_id)` builds a descriptor of the raw device id
before it replaces the id.

    AnnouncesLight C stamps P config file ↔ the device_id setting is an identifier
                                                            (accepted_starts_iff)
-/

namespace Linker.StartUp

open Py Settings

/-! ## Algorithm -/

section StartUp

variable (C : TuyaCrypto) (stamps : Nat → Stamp) (P : StartLib)

/-- `_run(config)` up to the boundary; `file` is what is at the pairing-state path. -/
def startUp (config : RuntimeConfig) (file : Option StateFile) :
    Except PyErr (BoundaryState × TuyaState) :=
  if config.discoveryOnly then
    Restart.startUp C P.ipAddress config.discoveryEnabled config.pairing (some config.pairingStatePath)
      file
  else
    match config.device, config.lightId with
    | some device, some lightId => do
      let driver ← TuyaState.init C P.ipAddress (some device) config.discoveryEnabled none none file
      let announced ← descriptor driver (some lightId)
      .ok (BoundaryState.init (some lightId) (some device.deviceId) (some announced), driver)
    | _, _ => .error ⟨.derived "AssertionError" .Exception, ""⟩

/-! ## Statement -/

/-- Start-up and `register()` raise nothing, and the one device announced is the configured light. -/
def AnnouncesLight (config : RuntimeConfig) (file : Option StateFile) : Prop :=
  ∃ b driver m, startUp C P config file = .ok (b, driver) ∧
    (register config.linker stamps ⟨b, driver, 0, []⟩).1 = .ok m ∧
    ∃ device lightId, m.payload.lookup "devices" = some (.arr [.obj device]) ∧
      config.lightId = some lightId ∧ device.lookup "id" = some (.str lightId)

/-! ## Lemmas -/

variable {config : RuntimeConfig} (file : Option StateFile) {d : TuyaDeviceConfig} {lightId : String}

theorem lightId_of_device (hmode : config.discoveryOnly = false) :
    ∃ lightId, config.lightId = some lightId ∧ isIdentifier lightId = true := by
  have hok := config.mode_ok
  rw [hmode, if_neg Bool.false_ne_true] at hok
  exact hok.2

theorem startUp_device (hmode : config.discoveryOnly = false) (hdevice : config.device = some d)
    (hlight : config.lightId = some lightId) :
    ∃ driver, driver.device = some d ∧ startUp C P config file = (do
      let announced ← descriptor driver (some lightId)
      .ok (BoundaryState.init (some lightId) (some d.deviceId) (some announced), driver)) := by
  unfold startUp
  rw [hmode, if_neg Bool.false_ne_true, hdevice, hlight]
  exact ⟨_, rfl, rfl⟩

/-- A device whose id is a light id is announced under the configured one. -/
theorem announces_of_identifier (hmode : config.discoveryOnly = false)
    (hdevice : config.device = some d) (hid : isIdentifier d.deviceId = true) :
    AnnouncesLight C stamps P config file := by
  obtain ⟨lightId, hlight, hok⟩ := lightId_of_device hmode
  obtain ⟨driver, hdriver, hstart⟩ := startUp_device C P file hmode hdevice hlight
  obtain ⟨a, ha, haid⟩ := descriptor_announceable hdriver ⟨hid, hok⟩
  rw [ha] at hstart
  obtain ⟨m, hm, -, hdevices⟩ := Answers.register_devices config.linker stamps
    ⟨BoundaryState.init (some lightId) (some d.deviceId) (some a), driver, 0, []⟩
  refine ⟨_, driver, m, hstart, hm, a.toPayload, lightId, hdevices, hlight, ?_⟩
  rw [← haid]
  rfl

/-- Any other device id ends the start-up. -/
theorem startUp_error (hmode : config.discoveryOnly = false) (hdevice : config.device = some d)
    (hid : ¬ isIdentifier d.deviceId = true) : ∃ e, startUp C P config file = .error e := by
  obtain ⟨lightId, hlight, -⟩ := lightId_of_device hmode
  obtain ⟨driver, hdriver, hstart⟩ := startUp_device C P file hmode hdevice hlight
  have hno : ¬ Announceable lightId d := fun h => hid h.1
  obtain ⟨e, he⟩ := descriptor_not_announceable hdriver hno
  refine ⟨e, ?_⟩
  rw [hstart, he]
  rfl

theorem announces_iff (hmode : config.discoveryOnly = false) (hdevice : config.device = some d) :
    AnnouncesLight C stamps P config file ↔ isIdentifier d.deviceId = true := by
  constructor
  · rintro ⟨b, driver, m, hstart, -⟩
    by_contra hid
    obtain ⟨e, he⟩ := startUp_error C P file hmode hdevice hid
    rw [hstart] at he
    cases he
  · exact announces_of_identifier C stamps P file hmode hdevice

end StartUp

/-! ## Main result -/

/-- **A valid configuration can start**, exactly when the Tuya device id set in it is itself a
light id: for every environment and config file accepted outside discovery-only mode, start-up and
`register()` raise nothing and announce exactly the configured light. -/
theorem accepted_starts_iff (C : TuyaCrypto) (stamps : Nat → Stamp) (P : StartLib) (env : Env)
    (configPath : Option String) (file : Option StateFile) {raw : JsonObj} {config : RuntimeConfig}
    (hraw : configFile P env configPath = .ok raw) (h : fromEnv P env configPath = .ok config)
    (hmode : config.discoveryOnly = false) :
    AnnouncesLight C stamps P config file ↔ ∃ deviceId, isIdentifier deviceId = true ∧
      setting env "OPENHDO_TUYA_DEVICE_ID" (tuyaSection raw) "device_id" .null = .str deviceId := by
  unfold fromEnv at h
  rw [hraw] at h
  obtain ⟨d, hdevice, hset⟩ := device_of_fromRaw h hmode
  rw [announces_iff C stamps P file hmode hdevice, hset]
  constructor
  · intro hid
    exact ⟨d.deviceId, hid, rfl⟩
  · rintro ⟨deviceId, hid, heq⟩
    cases heq
    exact hid

/-! ## A lamp on a desk -/

/-- A config file with the given device id. -/
def deskConfig (deviceId : String) : JsonObj :=
  [("server", .str "ws://localhost:8000"),
    ("tuya", .obj [("device_id", .str deviceId), ("light_id", .str "light.desk"),
      ("ip", .str "192.168.1.20"), ("local_key", .str "0123456789abcdef"), ("protocol", .str "3.3"),
      ("dp_power", .int 20), ("dp_brightness", .int 22), ("dp_color", .int 24),
      ("color_format", .str "hsv_hex"), ("brightness_min", .int 10), ("brightness_max", .int 1000)])]

/-- The library as far as this file goes. -/
def deskLib (deviceId : String) : StartLib where
  urlparse _ := .ok ⟨"ws", some "localhost", none, none, "", ""⟩
  ipAddress _ := some ⟨false, true, false⟩
  floatOfText _ := none
  floatOfInt _ := none
  loadFile _ := .ok (.obj (deskConfig deviceId))

def noEnv : Env := fun _ => none

/-- A device id that starts with a digit passes every check and never starts. -/
theorem desk_never_starts : ∃ config,
    fromEnv (deskLib "0520016084f3eb8b1234") noEnv (some "linker.json") = .ok config ∧
    config.discoveryOnly = false ∧
    ¬ AnnouncesLight .plain (fun _ => .zero) (deskLib "0520016084f3eb8b1234") config none := by
  refine ⟨_, rfl, rfl, ?_⟩
  rw [announces_iff _ _ _ _ rfl rfl]
  decide

/-- A device id that is a light id starts, under the light id set beside it. -/
theorem accepted_starts_desk : ∃ config,
    fromEnv (deskLib "bf0020a84f3eb8b1") noEnv (some "linker.json") = .ok config ∧
    AnnouncesLight .plain (fun _ => .zero) (deskLib "bf0020a84f3eb8b1") config none := by
  refine ⟨_, rfl, ?_⟩
  exact (accepted_starts_iff .plain (fun _ => .zero) (deskLib "bf0020a84f3eb8b1") noEnv
    (some "linker.json") none rfl rfl rfl).mpr ⟨"bf0020a84f3eb8b1", by decide, rfl⟩

end Linker.StartUp
