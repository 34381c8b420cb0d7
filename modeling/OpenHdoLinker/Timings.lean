import OpenHdoLinker.RuntimeConfig

/-!
# Timing settings

The delays, intervals and timeouts of a configuration are Python floats that four
constructors compare with their bounds, each rejecting what is out of range.  A NaN
is not less than, equal to or greater than anything, so it is the one value that is
rejected nowhere and in range nowhere.

    fromEnv P env path = .ok config →
      (InRange config ↔ no timing setting that is read is NaN)   (inRange_iff_no_nan)
-/

namespace Linker.Timings

open Py Settings

/-! ## Statement -/

/-- The links of a configuration: its device's, and its pairing profile's. -/
def links (config : RuntimeConfig) : List TuyaLink :=
  config.device.toList.map (·.link) ++ config.pairing.toList.map (·.link)

/-- Every delay, interval and timeout is within its bounds. -/
structure InRange (config : RuntimeConfig) : Prop where
  poll : (PyFloat.finite 0).lt config.statePollIntervalS = true
  opening : (PyFloat.finite 0).lt config.serverOpenTimeoutS = true
  initial : (PyFloat.finite 0).lt config.linker.reconnectInitialS = true
  longest : config.linker.reconnectInitialS.le config.linker.reconnectMaxS = true
  timeout : ∀ l ∈ links config,
    (PyFloat.finite 0).lt l.timeoutS = true ∧ l.timeoutS.le (.finite 60) = true

/-- One of the keys of a pairing profile is set. -/
def ProfileSet (env : Env) (tuyaRaw : JsonObj) : Prop :=
  ∃ k ∈ pairingKeys, isNull (setting env k.1 tuyaRaw k.2 .null) = false

/-- `timeout` is read for a device, and for a pairing profile. -/
def ReadsTimeout (env : Env) (raw : JsonObj) : Prop :=
  booleanSetting env "OPENHDO_DISCOVERY_ONLY" raw "discovery_only" false = .ok false ∨
    ProfileSet env (tuyaSection raw)

/-- The timing settings that are read, each with its default. -/
inductive TimingSetting (env : Env) (raw : JsonObj) : Json → Prop
  | initial : TimingSetting env raw (setting env "OPENHDO_RECONNECT_INITIAL" (linkerSection raw)
      "reconnect_initial_s" (.float (.finite 1)))
  | longest : TimingSetting env raw (setting env "OPENHDO_RECONNECT_MAX" (linkerSection raw)
      "reconnect_max_s" (.float (.finite 30)))
  | poll : TimingSetting env raw (setting env "OPENHDO_STATE_POLL_INTERVAL" raw
      "state_poll_interval_s" (.float (.finite 15)))
  | opening : TimingSetting env raw (setting env "OPENHDO_SERVER_OPEN_TIMEOUT" raw
      "server_open_timeout_s" (.float (.finite 10)))
  | timeout (h : ReadsTimeout env raw) : TimingSetting env raw (setting env "OPENHDO_TUYA_TIMEOUT"
      (tuyaSection raw) "timeout" (.float (.finite 3)))

/-! ## Lemmas -/

/-- After the four constructors' checks only NaN is left to exclude. -/
theorem inRange_iff_values (config : RuntimeConfig) : InRange config ↔
    config.linker.reconnectInitialS ≠ .nan ∧ config.linker.reconnectMaxS ≠ .nan ∧
      config.statePollIntervalS ≠ .nan ∧ config.serverOpenTimeoutS ≠ .nan ∧
      ∀ l ∈ links config, l.timeoutS ≠ .nan := by
  obtain ⟨hpoll, hopening⟩ := config.timeouts_ok
  obtain ⟨hinitial, hlongest⟩ := config.linker.reconnect_ok
  constructor
  · intro h
    exact ⟨(PyFloat.lt_iff.mp h.initial).2.1, (PyFloat.le_iff.mp h.longest).2.1,
      (PyFloat.lt_iff.mp h.poll).2.1, (PyFloat.lt_iff.mp h.opening).2.1,
      fun l hl => (PyFloat.lt_iff.mp (h.timeout l hl).1).2.1⟩
  · rintro ⟨h1, h2, h3, h4, h5⟩
    refine ⟨PyFloat.lt_iff.mpr ⟨nofun, h3, hpoll⟩, PyFloat.lt_iff.mpr ⟨nofun, h4, hopening⟩,
      PyFloat.lt_iff.mpr ⟨nofun, h1, hinitial⟩, PyFloat.le_iff.mpr ⟨h1, h2, hlongest⟩, ?_⟩
    intro l hl
    exact ⟨PyFloat.lt_iff.mpr ⟨nofun, h5 l hl, l.timeout_ok.1⟩,
      PyFloat.le_iff.mpr ⟨h5 l hl, nofun, l.timeout_ok.2⟩⟩

section Reading

variable {P : StartLib} {env : Env}

theorem timeoutSettings_ok {raw : JsonObj} {timeouts : PyFloat × PyFloat}
    (h : timeoutSettings P env raw = .ok timeouts) :
    floatSetting env "OPENHDO_STATE_POLL_INTERVAL" raw "state_poll_interval_s" P 15 =
        .ok timeouts.1 ∧
      floatSetting env "OPENHDO_SERVER_OPEN_TIMEOUT" raw "server_open_timeout_s" P 10 =
        .ok timeouts.2 := by
  unfold timeoutSettings at h
  obtain ⟨poll, hpoll, h⟩ := bind_eq_ok h
  obtain ⟨opening, hopening, h⟩ := bind_eq_ok h
  cases h
  exact ⟨hpoll, hopening⟩

theorem linkSettings_timeout {tuyaRaw : JsonObj} {localKey protocolVersion : String}
    {a : LinkSettings} (h : linkSettings P env tuyaRaw localKey protocolVersion = .ok a) :
    floatSetting env "OPENHDO_TUYA_TIMEOUT" tuyaRaw "timeout" P 3 = .ok a.timeoutS := by
  unfold linkSettings at h
  obtain ⟨publicName, -, h⟩ := bind_eq_ok h
  obtain ⟨port, -, h⟩ := bind_eq_ok h
  obtain ⟨timeoutS, htimeout, h⟩ := bind_eq_ok h
  obtain ⟨retries, -, h⟩ := bind_eq_ok h
  cases h
  exact htimeout

theorem checkTimeout_ok {timeoutS : PyFloat} {t} (h : checkTimeout timeoutS = .ok t) :
    t.val = timeoutS := by
  unfold checkTimeout at h
  split at h
  · cases h
    rfl
  · cases h

theorem deviceLink_timeout {a : LinkSettings} {l : TuyaLink} (h : deviceLink a = .ok l) :
    l.timeoutS = a.timeoutS := by
  unfold deviceLink at h
  obtain ⟨name, -, h⟩ := bind_eq_ok h
  obtain ⟨key, -, h⟩ := bind_eq_ok h
  obtain ⟨protocol, -, h⟩ := bind_eq_ok h
  obtain ⟨port, -, h⟩ := bind_eq_ok h
  obtain ⟨timeout, htimeout, h⟩ := bind_eq_ok h
  obtain ⟨retries, -, h⟩ := bind_eq_ok h
  cases h
  exact checkTimeout_ok htimeout

theorem pairingLink_timeout {a : LinkSettings} {l : TuyaLink} (h : pairingLink a = .ok l) :
    l.timeoutS = a.timeoutS := by
  unfold pairingLink at h
  obtain ⟨key, -, h⟩ := bind_eq_ok h
  obtain ⟨protocol, -, h⟩ := bind_eq_ok h
  obtain ⟨name, -, h⟩ := bind_eq_ok h
  obtain ⟨port, -, h⟩ := bind_eq_ok h
  obtain ⟨timeout, htimeout, h⟩ := bind_eq_ok h
  obtain ⟨retries, -, h⟩ := bind_eq_ok h
  cases h
  exact checkTimeout_ok htimeout

theorem deviceConfig_link {ipAddress : String → Option IpAddress} {ip deviceId : String}
    {a : LinkSettings} {dps : TuyaDpMapping} {d : TuyaDeviceConfig}
    (h : deviceConfig ipAddress ip deviceId a dps = .ok d) : deviceLink a = .ok d.link := by
  unfold deviceConfig at h
  split at h
  · cases h
  · split at h
    · cases h
    · split at h
      · obtain ⟨link, hlink, h⟩ := bind_eq_ok h
        cases h
        exact hlink
      · cases h

theorem deviceOfEnv_timeout {tuyaRaw : JsonObj} {deviceId : String} {d : TuyaDeviceConfig}
    (h : deviceOfEnv P env tuyaRaw deviceId = .ok d) :
    floatSetting env "OPENHDO_TUYA_TIMEOUT" tuyaRaw "timeout" P 3 = .ok d.link.timeoutS := by
  unfold deviceOfEnv at h
  obtain ⟨mapping, -, h⟩ := bind_eq_ok h
  obtain ⟨ip, -, h⟩ := bind_eq_ok h
  obtain ⟨localKey, -, h⟩ := bind_eq_ok h
  obtain ⟨protocolVersion, -, h⟩ := bind_eq_ok h
  obtain ⟨settings, hsettings, h⟩ := bind_eq_ok h
  rw [deviceLink_timeout (deviceConfig_link h)]
  exact linkSettings_timeout hsettings

theorem profileSet_iff {tuyaRaw : JsonObj} : ProfileSet env tuyaRaw ↔
    ¬ (pairingKeys.all fun k => isNull (setting env k.1 tuyaRaw k.2 .null)) = true := by
  rw [List.all_eq_true]
  push Not
  simp only [Bool.not_eq_true, ProfileSet]

/-- A pairing profile is built exactly when one of its keys is set. -/
theorem pairingConfig_timeout {tuyaRaw : JsonObj} {pairing : Option TuyaPairingConfig}
    (h : pairingConfig P env tuyaRaw = .ok pairing) : (pairing = none ↔ ¬ ProfileSet env tuyaRaw) ∧
      ∀ p ∈ pairing,
        floatSetting env "OPENHDO_TUYA_TIMEOUT" tuyaRaw "timeout" P 3 = .ok p.link.timeoutS := by
  unfold pairingConfig at h
  split at h
  · next hkeys =>
    cases h
    refine ⟨iff_of_true rfl ?_, nofun⟩
    rw [profileSet_iff, not_not]
    exact hkeys
  · next hkeys =>
    obtain ⟨localKey, -, h⟩ := bind_eq_ok h
    obtain ⟨protocolVersion, -, h⟩ := bind_eq_ok h
    obtain ⟨dps, -, h⟩ := bind_eq_ok h
    obtain ⟨settings, hsettings, h⟩ := bind_eq_ok h
    obtain ⟨link, hlink, h⟩ := bind_eq_ok h
    cases h
    refine ⟨iff_of_false nofun (not_not.mpr (profileSet_iff.mpr hkeys)), ?_⟩
    intro p hp
    cases hp
    rw [pairingLink_timeout hlink]
    exact linkSettings_timeout hsettings

/-- The links of an accepted configuration: there is one exactly when `timeout` is read, and it
waits that long. -/
theorem fromRaw_links {raw : JsonObj} {config : RuntimeConfig} (h : fromRaw P env raw = .ok config) :
    (links config = [] ↔ ¬ ReadsTimeout env raw) ∧ ∀ l ∈ links config,
      floatSetting env "OPENHDO_TUYA_TIMEOUT" (tuyaSection raw) "timeout" P 3 = .ok l.timeoutS := by
  unfold fromRaw at h
  obtain ⟨c, hc, h⟩ := bind_eq_ok h
  obtain ⟨htuya, hmode, -⟩ := commonSettings_ok hc
  unfold ReadsTimeout links
  rw [hmode, ← htuya]
  cases hdiscovery : c.discoveryOnly with
  | true =>
    rw [hdiscovery] at h
    obtain ⟨hdevice, -, -, hpairing, -⟩ := discoveryMode_ok h
    obtain ⟨hnone, hread⟩ := pairingConfig_timeout hpairing
    rw [hdevice]
    cases hprofile : config.pairing with
    | none => simpa [hprofile] using hnone
    | some p =>
      have hset : ProfileSet env c.tuyaRaw := by
        by_contra hno
        rw [hnone.mpr hno] at hprofile
        cases hprofile
      simpa [hset] using hread p hprofile
  | false =>
    rw [hdiscovery] at h
    obtain ⟨hpairing, -, ⟨deviceId, d, -, hd, hdevice⟩, -⟩ := deviceMode_ok h
    rw [hpairing, hdevice]
    simpa using deviceOfEnv_timeout hd

/-- The other four timings of an accepted configuration. -/
theorem fromRaw_timings {raw : JsonObj} {config : RuntimeConfig}
    (h : fromRaw P env raw = .ok config) :
    floatSetting env "OPENHDO_RECONNECT_INITIAL" (linkerSection raw) "reconnect_initial_s" P 1 =
        .ok config.linker.reconnectInitialS ∧
      floatSetting env "OPENHDO_RECONNECT_MAX" (linkerSection raw) "reconnect_max_s" P 30 =
        .ok config.linker.reconnectMaxS ∧
      floatSetting env "OPENHDO_STATE_POLL_INTERVAL" raw "state_poll_interval_s" P 15 =
        .ok config.statePollIntervalS ∧
      floatSetting env "OPENHDO_SERVER_OPEN_TIMEOUT" raw "server_open_timeout_s" P 10 =
        .ok config.serverOpenTimeoutS := by
  unfold fromRaw at h
  obtain ⟨c, hc, h⟩ := bind_eq_ok h
  obtain ⟨-, -, hinitial, hlongest⟩ := commonSettings_ok hc
  obtain ⟨hlinker, htimeouts⟩ : config.linker = c.linker ∧
      timeoutSettings P env raw = .ok (config.statePollIntervalS, config.serverOpenTimeoutS) := by
    split at h
    · obtain ⟨-, hlinker, -, -, htimeouts⟩ := discoveryMode_ok h
      exact ⟨hlinker, htimeouts⟩
    · obtain ⟨-, hlinker, -, htimeouts⟩ := deviceMode_ok h
      exact ⟨hlinker, htimeouts⟩
  rw [hlinker]
  exact ⟨hinitial, hlongest, timeoutSettings_ok htimeouts⟩

end Reading

/-! ## Main result -/

/-- **Accepted timing configuration is in range** exactly when no timing setting that is read is
NaN: every other value out of range is rejected by a constructor. -/
theorem inRange_iff_no_nan (P : StartLib) (env : Env) (configPath : Option String) {raw : JsonObj}
    {config : RuntimeConfig} (hraw : configFile P env configPath = .ok raw)
    (h : fromEnv P env configPath = .ok config) :
    InRange config ↔ ∀ value, TimingSetting env raw value → floatOf P value ≠ .ok .nan := by
  unfold fromEnv at h
  rw [hraw] at h
  obtain ⟨hinitial, hlongest, hpoll, hopening⟩ := fromRaw_timings h
  obtain ⟨hnone, htimeout⟩ := fromRaw_links h
  unfold floatSetting at *
  -- a float that was read is NaN exactly when the value it is kept as is
  have hkept : ∀ {value : Json} {x : PyFloat}, floatOf P value = .ok x →
      (floatOf P value ≠ .ok .nan ↔ x ≠ .nan) := by
    intro value x hx
    rw [hx, ne_eq, ne_eq, Except.ok.injEq]
  rw [inRange_iff_values]
  constructor
  · rintro ⟨h1, h2, h3, h4, h5⟩ value hvalue
    cases hvalue with
    | initial => exact (hkept hinitial).mpr h1
    | longest => exact (hkept hlongest).mpr h2
    | poll => exact (hkept hpoll).mpr h3
    | opening => exact (hkept hopening).mpr h4
    | timeout hreads =>
      have hlinks : links config ≠ [] := fun he => hnone.mp he hreads
      obtain ⟨l, hl⟩ := List.exists_mem_of_ne_nil _ hlinks
      exact (hkept (htimeout l hl)).mpr (h5 l hl)
  · intro hno
    refine ⟨(hkept hinitial).mp (hno _ .initial), (hkept hlongest).mp (hno _ .longest),
      (hkept hpoll).mp (hno _ .poll), (hkept hopening).mp (hno _ .opening), ?_⟩
    intro l hl
    have hreads : ReadsTimeout env raw := by
      by_contra hno
      rw [hnone.mpr hno] at hl
      cases hl
    exact (hkept (htimeout l hl)).mp (hno _ (.timeout hreads))

/-! ## A linker on the same host -/

/-- A discovery-only config file with the given poll interval. -/
def scanOnly (poll : Json) : JsonObj :=
  [("server", .str "ws://localhost:8000"), ("discovery_only", .bool true),
    ("state_poll_interval_s", poll)]

/-- The library where `raw` is the config file and the server is this host. -/
def localLib (raw : JsonObj) : StartLib where
  urlparse _ := .ok ⟨"ws", some "localhost", none, none, "", ""⟩
  ipAddress _ := none
  floatOfText _ := none
  floatOfInt i := some (.finite i)
  loadFile _ := .ok (.obj raw)

/-- `"state_poll_interval_s": NaN` is accepted, and is not a positive interval. -/
theorem nan_accepted : ∃ config,
    fromEnv (localLib (scanOnly (.float .nan))) (fun _ => none) (some "linker.json") = .ok config ∧
    ¬ InRange config := by
  refine ⟨_, rfl, ?_⟩
  intro h
  cases h.poll

/-- An interval of a minute is in range, and so are the defaults. -/
theorem inRange_minute : ∃ config,
    fromEnv (localLib (scanOnly (.int 60))) (fun _ => none) (some "linker.json") = .ok config ∧
    InRange config := by
  refine ⟨_, rfl, (inRange_iff_no_nan (localLib (scanOnly (.int 60))) (fun _ => none)
    (some "linker.json") rfl rfl).mpr ?_⟩
  intro value hvalue
  cases hvalue <;> nofun

end Linker.Timings
