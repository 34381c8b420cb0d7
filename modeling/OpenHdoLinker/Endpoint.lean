import OpenHdoLinker.RuntimeConfig
import OpenHdoLinker.Lib.GenericUrl

/-!
# The endpoint URL

`websocket_url` appends to the text of the server URL, while `__post_init__` looks at
what `urlparse` makes of it.  `urlparse` reports an empty query for a URL that ends in
`?` and an empty fragment for one that ends in `#`, so such a URL is accepted and its
endpoint is all query or all fragment.

    runtimeConfig P a = .ok config →
      (IsLinkerEndpoint (splitUrl server_url) (splitUrl websocket_url) id ↔
        server_url has no ? and no #)                           (websocketUrl_iff)
-/

namespace Linker.Endpoint

open Py Settings Url

/-! ## Algorithm -/

/-- `/api/v1/linkers/…`. -/
def endpointPath (id : List Char) : List Char := "/api/v1/linkers/".toList ++ id

/-- `websocket_url`. -/
def websocketUrl (config : RuntimeConfig) : String :=
  String.ofList (trimSlashes config.serverUrl.toList ++ endpointPath (quote config.linker.id.toList))

/-! ## Statement -/

/-- The endpoint of a linker at a server, both taken apart. -/
structure IsLinkerEndpoint (server endpoint : UrlParts) (id : String) : Prop where
  scheme : endpoint.scheme = server.scheme
  host : endpoint.host = server.host
  port : endpoint.port = server.port
  path : endpoint.path = trimSlashes server.path ++ endpointPath id.toList
  query : endpoint.query = none
  fragment : endpoint.fragment = none

/-! ## Lemmas -/

theorem isNameChar_unreserved {c : Char} (h : isNameChar c = true) : isUnreserved c = true := by
  unfold isNameChar isLower isDigit at h
  unfold isUnreserved
  simp only [Bool.or_eq_true] at h ⊢
  tauto

/-- An identifier is quoted as it is. -/
theorem identifier_unreserved {s : String} (h : isIdentifier s = true) :
    ∀ c ∈ s.toList, isUnreserved c = true := by
  unfold isIdentifier matchesName at h
  split at h
  · cases h
  · next x cs hcs =>
    simp only [Bool.and_eq_true, List.all_eq_true] at h
    rw [hcs]
    intro c hc
    rcases List.mem_cons.mp hc with rfl | hc
    · apply isNameChar_unreserved
      unfold isNameChar
      rw [h.1.1.1]
      rfl
    · exact isNameChar_unreserved (h.1.1.2 c hc)

/-- The path of an endpoint has no delimiter of a query or a fragment. -/
theorem endpointPath_no_query {id : List Char} (hid : ∀ c ∈ id, isUnreserved c = true) :
    '?' ∉ endpointPath id ∧ '#' ∉ endpointPath id := by
  unfold endpointPath
  rw [List.mem_append, List.mem_append]
  constructor
  · rintro (h | h)
    · exact absurd h (by decide)
    · cases hid _ h
  · rintro (h | h)
    · exact absurd h (by decide)
    · cases hid _ h

/-- An accepted server has a host. -/
theorem checkServer_host {P : StartLib} {a : RuntimeSettings} (h : checkServer P a = .ok ()) :
    ∃ parsed, P.urlparse a.serverUrl = .ok parsed ∧ parsed.hostname.getD "" ≠ "" := by
  unfold checkServer at h
  obtain ⟨parsed, hparsed, h⟩ := bind_eq_ok h
  refine ⟨parsed, hparsed, ?_⟩
  intro hempty
  dsimp only at h
  rw [if_pos (.inr (.inl hempty))] at h
  cases h

/-! ## Main result -/

/-- **The endpoint URL is the linker endpoint**, exactly when the server URL has no delimiter of a
query or a fragment: for every server URL and linker id `RuntimeConfig` accepts, where `urlparse`
finds no host in an empty authority. -/
theorem websocketUrl_iff (P : StartLib) {a : RuntimeSettings} {config : RuntimeConfig}
    (hhost : ∀ url parsed, P.urlparse url = .ok parsed →
      (splitUrl url.toList).authority = some [] → parsed.hostname.getD "" = "")
    (h : runtimeConfig P a = .ok config) :
    IsLinkerEndpoint (splitUrl config.serverUrl.toList) (splitUrl (websocketUrl config).toList)
      config.linker.id ↔ '?' ∉ config.serverUrl.toList ∧ '#' ∉ config.serverUrl.toList := by
  have hid := identifier_unreserved config.linker.id_ok
  have hpath := endpointPath_no_query hid
  unfold websocketUrl
  rw [quote_eq_self hid, String.toList_ofList]
  constructor
  · intro hendpoint
    obtain ⟨hquery, hfragment⟩ :=
      (splitUrl_no_query_iff _).mp ⟨hendpoint.query, hendpoint.fragment⟩
    exact ⟨fun hc => hquery (List.mem_append_left _ (mem_trimSlashes (by decide) hc)),
      fun hc => hfragment (List.mem_append_left _ (mem_trimSlashes (by decide) hc))⟩
  · intro hurl
    obtain ⟨hserver, _, _, rfl⟩ := runtimeConfig_ok h
    obtain ⟨parsed, hparsed, hname⟩ := checkServer_host hserver
    have hauthority : (splitUrl a.serverUrl.toList).authority ≠ some [] := fun he =>
      hname (hhost _ parsed hparsed he)
    have hsplit : splitUrl (trimSlashes a.serverUrl.toList ++ endpointPath a.linker.id.toList) = _ :=
      splitUrl_extend hurl hpath hauthority (by decide)
    obtain ⟨hquery, hfragment⟩ := (splitUrl_no_query_iff _).mpr hurl
    rw [hsplit]
    exact ⟨rfl, rfl, rfl, rfl, hquery, hfragment⟩

/-! ## A server on the same host -/

/-- The library for URLs without a user. -/
def urlLib : StartLib where
  urlparse url :=
    let u := splitUrl url.toList
    .ok ⟨String.ofList (u.scheme.getD []), u.host.map String.ofList, none, none,
      String.ofList (u.query.getD []), String.ofList (u.fragment.getD [])⟩
  ipAddress _ := none
  floatOfText _ := none
  floatOfInt _ := none
  loadFile _ := .error ⟨.FileNotFoundError, "no such file"⟩

theorem urlLib_host (url : String) (parsed : ParsedUrl) (h : urlLib.urlparse url = .ok parsed)
    (hempty : (splitUrl url.toList).authority = some []) : parsed.hostname.getD "" = "" := by
  cases h
  unfold UrlParts.host
  rw [hempty]
  rfl

/-- A discovery-only linker of the given server. -/
def scanSettings (serverUrl : String) : RuntimeSettings where
  serverUrl := serverUrl
  linker := LinkerConfig.default
  device := none
  lightId := none
  statePollIntervalS := .finite 15
  serverOpenTimeoutS := .finite 10
  serverApiToken := none
  discoveryOnly := true
  discoveryEnabled := true
  pairing := none
  pairingStatePath := "openhdo-pairing.json"

/-- `ws://localhost:8000?` is accepted, and its endpoint is a query. -/
theorem question_mark_accepted : ∃ config,
    runtimeConfig urlLib (scanSettings "ws://localhost:8000?") = .ok config ∧
    ¬ IsLinkerEndpoint (splitUrl config.serverUrl.toList) (splitUrl (websocketUrl config).toList)
      config.linker.id := by
  refine ⟨_, rfl, ?_⟩
  intro h
  cases h.query

/-- A URL with a path and a trailing slash. -/
theorem websocketUrl_hub : ∃ config,
    runtimeConfig urlLib (scanSettings "ws://localhost:8000/hub/") = .ok config ∧
    IsLinkerEndpoint (splitUrl config.serverUrl.toList) (splitUrl (websocketUrl config).toList)
      config.linker.id := by
  refine ⟨_, rfl, (websocketUrl_iff urlLib (a := scanSettings "ws://localhost:8000/hub/") urlLib_host
    rfl).mpr ?_⟩
  decide

end Linker.Endpoint
