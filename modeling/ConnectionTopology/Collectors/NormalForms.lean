import ConnectionTopology.Collectors.Addresses
import ConnectionTopology.Collectors.SsEndpoints
import ConnectionTopology.Collectors.Windows

/-!
# Normal forms of the collected addresses

The rows of both parsers hold their addresses in normal form.
-/
namespace ConnectionTopology

/-- The addresses are in normal form, and the family is that of the local one. -/
structure NormalizedConnection.IsNormal (c : NormalizedConnection) : Prop where
  localIp : normalizeIpAddress c.localIp = c.localIp
  remoteIp : ∀ ip, c.remoteIp = some ip → normalizeIpAddress ip = ip
  family : c.addressFamily = if ':' ∈ c.localIp.toList then "ipv6" else "ipv4"

/-- A row that is built from normalized addresses. -/
theorem isNormal_of_normalized {c : NormalizedConnection} {localIp : String}
    {remoteIp : Option String} (hlocal : c.localIp = normalizeIpAddress localIp)
    (hremote : c.remoteIp = remoteIp.map normalizeIpAddress)
    (hfamily : c.addressFamily = addressFamily c.localIp) : c.IsNormal where
  localIp := by rw [hlocal, normalizeIpAddress_idem]
  remoteIp := by
    intro ip hip
    rw [hremote] at hip
    obtain ⟨raw, -, rfl⟩ := Option.map_eq_some_iff.mp hip
    exact normalizeIpAddress_idem raw
  family := by rw [hfamily, addressFamily_eq, hlocal, normalizeIpAddress_idem]

/-! ## The Windows parser -/

theorem parseWindowsFields_isNormal {tools : JsonTools} {protocol : String} {row : Json}
    {c : NormalizedConnection} (h : parseWindowsFields tools protocol row = .ok c) :
    c.IsNormal := by
  unfold parseWindowsFields at h
  obtain ⟨localRaw, -, h⟩ := bind_eq_ok h
  obtain ⟨portRaw, -, h⟩ := bind_eq_ok h
  obtain ⟨localPort, -, h⟩ := bind_eq_ok h
  obtain ⟨remoteRaw, -, h⟩ := bind_eq_ok h
  obtain ⟨remotePortRaw, -, h⟩ := bind_eq_ok h
  obtain ⟨unspecified, -, h⟩ := bind_eq_ok h
  obtain ⟨remotePort, -, h⟩ := bind_eq_ok h
  obtain ⟨stateRaw, -, h⟩ := bind_eq_ok h
  obtain ⟨pidRaw, -, h⟩ := bind_eq_ok h
  obtain ⟨processRaw, -, h⟩ := bind_eq_ok h
  obtain ⟨pid, -, h⟩ := bind_eq_ok h
  cases h
  exact isNormal_of_normalized rfl rfl rfl

theorem parseWindowsRows_isNormal {tools : JsonTools} {rows : List Json}
    {connections : List NormalizedConnection} (h : parseWindowsRows tools rows = .ok connections) :
    ∀ c ∈ connections, c.IsNormal := by
  induction rows generalizing connections with
  | nil =>
    cases h
    intro c hc
    cases hc
  | cons row rest ih =>
    rw [parseWindowsRows] at h
    obtain ⟨named, -, h⟩ := bind_eq_ok h
    dsimp only at h
    split_ifs at h
    · obtain ⟨connection, hconnection, h⟩ := bind_eq_ok h
      obtain ⟨others, hothers, h⟩ := bind_eq_ok h
      cases h
      intro c hc
      rcases List.mem_cons.mp hc with rfl | hc
      · exact parseWindowsFields_isNormal hconnection
      · exact ih hothers c hc
    · exact ih h

theorem parseWindowsJson_isNormal {tools : JsonTools} {output : String}
    {connections : List NormalizedConnection}
    (h : parseWindowsJson tools output = .ok connections) : ∀ c ∈ connections, c.IsNormal := by
  unfold parseWindowsJson at h
  split_ifs at h
  · cases h
    intro c hc
    cases hc
  · split at h
    · cases h
    · exact parseWindowsRows_isNormal h
    · exact parseWindowsRows_isNormal h

/-! ## The `ss` parser -/

theorem parseEndpoints_isNormal {upper : String → String} {protocol : String}
    {state localField peerField : List Char} {process : Option (List Char)}
    {c : NormalizedConnection}
    (h : parseEndpoints upper protocol state localField peerField process = .row c) :
    c.IsNormal := by
  unfold parseEndpoints at h
  split at h
  · rename_i localIp localPort peer _ _
    cases h
    apply isNormal_of_normalized rfl _ rfl
    · exact peer.map Prod.fst
    · rw [Option.map_map]
      rfl
  · cases h

theorem parseSsOutput_isNormal {upper : String → String} {output : String}
    {connections : List NormalizedConnection} (h : parseSsOutput upper output = .ok connections) :
    ∀ c ∈ connections, c.IsNormal := by
  have hparsed : connections = (parseSsOutputDetails upper output).connections := by
    unfold parseSsOutput at h
    dsimp only at h
    split at h
    · cases h
    · cases h
      rfl
  intro c hc
  rw [hparsed, parseSsOutputDetails, parseSsLines_eq] at hc
  obtain ⟨line, -, hrow⟩ := List.mem_filterMap.mp hc
  have hline : parseSsLine upper line = .row c := by
    cases houtcome : parseSsLine upper line with
    | ignored =>
      rw [houtcome] at hrow
      cases hrow
    | skipped reason =>
      rw [houtcome] at hrow
      cases hrow
    | row connection =>
      rw [houtcome] at hrow
      cases hrow
      rfl
  unfold parseSsLine at hline
  split at hline
  · cases hline
  · split at hline
    · cases hline
    · split at hline
      · exact parseEndpoints_isNormal hline
      · cases hline

/-! ## Normalization -/

/-- Normalizing is canonical, with the shortcut, with the cache and for every row that the two
parsers make. -/
theorem address_normalization_canonical :
    (∀ address, isCanonicalIpv4 address = true ↔ (IPv4Address.parse address).isSome = true) ∧
      (∀ address v4, IPv4Address.parse address = some v4 → v4.print = address) ∧
      (∀ address, normalizeIpAddress address = normalizeParsed address) ∧
      (∀ addresses, normalizeAll Dict.empty addresses = addresses.map normalizeIpAddress) ∧
      (∀ address, normalizeIpAddress (normalizeIpAddress address) = normalizeIpAddress address) ∧
      (∀ address, denotedAddress (normalizeIpAddress address) = denotedAddress address) ∧
      (∀ a b denoted, denotedAddress a = some denoted → denotedAddress b = some denoted →
        normalizeIpAddress a = normalizeIpAddress b) ∧
      (∀ address, isLoopbackAddress address = true ↔
        ∃ denoted, denotedAddress address = some denoted ∧ denoted.IsLoopback) ∧
      (∀ address, addressFamily address =
        if ':' ∈ (normalizeIpAddress address).toList then "ipv6" else "ipv4") ∧
      (∀ upper output connections, parseSsOutput upper output = .ok connections →
        ∀ c ∈ connections, c.IsNormal) ∧
      ∀ tools output connections, parseWindowsJson tools output = .ok connections →
        ∀ c ∈ connections, c.IsNormal := by
  refine ⟨?_, fun _ _ => IPv4Address.print_of_parse, normalizeIpAddress_eq_normalizeParsed, ?_,
    normalizeIpAddress_idem, denotedAddress_normalizeIpAddress, ?_, isLoopbackAddress_iff,
    addressFamily_eq, fun _ _ _ => parseSsOutput_isNormal, fun _ _ _ => parseWindowsJson_isNormal⟩
  · intro address
    rw [isCanonicalIpv4_iff]
    constructor
    · rintro ⟨v4, hv4, -⟩
      rw [hv4]
      rfl
    · intro hsome
      obtain ⟨v4, hv4⟩ := Option.isSome_iff_exists.mp hsome
      exact ⟨v4, hv4, IPv4Address.print_of_parse hv4⟩
  · intro addresses
    apply normalizeAll_eq
    intro address result h
    cases h
  · intro a b denoted ha hb
    rw [normalizeIpAddress_eq, normalizeIpAddress_eq, ha, hb]
    rfl

end ConnectionTopology
