import ConnectionTopology.Services.Clusters
import ConnectionTopology.Services.Topology

/-!
# Internal networks in normal form

The networks that a list of texts denotes, as numbers. The normal form prints them in the
order of the numbers, so it depends on the denoted networks alone, and parsing it gives them
back.
-/
namespace ConnectionTopology

/-- The texts that are not blank, without surrounding blanks. -/
def cleanedNetworks (values : List String) : List String :=
  (values.map Text.strip).filter (· ≠ "")

/-- The IPv4 networks that texts denote. -/
def denotedNetworks (values : List String) : List IPv4Network :=
  values.filterMap fun value => (ipNetwork value).join

/-- Every text denotes an IPv4 network, and no two the same. -/
structure Normalizable (cleaned : List String) : Prop where
  networks : ∀ value ∈ cleaned, ∃ network, ipNetwork value = some (some network)
  nodup : (denotedNetworks cleaned).Nodup

/-! ## Printing a network -/

namespace IPv4Network

theorem withPrefixlen_eq (network : IPv4Network) :
    network.withPrefixlen = Text.join '/'
      [(IPv4Address.ofNat network.network).print, toString network.prefixLength] := by
  rw [← String.toList_inj]
  simp [withPrefixlen, Text.join, IPv4Address.ofNat, IPv4Address.print, List.intercalate]

/-- A printed network is parsed as itself. -/
theorem parse_withPrefixlen {network : IPv4Network} (h : network.network < 2 ^ 32) :
    parse network.withPrefixlen = some network := by
  have hslash : ∀ p ∈ [(IPv4Address.ofNat network.network).print, toString network.prefixLength],
      '/' ∉ p.toList := by
    intro p hp hc
    simp only [List.mem_cons, List.not_mem_nil, or_false] at hp
    rcases hp with rfl | rfl
    · exact IPv4Address.not_slash_print _ hc
    · rw [Nat.toString_eq_ofList_toDigits, String.toList_ofList] at hc
      exact absurd (Text.isDigit_of_mem_toDigits hc) (by decide)
  unfold parse
  rw [withPrefixlen_eq, Text.split_join (by simp) hslash]
  dsimp only
  rw [IPv4Address.parse_print, prefixFromString_toString network.length_le, Option.some_or]
  dsimp only
  rw [dif_pos network.length_le, ofAddress_ofNat h]

theorem withPrefixlen_inj {a b : IPv4Network} (ha : a.network < 2 ^ 32) (hb : b.network < 2 ^ 32)
    (h : a.withPrefixlen = b.withPrefixlen) : a = b := by
  have hparse := parse_withPrefixlen ha
  rw [h, parse_withPrefixlen hb] at hparse
  exact (Option.some.inj hparse).symm

end IPv4Network

theorem ipNetwork_withPrefixlen {network : IPv4Network} (h : network.network < 2 ^ 32) :
    ipNetwork network.withPrefixlen = some (some network) := by
  unfold ipNetwork
  rw [IPv4Network.parse_withPrefixlen h]

theorem lt_of_ipNetwork {value : String} {network : IPv4Network}
    (h : ipNetwork value = some (some network)) : network.network < 2 ^ 32 := by
  unfold ipNetwork at h
  split at h
  · rename_i n hn
    cases h
    exact IPv4Network.lt_of_parse hn
  · split_ifs at h
    cases h

theorem lt_of_mem_denotedNetworks {values : List String} {network : IPv4Network}
    (h : network ∈ denotedNetworks values) : network.network < 2 ^ 32 := by
  obtain ⟨value, -, hvalue⟩ := List.mem_filterMap.mp h
  exact lt_of_ipNetwork (Option.join_eq_some_iff.mp hvalue)

/-! ## The loop -/

/-- What the loop keeps of a network. -/
def IPv4Network.entry (network : IPv4Network) : ℕ × ℕ × String :=
  (network.network, network.prefixLength, network.withPrefixlen)

theorem denotedNetworks_cons {value : String} {network : IPv4Network}
    (h : ipNetwork value = some (some network)) (values : List String) :
    denotedNetworks (value :: values) = network :: denotedNetworks values := by
  simp [denotedNetworks, h]

/-- The loop goes through exactly when every text denotes a network that has not been seen. -/
theorem normalizeNetworks_spec (values : List String) (seen : List IPv4Network)
    (hseen : ∀ network ∈ seen, network.network < 2 ^ 32) (hnodup : seen.Nodup) :
    ((∀ value ∈ values, ∃ network, ipNetwork value = some (some network)) ∧
        (seen ++ denotedNetworks values).Nodup ∧
        normalizeNetworks values (seen.map IPv4Network.entry) =
          .ok ((seen ++ denotedNetworks values).map IPv4Network.entry)) ∨
      (¬((∀ value ∈ values, ∃ network, ipNetwork value = some (some network)) ∧
          (seen ++ denotedNetworks values).Nodup) ∧
        ∃ message, normalizeNetworks values (seen.map IPv4Network.entry) =
          .error (.valueError message)) := by
  induction values generalizing seen with
  | nil =>
    left
    simpa [denotedNetworks, normalizeNetworks] using hnodup
  | cons value values ih =>
    rw [normalizeNetworks]
    cases hvalue : ipNetwork value with
    | none =>
      right
      refine ⟨?_, _, rfl⟩
      rintro ⟨hnetworks, -⟩
      obtain ⟨network, hnetwork⟩ := hnetworks value List.mem_cons_self
      rw [hvalue] at hnetwork
      cases hnetwork
    | some inner =>
      cases inner with
      | none =>
        right
        refine ⟨?_, _, rfl⟩
        rintro ⟨hnetworks, -⟩
        obtain ⟨network, hnetwork⟩ := hnetworks value List.mem_cons_self
        rw [hvalue] at hnetwork
        cases hnetwork
      | some network =>
        have hlt := lt_of_ipNetwork hvalue
        -- a text has been seen exactly when its network has
        have hany : ((seen.map IPv4Network.entry).any fun s =>
            s.2.2 = network.withPrefixlen) = true ↔ network ∈ seen := by
          simp only [List.any_map, List.any_eq_true, Function.comp_apply, decide_eq_true_eq]
          constructor
          · rintro ⟨other, hother, htext⟩
            rwa [← IPv4Network.withPrefixlen_inj (hseen other hother) hlt htext]
          · intro hmem
            exact ⟨network, hmem, rfl⟩
        dsimp only
        rw [denotedNetworks_cons hvalue]
        by_cases hmem : network ∈ seen
        · right
          rw [if_pos (hany.mpr hmem)]
          refine ⟨?_, _, rfl⟩
          rintro ⟨-, hall⟩
          exact (List.disjoint_of_nodup_append hall) hmem List.mem_cons_self
        · rw [if_neg (by rwa [hany])]
          have hseen' : ∀ other ∈ seen ++ [network], other.network < 2 ^ 32 := by
            intro other hother
            rcases List.mem_append.mp hother with hother | hother
            · exact hseen other hother
            · rwa [List.mem_singleton.mp hother]
          have hnodup' : (seen ++ [network]).Nodup :=
            hnodup.append (List.nodup_singleton _) (by simpa using hmem)
          have hrest := ih (seen ++ [network]) hseen' hnodup'
          rw [List.append_assoc, List.singleton_append, List.map_append] at hrest
          have hforall : (∀ v ∈ value :: values, ∃ n, ipNetwork v = some (some n)) ↔
              ∀ v ∈ values, ∃ n, ipNetwork v = some (some n) := by
            simp [hvalue]
          rw [hforall]
          exact hrest

/-! ## The normal form -/

/-- Networks in the order of the sort in `normalize_internal_networks`. -/
def sortedNetworks (networks : List IPv4Network) : List IPv4Network :=
  networks.insertionSort fun a b =>
    toLex (a.entry.1, toLex (a.entry.2.1, a.entry.2.2)) ≤
      toLex (b.entry.1, toLex (b.entry.2.1, b.entry.2.2))

def printedNetworks (networks : List IPv4Network) : List String :=
  (sortedNetworks networks).map IPv4Network.withPrefixlen

theorem sortedNetworks_perm (networks : List IPv4Network) :
    (sortedNetworks networks).Perm networks := List.perm_insertionSort _ _

/-- Different networks differ in their address or their length. -/
theorem sortedNetworks_pairwise {networks : List IPv4Network} (h : networks.Nodup) :
    (sortedNetworks networks).Pairwise fun a b =>
      toLex (a.network, a.prefixLength) < toLex (b.network, b.prefixLength) := by
  have hsorted : (sortedNetworks networks).Pairwise fun a b =>
      toLex (a.entry.1, toLex (a.entry.2.1, a.entry.2.2)) ≤
        toLex (b.entry.1, toLex (b.entry.2.1, b.entry.2.2)) := List.pairwise_insertionSort _ _
  have hdistinct : (sortedNetworks networks).Pairwise (· ≠ ·) :=
    (sortedNetworks_perm networks).nodup_iff.mpr h
  refine (hsorted.and hdistinct).imp ?_
  rintro a b ⟨hle, hne⟩
  simp only [Prod.Lex.toLex_le_toLex, IPv4Network.entry] at hle
  rw [Prod.Lex.toLex_lt_toLex]
  rcases hle with hlt | ⟨hnetwork, hlt | ⟨hbits, -⟩⟩
  · exact Or.inl hlt
  · exact Or.inr ⟨hnetwork, hlt⟩
  · exact absurd (IPv4Network.ext hnetwork hbits) hne

/-- The order of the networks does not matter. -/
theorem sortedNetworks_congr {networks networks' : List IPv4Network} (h : networks.Nodup)
    (hperm : networks'.Perm networks) : sortedNetworks networks' = sortedNetworks networks := by
  apply List.Perm.eq_of_pairwise _ (sortedNetworks_pairwise (hperm.nodup_iff.mpr h))
    (sortedNetworks_pairwise h)
  · exact (sortedNetworks_perm _).trans (hperm.trans (sortedNetworks_perm _).symm)
  · intro a b _ _ hab hba
    exact absurd hba hab.asymm

theorem sortedNetworks_idem {networks : List IPv4Network} (h : networks.Nodup) :
    sortedNetworks (sortedNetworks networks) = sortedNetworks networks :=
  sortedNetworks_congr h (sortedNetworks_perm networks)

/-- The texts of the sorted entries are the printed networks. -/
theorem sortedEntries_texts (networks : List IPv4Network) :
    (((networks.map IPv4Network.entry).insertionSort fun a b => toLex (a.1, toLex (a.2.1, a.2.2)) ≤
      toLex (b.1, toLex (b.2.1, b.2.2))).map (·.2.2)) = printedNetworks networks := by
  have hmap : (sortedNetworks networks).map IPv4Network.entry =
      (networks.map IPv4Network.entry).insertionSort fun a b =>
        toLex (a.1, toLex (a.2.1, a.2.2)) ≤ toLex (b.1, toLex (b.2.1, b.2.2)) := by
    apply List.map_insertionSort
    intro a _ b _
    rfl
  rw [← hmap, List.map_map]
  rfl

/-- `normalize_internal_networks` answers exactly for normalizable texts, at most 100. -/
theorem normalizeInternalNetworks_spec (values : List String) :
    ((cleanedNetworks values).length ≤ maxInternalNetworks ∧ Normalizable (cleanedNetworks values) ∧
        normalizeInternalNetworks values =
          .ok (printedNetworks (denotedNetworks (cleanedNetworks values)))) ∨
      (¬((cleanedNetworks values).length ≤ maxInternalNetworks ∧
          Normalizable (cleanedNetworks values)) ∧
        ∃ message, normalizeInternalNetworks values = .error (.valueError message)) := by
  have hloop := normalizeNetworks_spec (cleanedNetworks values) [] (by simp) List.nodup_nil
  simp only [List.map_nil, List.nil_append] at hloop
  have hcleaned : (values.map Text.strip).filter (· ≠ "") = cleanedNetworks values := rfl
  unfold normalizeInternalNetworks
  dsimp only
  rw [hcleaned]
  by_cases hlength : (cleanedNetworks values).length ≤ maxInternalNetworks
  · rw [if_neg (not_lt.mpr hlength)]
    rcases hloop with ⟨hnetworks, hnodup, hok⟩ | ⟨hnot, message, herror⟩
    · left
      rw [hok]
      dsimp only
      rw [sortedEntries_texts]
      exact ⟨hlength, ⟨hnetworks, hnodup⟩, rfl⟩
    · right
      rw [herror]
      constructor
      · intro h
        exact hnot ⟨h.2.networks, h.2.nodup⟩
      · exact ⟨message, rfl⟩
  · right
    rw [if_pos (not_le.mp hlength)]
    constructor
    · intro h
      exact hlength h.1
    · exact ⟨_, rfl⟩

/-! ## Parsing the normal form -/

theorem IPv4Network.slash_mem_withPrefixlen (network : IPv4Network) :
    '/' ∈ network.withPrefixlen.toList := by
  simp [withPrefixlen]

theorem IPv4Network.strip_withPrefixlen (network : IPv4Network) :
    Text.strip network.withPrefixlen = network.withPrefixlen := by
  unfold Text.strip
  rw [Text.stripChars_of_not_space, String.ofList_toList]
  intro c hc
  rw [withPrefixlen_eq] at hc
  rcases Text.mem_join hc with rfl | ⟨p, hp, hc⟩
  · decide
  · simp only [List.mem_cons, List.not_mem_nil, or_false] at hp
    rcases hp with rfl | rfl
    · rcases IPv4Address.print_chars _ c hc with rfl | hdigit
      · decide
      · exact Text.not_isSpace_of_isDigit hdigit
    · rw [Nat.toString_eq_ofList_toDigits, String.toList_ofList] at hc
      exact Text.not_isSpace_of_isDigit (Text.isDigit_of_mem_toDigits hc)

theorem cleanedNetworks_printedNetworks (networks : List IPv4Network) :
    cleanedNetworks (printedNetworks networks) = printedNetworks networks := by
  have hstrip : (printedNetworks networks).map Text.strip = printedNetworks networks := by
    unfold printedNetworks
    rw [List.map_map]
    apply List.map_congr_left
    intro network _
    exact network.strip_withPrefixlen
  unfold cleanedNetworks
  rw [hstrip, List.filter_eq_self]
  intro text htext
  obtain ⟨network, -, rfl⟩ := List.mem_map.mp htext
  have hslash := network.slash_mem_withPrefixlen
  rw [decide_eq_true_eq]
  intro hempty
  rw [hempty] at hslash
  cases hslash

theorem map_ipNetwork_printedNetworks {networks : List IPv4Network}
    (h : ∀ network ∈ networks, network.network < 2 ^ 32) :
    (printedNetworks networks).map ipNetwork = (sortedNetworks networks).map (some ∘ some) := by
  unfold printedNetworks
  rw [List.map_map]
  apply List.map_congr_left
  intro network hnetwork
  have hmem := (sortedNetworks_perm networks).mem_iff.mp hnetwork
  rw [Function.comp_apply, Function.comp_apply, ipNetwork_withPrefixlen (h network hmem)]

/-- The printed networks denote the networks, sorted. -/
theorem denotedNetworks_printedNetworks {networks : List IPv4Network}
    (h : ∀ network ∈ networks, network.network < 2 ^ 32) :
    denotedNetworks (printedNetworks networks) = sortedNetworks networks := by
  have hmap : ∀ values : List String,
      denotedNetworks values = (values.map ipNetwork).filterMap Option.join := by
    intro values
    unfold denotedNetworks
    rw [List.filterMap_map]
    rfl
  rw [hmap, map_ipNetwork_printedNetworks h, List.filterMap_map]
  exact List.filterMap_some

theorem Normalizable.printed {cleaned : List String} (h : Normalizable cleaned) :
    Normalizable (printedNetworks (denotedNetworks cleaned)) where
  networks := by
    intro text htext
    obtain ⟨network, hnetwork, rfl⟩ := List.mem_map.mp htext
    have hmem := (sortedNetworks_perm _).mem_iff.mp hnetwork
    exact ⟨network, ipNetwork_withPrefixlen (lt_of_mem_denotedNetworks hmem)⟩
  nodup := by
    rw [denotedNetworks_printedNetworks fun _ => lt_of_mem_denotedNetworks,
      (sortedNetworks_perm _).nodup_iff]
    exact h.nodup

/-- As many texts as networks. -/
theorem length_denotedNetworks {cleaned : List String}
    (h : ∀ value ∈ cleaned, ∃ network, ipNetwork value = some (some network)) :
    (denotedNetworks cleaned).length = cleaned.length := by
  induction cleaned with
  | nil => rfl
  | cons value cleaned ih =>
    obtain ⟨network, hnetwork⟩ := h value List.mem_cons_self
    rw [denotedNetworks_cons hnetwork, List.length_cons, List.length_cons,
      ih fun v hv => h v (List.mem_cons_of_mem _ hv)]

theorem Normalizable.perm {cleaned cleaned' : List String} (h : Normalizable cleaned)
    (hperm : cleaned'.Perm cleaned) : Normalizable cleaned' where
  networks value hvalue := h.networks value (hperm.mem_iff.mp hvalue)
  nodup := (hperm.filterMap _).nodup_iff.mpr h.nodup

/-! ## What the normal form keeps -/

/-- The address lies in a network that one of the texts denotes. -/
def LiesIn (address : IPv4Address) (values : List String) : Prop :=
  ∃ network ∈ denotedNetworks values, network.contains address = true

/-- `networks` is the normal form of `values`. -/
structure NormalForm (values networks : List String) : Prop where
  meaning : ∀ address, LiesIn address networks ↔ LiesIn address (cleanedNetworks values)
  nodup : networks.Nodup
  /-- Each text is the printed form of the network that it denotes, in their order. -/
  canonical : ∃ sorted : List IPv4Network, networks = sorted.map IPv4Network.withPrefixlen ∧
    networks.map ipNetwork = sorted.map (some ∘ some) ∧
    sorted.Pairwise fun a b => toLex (a.network, a.prefixLength) < toLex (b.network, b.prefixLength)
  stable : normalizeInternalNetworks networks = .ok networks

theorem liesIn_printedNetworks {networks : List IPv4Network} {address : IPv4Address}
    (h : ∀ network ∈ networks, network.network < 2 ^ 32) :
    LiesIn address (printedNetworks networks) ↔
      ∃ network ∈ networks, network.contains address = true := by
  unfold LiesIn
  rw [denotedNetworks_printedNetworks h]
  simp only [(sortedNetworks_perm networks).mem_iff]

theorem Normalizable.normalForm {values : List String}
    (hlength : (cleanedNetworks values).length ≤ maxInternalNetworks)
    (h : Normalizable (cleanedNetworks values)) :
    NormalForm values (printedNetworks (denotedNetworks (cleanedNetworks values))) := by
  have hlt : ∀ network ∈ denotedNetworks (cleanedNetworks values), network.network < 2 ^ 32 :=
    fun _ => lt_of_mem_denotedNetworks
  have hcleaned := cleanedNetworks_printedNetworks (denotedNetworks (cleanedNetworks values))
  have hdenoted := denotedNetworks_printedNetworks hlt
  constructor
  · intro address
    exact liesIn_printedNetworks hlt
  · have hnodup := (sortedNetworks_perm _).nodup_iff.mpr h.nodup
    apply hnodup.map_on
    intro a ha b hb hab
    exact IPv4Network.withPrefixlen_inj (hlt a ((sortedNetworks_perm _).mem_iff.mp ha))
      (hlt b ((sortedNetworks_perm _).mem_iff.mp hb)) hab
  · exact ⟨_, rfl, map_ipNetwork_printedNetworks hlt, sortedNetworks_pairwise h.nodup⟩
  · rcases normalizeInternalNetworks_spec
      (printedNetworks (denotedNetworks (cleanedNetworks values))) with ⟨-, -, hok⟩ | ⟨hnot, -⟩
    · rw [hok, hcleaned, hdenoted]
      unfold printedNetworks
      rw [sortedNetworks_idem h.nodup]
    · rw [hcleaned] at hnot
      refine absurd ⟨?_, h.printed⟩ hnot
      unfold printedNetworks
      rwa [List.length_map, (sortedNetworks_perm _).length_eq, length_denotedNetworks h.networks]

/-! ## When it raises -/

/-- Two of the texts denote the same network. -/
def Repeated (cleaned : List String) : Prop :=
  ∃ (i j : ℕ) (_ : i < j) (_ : j < cleaned.length) (network : IPv4Network),
    ipNetwork cleaned[i] = some (some network) ∧ ipNetwork cleaned[j] = some (some network)

theorem repeated_iff {cleaned : List String} :
    Repeated cleaned ↔ ¬(denotedNetworks cleaned).Nodup := by
  unfold denotedNetworks List.Nodup
  rw [List.pairwise_filterMap, List.pairwise_iff_getElem]
  constructor
  · rintro ⟨i, j, hij, hj, network, hi', hj'⟩ hall
    exact hall i j (hij.trans hj) hj hij network (by rw [hi']; rfl) network (by rw [hj']; rfl) rfl
  · intro hnot
    by_contra hnone
    apply hnot
    intro i j hi hj hij network hnetwork other hother heq
    subst heq
    exact hnone ⟨i, j, hij, hj, network, Option.join_eq_some_iff.mp hnetwork,
      Option.join_eq_some_iff.mp hother⟩

/-- What `normalize_internal_networks` refuses. -/
def Refused (values : List String) : Prop :=
  maxInternalNetworks < (cleanedNetworks values).length ∨
    (∃ value ∈ cleanedNetworks values, ipNetwork value = none) ∨
    (∃ value ∈ cleanedNetworks values, ipNetwork value = some none) ∨
    Repeated (cleanedNetworks values)

theorem refused_iff {values : List String} :
    Refused values ↔ ¬((cleanedNetworks values).length ≤ maxInternalNetworks ∧
      Normalizable (cleanedNetworks values)) := by
  unfold Refused
  rw [repeated_iff]
  constructor
  · rintro (hlength | ⟨value, hvalue, hnone⟩ | ⟨value, hvalue, hnone⟩ | hnodup) ⟨hle, h⟩
    · omega
    · obtain ⟨network, hnetwork⟩ := h.networks value hvalue
      rw [hnone] at hnetwork
      cases hnetwork
    · obtain ⟨network, hnetwork⟩ := h.networks value hvalue
      rw [hnone] at hnetwork
      cases hnetwork
    · exact hnodup h.nodup
  · intro hnot
    by_contra hnone
    push Not at hnone
    obtain ⟨hlength, hparsed, hversion, hnodup⟩ := hnone
    apply hnot
    refine ⟨hlength, ⟨?_, hnodup⟩⟩
    intro value hvalue
    cases hparse : ipNetwork value with
    | none => exact absurd hparse (hparsed value hvalue)
    | some inner =>
      cases inner with
      | none => exact absurd hparse (hversion value hvalue)
      | some network => exact ⟨network, rfl⟩

/-! ## The rows of a cluster -/

theorem mem_replacedNetworks {old normalized : List String} {text : String} :
    text ∈ replacedNetworks old normalized ↔ text ∈ normalized := by
  simp only [replacedNetworks, List.mem_append, List.mem_filter, decide_eq_true_eq]
  tauto

theorem nodup_replacedNetworks {old normalized : List String} (hold : old.Nodup)
    (h : normalized.Nodup) : (replacedNetworks old normalized).Nodup := by
  apply (hold.filter _).append (h.filter _)
  intro text hkept hnew
  have hnot := (List.mem_filter.mp hnew).2
  rw [decide_eq_true_eq] at hnot
  exact hnot hkept

/-- Only what the networks of each cluster contain decides. -/
theorem isClusterInternalAddress_congr {f f' : Cluster → Cluster} (hid : ∀ c, (f c).id = c.id)
    (hid' : ∀ c, (f' c).id = c.id)
    (h : ∀ c address, (f c).networks.any (·.contains address) = (f' c).networks.any (·.contains address))
    (clusters : List Cluster) (remoteIp : String) (clusterId : Option ℕ) :
    isClusterInternalAddress remoteIp clusterId (clusterNetworkMap (clusters.map f)) =
      isClusterInternalAddress remoteIp clusterId (clusterNetworkMap (clusters.map f')) := by
  -- the rows of one identifier are folded alike
  have hfolded : ∀ (rows : List Cluster) (start start' : Option (List IPv4Network)) address,
      (start.getD []).any (·.contains address) = (start'.getD []).any (·.contains address) →
      ((Dict.folded (fun _ c => Cluster.networks c) start (rows.map f)).getD []).any
          (·.contains address) =
        ((Dict.folded (fun _ c => Cluster.networks c) start' (rows.map f')).getD []).any
          (·.contains address) := by
    intro rows
    induction rows with
    | nil =>
      intro start start' address hstart
      exact hstart
    | cons c rows ih =>
      intro start start' address _
      exact ih (some (f c).networks) (some (f' c).networks) address (h c address)
  have hrows : ∀ (g : Cluster → Cluster) (id : ℕ), (∀ c, (g c).id = c.id) →
      (clusters.map g).filter (·.id = id) = (clusters.filter (·.id = id)).map g := by
    intro g id hg
    rw [List.filter_map]
    congr 2
    funext c
    simp [hg c]
  unfold isClusterInternalAddress clusterNetworkMap
  cases clusterId with
  | none => rfl
  | some id =>
    cases ipAddress remoteIp with
    | none => rfl
    | some address =>
      cases address with
      | v6 v6 scope => rfl
      | v4 v4 =>
        dsimp only
        rw [Dict.get?_collect, Dict.get?_collect, hrows f id hid, hrows f' id hid']
        exact hfolded _ none none v4 rfl

/-- What `replace_internal_networks` makes of the clusters when the normal form is `networks`. -/
structure Replaced (clusterId : ℕ) (values networks : List String) (db db' : Database) : Prop where
  frame : db' = { db with clusters := db'.clusters }
  clusters : List.Forall₂ (fun old new => new = { old with internalNetworks := new.internalNetworks } ∧
    (old.id ≠ clusterId → new = old) ∧
    (old.id = clusterId → (∀ text, text ∈ new.internalNetworks ↔ text ∈ networks) ∧
      (old.internalNetworks.Nodup → new.internalNetworks.Nodup))) db.clusters db'.clusters
  /-- The stored networks decide as those that were entered. -/
  decision : ∀ remoteIp target,
    isClusterInternalAddress remoteIp target (clusterNetworkMap db'.clusters) =
      isClusterInternalAddress remoteIp target (clusterNetworkMap
        (db.updateCluster clusterId fun c =>
          { c with internalNetworks := cleanedNetworks values }).clusters)

theorem NormalForm.replaced {values networks : List String} (h : NormalForm values networks)
    (clusterId : ℕ) (db : Database) :
    Replaced clusterId values networks db (db.updateCluster clusterId fun c =>
      { c with internalNetworks := replacedNetworks c.internalNetworks networks }) := by
  constructor
  · rfl
  · dsimp only [Database.updateCluster]
    rw [List.forall₂_map_right_iff, List.forall₂_same]
    intro c _
    by_cases hid : c.id = clusterId
    · rw [if_pos hid]
      refine ⟨rfl, fun hne => absurd hid hne, fun _ => ⟨fun text => mem_replacedNetworks, ?_⟩⟩
      intro hold
      exact nodup_replacedNetworks hold h.nodup
    · rw [if_neg hid]
      exact ⟨rfl, fun _ => rfl, fun hid' => absurd hid' hid⟩
  · intro remoteIp target
    apply isClusterInternalAddress_congr
    · intro c
      split_ifs <;> rfl
    · intro c
      split_ifs <;> rfl
    · intro c address
      split_ifs
      · have hmem : LiesIn address (replacedNetworks c.internalNetworks networks) ↔
            LiesIn address networks := by
          simp only [LiesIn, denotedNetworks, List.mem_filterMap, mem_replacedNetworks]
        rw [Bool.eq_iff_iff, List.any_eq_true, List.any_eq_true]
        exact hmem.trans (h.meaning address)
      · rfl

/-- The order of the texts decides about the message at most. -/
theorem normalizeInternalNetworks_perm {values values' : List String} (hperm : values'.Perm values)
    (networks : List String) : normalizeInternalNetworks values' = .ok networks ↔
      normalizeInternalNetworks values = .ok networks := by
  have hcleaned : (cleanedNetworks values').Perm (cleanedNetworks values) :=
    (hperm.map _).filter _
  rcases normalizeInternalNetworks_spec values with ⟨hlength, h, hspec⟩ | ⟨hnot, message, herror⟩
  · rcases normalizeInternalNetworks_spec values' with ⟨-, -, hspec'⟩ | ⟨hnot', -⟩
    · have hdenoted : (denotedNetworks (cleanedNetworks values')).Perm
          (denotedNetworks (cleanedNetworks values)) := hcleaned.filterMap _
      unfold printedNetworks at hspec hspec'
      rw [hspec, hspec', sortedNetworks_congr h.nodup hdenoted]
    · rw [hcleaned.length_eq] at hnot'
      exact absurd ⟨hlength, h.perm hcleaned⟩ hnot'
  · rcases normalizeInternalNetworks_spec values' with ⟨hlength, h, -⟩ | ⟨-, message', herror'⟩
    · rw [hcleaned.length_eq] at hlength
      exact absurd ⟨hlength, h.perm hcleaned.symm⟩ hnot
    · rw [herror, herror']
      constructor <;> intro hok <;> cases hok

/-- Normalizing keeps the meaning of every list of networks, and refuses exactly the lists that
are too long, have a text that is no IPv4 network, or repeat one. An error carries no database:
`replace_internal_networks` has then written nothing. -/
theorem internal_networks_normalize (values : List String) :
    (∀ networks, normalizeInternalNetworks values = .ok networks → NormalForm values networks) ∧
      (∀ e, normalizeInternalNetworks values = .error e → ∃ message, e = .valueError message) ∧
      ((∃ e, normalizeInternalNetworks values = .error e) ↔ Refused values) ∧
      (∀ values', values'.Perm values → ∀ networks,
        normalizeInternalNetworks values' = .ok networks ↔
          normalizeInternalNetworks values = .ok networks) ∧
      ∀ clusterId db,
        (∀ e, normalizeInternalNetworks values = .error e →
          replaceInternalNetworks clusterId values db = .error e) ∧
        ∀ networks, normalizeInternalNetworks values = .ok networks →
          ∃ db', replaceInternalNetworks clusterId values db = .ok db' ∧
            Replaced clusterId values networks db db' := by
  have hform : ∀ networks, normalizeInternalNetworks values = .ok networks →
      NormalForm values networks := by
    intro networks hok
    rcases normalizeInternalNetworks_spec values with ⟨hlength, h, hspec⟩ | ⟨-, message, herror⟩
    · rw [hok] at hspec
      cases hspec
      exact h.normalForm hlength
    · rw [hok] at herror
      cases herror
  refine ⟨hform, ?_, ?_, ?_, ?_⟩
  · intro e he
    rcases normalizeInternalNetworks_spec values with ⟨-, -, hspec⟩ | ⟨-, message, herror⟩
    · rw [he] at hspec
      cases hspec
    · rw [he] at herror
      cases herror
      exact ⟨message, rfl⟩
  · rw [refused_iff]
    rcases normalizeInternalNetworks_spec values with ⟨hlength, h, hspec⟩ | ⟨hnot, message, herror⟩
    · rw [hspec]
      constructor
      · rintro ⟨e, he⟩
        cases he
      · intro hnot
        exact absurd ⟨hlength, h⟩ hnot
    · rw [herror]
      constructor
      · intro _
        exact hnot
      · intro _
        exact ⟨_, rfl⟩
  · intro values' hperm networks
    rw [normalizeInternalNetworks_perm hperm]
  · intro clusterId db
    unfold replaceInternalNetworks
    constructor
    · intro e he
      rw [he]
    · intro networks hok
      rw [hok]
      exact ⟨_, rfl, (hform networks hok).replaced clusterId db⟩

end ConnectionTopology
