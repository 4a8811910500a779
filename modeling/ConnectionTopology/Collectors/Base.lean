import ConnectionTopology.Library.IpAddress

/-!
# Normalized addresses

The address functions of `app/collectors/base.py`. The cache in front of
`normalize_ip_address` only repeats earlier answers and is left out. Normalizing is
idempotent, and what is asked about an address is asked about its normal form.
-/
namespace ConnectionTopology

/-- `_is_canonical_ipv4`. -/
def isCanonicalIpv4 (candidate : String) : Bool :=
  let parts := Text.split '.' candidate
  parts.length = 4 && parts.all fun part =>
    part ≠ "" && part.toList.all Char.isDigit && part.length ≤ 3 &&
      !(1 < part.length && part.toList.head? = some '0') &&
      Nat.ofDigitChars 10 part.toList 0 ≤ 255

def normalizeIpAddress (address : String) : String :=
  let candidate := Text.before '%' address
  if isCanonicalIpv4 candidate then candidate
  else
    match ipAddress candidate with
    | none => address
    | some (.v4 v4) => v4.print
    | some (.v6 v6 scope) =>
      match v6.ipv4Mapped with
      | some mapped => mapped.print
      | none => (IpAddress.v6 v6 scope).print

def isLoopbackAddress (address : String) : Bool :=
  let normalized := normalizeIpAddress address
  if isCanonicalIpv4 normalized then Text.before '.' normalized = "127"
  else if ':' ∉ normalized.toList then false
  else
    match ipAddress normalized with
    | none => false
    | some (.v4 v4) => v4.octets.head? = some 127
    | some (.v6 v6 _) => v6.isLoopback

def addressFamily (address : String) : String :=
  let normalized := normalizeIpAddress address
  match ipAddress normalized with
  | some (.v6 _ _) => "ipv6"
  | some (.v4 _) => "ipv4"
  | none => if ':' ∈ normalized.toList then "ipv6" else "ipv4"

/-! ## Canonical IPv4 text -/

theorem isCanonicalOctet_toString {n : ℕ} (h : n < 256) :
    (toString n ≠ "" && (toString n).toList.all Char.isDigit && (toString n).length ≤ 3 &&
      !(1 < (toString n).length && (toString n).toList.head? = some '0') &&
      Nat.ofDigitChars 10 (toString n).toList 0 ≤ 255) = true := by
  have hall : ∀ n < 256, (toString n ≠ "" && (toString n).toList.all Char.isDigit &&
      (toString n).length ≤ 3 && !(1 < (toString n).length && (toString n).toList.head? = some '0') &&
      Nat.ofDigitChars 10 (toString n).toList 0 ≤ 255) = true := by decide +kernel
  exact hall n h

theorem isCanonicalIpv4_print (a : IPv4Address) : isCanonicalIpv4 a.print = true := by
  unfold isCanonicalIpv4
  rw [a.split_print]
  simp only [List.length_map, a.length_eq, decide_true, Bool.true_and, List.all_eq_true]
  intro p hp
  obtain ⟨n, hn, rfl⟩ := List.mem_map.mp hp
  exact isCanonicalOctet_toString (a.octet_lt n hn)

theorem chars_of_isCanonicalIpv4 {text : String} (h : isCanonicalIpv4 text = true) :
    ∀ c ∈ text.toList, c = '.' ∨ c.isDigit := by
  intro c hc
  rw [← Text.join_split '.' text] at hc
  rcases Text.mem_join hc with hdot | ⟨p, hp, hc⟩
  · exact Or.inl hdot
  · right
    simp only [isCanonicalIpv4, Bool.and_eq_true, List.all_eq_true] at h
    exact (h.2 p hp).1.1.1.2 c hc

theorem not_mem_of_isCanonicalIpv4 {text : String} (h : isCanonicalIpv4 text = true) {c : Char}
    (hdot : c ≠ '.') (hdigit : c.isDigit = false) : c ∉ text.toList := by
  intro hc
  rcases chars_of_isCanonicalIpv4 h c hc with hc | hc
  · exact hdot hc
  · rw [hdigit] at hc
    cases hc

/-! ## Idempotence -/

theorem normalizeIpAddress_of_canonical {text : String} (h : isCanonicalIpv4 text = true) :
    normalizeIpAddress text = text := by
  unfold normalizeIpAddress
  rw [Text.before_eq_self (not_mem_of_isCanonicalIpv4 h (by decide) (by decide))]
  simp [h]

theorem normalizeIpAddress_print_v6 (a : IPv6Address) (h : a.ipv4Mapped = none) :
    normalizeIpAddress a.print = a.print := by
  have hcanonical : isCanonicalIpv4 a.print = false := by
    rw [Bool.eq_false_iff]
    intro hc
    exact not_mem_of_isCanonicalIpv4 hc (by decide) (by decide) a.colon_mem_print
  unfold normalizeIpAddress
  rw [Text.before_eq_self (a.not_mem_print (by decide) (by decide))]
  simp [hcanonical, ipAddress_print_v6, h, IpAddress.print]

@[simp] theorem normalizeIpAddress_idem (address : String) :
    normalizeIpAddress (normalizeIpAddress address) = normalizeIpAddress address := by
  have hscope := Text.not_mem_before '%' address
  by_cases hcanonical : isCanonicalIpv4 (Text.before '%' address) = true
  · have hnormal : normalizeIpAddress address = Text.before '%' address := by
      unfold normalizeIpAddress
      simp [hcanonical]
    rw [hnormal]
    exact normalizeIpAddress_of_canonical hcanonical
  · cases hparsed : ipAddress (Text.before '%' address) with
    | none =>
      have hnormal : normalizeIpAddress address = address := by
        unfold normalizeIpAddress
        simp [hcanonical, hparsed]
      rw [hnormal, hnormal]
    | some a =>
      cases a with
      | v4 v4 =>
        have hnormal : normalizeIpAddress address = v4.print := by
          unfold normalizeIpAddress
          simp [hcanonical, hparsed]
        rw [hnormal]
        exact normalizeIpAddress_of_canonical (isCanonicalIpv4_print v4)
      | v6 v6 scope =>
        obtain rfl := ipAddress_scope hparsed hscope
        cases hmapped : v6.ipv4Mapped with
        | some mapped =>
          have hnormal : normalizeIpAddress address = mapped.print := by
            unfold normalizeIpAddress
            simp [hcanonical, hparsed, hmapped]
          rw [hnormal]
          exact normalizeIpAddress_of_canonical (isCanonicalIpv4_print mapped)
        | none =>
          have hnormal : normalizeIpAddress address = v6.print := by
            unfold normalizeIpAddress
            simp [hcanonical, hparsed, hmapped, IpAddress.print]
          rw [hnormal]
          exact normalizeIpAddress_print_v6 v6 hmapped

@[simp] theorem isLoopbackAddress_normalize (address : String) :
    isLoopbackAddress (normalizeIpAddress address) = isLoopbackAddress address := by
  unfold isLoopbackAddress
  rw [normalizeIpAddress_idem]

/-- The family of an address can be read off its normal form. -/
theorem addressFamily_eq (address : String) :
    addressFamily address =
      if ':' ∈ (normalizeIpAddress address).toList then "ipv6" else "ipv4" := by
  unfold addressFamily
  dsimp only
  cases hparsed : ipAddress (normalizeIpAddress address) with
  | none => rfl
  | some a =>
    have hcolon := ipAddress_colon hparsed
    cases a with
    | v4 v4 =>
      have hnone : ':' ∉ (normalizeIpAddress address).toList := by simpa using hcolon
      simp [hnone]
    | v6 v6 scope =>
      have hmem : ':' ∈ (normalizeIpAddress address).toList := by simpa using hcolon
      simp [hmem]

-- later modules know these functions by the lemmas above only
attribute [irreducible] normalizeIpAddress isLoopbackAddress addressFamily

end ConnectionTopology
