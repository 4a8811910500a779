import ConnectionTopology.Collectors.Base
import ConnectionTopology.Library.Dict

/-!
# What an address text denotes

The reference for the functions of `app/collectors/base.py`: the address that Python's parser
finds in a text without its zone, with the mapped IPv4 addresses among the IPv4 ones. The
normal form is the printed form of that address, and the shortcut for IPv4 text changes
nothing.
-/
namespace ConnectionTopology

/-! ## The shortcut -/

theorem parseOctet_of_canonical {part : String} (h : (part ≠ "" && part.toList.all Char.isDigit &&
    part.length ≤ 3 && !(1 < part.length && part.toList.head? = some '0') &&
    Nat.ofDigitChars 10 part.toList 0 ≤ 255) = true) :
    IPv4Address.parseOctet part = some (Nat.ofDigitChars 10 part.toList 0) ∧
      Nat.ofDigitChars 10 part.toList 0 < 256 := by
  simp only [Bool.and_eq_true, decide_eq_true_eq, Bool.not_eq_true', Bool.and_eq_false_iff,
    decide_eq_false_iff_not] at h
  obtain ⟨⟨⟨⟨hempty, hdigits⟩, hlength⟩, hzero⟩, hvalue⟩ := h
  have hlead : ¬(part ≠ "0" ∧ part.toList.head? = some '0') := by
    rintro ⟨hne, hhead⟩
    rcases hzero with hlong | hhead'
    · apply hne
      rw [← String.length_toList] at hlong
      rw [← String.toList_inj]
      obtain ⟨rest, hrest⟩ : ∃ rest, part.toList = '0' :: rest := by
        cases hlist : part.toList with
        | nil =>
          rw [hlist] at hhead
          cases hhead
        | cons c rest =>
          rw [hlist] at hhead
          cases hhead
          exact ⟨rest, rfl⟩
      rw [hrest] at hlong ⊢
      have hnil : rest = [] := by
        rw [List.length_cons] at hlong
        exact List.length_eq_zero_iff.mp (by omega)
      rw [hnil]
      rfl
    · exact hhead' hhead
  refine ⟨?_, by omega⟩
  unfold IPv4Address.parseOctet
  rw [if_neg hempty, if_neg (by rw [hdigits]; decide), if_neg (by omega), if_neg hlead]
  dsimp only
  rw [if_neg (by omega)]

/-- The shortcut accepts what the parser accepts as IPv4, and then printing changes nothing. -/
theorem isCanonicalIpv4_iff (candidate : String) :
    isCanonicalIpv4 candidate = true ↔
      ∃ v4, IPv4Address.parse candidate = some v4 ∧ v4.print = candidate := by
  constructor
  · intro h
    have hslash : '/' ∉ candidate.toList := not_mem_of_isCanonicalIpv4 h (by decide) (by decide)
    unfold isCanonicalIpv4 at h
    dsimp only at h
    rw [Bool.and_eq_true, decide_eq_true_eq, List.all_eq_true] at h
    obtain ⟨hlength, hparts⟩ := h
    have hmap : (Text.split '.' candidate).mapM IPv4Address.parseOctet =
        some ((Text.split '.' candidate).map fun part => Nat.ofDigitChars 10 part.toList 0) := by
      apply mapM_eq_some_map
      intro part hpart
      exact (parseOctet_of_canonical (hparts part hpart)).1
    have hlt : ∀ o ∈ (Text.split '.' candidate).map fun part =>
        Nat.ofDigitChars 10 part.toList 0, o < 256 := by
      intro o ho
      obtain ⟨part, hpart, rfl⟩ := List.mem_map.mp ho
      exact (parseOctet_of_canonical (hparts part hpart)).2
    have hparse : ∃ v4, IPv4Address.parse candidate = some v4 := by
      unfold IPv4Address.parse
      rw [if_neg hslash, hmap]
      dsimp only
      rw [dif_pos ⟨by rw [List.length_map, hlength], hlt⟩]
      exact ⟨_, rfl⟩
    obtain ⟨v4, hv4⟩ := hparse
    exact ⟨v4, hv4, IPv4Address.print_of_parse hv4⟩
  · rintro ⟨v4, -, hprint⟩
    rw [← hprint]
    exact isCanonicalIpv4_print v4

/-- `normalize_ip_address` without the shortcut. -/
def normalizeParsed (address : String) : String :=
  match ipAddress (Text.before '%' address) with
  | none => address
  | some (.v4 v4) => v4.print
  | some (.v6 v6 scope) =>
    match v6.ipv4Mapped with
    | some mapped => mapped.print
    | none => (IpAddress.v6 v6 scope).print

theorem normalizeIpAddress_eq_normalizeParsed (address : String) :
    normalizeIpAddress address = normalizeParsed address := by
  unfold normalizeIpAddress normalizeParsed
  dsimp only
  split_ifs with hcanonical
  · obtain ⟨v4, hparse, hprint⟩ := (isCanonicalIpv4_iff _).mp hcanonical
    have hip : ipAddress (Text.before '%' address) = some (.v4 v4) := by
      unfold ipAddress
      rw [hparse]
    rw [hip]
    exact hprint.symm
  · rfl

/-! ## The denoted address -/

/-- An address; a mapped IPv4 address is the IPv4 one. -/
inductive HostAddress
  | v4 (address : IPv4Address)
  | v6 (address : IPv6Address) (h : address.ipv4Mapped = none)

namespace HostAddress

def print : HostAddress → String
  | .v4 address => address.print
  | .v6 address _ => address.print

/-- The address is in 127.0.0.0/8, or it is `::1`. -/
def IsLoopback : HostAddress → Prop
  | .v4 address => address.toNat / 2 ^ 24 = 127
  | .v6 address _ => address.hextets = [0, 0, 0, 0, 0, 0, 0, 1]

def ofV6 (address : IPv6Address) : HostAddress :=
  match h : address.ipv4Mapped with
  | some mapped => .v4 mapped
  | none => .v6 address h

theorem ofV6_mapped {address : IPv6Address} {mapped : IPv4Address}
    (h : address.ipv4Mapped = some mapped) : ofV6 address = .v4 mapped := by
  unfold ofV6
  split
  · rename_i m hm
    rw [h] at hm
    cases hm
    rfl
  · rename_i hnone
    rw [h] at hnone
    cases hnone

theorem ofV6_not_mapped {address : IPv6Address} (h : address.ipv4Mapped = none) :
    ofV6 address = .v6 address h := by
  unfold ofV6
  split
  · rename_i m hm
    rw [h] at hm
    cases hm
  · rfl

end HostAddress

/-- The address that a text denotes without its zone. -/
def denotedAddress (text : String) : Option HostAddress :=
  match ipAddress (Text.before '%' text) with
  | none => none
  | some (.v4 address) => some (.v4 address)
  | some (.v6 address _) => some (HostAddress.ofV6 address)

theorem normalizeIpAddress_eq (address : String) :
    normalizeIpAddress address = (denotedAddress address).elim address HostAddress.print := by
  rw [normalizeIpAddress_eq_normalizeParsed]
  unfold normalizeParsed denotedAddress
  cases hparse : ipAddress (Text.before '%' address) with
  | none => rfl
  | some a =>
    cases a with
    | v4 v4 => rfl
    | v6 v6 scope =>
      obtain rfl := ipAddress_scope hparse (Text.not_mem_before '%' address)
      cases hmapped : v6.ipv4Mapped with
      | none =>
        dsimp only
        rw [hmapped, HostAddress.ofV6_not_mapped hmapped]
        rfl
      | some mapped =>
        dsimp only
        rw [hmapped, HostAddress.ofV6_mapped hmapped]
        rfl

theorem denotedAddress_print (a : HostAddress) : denotedAddress a.print = some a := by
  unfold denotedAddress
  cases a with
  | v4 v4 =>
    have hzone : '%' ∉ v4.print.toList :=
      not_mem_of_isCanonicalIpv4 (isCanonicalIpv4_print v4) (by decide) (by decide)
    have hparse : ipAddress v4.print = some (.v4 v4) := by
      unfold ipAddress
      rw [v4.parse_print]
    rw [HostAddress.print, Text.before_eq_self hzone, hparse]
  | v6 v6 h =>
    have hzone : '%' ∉ v6.print.toList := v6.not_mem_print (by decide) (by decide)
    rw [HostAddress.print, Text.before_eq_self hzone, ipAddress_print_v6]
    dsimp only
    rw [HostAddress.ofV6_not_mapped h]

/-- The normal form denotes what the text does. -/
theorem denotedAddress_normalizeIpAddress (address : String) :
    denotedAddress (normalizeIpAddress address) = denotedAddress address := by
  rw [normalizeIpAddress_eq]
  cases hdenoted : denotedAddress address with
  | none => exact hdenoted
  | some a => exact denotedAddress_print a

/-- The parser takes nothing with a zone that it would not take without. -/
theorem ipAddress_before_isSome {text : String} {a : IpAddress} (h : ipAddress text = some a) :
    (ipAddress (Text.before '%' text)).isSome = true := by
  by_cases hzone : '%' ∈ text.toList
  · unfold ipAddress at h
    split at h
    · rename_i v4 hv4
      rcases IPv4Address.chars_of_parse hv4 '%' hzone with hdot | hdigit
      · exact absurd hdot (by decide)
      · exact absurd hdigit (by decide)
    · obtain ⟨r, hr, -⟩ := Option.map_eq_some_iff.mp h
      have hbefore : (IPv6Address.parse (Text.before '%' text)).isSome = true := by
        have hnone := Text.not_mem_before '%' text
        unfold IPv6Address.parse IPv6Address.splitScopeId at hr ⊢
        rw [if_pos hzone] at hr
        dsimp only at hr
        split_ifs at hr with hslash hscope
        have hslash' : '/' ∉ (Text.before '%' text).toList := by
          intro hmem
          rw [Text.before, String.toList_ofList] at hmem
          exact hslash ((List.takeWhile_prefix _).subset hmem)
        rw [if_neg hslash', if_neg hnone]
        dsimp only at hr ⊢
        cases hhextets : IPv6Address.parseHextets (Text.before '%' text) with
        | none =>
          rw [hhextets] at hr
          cases hr
        | some hextets =>
          rw [hhextets] at hr
          dsimp only at hr ⊢
          split_ifs at hr with hok
          rw [dif_pos hok]
          rfl
      unfold ipAddress
      split
      · rfl
      · rw [Option.isSome_map, hbefore]
  · rw [Text.before_eq_self hzone, h]
    rfl

/-! ## Loopback addresses -/

/-- The first octet is what stands before the first dot. -/
theorem before_dot_print (a : IPv4Address) :
    Text.before '.' a.print = "127" ↔ a.toNat / 2 ^ 24 = 127 := by
  obtain ⟨octets, hlength, hlt⟩ := a
  obtain ⟨w, x, y, z, rfl⟩ : ∃ w x y z, octets = [w, x, y, z] := by
    match octets, hlength with
    | [w, x, y, z], _ => exact ⟨w, x, y, z, rfl⟩
  have hw := hlt w (by simp)
  have hx := hlt x (by simp)
  have hy := hlt y (by simp)
  have hz := hlt z (by simp)
  have hdot : '.' ∉ (toString w).toList := by
    intro hmem
    rw [Nat.toString_eq_ofList_toDigits, String.toList_ofList] at hmem
    exact absurd (Text.isDigit_of_mem_toDigits hmem) (by decide)
  have hprint : IPv4Address.print ⟨[w, x, y, z], hlength, hlt⟩ = String.ofList
      ((toString w).toList ++ '.' :: (Text.join '.' [toString x, toString y, toString z]).toList) := by
    rw [← String.toList_inj]
    simp [IPv4Address.print, Text.join, List.intercalate]
  rw [hprint, Text.before_append hdot, String.ofList_toList]
  have hread : toString w = "127" ↔ w = 127 := by
    constructor
    · intro htext
      have hparse := IPv4Address.parseOctet_toString hw
      rw [htext] at hparse
      exact (Option.some.inj hparse).symm
    · rintro rfl
      rfl
  rw [hread]
  simp only [IPv4Address.toNat, List.foldl_cons, List.foldl_nil]
  omega

/-- `is_loopback_address` is about the denoted address. -/
theorem isLoopbackAddress_iff (address : String) :
    isLoopbackAddress address = true ↔ ∃ a, denotedAddress address = some a ∧ a.IsLoopback := by
  have hnormal := normalizeIpAddress_eq address
  unfold isLoopbackAddress
  dsimp only
  cases hdenoted : denotedAddress address with
  | none =>
    rw [hdenoted] at hnormal
    change normalizeIpAddress address = address at hnormal
    have hnone : ipAddress (Text.before '%' address) = none := by
      unfold denotedAddress at hdenoted
      split at hdenoted
      · assumption
      · cases hdenoted
      · cases hdenoted
    have hparse : ipAddress address = none := by
      by_contra hsome
      obtain ⟨a, ha⟩ := Option.ne_none_iff_exists'.mp hsome
      have hbefore := ipAddress_before_isSome ha
      rw [hnone] at hbefore
      cases hbefore
    have hcanonical : isCanonicalIpv4 address = false := by
      rw [Bool.eq_false_iff]
      intro hcanonical
      obtain ⟨v4, hv4, -⟩ := (isCanonicalIpv4_iff address).mp hcanonical
      unfold ipAddress at hparse
      rw [hv4] at hparse
      cases hparse
    rw [hnormal, hcanonical, hparse]
    simp
  | some a =>
    rw [hdenoted] at hnormal
    change normalizeIpAddress address = a.print at hnormal
    rw [hnormal]
    have hsome : (∃ b, some a = some b ∧ b.IsLoopback) ↔ a.IsLoopback := by
      simp
    rw [hsome]
    cases a with
    | v4 v4 =>
      have hprint : (HostAddress.v4 v4).print = v4.print := rfl
      rw [hprint, if_pos (isCanonicalIpv4_print v4), decide_eq_true_eq]
      exact before_dot_print v4
    | v6 v6 h =>
      have hcanonical : ¬isCanonicalIpv4 v6.print = true := by
        intro hc
        exact not_mem_of_isCanonicalIpv4 hc (by decide) (by decide) v6.colon_mem_print
      have hprint : (HostAddress.v6 v6 h).print = v6.print := rfl
      rw [hprint, if_neg hcanonical, if_neg (not_not_intro v6.colon_mem_print)]
      rw [ipAddress_print_v6]
      exact decide_eq_true_iff

/-! ## The cache -/

/-- `normalize_ip_address` with `_normalize_cache`. -/
def normalizeCached (cache : Dict String String) (address : String) :
    String × Dict String String :=
  match cache.get? address with
  | some result => (result, cache)
  | none => (normalizeIpAddress address, cache.upsert address fun _ => normalizeIpAddress address)

/-- The answers to calls one after the other. -/
def normalizeAll : Dict String String → List String → List String
  | _, [] => []
  | cache, address :: rest =>
    (normalizeCached cache address).1 :: normalizeAll (normalizeCached cache address).2 rest

/-- The cache holds earlier answers only. -/
def CacheOk (cache : Dict String String) : Prop :=
  ∀ address result, cache.get? address = some result → result = normalizeIpAddress address

theorem CacheOk.normalizeCached {cache : Dict String String} (h : CacheOk cache)
    (address : String) : (normalizeCached cache address).1 = normalizeIpAddress address ∧
      CacheOk (normalizeCached cache address).2 := by
  unfold ConnectionTopology.normalizeCached
  cases hcached : cache.get? address with
  | some result => exact ⟨h address result hcached, h⟩
  | none =>
    refine ⟨rfl, ?_⟩
    intro other result hother
    dsimp only at hother
    rw [Dict.get?_upsert] at hother
    split_ifs at hother with heq
    · cases hother
      rw [heq]
    · exact h other result hother

theorem normalizeAll_eq {cache : Dict String String} (h : CacheOk cache) (addresses : List String) :
    normalizeAll cache addresses = addresses.map normalizeIpAddress := by
  induction addresses generalizing cache with
  | nil => rfl
  | cons address rest ih =>
    obtain ⟨hanswer, hcache⟩ := h.normalizeCached address
    rw [normalizeAll, hanswer, ih hcache, List.map_cons]

end ConnectionTopology
