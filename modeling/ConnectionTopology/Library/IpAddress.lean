import ConnectionTopology.Library.Text
import ConnectionTopology.Library.Results

/-!
# Internet addresses as text

The part of Python's `ipaddress` that parses and prints addresses and IPv4 networks.
An address holds its octets or hextets with their number and range. Printing
compresses the longest run of zero hextets, and parsing what was printed gives the
address back.
-/
namespace ConnectionTopology

/-! ## Hexadecimal numerals -/

namespace Text

/-- The value of an ASCII hexadecimal digit. -/
def hexValue (c : Char) : Option ℕ :=
  if '0' ≤ c ∧ c ≤ '9' then some (c.toNat - '0'.toNat)
  else if 'a' ≤ c ∧ c ≤ 'f' then some (c.toNat - 'a'.toNat + 10)
  else if 'A' ≤ c ∧ c ≤ 'F' then some (c.toNat - 'A'.toNat + 10)
  else none

/-- `'%x' % n`. -/
def hex (n : ℕ) : String := String.ofList (Nat.toDigits 16 n)

/-- `int(text, 16)` for a text of hexadecimal digits. -/
def hexNumeral (cs : List Char) : Option ℕ :=
  cs.foldlM (fun acc c => (hexValue c).map (16 * acc + ·)) 0

theorem hexValue_digitChar {n : ℕ} (h : n < 16) : hexValue (Nat.digitChar n) = some n := by
  have hall : ∀ n < 16, hexValue (Nat.digitChar n) = some n := by decide
  exact hall n h

theorem mem_toDigits {b : ℕ} (hb : 1 < b) {n : ℕ} {c : Char} (h : c ∈ Nat.toDigits b n) :
    ∃ k < b, c = Nat.digitChar k := by
  induction n using Nat.strong_induction_on with
  | _ n ih =>
    rw [Nat.toDigits_eq_if hb] at h
    split_ifs at h with hn
    · exact ⟨n, hn, by simpa using h⟩
    · rcases List.mem_append.mp h with hmem | hmem
      · exact ih (n / b) (Nat.div_lt_self (by omega) hb) hmem
      · exact ⟨n % b, Nat.mod_lt _ (by omega), by simpa using hmem⟩

theorem hexNumeral_toDigits (n : ℕ) : hexNumeral (Nat.toDigits 16 n) = some n := by
  induction n using Nat.strong_induction_on with
  | _ n ih =>
    rw [Nat.toDigits_eq_if (by decide)]
    split_ifs with hn
    · simp [hexNumeral, hexValue_digitChar hn]
    · have hrest := ih (n / 16) (by omega)
      unfold hexNumeral at hrest ⊢
      rw [List.foldlM_append, hrest]
      simp only [Option.bind_eq_bind, Option.bind_some, List.foldlM_cons, List.foldlM_nil,
        hexValue_digitChar (Nat.mod_lt n (by decide)), Option.map_some]
      show some (16 * (n / 16) + n % 16) = some n
      rw [Nat.div_add_mod]

/-- A character that is no hexadecimal digit does not occur in a numeral. -/
theorem not_mem_hex {n : ℕ} {c : Char} (h : hexValue c = none) : c ∉ (hex n).toList := by
  intro hc
  rw [hex, String.toList_ofList] at hc
  obtain ⟨k, hk, rfl⟩ := mem_toDigits (by decide) hc
  rw [hexValue_digitChar hk] at h
  cases h

theorem hex_ne_empty (n : ℕ) : hex n ≠ "" := by
  intro h
  rw [← String.toList_inj] at h
  simp [hex] at h

theorem hex_eq_zero {n : ℕ} : hex n = "0" ↔ n = 0 := by
  constructor
  · intro h
    have hn := hexNumeral_toDigits n
    rw [← String.toList_inj, hex, String.toList_ofList] at h
    rw [h] at hn
    have hzero : hexNumeral "0".toList = some 0 := by decide
    rw [hzero] at hn
    cases hn
    rfl
  · rintro rfl
    rfl

theorem join_split (sep : Char) (text : String) : join sep (split sep text) = text := by
  unfold join split
  rw [List.map_map]
  have hid : (String.toList ∘ String.ofList) = id := by
    funext l
    simp
  rw [hid, List.map_id, List.intercalate_splitOn, String.ofList_toList]

theorem mem_join {sep c : Char} {parts : List String} (h : c ∈ (join sep parts).toList) :
    c = sep ∨ ∃ p ∈ parts, c ∈ p.toList := by
  rw [join, String.toList_ofList] at h
  induction parts with
  | nil => simp [List.intercalate] at h
  | cons p ps ih =>
    cases ps with
    | nil =>
      right
      exact ⟨p, by simp, by simpa [List.intercalate] using h⟩
    | cons q qs =>
      have hcons : [sep].intercalate ((p :: q :: qs).map String.toList) =
          p.toList ++ sep :: [sep].intercalate ((q :: qs).map String.toList) := by
        simp [List.intercalate]
      rw [hcons] at h
      rcases List.mem_append.mp h with hp | hrest
      · exact Or.inr ⟨p, by simp, hp⟩
      · rcases List.mem_cons.mp hrest with hsep | hrest
        · exact Or.inl hsep
        · rcases ih hrest with hsep | ⟨r, hr, hc⟩
          · exact Or.inl hsep
          · exact Or.inr ⟨r, by simp [hr], hc⟩

/-- A text is split in two or more parts exactly when it has the separator. -/
theorem mem_of_two_le_length_split {sep : Char} {text : String}
    (h : 2 ≤ (split sep text).length) : sep ∈ text.toList := by
  by_contra hmem
  have hone : split sep text = [text] := by
    have hj := @split_join sep [text] (by simp) (by simpa using hmem)
    have htext : join sep [text] = text := by simp [join, List.intercalate]
    rwa [htext] at hj
  rw [hone] at h
  simp at h

end Text

/-! ## IPv4 -/

/-- Four octets, the most significant first. -/
structure IPv4Address where
  octets : List ℕ
  length_eq : octets.length = 4
  octet_lt : ∀ o ∈ octets, o < 256
  deriving DecidableEq

namespace IPv4Address

/-- `_parse_octet`. -/
def parseOctet (text : String) : Option ℕ :=
  if text = "" then none
  else if text.toList.all Char.isDigit = false then none
  else if 3 < text.length then none
  else if text ≠ "0" ∧ text.toList.head? = some '0' then none
  else
    let octet := Nat.ofDigitChars 10 text.toList 0
    if 255 < octet then none else some octet

def parse (text : String) : Option IPv4Address :=
  if '/' ∈ text.toList then none
  else
    match (Text.split '.' text).mapM parseOctet with
    | none => none
    | some octets =>
      if h : octets.length = 4 ∧ ∀ o ∈ octets, o < 256 then some ⟨octets, h.1, h.2⟩ else none

/-- `str(address)`. -/
def print (a : IPv4Address) : String := Text.join '.' (a.octets.map toString)

/-- `int(address)`. -/
def toNat (a : IPv4Address) : ℕ := a.octets.foldl (fun n o => 256 * n + o) 0

theorem isDigit_of_parseOctet {text : String} {n : ℕ} (h : parseOctet text = some n) :
    ∀ c ∈ text.toList, c.isDigit := by
  unfold parseOctet at h
  split_ifs at h with _ hdigits
  simpa [List.all_eq_true] using hdigits

/-- Text that parses as IPv4 has digits and dots only. -/
theorem chars_of_parse {text : String} {a : IPv4Address} (h : parse text = some a) :
    ∀ c ∈ text.toList, c = '.' ∨ c.isDigit := by
  intro c hc
  unfold parse at h
  split_ifs at h
  split at h
  · cases h
  · rename_i octets hoctets
    rw [← Text.join_split '.' text] at hc
    rcases Text.mem_join hc with hdot | ⟨p, hp, hc⟩
    · exact Or.inl hdot
    · obtain ⟨n, hn⟩ := mem_of_mapM hoctets p hp
      exact Or.inr (isDigit_of_parseOctet hn c hc)

theorem not_colon_of_parse {text : String} {a : IPv4Address} (h : parse text = some a) :
    ':' ∉ text.toList := by
  intro hc
  rcases chars_of_parse h ':' hc with hdot | hdigit
  · exact absurd hdot (by decide)
  · exact absurd hdigit (by decide)

theorem print_chars (a : IPv4Address) : ∀ c ∈ a.print.toList, c = '.' ∨ c.isDigit := by
  intro c hc
  rcases Text.mem_join hc with hdot | ⟨p, hp, hc⟩
  · exact Or.inl hdot
  · obtain ⟨n, -, rfl⟩ := List.mem_map.mp hp
    right
    rw [Nat.toString_eq_ofList_toDigits, String.toList_ofList] at hc
    exact Text.isDigit_of_mem_toDigits hc

theorem split_print (a : IPv4Address) : Text.split '.' a.print = a.octets.map toString := by
  apply Text.split_join
  · have hlen := a.length_eq
    intro hnil
    rw [List.map_eq_nil_iff] at hnil
    rw [hnil] at hlen
    cases hlen
  · intro p hp hdot
    obtain ⟨n, -, rfl⟩ := List.mem_map.mp hp
    rw [Nat.toString_eq_ofList_toDigits, String.toList_ofList] at hdot
    exact absurd (Text.isDigit_of_mem_toDigits hdot) (by decide)

theorem parseOctet_toString {n : ℕ} (h : n < 256) : parseOctet (toString n) = some n := by
  have hall : ∀ n < 256, parseOctet (toString n) = some n := by decide +kernel
  exact hall n h

theorem not_slash_print (a : IPv4Address) : '/' ∉ a.print.toList := by
  intro hc
  rcases a.print_chars '/' hc with hdot | hdigit
  · exact absurd hdot (by decide)
  · exact absurd hdigit (by decide)

theorem parse_print (a : IPv4Address) : parse a.print = some a := by
  unfold parse
  rw [if_neg a.not_slash_print, a.split_print,
    mapM_map_print fun o ho => parseOctet_toString (a.octet_lt o ho)]
  exact dif_pos ⟨a.length_eq, a.octet_lt⟩

theorem parseOctet_eq {text : String} {n : ℕ} (h : parseOctet text = some n) :
    toString n = text := by
  unfold parseOctet at h
  split_ifs at h with hempty hdigits hlength hzero
  dsimp only at h
  split_ifs at h
  cases h
  rw [Nat.toString_eq_ofList_toDigits, Text.toDigits_ofDigitChars, String.ofList_toList]
  · intro hnil
    exact hempty (String.toList_inj.mp hnil)
  · simpa [List.all_eq_true] using hdigits
  · by_cases htext : text = "0"
    · left
      rw [htext]
      rfl
    · right
      intro hhead
      exact hzero ⟨htext, hhead⟩

/-- Only the printed form of an address is accepted. -/
theorem print_of_parse {text : String} {a : IPv4Address} (h : parse text = some a) :
    a.print = text := by
  unfold parse at h
  split_ifs at h
  split at h
  · cases h
  · rename_i octets hoctets
    split_ifs at h
    cases h
    unfold print
    dsimp only
    rw [map_print_of_mapM hoctets fun _ _ => parseOctet_eq, Text.join_split]

/-- The address with a given number. -/
def ofNat (n : ℕ) : IPv4Address where
  octets := [n / 2 ^ 24 % 256, n / 2 ^ 16 % 256, n / 2 ^ 8 % 256, n % 256]
  length_eq := rfl
  octet_lt := by
    intro o ho
    simp only [List.mem_cons, List.not_mem_nil, or_false] at ho
    omega

theorem toNat_ofNat {n : ℕ} (h : n < 2 ^ 32) : (ofNat n).toNat = n := by
  simp only [toNat, ofNat, List.foldl_cons, List.foldl_nil]
  omega

theorem toNat_lt (a : IPv4Address) : a.toNat < 2 ^ 32 := by
  obtain ⟨octets, hlength, hlt⟩ := a
  obtain ⟨w, x, y, z, rfl⟩ : ∃ w x y z, octets = [w, x, y, z] := by
    match octets, hlength with
    | [w, x, y, z], _ => exact ⟨w, x, y, z, rfl⟩
  have hw := hlt w (by simp)
  have hx := hlt x (by simp)
  have hy := hlt y (by simp)
  have hz := hlt z (by simp)
  simp only [toNat, List.foldl_cons, List.foldl_nil]
  omega

end IPv4Address

/-! ## IPv6 -/

/-- Eight hextets, the most significant first. -/
structure IPv6Address where
  hextets : List ℕ
  length_eq : hextets.length = 8
  hextet_lt : ∀ h ∈ hextets, h < 65536
  deriving DecidableEq

namespace IPv6Address

/-- `_parse_hextet`. -/
def parseHextet (text : String) : Option ℕ :=
  if text = "" then none
  else if 4 < text.length then none
  else Text.hexNumeral text.toList

/-- An IPv4-style suffix becomes two hextets. -/
def expandSuffix (parts : List String) : Option (List String) :=
  match parts.getLast? with
  | none => some parts
  | some suffix =>
    if '.' ∈ suffix.toList then
      (IPv4Address.parse suffix).map fun v4 =>
        parts.dropLast ++ [Text.hex (v4.toNat / 65536), Text.hex (v4.toNat % 65536)]
    else some parts

/-- The hextets on both sides of a `::` at position `skip`. An end that is empty
belongs to the `::` and must be next to it. -/
def parseAround (skip : ℕ) (parts : List String) : Option (List ℕ) :=
  let leading := parts.head? = some ""
  let trailing := parts.getLast? = some ""
  let hi := if leading then skip - 1 else skip
  let lo := if trailing then parts.length - skip - 2 else parts.length - skip - 1
  if leading ∧ hi ≠ 0 then none
  else if trailing ∧ lo ≠ 0 then none
  else if 8 ≤ hi + lo then none
  else
    match (parts.take hi).mapM parseHextet, (parts.drop (parts.length - lo)).mapM parseHextet with
    | some high, some low => some (high ++ List.replicate (8 - (hi + lo)) 0 ++ low)
    | _, _ => none

/-- `_ip_int_from_string`, as the hextets of the integer. -/
def parseHextets (text : String) : Option (List ℕ) :=
  let parts := Text.split ':' text
  if parts.length < 3 then none
  else
    match expandSuffix parts with
    | none => none
    | some parts =>
      -- the empty parts between the endpoints stand for `::`
      let interior := parts.tail.dropLast
      if 9 < parts.length then none
      else if 1 < interior.count "" then none
      else if interior.count "" = 1 then parseAround (interior.idxOf "" + 1) parts
      else if parts.length ≠ 8 then none
      else parts.mapM parseHextet

/-- `_split_scope_id`. -/
def splitScopeId (text : String) : Option (String × Option String) :=
  if '%' ∈ text.toList then
    let scope := String.ofList ((text.toList.dropWhile (· ≠ '%')).drop 1)
    if scope = "" ∨ '%' ∈ scope.toList then none else some (Text.before '%' text, some scope)
  else some (text, none)

def parse (text : String) : Option (IPv6Address × Option String) :=
  if '/' ∈ text.toList then none
  else
    match splitScopeId text with
    | none => none
    | some (address, scope) =>
      match parseHextets address with
      | none => none
      | some hextets =>
        if h : hextets.length = 8 ∧ ∀ x ∈ hextets, x < 65536 then some (⟨hextets, h.1, h.2⟩, scope)
        else none

/-- The loop variables of `_compress_hextets`. -/
structure ZeroScan where
  bestStart : ℕ := 0
  bestLen : ℕ := 0
  start : Option ℕ := none
  len : ℕ := 0

def ZeroScan.step (s : ZeroScan) (item : String × ℕ) : ZeroScan :=
  if item.1 = "0" then
    let start := s.start.getD item.2
    if s.bestLen < s.len + 1 then ⟨start, s.len + 1, some start, s.len + 1⟩
    else ⟨s.bestStart, s.bestLen, some start, s.len + 1⟩
  else ⟨s.bestStart, s.bestLen, none, 0⟩

def zeroScan (hextets : List String) : ZeroScan := hextets.zipIdx.foldl ZeroScan.step {}

/-- `_compress_hextets`. -/
def compressHextets (hextets : List String) : List String :=
  let best := zeroScan hextets
  if 1 < best.bestLen then
    let stop := best.bestStart + best.bestLen
    (if best.bestStart = 0 then [""] else []) ++ hextets.take best.bestStart ++ [""] ++
      hextets.drop stop ++ (if stop = hextets.length then [""] else [])
  else hextets

/-- `str(address)` without the scope. -/
def print (a : IPv6Address) : String := Text.join ':' (compressHextets (a.hextets.map Text.hex))

/-- The `ipv4_mapped` property. -/
def ipv4Mapped (a : IPv6Address) : Option IPv4Address :=
  if a.hextets.take 6 = [0, 0, 0, 0, 0, 65535] then
    some ⟨(a.hextets.drop 6).flatMap fun h => [h / 256, h % 256], by
      have hlen := a.length_eq
      match a.hextets, hlen with
      | [_, _, _, _, _, _, _, _], _ => rfl, by
      intro o ho
      obtain ⟨h, hh, ho⟩ := List.mem_flatMap.mp ho
      have hlt := a.hextet_lt h (List.mem_of_mem_drop hh)
      simp only [List.mem_cons, List.not_mem_nil, or_false] at ho
      omega⟩
  else none

def isLoopback (a : IPv6Address) : Bool := a.hextets = [0, 0, 0, 0, 0, 0, 0, 1]

/-! ### Parsing what was printed -/

/-- What the scan knows after a prefix: the best run and the current one are zeros. -/
structure ZeroScan.Inv (prior : List String) (s : ZeroScan) : Prop where
  best : (prior.drop s.bestStart).take s.bestLen = List.replicate s.bestLen "0"
  start_le : s.start.getD prior.length ≤ prior.length
  current : prior.drop (s.start.getD prior.length) = List.replicate s.len "0"

theorem ZeroScan.Inv.step {prior : List String} {s : ZeroScan} (h : s.Inv prior) (x : String) :
    (s.step (x, prior.length)).Inv (prior ++ [x]) := by
  have hbest : ((prior ++ [x]).drop s.bestStart).take s.bestLen = List.replicate s.bestLen "0" := by
    have hlen := congrArg List.length h.best
    simp only [List.length_take, List.length_drop, List.length_replicate] at hlen
    rcases Nat.eq_zero_or_pos s.bestLen with hzero | hpos
    · simp [hzero]
    · rw [List.drop_append_of_le_length (by omega), List.take_append_of_le_length
        (by rw [List.length_drop]; omega), h.best]
  unfold ZeroScan.step
  dsimp only
  split_ifs with hx hlt
  · have hcurrent : (prior ++ [x]).drop (s.start.getD prior.length) =
        List.replicate (s.len + 1) "0" := by
      rw [List.drop_append_of_le_length h.start_le, h.current, hx, List.replicate_succ']
    refine ⟨?_, ?_, ?_⟩
    · simp only [hcurrent, List.take_replicate, Nat.min_self]
    · have := h.start_le
      simp only [Option.getD_some, List.length_append]
      omega
    · simpa using hcurrent
  · refine ⟨hbest, ?_, ?_⟩
    · have := h.start_le
      simp only [Option.getD_some, List.length_append]
      omega
    · simp only [Option.getD_some]
      rw [List.drop_append_of_le_length h.start_le, h.current, hx, List.replicate_succ']
  · exact ⟨hbest, by simp, by simp⟩

theorem zeroScan_inv (hextets : List String) : (zeroScan hextets).Inv hextets := by
  induction hextets using List.reverseRecOn with
  | nil => exact ⟨rfl, by simp [zeroScan], by simp [zeroScan]⟩
  | append_singleton prior x ih =>
    have hscan : zeroScan (prior ++ [x]) = (zeroScan prior).step (x, prior.length) := by
      simp [zeroScan, List.zipIdx_append]
    rw [hscan]
    exact ih.step x

/-- One side of a `::`; an empty side leaves an empty part. -/
def side (hextets : List ℕ) : List String :=
  if hextets = [] then [""] else hextets.map Text.hex

theorem side_ne_nil (hextets : List ℕ) : side hextets ≠ [] := by
  unfold side
  split_ifs with h
  · simp
  · simpa using h

/-- The compressed form leaves a run of zeros out between two sides. -/
theorem compressHextets_map_hex (hextets : List ℕ) :
    compressHextets (hextets.map Text.hex) = hextets.map Text.hex ∨
      ∃ high low n, 1 < n ∧ hextets = high ++ List.replicate n 0 ++ low ∧
        compressHextets (hextets.map Text.hex) = side high ++ "" :: side low := by
  have hinv := zeroScan_inv (hextets.map Text.hex)
  unfold compressHextets
  dsimp only
  set start := (zeroScan (hextets.map Text.hex)).bestStart
  set n := (zeroScan (hextets.map Text.hex)).bestLen
  by_cases hlen : 1 < n
  · right
    rw [if_pos hlen]
    have hbound : start + n ≤ hextets.length := by
      have := congrArg List.length hinv.best
      simp only [List.length_take, List.length_drop, List.length_map, List.length_replicate] at this
      omega
    have hrun : (hextets.drop start).take n = List.replicate n 0 := by
      have hzero := hinv.best
      rw [← List.map_drop, ← List.map_take] at hzero
      rw [List.eq_replicate_iff] at hzero ⊢
      refine ⟨by simpa using hzero.1, ?_⟩
      intro x hx
      exact Text.hex_eq_zero.mp (hzero.2 _ (List.mem_map_of_mem hx))
    have hsplit : hextets = hextets.take start ++ List.replicate n 0 ++ hextets.drop (start + n) := by
      rw [← hrun, ← List.drop_drop, List.append_assoc, List.take_append_drop, List.take_append_drop]
    have hhigh : (if start = 0 then [""] else []) ++ (hextets.map Text.hex).take start =
        side (hextets.take start) := by
      rcases Nat.eq_zero_or_pos start with hzero | hpos
      · simp [hzero, side]
      · have hne : hextets.take start ≠ [] := by
          intro hnil
          have := congrArg List.length hnil
          simp only [List.length_take, List.length_nil] at this
          omega
        rw [side, if_neg hne, if_neg (by omega), List.map_take, List.nil_append]
    have hlow : (hextets.map Text.hex).drop (start + n) ++
        (if start + n = (hextets.map Text.hex).length then [""] else []) =
          side (hextets.drop (start + n)) := by
      rw [List.length_map]
      by_cases hstop : start + n = hextets.length
      · simp [hstop, side]
      · have hne : hextets.drop (start + n) ≠ [] := by
          intro hnil
          have := congrArg List.length hnil
          simp only [List.length_drop, List.length_nil] at this
          omega
        rw [side, if_neg hne, if_neg hstop, List.map_drop, List.append_nil]
    refine ⟨hextets.take start, hextets.drop (start + n), n, hlen, hsplit, ?_⟩
    rw [hhigh, List.append_assoc, List.append_assoc, hlow]
    rfl
  · left
    rw [if_neg hlen]

theorem parseHextet_hex {n : ℕ} (h : n < 65536) : parseHextet (Text.hex n) = some n := by
  unfold parseHextet
  have hlen : (Text.hex n).length ≤ 4 := by
    have hbound := (@Nat.length_toDigits_le_iff 16 n 4 (by decide) (by decide)).mpr h
    rw [← String.length_toList, Text.hex, String.toList_ofList]
    exact hbound
  rw [if_neg (Text.hex_ne_empty n), if_neg (by omega), Text.hex, String.toList_ofList]
  exact Text.hexNumeral_toDigits n

theorem mapM_parseHextet_hex {hextets : List ℕ} (h : ∀ x ∈ hextets, x < 65536) :
    (hextets.map Text.hex).mapM parseHextet = some hextets :=
  mapM_map_print fun x hx => parseHextet_hex (h x hx)

theorem not_mem_side {c : Char} (hc : Text.hexValue c = none) {hextets : List ℕ} {p : String}
    (hp : p ∈ side hextets) : c ∉ p.toList := by
  unfold side at hp
  split_ifs at hp
  · simp only [List.mem_singleton] at hp
    subst hp
    simp
  · obtain ⟨x, -, rfl⟩ := List.mem_map.mp hp
    exact Text.not_mem_hex hc

theorem head?_side (hextets : List ℕ) : (side hextets).head? = some "" ↔ hextets = [] := by
  unfold side
  cases hextets with
  | nil => simp
  | cons x xs => simp [Text.hex_ne_empty]

theorem getLast?_side (hextets : List ℕ) : (side hextets).getLast? = some "" ↔ hextets = [] := by
  unfold side
  cases hextets using List.reverseRecOn with
  | nil => simp
  | append_singleton xs x => simp [Text.hex_ne_empty]

/-- Away from its outer end a side has no empty part. -/
theorem empty_not_mem_side {hextets : List ℕ} :
    "" ∉ (side hextets).tail ∧ "" ∉ (side hextets).dropLast := by
  unfold side
  split_ifs with h
  · simp
  · constructor
    · intro hmem
      obtain ⟨x, -, hx⟩ := List.mem_map.mp (List.mem_of_mem_tail hmem)
      exact Text.hex_ne_empty x hx
    · intro hmem
      obtain ⟨x, -, hx⟩ := List.mem_map.mp (List.mem_of_mem_dropLast hmem)
      exact Text.hex_ne_empty x hx

theorem parseAround_sides {high low : List ℕ} {n : ℕ} (hn : 0 < n)
    (hlen : high.length + n + low.length = 8) (hhigh : ∀ x ∈ high, x < 65536)
    (hlow : ∀ x ∈ low, x < 65536) :
    parseAround (side high).length (side high ++ "" :: side low) =
      some (high ++ List.replicate n 0 ++ low) := by
  have hhead : (side high ++ "" :: side low).head? = some "" ↔ high = [] := by
    rw [List.head?_append_of_ne_nil _ (side_ne_nil high), head?_side]
  have hlast : (side high ++ "" :: side low).getLast? = some "" ↔ low = [] := by
    rw [List.getLast?_append_of_ne_nil _ (by simp), List.getLast?_cons_of_ne_nil (side_ne_nil low),
      getLast?_side]
  have hhi : (if (side high ++ "" :: side low).head? = some "" then (side high).length - 1
      else (side high).length) = high.length := by
    simp only [hhead]
    unfold side
    split_ifs with h <;> simp [h]
  have hlo : (if (side high ++ "" :: side low).getLast? = some "" then
      (side high ++ "" :: side low).length - (side high).length - 2
      else (side high ++ "" :: side low).length - (side high).length - 1) = low.length := by
    have hsub : (side high ++ "" :: side low).length - (side high).length = (side low).length + 1 := by
      simp
    simp only [hlast, hsub]
    unfold side
    split_ifs with h <;> simp [h]
  have htake : (side high ++ "" :: side low).take high.length = high.map Text.hex := by
    unfold side
    split_ifs with h h' <;> simp [h]
  have hdrop : (side high ++ "" :: side low).drop
      ((side high ++ "" :: side low).length - low.length) = low.map Text.hex := by
    by_cases h : low = []
    · simp [h]
    · have hside : side low = low.map Text.hex := if_neg h
      have hlength : (side high ++ "" :: low.map Text.hex).length - low.length =
          (side high ++ [""]).length := by
        simp
        omega
      rw [hside, hlength, List.append_cons (side high) "" (low.map Text.hex)]
      exact List.drop_left
  unfold parseAround
  dsimp only
  rw [hhi, hlo, if_neg (fun h => h.2 (by simp [hhead.mp h.1])),
    if_neg (fun h => h.2 (by simp [hlast.mp h.1])), if_neg (by omega), htake, hdrop,
    mapM_parseHextet_hex hhigh, mapM_parseHextet_hex hlow]
  dsimp only
  rw [show 8 - (high.length + low.length) = n by omega]

theorem expandSuffix_eq_self {parts : List String} (h : ∀ p ∈ parts, '.' ∉ p.toList) :
    expandSuffix parts = some parts := by
  unfold expandSuffix
  split
  · rfl
  · rename_i suffix hlast
    rw [if_neg (h suffix (List.mem_of_getLast? hlast))]

theorem parseHextets_join {parts : List String} (hne : parts ≠ [])
    (hparts : ∀ p ∈ parts, ∀ c, Text.hexValue c = none → c ∉ p.toList) :
    parseHextets (Text.join ':' parts) =
      if parts.length < 3 then none
      else if 9 < parts.length then none
      else if 1 < parts.tail.dropLast.count "" then none
      else if parts.tail.dropLast.count "" = 1 then
        parseAround (parts.tail.dropLast.idxOf "" + 1) parts
      else if parts.length ≠ 8 then none
      else parts.mapM parseHextet := by
  unfold parseHextets
  rw [Text.split_join hne fun p hp => hparts p hp ':' (by decide)]
  dsimp only
  rw [expandSuffix_eq_self fun p hp => hparts p hp '.' (by decide)]

theorem parseHextets_print (a : IPv6Address) : parseHextets a.print = some a.hextets := by
  have hlen := a.length_eq
  unfold print
  rcases compressHextets_map_hex a.hextets with hsame | ⟨high, low, n, hn, hsplit, hcompressed⟩
  · rw [hsame, parseHextets_join (by rw [ne_eq, List.map_eq_nil_iff]; rintro h; simp [h] at hlen)]
    · have hcount : (a.hextets.map Text.hex).tail.dropLast.count "" = 0 := by
        rw [List.count_eq_zero]
        intro hmem
        obtain ⟨x, -, hx⟩ := List.mem_map.mp (List.mem_of_mem_tail (List.mem_of_mem_dropLast hmem))
        exact Text.hex_ne_empty x hx
      rw [hcount, mapM_parseHextet_hex a.hextet_lt]
      simp [hlen]
    · intro p hp c hc
      obtain ⟨x, -, rfl⟩ := List.mem_map.mp hp
      exact Text.not_mem_hex hc
  · have hsum : high.length + n + low.length = 8 := by
      rw [hsplit] at hlen
      simp only [List.length_append, List.length_replicate] at hlen
      exact hlen
    have hinterior : (side high ++ "" :: side low).tail.dropLast =
        (side high).tail ++ "" :: (side low).dropLast := by
      rw [List.tail_append_of_ne_nil (side_ne_nil high), List.dropLast_append_of_ne_nil (by simp),
        List.dropLast_cons_of_ne_nil (side_ne_nil low)]
    have hcount : ((side high).tail ++ "" :: (side low).dropLast).count "" = 1 := by
      rw [List.count_append, List.count_cons, List.count_eq_zero.mpr (@empty_not_mem_side high).1,
        List.count_eq_zero.mpr (@empty_not_mem_side low).2]
      rfl
    have hidx : ((side high).tail ++ "" :: (side low).dropLast).idxOf "" + 1 = (side high).length := by
      rw [List.idxOf_append_of_notMem (@empty_not_mem_side high).1, List.idxOf_cons_self,
        List.length_tail]
      have := List.length_pos_iff.mpr (side_ne_nil high)
      omega
    have hside : ∀ l : List ℕ, 1 ≤ (side l).length ∧ (side l).length ≤ l.length + 1 := by
      intro l
      unfold side
      split_ifs with h
      · simp
      · have := List.length_pos_iff.mpr h
        simp
        omega
    have hhigh := hside high
    have hlow := hside low
    have hlt := a.hextet_lt
    rw [hsplit] at hlt
    rw [hcompressed, parseHextets_join (by simp), hinterior, hcount, hidx,
      parseAround_sides (by omega) hsum (fun x hx => hlt x (by simp [hx]))
        (fun x hx => hlt x (by simp [hx])), ← hsplit]
    · rw [List.length_append, List.length_cons, if_neg (by omega), if_neg (by omega)]
      rfl
    · intro p hp c hc
      rcases List.mem_append.mp hp with hp | hp
      · exact not_mem_side hc hp
      · rcases List.mem_cons.mp hp with rfl | hp
        · simp
        · exact not_mem_side hc hp

theorem print_chars (a : IPv6Address) :
    ∀ c ∈ a.print.toList, c = ':' ∨ Text.hexValue c ≠ none := by
  intro c hc
  rcases Text.mem_join hc with hcolon | ⟨p, hp, hc⟩
  · exact Or.inl hcolon
  · right
    intro hnone
    rcases compressHextets_map_hex a.hextets with hsame | ⟨high, low, n, -, -, hcompressed⟩
    · rw [hsame] at hp
      obtain ⟨x, -, rfl⟩ := List.mem_map.mp hp
      exact Text.not_mem_hex hnone hc
    · rw [hcompressed] at hp
      rcases List.mem_append.mp hp with hp | hp
      · exact not_mem_side hnone hp hc
      · rcases List.mem_cons.mp hp with rfl | hp
        · simp at hc
        · exact not_mem_side hnone hp hc

/-- Only colons and hexadecimal digits are printed. -/
theorem not_mem_print (a : IPv6Address) {c : Char} (hcolon : c ≠ ':') (h : Text.hexValue c = none) :
    c ∉ a.print.toList := by
  intro hc
  rcases a.print_chars c hc with hc | hc
  · exact hcolon hc
  · exact hc h

theorem colon_of_parseHextets {text : String} {hextets : List ℕ}
    (h : parseHextets text = some hextets) : ':' ∈ text.toList := by
  apply Text.mem_of_two_le_length_split
  unfold parseHextets at h
  dsimp only at h
  split_ifs at h
  omega

theorem colon_mem_print (a : IPv6Address) : ':' ∈ a.print.toList :=
  colon_of_parseHextets a.parseHextets_print

theorem parse_print (a : IPv6Address) : parse a.print = some (a, none) := by
  have hscope : splitScopeId a.print = some (a.print, none) :=
    if_neg (a.not_mem_print (by decide) (by decide))
  unfold parse
  rw [if_neg (a.not_mem_print (by decide) (by decide)), hscope]
  dsimp only
  rw [a.parseHextets_print]
  exact dif_pos ⟨a.length_eq, a.hextet_lt⟩

theorem colon_of_parse {text : String} {r : IPv6Address × Option String}
    (h : parse text = some r) : ':' ∈ text.toList := by
  unfold parse at h
  split_ifs at h
  split at h
  · cases h
  · rename_i address scope hsplit
    split at h
    · cases h
    · rename_i hextets hparse
      have hcolon := colon_of_parseHextets hparse
      unfold splitScopeId at hsplit
      dsimp only at hsplit
      split_ifs at hsplit
      · cases hsplit
        rw [Text.before, String.toList_ofList] at hcolon
        exact (List.takeWhile_prefix _).subset hcolon
      · cases hsplit
        exact hcolon

end IPv6Address

/-! ## Either version -/

inductive IpAddress
  | v4 (address : IPv4Address)
  | v6 (address : IPv6Address) (scope : Option String)
  deriving DecidableEq

/-- `str(address)`. -/
def IpAddress.print : IpAddress → String
  | .v4 address => address.print
  | .v6 address none => address.print
  | .v6 address (some scope) => address.print ++ "%" ++ scope

/-- `ip_address(text)`. -/
def ipAddress (text : String) : Option IpAddress :=
  match IPv4Address.parse text with
  | some address => some (.v4 address)
  | none => (IPv6Address.parse text).map fun r => .v6 r.1 r.2

/-- The version is visible in the text. -/
theorem ipAddress_colon {text : String} {a : IpAddress} (h : ipAddress text = some a) :
    ':' ∈ text.toList ↔ ∃ v6 scope, a = .v6 v6 scope := by
  unfold ipAddress at h
  split at h
  · rename_i v4 hv4
    cases h
    simpa using IPv4Address.not_colon_of_parse hv4
  · obtain ⟨r, hr, rfl⟩ := Option.map_eq_some_iff.mp h
    simpa using IPv6Address.colon_of_parse hr

/-- Text without a percent sign has no scope. -/
theorem ipAddress_scope {text : String} {v6 : IPv6Address} {scope : Option String}
    (h : ipAddress text = some (.v6 v6 scope)) (htext : '%' ∉ text.toList) : scope = none := by
  unfold ipAddress at h
  split at h
  · cases h
  · obtain ⟨⟨a, s⟩, hr, hv6⟩ := Option.map_eq_some_iff.mp h
    cases hv6
    unfold IPv6Address.parse IPv6Address.splitScopeId at hr
    rw [if_neg htext] at hr
    split_ifs at hr
    dsimp only at hr
    split at hr
    · cases hr
    · split_ifs at hr
      cases hr
      rfl

theorem ipAddress_print_v6 (a : IPv6Address) : ipAddress a.print = some (.v6 a none) := by
  have hv4 : IPv4Address.parse a.print = none := by
    by_contra hne
    obtain ⟨v4, hv4⟩ := Option.ne_none_iff_exists'.mp hne
    exact IPv4Address.not_colon_of_parse hv4 a.colon_mem_print
  unfold ipAddress
  rw [hv4]
  dsimp only
  rw [a.parse_print]
  rfl

/-! ## IPv4 networks -/

/-- An IPv4 network; `network` has no host bits. -/
structure IPv4Network where
  network : ℕ
  prefixLength : ℕ
  length_le : prefixLength ≤ 32
  network_eq : network % 2 ^ (32 - prefixLength) = 0

namespace IPv4Network

/-- `_prefix_from_prefix_string`. -/
def prefixFromString (bits : ℕ) (text : String) : Option ℕ :=
  if text = "" ∨ text.toList.all Char.isDigit = false then none
  else if Nat.ofDigitChars 10 text.toList 0 ≤ bits then some (Nat.ofDigitChars 10 text.toList 0)
  else none

theorem prefixFromString_toString {n : ℕ} (h : n ≤ 32) :
    prefixFromString 32 (toString n) = some n := by
  have hall : ∀ n < 33, prefixFromString 32 (toString n) = some n := by decide +kernel
  exact hall n (by omega)

/-- `_prefix_from_ip_int`: the netmask has its ones first. -/
def prefixFromNat (mask : ℕ) : Option ℕ :=
  (List.range 33).find? fun n => mask = 2 ^ 32 - 2 ^ (32 - n)

/-- `_prefix_from_ip_string`: a netmask, or else a hostmask. -/
def prefixFromMask (text : String) : Option ℕ :=
  (IPv4Address.parse text).bind fun mask =>
    (prefixFromNat mask.toNat).or (prefixFromNat (2 ^ 32 - 1 - mask.toNat))

def ofAddress (address : IPv4Address) (n : ℕ) (h : n ≤ 32) : IPv4Network where
  network := address.toNat / 2 ^ (32 - n) * 2 ^ (32 - n)
  prefixLength := n
  length_le := h
  network_eq := Nat.mul_mod_left _ _

@[ext] theorem ext {a b : IPv4Network} (hnetwork : a.network = b.network)
    (hbits : a.prefixLength = b.prefixLength) : a = b := by
  cases a
  cases b
  cases hnetwork
  cases hbits
  rfl

theorem ofAddress_lt (a : IPv4Address) (n : ℕ) (h : n ≤ 32) : (ofAddress a n h).network < 2 ^ 32 :=
  (Nat.div_mul_le_self _ _).trans_lt a.toNat_lt

/-- A network is that of its own address. -/
theorem ofAddress_ofNat {network : IPv4Network} (h : network.network < 2 ^ 32) :
    ofAddress (IPv4Address.ofNat network.network) network.prefixLength network.length_le = network := by
  apply ext
  · change (IPv4Address.ofNat network.network).toNat / _ * _ = _
    rw [IPv4Address.toNat_ofNat h]
    exact Nat.div_mul_cancel (Nat.dvd_of_mod_eq_zero network.network_eq)
  · rfl

/-- `IPv4Network(text, strict=False)`. -/
def parse (text : String) : Option IPv4Network :=
  match Text.split '/' text with
  | [address] => (IPv4Address.parse address).map fun a => ofAddress a 32 (le_refl 32)
  | [address, mask] =>
    match IPv4Address.parse address, (prefixFromString 32 mask).or (prefixFromMask mask) with
    | some a, some n => if h : n ≤ 32 then some (ofAddress a n h) else none
    | _, _ => none
  | _ => none

theorem lt_of_parse {text : String} {network : IPv4Network} (h : parse text = some network) :
    network.network < 2 ^ 32 := by
  unfold parse at h
  split at h
  · obtain ⟨a, -, rfl⟩ := Option.map_eq_some_iff.mp h
    exact ofAddress_lt a 32 _
  · split at h
    · split_ifs at h
      cases h
      exact ofAddress_lt _ _ _
    · cases h
  · cases h

/-- `address in network`: the bits under the netmask are those of the network. -/
def contains (network : IPv4Network) (address : IPv4Address) : Bool :=
  address.toNat / 2 ^ (32 - network.prefixLength) * 2 ^ (32 - network.prefixLength) = network.network

end IPv4Network

/-- Whether `IPv6Network(text, strict=False)` accepts the text. -/
def isIPv6Network (text : String) : Bool :=
  match Text.split '/' text with
  | [address] => (IPv6Address.parse address).isSome
  | [address, mask] =>
    (IPv6Address.parse address).isSome && (IPv4Network.prefixFromString 128 mask).isSome
  | _ => false

/-- `ip_network(text, strict=False)`; the inner `none` is an IPv6 network. -/
def ipNetwork (text : String) : Option (Option IPv4Network) :=
  match IPv4Network.parse text with
  | some network => some (some network)
  | none => if isIPv6Network text then some none else none

end ConnectionTopology
