import Mathlib.Data.List.DropRight
import Mathlib.Data.List.TakeWhile
import Mathlib.Data.String.Basic
import Mathlib.Tactic

/-!
# Separated lists, decimal numerals and fixed-width order

Text operations of Python and SQL on which several layers rely. Splitting at a
separator undoes joining with it. The integer parser accepts what `int(text)`
accepts and reads every printed integer back. Numerals padded to a common width
compare, character by character, as the numbers they denote.
-/
namespace ConnectionTopology.Text

/-! ## Separated lists -/

/-- `text.split(sep)` for a separator of one character. -/
def split (sep : Char) (text : String) : List String :=
  (text.toList.splitOn sep).map String.ofList

/-- `sep.join(parts)` for a separator of one character. -/
def join (sep : Char) (parts : List String) : String :=
  String.ofList ([sep].intercalate (parts.map String.toList))

theorem split_ne_nil (sep : Char) (text : String) : split sep text ≠ [] := by
  unfold split
  rw [ne_eq, List.map_eq_nil_iff]
  exact List.splitOn_ne_nil sep text.toList

theorem split_join {sep : Char} {parts : List String} (hne : parts ≠ [])
    (hsep : ∀ p ∈ parts, sep ∉ p.toList) : split sep (join sep parts) = parts := by
  unfold split join
  rw [String.toList_ofList, List.splitOn_intercalate]
  · simp
  · intro l hl
    obtain ⟨p, hp, rfl⟩ := List.mem_map.mp hl
    exact hsep p hp
  · simpa using hne

/-- A join of nonempty parts is empty only when there are no parts. -/
theorem join_ne_empty {sep : Char} {parts : List String} (hne : parts ≠ [])
    (hparts : ∀ p ∈ parts, p ≠ "") : join sep parts ≠ "" := by
  obtain ⟨p, ps, rfl⟩ := List.exists_cons_of_ne_nil hne
  intro h
  have hp := hparts p (by simp)
  apply hp
  have hl : [sep].intercalate ((p :: ps).map String.toList) = [] := by
    simpa [join] using h
  cases ps with
  | nil => simpa [List.intercalate] using hl
  | cons q qs => simp [List.intercalate] at hl

/-- `text.split(sep, 1)[0]`: everything before the first separator. -/
def before (sep : Char) (text : String) : String :=
  String.ofList (text.toList.takeWhile (· ≠ sep))

theorem before_eq_self {sep : Char} {text : String} (h : sep ∉ text.toList) :
    before sep text = text := by
  unfold before
  rw [List.takeWhile_eq_self_iff.mpr]
  · simp
  · intro c hc
    simp only [ne_eq, decide_eq_true_eq]
    rintro rfl
    exact h hc

theorem not_mem_before (sep : Char) (text : String) : sep ∉ (before sep text).toList := by
  intro h
  have := List.mem_takeWhile_imp (by simpa [before] using h)
  simp at this

theorem before_append {sep : Char} {start rest : List Char} (h : sep ∉ start) :
    before sep (String.ofList (start ++ sep :: rest)) = String.ofList start := by
  have hall : ∀ c ∈ start, (fun d => decide (d ≠ sep)) c = true := by
    intro c hc
    simp only [ne_eq, decide_eq_true_eq]
    rintro rfl
    exact h hc
  rw [before, String.toList_ofList, List.takeWhile_append_of_pos hall]
  simp

/-- `text.split(sep, 1)[1]`: everything after the first separator. -/
def after (sep : Char) (text : String) : String :=
  String.ofList ((text.toList.dropWhile (· ≠ sep)).drop 1)

/-- `text.rsplit(sep, n)`: at most `n` splits, counted from the right. -/
def rsplit (sep : Char) (n : ℕ) (text : String) : List String :=
  let parts := split sep text
  if parts.length ≤ n + 1 then parts
  else join sep (parts.take (parts.length - n)) :: parts.drop (parts.length - n)

/-- `text.removeprefix(start)`, if the text starts so. -/
def dropStart (start text : String) : Option String :=
  if start.toList.isPrefixOf text.toList then some (String.ofList (text.toList.drop start.length))
  else none

theorem dropStart_append (start text : String) : dropStart start (start ++ text) = some text := by
  unfold dropStart
  rw [String.toList_append, if_pos (by simp), ← String.length_toList, List.drop_left,
    String.ofList_toList]

theorem dropStart_eq_some {start text rest : String} :
    dropStart start text = some rest ↔ text = start ++ rest := by
  constructor
  · intro h
    unfold dropStart at h
    split_ifs at h with hprefix
    cases h
    obtain ⟨tail, htail⟩ := List.isPrefixOf_iff_prefix.mp hprefix
    rw [← String.toList_inj, String.toList_append, String.toList_ofList, ← htail,
      ← String.length_toList, List.drop_left]
  · rintro rfl
    exact dropStart_append start rest

/-- SQL `lpad(text, width, fill)`: text that is too long is cut. -/
def lpad (width : ℕ) (fill : Char) (text : String) : String :=
  String.ofList (List.replicate (width - text.length) fill ++ text.toList.take width)

/-! ## Decimal numerals -/

/-- The zeros of the decimal-digit blocks of Unicode 13, each followed by its one to nine. -/
def decimalZeros : List ℕ :=
  [0x30, 0x660, 0x6F0, 0x7C0, 0x966, 0x9E6, 0xA66, 0xAE6, 0xB66, 0xBE6, 0xC66, 0xCE6, 0xD66,
    0xDE6, 0xE50, 0xED0, 0xF20, 0x1040, 0x1090, 0x17E0, 0x1810, 0x1946, 0x19D0, 0x1A80, 0x1A90,
    0x1B50, 0x1BB0, 0x1C40, 0x1C50, 0xA620, 0xA8D0, 0xA900, 0xA9D0, 0xA9F0, 0xAA50, 0xABF0,
    0xFF10, 0x104A0, 0x10D30, 0x11066, 0x110F0, 0x11136, 0x111D0, 0x112F0, 0x11450, 0x114D0,
    0x11650, 0x116C0, 0x11730, 0x118E0, 0x11950, 0x11C50, 0x11D50, 0x11DA0, 0x16A60, 0x16B50,
    0x1D7CE, 0x1D7D8, 0x1D7E2, 0x1D7EC, 0x1D7F6, 0x1E140, 0x1E2F0, 0x1E950, 0x1FBF0]

/-- The value of a decimal digit of any script, as `int` reads it. -/
def digitValue (c : Char) : Option ℕ :=
  (decimalZeros.find? fun z => z ≤ c.toNat && c.toNat < z + 10).map (c.toNat - ·)

/-- `str.isspace` for one character. -/
def isSpace (c : Char) : Bool :=
  c.toNat ∈ [0x9, 0xA, 0xB, 0xC, 0xD, 0x1C, 0x1D, 0x1E, 0x1F, 0x20, 0x85, 0xA0, 0x1680, 0x2028,
    0x2029, 0x202F, 0x205F, 0x3000] || (0x2000 ≤ c.toNat && c.toNat ≤ 0x200A)

def stripChars (cs : List Char) : List Char :=
  ((cs.dropWhile isSpace).reverse.dropWhile isSpace).reverse

/-- `text.strip()`. -/
def strip (text : String) : String := String.ofList (stripChars text.toList)

/-- The digits after the first: a single underscore may stand between two of them. -/
def digitsFrom (acc : ℕ) : List Char → Option ℕ
  | [] => some acc
  | '_' :: c :: cs => (digitValue c).bind fun d => digitsFrom (10 * acc + d) cs
  | c :: cs => (digitValue c).bind fun d => digitsFrom (10 * acc + d) cs

def digits : List Char → Option ℕ
  | [] => none
  | c :: cs => (digitValue c).bind fun d => digitsFrom d cs

/-- `int(text)`; `none` is the `ValueError`. The limit that the interpreter can be given on the
number of digits is left out. -/
def int (text : String) : Option ℤ :=
  match stripChars text.toList with
  | '-' :: cs => (digits cs).map fun n : ℕ => -(n : ℤ)
  | '+' :: cs => (digits cs).map fun n : ℕ => (n : ℤ)
  | cs => (digits cs).map fun n : ℕ => (n : ℤ)

theorem digitValue_of_isDigit {c : Char} (h : c.isDigit) :
    digitValue c = some (c.toNat - '0'.toNat) := by
  have hc : 48 ≤ c.toNat ∧ c.toNat ≤ 57 := Char.isDigit_iff_toNat.mp h
  have hfind : (decimalZeros.find? fun z => z ≤ c.toNat && c.toNat < z + 10) = some 0x30 := by
    rw [decimalZeros, List.find?_cons_of_pos]
    simp only [Bool.and_eq_true, decide_eq_true_eq]
    omega
  simp [digitValue, hfind]

theorem not_isSpace_of_isDigit {c : Char} (h : c.isDigit) : isSpace c = false := by
  have hc : 48 ≤ c.toNat ∧ c.toNat ≤ 57 := Char.isDigit_iff_toNat.mp h
  simp only [isSpace, Bool.or_eq_false_iff, decide_eq_false_iff_not, List.mem_cons,
    List.not_mem_nil, or_false, Bool.and_eq_false_iff]
  omega

theorem digitsFrom_eq {cs : List Char} (h : ∀ c ∈ cs, c.isDigit) (acc : ℕ) :
    digitsFrom acc cs = some (Nat.ofDigitChars 10 cs acc) := by
  induction cs generalizing acc with
  | nil => rfl
  | cons c cs ih =>
    have hc : c.isDigit := h c (by simp)
    have hu : c ≠ '_' := by
      rintro rfl
      simp at hc
    have hstep : digitsFrom acc (c :: cs) =
        (digitValue c).bind fun d => digitsFrom (10 * acc + d) cs := by
      rw [digitsFrom]
      exact fun _ _ hcu _ => hu hcu
    rw [hstep, digitValue_of_isDigit hc, Option.bind_some, ih (fun d hd => h d (by simp [hd])),
      Nat.ofDigitChars_cons]

theorem digits_eq {cs : List Char} (hne : cs ≠ []) (h : ∀ c ∈ cs, c.isDigit) :
    digits cs = some (Nat.ofDigitChars 10 cs 0) := by
  obtain ⟨c, cs, rfl⟩ := List.exists_cons_of_ne_nil hne
  rw [digits, digitValue_of_isDigit (h c (by simp)), Option.bind_some,
    digitsFrom_eq (fun d hd => h d (by simp [hd])), Nat.ofDigitChars_cons]
  simp

theorem stripChars_of_not_space {cs : List Char}
    (h : ∀ c ∈ cs, isSpace c = false) : stripChars cs = cs := by
  have hdrop : ∀ l : List Char, (∀ c ∈ l, isSpace c = false) → l.dropWhile isSpace = l := by
    intro l hl
    cases l with
    | nil => rfl
    | cons c l => rw [List.dropWhile_cons_of_neg (by simp [hl c (by simp)])]
  unfold stripChars
  rw [hdrop cs h, hdrop cs.reverse (by simpa using h), List.reverse_reverse]

theorem stripChars_idem (cs : List Char) :
    stripChars (stripChars cs) = stripChars cs := by
  have hstrip : ∀ cs, stripChars cs = (cs.dropWhile isSpace).rdropWhile isSpace :=
    fun _ => rfl
  have hfront : (stripChars cs).dropWhile isSpace = stripChars cs := by
    obtain ⟨rest, hrest⟩ := List.rdropWhile_prefix isSpace (cs.dropWhile isSpace)
    rw [← hstrip] at hrest
    cases hchars : stripChars cs with
    | nil => rfl
    | cons c tail =>
      have hhead := List.head?_dropWhile_not isSpace cs
      rw [← hrest, hchars] at hhead
      exact List.dropWhile_cons_of_neg (by simpa using hhead)
  rw [hstrip, hfront, hstrip, List.rdropWhile_idempotent]

theorem strip_idem (text : String) : strip (strip text) = strip text := by
  unfold strip
  rw [String.toList_ofList, stripChars_idem]

theorem length_strip_le (text : String) : (strip text).length ≤ text.length := by
  unfold strip stripChars
  rw [String.length_ofList, List.length_reverse]
  refine (List.length_dropWhile_le _ _).trans ?_
  rw [List.length_reverse]
  exact List.length_dropWhile_le _ _

theorem isDigit_of_mem_toDigits {n : ℕ} {c : Char} (h : c ∈ Nat.toDigits 10 n) : c.isDigit :=
  Nat.isDigit_of_mem_toDigits (by decide) (by decide) h

theorem digitChar_of_isDigit {c : Char} (h : c.isDigit) : Nat.digitChar (c.toNat - '0'.toNat) = c := by
  have hc : 48 ≤ c.toNat ∧ c.toNat ≤ 57 := Char.isDigit_iff_toNat.mp h
  have hall : ∀ n < 10, (Nat.digitChar n).toNat = 48 + n := by decide
  apply Char.toNat_inj.mp
  rw [hall _ (by change c.toNat - 48 < 10; omega)]
  change 48 + (c.toNat - 48) = c.toNat
  omega

/-- A numeral without leading zeros is printed as it was read. -/
theorem toDigits_ofDigitChars {cs : List Char} (hne : cs ≠ []) (h : ∀ c ∈ cs, c.isDigit)
    (hzero : cs = ['0'] ∨ cs.head? ≠ some '0') :
    Nat.toDigits 10 (Nat.ofDigitChars 10 cs 0) = cs := by
  induction cs using List.reverseRecOn with
  | nil => exact absurd rfl hne
  | append_singleton init c ih =>
    have hc := h c (by simp)
    have hdigit : c.toNat - '0'.toNat < 10 := by
      have hle : c.toNat ≤ 57 := (Char.isDigit_iff_toNat.mp hc).2
      change c.toNat - 48 < 10
      omega
    have hvalue : Nat.ofDigitChars 10 (init ++ [c]) 0 =
        10 * Nat.ofDigitChars 10 init 0 + (c.toNat - '0'.toNat) := by
      rw [Nat.ofDigitChars_append, Nat.ofDigitChars_cons, Nat.ofDigitChars_nil]
    rw [hvalue]
    by_cases hinit : init = []
    · subst hinit
      rw [Nat.ofDigitChars_nil, Nat.mul_zero, Nat.zero_add, Nat.toDigits_eq_if (by decide),
        if_pos hdigit, digitChar_of_isDigit hc]
      rfl
    · have hhead : init.head? ≠ some '0' := by
        rcases hzero with hsingle | hhead
        · obtain ⟨d, rest, rfl⟩ := List.exists_cons_of_ne_nil hinit
          simp at hsingle
        · rwa [List.head?_append_of_ne_nil _ hinit] at hhead
      have hread := ih hinit (fun d hd => h d (by simp [hd])) (Or.inr hhead)
      have hpos : 0 < Nat.ofDigitChars 10 init 0 := by
        by_contra hnot
        rw [Nat.eq_zero_of_not_pos hnot] at hread
        apply hhead
        rw [← hread]
        rfl
      rw [Nat.toDigits_eq_if (by decide), if_neg (by omega),
        show (10 * Nat.ofDigitChars 10 init 0 + (c.toNat - '0'.toNat)) / 10 =
          Nat.ofDigitChars 10 init 0 by omega,
        show (10 * Nat.ofDigitChars 10 init 0 + (c.toNat - '0'.toNat)) % 10 =
          c.toNat - '0'.toNat by omega, hread, digitChar_of_isDigit hc]

/-- Every list of ASCII digits is read as the number it denotes. -/
theorem int_of_digits {cs : List Char} (hne : cs ≠ []) (h : ∀ c ∈ cs, c.isDigit) :
    int (String.ofList cs) = some (Nat.ofDigitChars 10 cs 0 : ℤ) := by
  have hstrip : stripChars cs = cs :=
    stripChars_of_not_space fun c hc => not_isSpace_of_isDigit (h c hc)
  have hminus : '-' ∉ cs := fun hm => by simpa using h _ hm
  have hplus : '+' ∉ cs := fun hm => by simpa using h _ hm
  unfold int
  rw [String.toList_ofList, hstrip]
  split
  · simp at hminus
  · simp at hplus
  · rw [digits_eq hne h, Option.map_some]

theorem int_toString_nat (n : ℕ) : int (toString n) = some (n : ℤ) := by
  rw [Nat.toString_eq_ofList_toDigits,
    int_of_digits Nat.toDigits_ne_nil fun c hc => isDigit_of_mem_toDigits hc]
  simp

/-- Reading back a printed integer. -/
@[simp] theorem int_toString (n : ℤ) : int (toString n) = some n := by
  cases n with
  | ofNat n => exact int_toString_nat n
  | negSucc n =>
    have hprint : toString (Int.negSucc n) = String.ofList ('-' :: Nat.toDigits 10 (n + 1)) := by
      rw [← String.toList_inj]
      simp [toString, Int.repr]
    have hspace : ∀ c ∈ '-' :: Nat.toDigits 10 (n + 1), isSpace c = false := by
      intro c hc
      rcases List.mem_cons.mp hc with rfl | hc
      · decide
      · exact not_isSpace_of_isDigit (isDigit_of_mem_toDigits hc)
    unfold int
    rw [hprint, String.toList_ofList, stripChars_of_not_space hspace]
    simp only [digits_eq Nat.toDigits_ne_nil fun c hc => isDigit_of_mem_toDigits hc,
      Nat.ofDigitChars_ten_toDigits, Option.map_some, Option.some.injEq]
    omega

/-! ## Joined lists of lists -/

/-- Splitting a join of texts that may hold the separator themselves. -/
theorem split_join_flatMap {sep : Char} {parts : List String} (hne : parts ≠ []) :
    split sep (join sep parts) = parts.flatMap (split sep) := by
  unfold split join
  rw [String.toList_ofList]
  induction parts with
  | nil => exact absurd rfl hne
  | cons p ps ih =>
    cases ps with
    | nil => simp
    | cons q qs =>
      have hrest := ih (by simp)
      have hcons : [sep].intercalate ((p :: q :: qs).map String.toList) =
          p.toList ++ sep :: [sep].intercalate ((q :: qs).map String.toList) := by
        simp [List.intercalate]
      rw [hcons, List.splitOn_append_cons_self, List.map_append, hrest]
      rfl

theorem not_comma_toString (n : ℤ) : ',' ∉ (toString n).toList := by
  intro h
  cases n with
  | ofNat n =>
    have h : ',' ∈ (toString n).toList := h
    rw [Nat.toString_eq_ofList_toDigits, String.toList_ofList] at h
    exact absurd (isDigit_of_mem_toDigits h) (by decide)
  | negSucc n =>
    have hprint : toString (Int.negSucc n) = String.ofList ('-' :: Nat.toDigits 10 (n + 1)) := by
      rw [← String.toList_inj]
      simp [toString, Int.repr]
    rw [hprint, String.toList_ofList] at h
    rcases List.mem_cons.mp h with h | h
    · exact absurd h (by decide)
    · exact absurd (isDigit_of_mem_toDigits h) (by decide)

theorem toString_int_ne_empty (n : ℤ) : toString n ≠ "" := by
  intro h
  have hint := int_toString n
  rw [h] at hint
  have hnone : int "" = none := by decide
  rw [hnone] at hint
  cases hint

/-! ## Fixed-width numerals -/

theorem toList_lpad_toString {w n : ℕ} (hw : 0 < w) (h : n < 10 ^ w) :
    (lpad w '0' (toString n)).toList =
      List.replicate (w - (Nat.toDigits 10 n).length) '0' ++ Nat.toDigits 10 n := by
  have hlen : (Nat.toDigits 10 n).length ≤ w :=
    (Nat.length_toDigits_le_iff (by decide) hw).mpr h
  unfold lpad
  rw [String.toList_ofList, ← String.length_toList, Nat.toString_eq_ofList_toDigits,
    String.toList_ofList, List.take_of_length_le hlen]

theorem isDigit_of_mem_lpad {w n : ℕ} (hw : 0 < w) (h : n < 10 ^ w) {c : Char}
    (hc : c ∈ (lpad w '0' (toString n)).toList) : c.isDigit := by
  rw [toList_lpad_toString hw h] at hc
  rcases List.mem_append.mp hc with hc | hc
  · rw [(List.mem_replicate.mp hc).2]
    decide
  · exact isDigit_of_mem_toDigits hc

theorem length_lpad {w n : ℕ} (hw : 0 < w) (h : n < 10 ^ w) :
    (lpad w '0' (toString n)).toList.length = w := by
  have hlen : (Nat.toDigits 10 n).length ≤ w :=
    (Nat.length_toDigits_le_iff (by decide) hw).mpr h
  rw [toList_lpad_toString hw h, List.length_append, List.length_replicate]
  omega

theorem ofDigitChars_lpad {w n : ℕ} (hw : 0 < w) (h : n < 10 ^ w) :
    Nat.ofDigitChars 10 (lpad w '0' (toString n)).toList 0 = n := by
  rw [toList_lpad_toString hw h, Nat.ofDigitChars_append, Nat.ofDigitChars_replicate_zero,
    Nat.mul_zero, Nat.ofDigitChars_ten_toDigits]

theorem int_lpad {w n : ℕ} (hw : 0 < w) (h : n < 10 ^ w) :
    int (lpad w '0' (toString n)) = some (n : ℤ) := by
  have hne : (lpad w '0' (toString n)).toList ≠ [] := by
    intro hnil
    have := length_lpad hw h
    rw [hnil, List.length_nil] at this
    omega
  have hread := int_of_digits hne fun c hc => isDigit_of_mem_lpad hw h hc
  rwa [String.ofList_toList, ofDigitChars_lpad hw h] at hread

theorem ofDigitChars_cons_zero (c : Char) (cs : List Char) :
    Nat.ofDigitChars 10 (c :: cs) 0 =
      10 ^ cs.length * (c.toNat - 48) + Nat.ofDigitChars 10 cs 0 := by
  rw [Nat.ofDigitChars_cons, Nat.ofDigitChars_eq_ofDigitChars_zero, Nat.mul_zero, Nat.zero_add]
  rfl

theorem ofDigitChars_lt_pow {cs : List Char} (h : ∀ c ∈ cs, c.isDigit) :
    Nat.ofDigitChars 10 cs 0 < 10 ^ cs.length := by
  induction cs with
  | nil => simp
  | cons c cs ih =>
    have hc : 48 ≤ c.toNat ∧ c.toNat ≤ 57 := Char.isDigit_iff_toNat.mp (h c (by simp))
    have hrest := ih fun d hd => h d (by simp [hd])
    rw [ofDigitChars_cons_zero, List.length_cons, pow_succ]
    have hmul : 10 ^ cs.length * (c.toNat - 48) ≤ 10 ^ cs.length * 9 :=
      Nat.mul_le_mul_left _ (by omega)
    omega

/-- Digit lists of one length are ordered as the numbers they denote. -/
theorem lt_iff_ofDigitChars_lt {cs ds : List Char} (hcs : ∀ c ∈ cs, c.isDigit)
    (hds : ∀ d ∈ ds, d.isDigit) (hlen : cs.length = ds.length) :
    cs < ds ↔ Nat.ofDigitChars 10 cs 0 < Nat.ofDigitChars 10 ds 0 := by
  induction cs generalizing ds with
  | nil =>
    cases ds with
    | nil => simp
    | cons d ds => simp at hlen
  | cons c cs ih =>
    cases ds with
    | nil => simp at hlen
    | cons d ds =>
      have hc : 48 ≤ c.toNat ∧ c.toNat ≤ 57 := Char.isDigit_iff_toNat.mp (hcs c (by simp))
      have hd : 48 ≤ d.toNat ∧ d.toNat ≤ 57 := Char.isDigit_iff_toNat.mp (hds d (by simp))
      have hlen' : cs.length = ds.length := by simpa using hlen
      have hrest := ih (fun x hx => hcs x (by simp [hx])) (fun x hx => hds x (by simp [hx])) hlen'
      have hcb := @ofDigitChars_lt_pow cs fun x hx => hcs x (by simp [hx])
      have hdb := @ofDigitChars_lt_pow ds fun x hx => hds x (by simp [hx])
      rw [List.cons_lt_cons_iff, hrest, ofDigitChars_cons_zero, ofDigitChars_cons_zero, hlen',
        Char.lt_def, UInt32.lt_iff_toNat_lt]
      rw [hlen'] at hcb
      change c.toNat < d.toNat ∨ _ ↔ _
      constructor
      · rintro (hlt | ⟨rfl, hlt⟩)
        · have hmul : 10 ^ ds.length * (c.toNat - 48) + 10 ^ ds.length ≤
              10 ^ ds.length * (d.toNat - 48) := by
            rw [← Nat.mul_succ]
            exact Nat.mul_le_mul_left _ (by omega)
          omega
        · omega
      · intro hlt
        rcases Nat.lt_trichotomy c.toNat d.toNat with h | h | h
        · exact Or.inl h
        · have hcd : c = d := Char.toNat_inj.mp h
          subst hcd
          exact Or.inr ⟨rfl, by omega⟩
        · exfalso
          have hmul : 10 ^ ds.length * (d.toNat - 48) + 10 ^ ds.length ≤
              10 ^ ds.length * (c.toNat - 48) := by
            rw [← Nat.mul_succ]
            exact Nat.mul_le_mul_left _ (by omega)
          omega

/-- Padded numerals compare as numbers. -/
theorem lpad_lt_lpad_iff {w m n : ℕ} (hw : 0 < w) (hm : m < 10 ^ w) (hn : n < 10 ^ w) :
    (lpad w '0' (toString m)).toList < (lpad w '0' (toString n)).toList ↔ m < n := by
  rw [lt_iff_ofDigitChars_lt (fun _ hc => isDigit_of_mem_lpad hw hm hc)
    (fun _ hc => isDigit_of_mem_lpad hw hn hc) ((length_lpad hw hm).trans (length_lpad hw hn).symm),
    ofDigitChars_lpad hw hm, ofDigitChars_lpad hw hn]

theorem lpad_inj {w m n : ℕ} (hw : 0 < w) (hm : m < 10 ^ w) (hn : n < 10 ^ w) :
    (lpad w '0' (toString m)).toList = (lpad w '0' (toString n)).toList ↔ m = n := by
  constructor
  · intro h
    rw [← ofDigitChars_lpad hw hm, h, ofDigitChars_lpad hw hn]
  · rintro rfl
    rfl

/-- Texts that start with pieces of one length compare piece by piece. -/
theorem append_lt_append_iff {a b c d : List Char} (h : a.length = c.length) :
    a ++ b < c ++ d ↔ a < c ∨ a = c ∧ b < d := by
  induction a generalizing c with
  | nil =>
    obtain rfl := List.length_eq_zero_iff.mp h.symm
    simp
  | cons x a ih =>
    cases c with
    | nil => simp at h
    | cons y c =>
      rw [List.cons_append, List.cons_append, List.cons_lt_cons_iff, List.cons_lt_cons_iff,
        ih (by simpa using h), List.cons.injEq]
      tauto

end ConnectionTopology.Text
