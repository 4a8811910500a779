import ConnectionTopology.Library.Text

/-!
# Lines and fields

Python's `splitlines`, the whitespace `split` with a bound on the number of splits,
`rpartition` and ASCII `lower`, over lists of characters. Each function undoes the way in
which a text was put together: a line that is followed by a line break, a field that is
followed by blanks, two parts around the last separator.
-/
namespace ConnectionTopology.Text

/-! ## Lines -/

/-- The characters at which `splitlines` breaks. -/
def isLineBreak (c : Char) : Bool :=
  c.toNat ∈ [0xA, 0xB, 0xC, 0xD, 0x1C, 0x1D, 0x1E, 0x85, 0x2028, 0x2029]

/-- The lines of a text whose first line has started with `line`. -/
def linesFrom (line : List Char) : List Char → List (List Char)
  | [] => if line = [] then [] else [line]
  | '\r' :: '\n' :: cs => line :: linesFrom [] cs
  | c :: cs => if isLineBreak c then line :: linesFrom [] cs else linesFrom (line ++ [c]) cs

/-- `text.splitlines()`. -/
def splitLines (cs : List Char) : List (List Char) := linesFrom [] cs

theorem linesFrom_cons {c : Char} (hc : isLineBreak c = false) (line cs : List Char) :
    linesFrom line (c :: cs) = linesFrom (line ++ [c]) cs := by
  have hr : c ≠ '\r' := by
    rintro rfl
    exact absurd hc (by decide)
  rw [linesFrom, if_neg (by simp [hc])]
  exact fun _ hcr _ => hr hcr

/-- Characters without a line break continue the line. -/
theorem linesFrom_append {cs : List Char} (hcs : ∀ c ∈ cs, isLineBreak c = false)
    (line rest : List Char) : linesFrom line (cs ++ rest) = linesFrom (line ++ cs) rest := by
  induction cs generalizing line with
  | nil => simp
  | cons c cs ih =>
    rw [List.cons_append, linesFrom_cons (hcs c (by simp)), ih fun d hd => hcs d (by simp [hd])]
    simp

theorem linesFrom_newline (line cs : List Char) :
    linesFrom line ('\n' :: cs) = line :: linesFrom [] cs := by
  rw [linesFrom, if_pos (by decide)]
  intro _ h
  exact absurd h (by decide)

/-- A line that ends with a line feed is read back. -/
theorem linesFrom_line {cs : List Char} (hcs : ∀ c ∈ cs, isLineBreak c = false)
    (rest : List Char) : linesFrom [] (cs ++ '\n' :: rest) = cs :: linesFrom [] rest := by
  rw [linesFrom_append hcs, linesFrom_newline, List.nil_append]

/-- A last line without a line feed is read back, unless it is empty. -/
theorem linesFrom_last {cs : List Char} (hcs : ∀ c ∈ cs, isLineBreak c = false) :
    linesFrom [] cs = if cs = [] then [] else [cs] := by
  have h := linesFrom_append hcs [] []
  rw [List.append_nil, List.nil_append] at h
  rw [h, linesFrom]

/-- A property of all characters of a text is decided by a run over the text. -/
theorem forall_mem_of_all {α : Type} {p : α → Prop} [DecidablePred p] {cs : List α}
    (h : (cs.all fun c => p c) = true) : ∀ c ∈ cs, p c := by
  simpa [List.all_eq_true] using h

/-! ## Fields -/

/-- `text.split(maxsplit=n)`: the last field keeps whatever follows it. -/
def fields : ℕ → List Char → List (List Char)
  | 0, cs =>
    match cs.dropWhile isSpace with
    | [] => []
    | c :: rest => [c :: rest]
  | n + 1, cs =>
    match cs.dropWhile isSpace with
    | [] => []
    | c :: rest =>
      ((c :: rest).takeWhile fun d => !isSpace d) ::
        fields n ((c :: rest).dropWhile fun d => !isSpace d)

/-- Blanks at the start do not count. -/
theorem fields_blank {gap : List Char} (hgap : ∀ c ∈ gap, isSpace c) (n : ℕ)
    (rest : List Char) : fields n (gap ++ rest) = fields n rest := by
  cases n with
  | zero => rw [fields, fields, List.dropWhile_append_of_pos hgap]
  | succ n => rw [fields, fields, List.dropWhile_append_of_pos hgap]

@[simp] theorem fields_nil (n : ℕ) : fields n [] = [] := by
  cases n <;> rfl

/-- A field ends where the text does or a blank follows. -/
theorem fields_field {field rest : List Char} (hne : field ≠ [])
    (hfield : ∀ c ∈ field, isSpace c = false) (hrest : ∀ c ∈ rest.head?, isSpace c) (n : ℕ) :
    fields (n + 1) (field ++ rest) = field :: fields n rest := by
  obtain ⟨c, cs, rfl⟩ := List.exists_cons_of_ne_nil hne
  have hstart : ((c :: cs) ++ rest).dropWhile isSpace = (c :: cs) ++ rest := by
    rw [List.cons_append, List.dropWhile_cons_of_neg (by simp [hfield c (by simp)])]
  have hend : (rest.takeWhile fun d => !isSpace d) = [] ∧
      (rest.dropWhile fun d => !isSpace d) = rest := by
    cases rest with
    | nil => exact ⟨rfl, rfl⟩
    | cons d rest => simp [hrest d (by simp)]
  have hall : ∀ d ∈ c :: cs, (!isSpace d) = true := fun d hd => by simp [hfield d hd]
  rw [fields, hstart, List.cons_append]
  simp only
  rw [← List.cons_append, List.takeWhile_append_of_pos hall, List.dropWhile_append_of_pos hall, hend.1,
    hend.2, List.append_nil]

/-- The last field that is allowed takes the rest of the text. -/
theorem fields_rest {c : Char} (hc : isSpace c = false) (rest : List Char) :
    fields 0 (c :: rest) = [c :: rest] := by
  rw [fields, List.dropWhile_cons_of_neg (by simp [hc])]

/-- No field but the last one holds a blank, and no field is empty. -/
theorem not_isSpace_of_mem_fields {n : ℕ} {cs : List Char} :
    ∀ {i : ℕ} {field : List Char}, (fields n cs)[i]? = some field → i < n →
      field ≠ [] ∧ ∀ c ∈ field, isSpace c = false := by
  induction n generalizing cs with
  | zero =>
    intro i field _ hi
    exact absurd hi (Nat.not_lt_zero i)
  | succ n ih =>
    intro i field hfield hi
    rw [fields] at hfield
    cases hdrop : cs.dropWhile isSpace with
    | nil => simp [hdrop] at hfield
    | cons c rest =>
      have hc : isSpace c = false := by
        have := List.head?_dropWhile_not isSpace cs
        simpa [hdrop] using this
      rw [hdrop] at hfield
      cases i with
      | zero =>
        simp only [List.getElem?_cons_zero, Option.some.injEq] at hfield
        subst hfield
        refine ⟨by simp [hc], ?_⟩
        intro d hd
        simpa using List.mem_takeWhile_imp hd
      | succ i =>
        rw [List.getElem?_cons_succ] at hfield
        exact ih hfield (by omega)

/-! ## The last separator -/

/-- `text.rpartition(sep)`; `none` when the separator is missing. -/
def rpartition (sep : Char) (cs : List Char) : Option (List Char × List Char) :=
  if sep ∈ cs then
    some (((cs.reverse.dropWhile (· ≠ sep)).drop 1).reverse, (cs.reverse.takeWhile (· ≠ sep)).reverse)
  else none

theorem rpartition_append {sep : Char} {after : List Char} (hafter : sep ∉ after)
    (before : List Char) : rpartition sep (before ++ sep :: after) = some (before, after) := by
  have hall : ∀ c ∈ after.reverse, (fun d => decide (d ≠ sep)) c = true := by
    intro c hc
    simp only [ne_eq, decide_eq_true_eq]
    rintro rfl
    exact hafter (List.mem_reverse.mp hc)
  have hreverse : (before ++ sep :: after).reverse = after.reverse ++ sep :: before.reverse := by
    simp
  rw [rpartition, if_pos (by simp), hreverse, List.dropWhile_append_of_pos hall,
    List.takeWhile_append_of_pos hall]
  simp

theorem rpartition_eq_none {sep : Char} {cs : List Char} :
    rpartition sep cs = none ↔ sep ∉ cs := by
  unfold rpartition
  split_ifs with h <;> simp [h]

theorem rpartition_eq_some {sep : Char} {cs before after : List Char} :
    rpartition sep cs = some (before, after) ↔ cs = before ++ sep :: after ∧ sep ∉ after := by
  constructor
  · intro h
    have hmem : sep ∈ cs := by
      by_contra hno
      rw [rpartition_eq_none.mpr hno] at h
      cases h
    obtain ⟨last, first, hreverse, hlast⟩ :=
      List.eq_append_cons_of_mem (List.mem_reverse.mpr hmem)
    have hcs : cs = first.reverse ++ sep :: last.reverse := by
      rw [← List.reverse_reverse cs, hreverse]
      simp
    rw [hcs, rpartition_append (by simpa using hlast)] at h
    cases h
    exact ⟨hcs, by simpa using hlast⟩
  · rintro ⟨rfl, hafter⟩
    exact rpartition_append hafter before

/-! ## Integer texts -/

/-- The characters that an integer text can hold: digits of any script, blanks around them, a
sign and underscores. No script has a letter among them. -/
def isNumeralChar (c : Char) : Bool :=
  (digitValue c).isSome || isSpace c || c ∈ ['+', '-', '_']

theorem mem_stripChars {c : Char} {cs : List Char} (hc : c ∈ cs) (hspace : isSpace c = false) :
    c ∈ stripChars cs := by
  have hdrop : ∀ l : List Char, c ∈ l → c ∈ l.dropWhile isSpace := by
    intro l hl
    rw [← List.takeWhile_append_dropWhile (p := isSpace) (l := l)] at hl
    rcases List.mem_append.mp hl with h | h
    · rw [List.mem_takeWhile_imp h] at hspace
      cases hspace
    · exact h
  unfold stripChars
  rw [List.mem_reverse]
  apply hdrop
  rw [List.mem_reverse]
  exact hdrop cs hc

theorem isNumeralChar_of_digitsFrom {cs : List Char} {acc n : ℕ}
    (h : digitsFrom acc cs = some n) : ∀ c ∈ cs, isNumeralChar c := by
  induction acc, cs using digitsFrom.induct with
  | case1 acc => simp
  | case2 acc c cs ih =>
    rw [digitsFrom] at h
    obtain ⟨d, hd, hrest⟩ := Option.bind_eq_some_iff.mp h
    have ih := ih d hrest
    intro e he
    rcases List.mem_cons.mp he with rfl | he
    · decide
    · rcases List.mem_cons.mp he with rfl | he
      · simp [isNumeralChar, hd]
      · exact ih e he
  | case3 acc c cs hnot ih =>
    rw [digitsFrom] at h
    · obtain ⟨d, hd, hrest⟩ := Option.bind_eq_some_iff.mp h
      have ih := ih d hrest
      intro e he
      rcases List.mem_cons.mp he with rfl | he
      · simp [isNumeralChar, hd]
      · exact ih e he
    · exact hnot

theorem isNumeralChar_of_digits {cs : List Char} {n : ℕ} (h : digits cs = some n) :
    ∀ c ∈ cs, isNumeralChar c := by
  cases cs with
  | nil => simp
  | cons c cs =>
    obtain ⟨d, hd, hrest⟩ := Option.bind_eq_some_iff.mp h
    intro e he
    rcases List.mem_cons.mp he with rfl | he
    · simp [isNumeralChar, hd]
    · exact isNumeralChar_of_digitsFrom hrest e he

/-- An integer text holds nothing else. -/
theorem isNumeralChar_of_int {cs : List Char} {n : ℤ} (h : int (String.ofList cs) = some n) :
    ∀ c ∈ cs, isNumeralChar c := by
  intro c hc
  by_cases hspace : isSpace c = true
  · simp [isNumeralChar, hspace]
  have hmem := mem_stripChars hc (by simpa using hspace)
  unfold int at h
  rw [String.toList_ofList] at h
  split at h
  · rename_i ds hds
    obtain ⟨m, hm, -⟩ := Option.map_eq_some_iff.mp h
    rw [hds] at hmem
    rcases List.mem_cons.mp hmem with rfl | hmem
    · decide
    · exact isNumeralChar_of_digits hm c hmem
  · rename_i ds hds
    obtain ⟨m, hm, -⟩ := Option.map_eq_some_iff.mp h
    rw [hds] at hmem
    rcases List.mem_cons.mp hmem with rfl | hmem
    · decide
    · exact isNumeralChar_of_digits hm c hmem
  · obtain ⟨m, hm, -⟩ := Option.map_eq_some_iff.mp h
    exact isNumeralChar_of_digits hm c hmem

theorem int_eq_none {c : Char} {cs : List Char} (hc : c ∈ cs) (hnumeral : isNumeralChar c = false) :
    int (String.ofList cs) = none := by
  rw [Option.eq_none_iff_forall_not_mem]
  intro n hn
  rw [isNumeralChar_of_int hn c hc] at hnumeral
  cases hnumeral

end ConnectionTopology.Text
