import Mathlib.Tactic

/-!
# LIKE patterns

What `text LIKE pattern ESCAPE escape` means: `%` stands for any text, `_` for one character, and
a character behind the escape for itself. A search puts `%` around what it looks for.
-/
namespace ConnectionTopology.LikePattern

inductive Token
  | char (c : Char)
  | one
  | any
  deriving DecidableEq, Repr

/-- The meaning of a character that is not escaped. -/
def token (c : Char) : Token :=
  if c = '%' then .any else if c = '_' then .one else .char c

/-- The rest of a pattern, behind an escape or not. A pattern that ends with an escape has no
meaning; the database refuses it. -/
def tokens (escape : Char) : Bool → List Char → Option (List Token)
  | false, [] => some []
  | true, [] => none
  | true, c :: rest => (tokens escape false rest).map (.char c :: ·)
  | false, c :: rest =>
    if c = escape then tokens escape true rest
    else (tokens escape false rest).map (token c :: ·)

def isMatch : List Token → List Char → Bool
  | [], text => text.isEmpty
  | .char _ :: _, [] | .one :: _, [] => false
  | .char c :: pattern, d :: text => c = d && isMatch pattern text
  | .one :: pattern, _ :: text => isMatch pattern text
  | .any :: pattern, text => text.tails.any (isMatch pattern)

def like (escape : Char) (pattern text : List Char) : Bool :=
  (tokens escape false pattern).any (isMatch · text)

/-- `autoescape`: the escape stands before itself and the two wildcards. -/
def escaped (escape : Char) (text : List Char) : List Char :=
  text.flatMap fun c => if c = escape ∨ c = '%' ∨ c = '_' then [escape, c] else [c]

/-- `ILIKE` lowers both sides; its escape is the default one. -/
def ilike (lower : Char → Char) (pattern text : List Char) : Bool :=
  like '\\' (pattern.map lower) (text.map lower)

/-- A pattern that looks for the given one anywhere. -/
def anywhere (pattern : List Char) : List Char := '%' :: pattern ++ ['%']

variable {escape : Char} {text : List Char}

/-! ## Matching -/

theorem isMatch_append {p q : List Token} :
    isMatch (p ++ q) text = true ↔
      ∃ u v, text = u ++ v ∧ isMatch p u = true ∧ isMatch q v = true := by
  induction p generalizing text with
  | nil =>
    constructor
    · exact fun h => ⟨[], text, rfl, rfl, h⟩
    · rintro ⟨u, v, rfl, hu, hv⟩
      rw [List.isEmpty_iff.mp hu]
      exact hv
  | cons t p ih =>
    cases t with
    | char c =>
      cases text with
      | nil =>
        refine ⟨fun h => absurd h Bool.false_ne_true, ?_⟩
        rintro ⟨u, v, huv, hu, -⟩
        rw [(List.append_eq_nil_iff.mp huv.symm).1] at hu
        exact absurd hu Bool.false_ne_true
      | cons d text =>
        rw [List.cons_append, isMatch, Bool.and_eq_true, decide_eq_true_eq, ih]
        constructor
        · rintro ⟨rfl, u, v, rfl, hu, hv⟩
          exact ⟨c :: u, v, rfl, by simpa [isMatch] using hu, hv⟩
        · rintro ⟨u, v, huv, hu, hv⟩
          cases u with
          | nil => exact absurd hu Bool.false_ne_true
          | cons e u =>
            obtain ⟨rfl, rfl⟩ := List.cons.inj huv
            rw [isMatch, Bool.and_eq_true, decide_eq_true_eq] at hu
            exact ⟨hu.1, u, v, rfl, hu.2, hv⟩
    | one =>
      cases text with
      | nil =>
        refine ⟨fun h => absurd h Bool.false_ne_true, ?_⟩
        rintro ⟨u, v, huv, hu, -⟩
        rw [(List.append_eq_nil_iff.mp huv.symm).1] at hu
        exact absurd hu Bool.false_ne_true
      | cons d text =>
        rw [List.cons_append, isMatch, ih]
        constructor
        · rintro ⟨u, v, rfl, hu, hv⟩
          exact ⟨d :: u, v, rfl, hu, hv⟩
        · rintro ⟨u, v, huv, hu, hv⟩
          cases u with
          | nil => exact absurd hu Bool.false_ne_true
          | cons e u =>
            obtain ⟨-, rfl⟩ := List.cons.inj huv
            exact ⟨u, v, rfl, hu, hv⟩
    | any =>
      rw [List.cons_append, isMatch, List.any_eq_true]
      constructor
      · rintro ⟨rest, hrest, hmatch⟩
        obtain ⟨u, v, rfl, hu, hv⟩ := ih.mp hmatch
        obtain ⟨start, rfl⟩ := (List.mem_tails _ _).mp hrest
        refine ⟨start ++ u, v, by rw [List.append_assoc], ?_, hv⟩
        exact List.any_eq_true.mpr ⟨u, (List.mem_tails _ _).mpr ⟨start, rfl⟩, hu⟩
      · rintro ⟨u, v, rfl, hu, hv⟩
        rw [isMatch, List.any_eq_true] at hu
        obtain ⟨rest, hrest, hu⟩ := hu
        obtain ⟨start, rfl⟩ := (List.mem_tails _ _).mp hrest
        refine ⟨rest ++ v, (List.mem_tails _ _).mpr ⟨start, by rw [List.append_assoc]⟩, ?_⟩
        exact ih.mpr ⟨rest, v, rfl, hu, hv⟩

theorem isMatch_any (text : List Char) : isMatch [.any] text = true :=
  List.any_eq_true.mpr ⟨[], (List.mem_tails _ _).mpr List.nil_suffix, rfl⟩

/-- Between two `%` a pattern looks at every part of the text. -/
theorem isMatch_anywhere {p : List Token} :
    isMatch (.any :: p ++ [.any]) text = true ↔ ∃ part, part <:+: text ∧ isMatch p part = true := by
  have hsplit : Token.any :: p ++ [.any] = [.any] ++ (p ++ [.any]) := rfl
  rw [hsplit, isMatch_append]
  constructor
  · rintro ⟨start, rest, rfl, -, hrest⟩
    obtain ⟨part, tail, rfl, hpart, -⟩ := isMatch_append.mp hrest
    exact ⟨part, ⟨start, tail, List.append_assoc ..⟩, hpart⟩
  · rintro ⟨part, ⟨start, tail, rfl⟩, hpart⟩
    refine ⟨start, part ++ tail, List.append_assoc .., isMatch_any start, ?_⟩
    exact isMatch_append.mpr ⟨part, tail, rfl, hpart, isMatch_any tail⟩

theorem isMatch_chars {cs : List Char} : isMatch (cs.map .char) text = true ↔ text = cs := by
  induction cs generalizing text with
  | nil => exact List.isEmpty_iff
  | cons c cs ih =>
    cases text with
    | nil => simp [isMatch]
    | cons d text =>
      rw [List.map_cons, isMatch, Bool.and_eq_true, decide_eq_true_eq, ih, List.cons.injEq]
      exact and_congr_left' eq_comm

/-- A text matches itself when its wildcards are not escaped. -/
theorem isMatch_self (cs : List Char) : isMatch (cs.map token) cs = true := by
  induction cs with
  | nil => rfl
  | cons c cs ih =>
    have hone : isMatch ([token c] ++ cs.map token) ([c] ++ cs) = true := by
      refine isMatch_append.mpr ⟨[c], cs, rfl, ?_, ih⟩
      unfold token
      split_ifs
      · exact isMatch_any [c]
      · rfl
      · simp [isMatch]
    exact hone

/-! ## Reading patterns -/

theorem tokens_append {cs rest : List Char} {ts : List Token}
    (h : tokens escape false cs = some ts) :
    tokens escape false (cs ++ rest) = (tokens escape false rest).map (ts ++ ·) := by
  suffices hboth : ∀ (behind : Bool) (ts : List Token), tokens escape behind cs = some ts →
      tokens escape behind (cs ++ rest) = (tokens escape false rest).map (ts ++ ·) from hboth _ _ h
  clear h
  intro behind ts h
  induction cs generalizing behind ts with
  | nil =>
    cases behind with
    | false =>
      cases h
      simp
    | true => cases h
  | cons c cs ih =>
    cases behind with
    | false =>
      rw [tokens] at h
      rw [List.cons_append, tokens]
      split_ifs at h ⊢
      · exact ih _ _ h
      · obtain ⟨ts', hts', rfl⟩ := Option.map_eq_some_iff.mp h
        rw [ih _ _ hts', Option.map_map]
        rfl
    | true =>
      rw [tokens] at h
      rw [List.cons_append, tokens]
      obtain ⟨ts', hts', rfl⟩ := Option.map_eq_some_iff.mp h
      rw [ih _ _ hts', Option.map_map]
      rfl

/-- An escaped text stands for itself. -/
theorem tokens_escaped (escape : Char) (cs : List Char) :
    tokens escape false (escaped escape cs) = some (cs.map .char) := by
  induction cs with
  | nil => rfl
  | cons c cs ih =>
    rw [escaped, List.flatMap_cons]
    have hone : tokens escape false
        (if c = escape ∨ c = '%' ∨ c = '_' then [escape, c] else [c]) = some [.char c] := by
      split_ifs with h
      · simp [tokens]
      · push Not at h
        simp [tokens, token, h]
    rw [tokens_append hone]
    exact congrArg _ ih

theorem tokens_of_not_mem {cs : List Char} (h : escape ∉ cs) :
    tokens escape false cs = some (cs.map token) := by
  induction cs with
  | nil => rfl
  | cons c cs ih =>
    obtain ⟨hc, hcs⟩ := not_or.mp (mt List.mem_cons.mpr h)
    rw [tokens, if_neg (Ne.symm hc), ih hcs]
    rfl

theorem like_anywhere {cs : List Char} {ts : List Token} (hescape : escape ≠ '%')
    (h : tokens escape false cs = some ts) :
    like escape (anywhere cs) text = true ↔ ∃ part, part <:+: text ∧ isMatch ts part = true := by
  have hpercent : tokens escape false ['%'] = some [.any] := by simp [tokens, token, hescape.symm]
  have hread : tokens escape false (anywhere cs) = some (.any :: ts ++ [.any]) := by
    have hfront : tokens escape false ('%' :: cs) = some (.any :: ts) := by
      rw [← List.singleton_append, tokens_append hpercent, h]
      rfl
    rw [anywhere, tokens_append hfront, hpercent]
    rfl
  rw [like, hread]
  exact isMatch_anywhere

/-! ## Searching -/

/-- With `autoescape` a search finds exactly the texts that contain what it looks for. -/
theorem like_escaped {cs : List Char} (hescape : escape ≠ '%') :
    like escape (anywhere (escaped escape cs)) text = true ↔ cs <:+: text := by
  rw [like_anywhere hescape (tokens_escaped escape cs)]
  constructor
  · rintro ⟨part, hpart, hmatch⟩
    exact isMatch_chars.mp hmatch ▸ hpart
  · exact fun h => ⟨cs, h, isMatch_chars.mpr rfl⟩

theorem ilike_anywhere {lower : Char → Char} (hlower : lower '%' = '%') (cs : List Char) :
    ilike lower (anywhere cs) text = like '\\' (anywhere (cs.map lower)) (text.map lower) := by
  rw [ilike, anywhere, anywhere, List.map_append, List.map_cons, List.map_singleton, hlower]

/-- Without it the search still finds them. -/
theorem ilike_of_infix {lower : Char → Char} (hlower : lower '%' = '%') {cs : List Char}
    (h : '\\' ∉ cs.map lower) (hcs : cs.map lower <:+: text.map lower) :
    ilike lower (anywhere cs) text = true := by
  rw [ilike_anywhere hlower, like_anywhere (by decide) (tokens_of_not_mem h)]
  exact ⟨cs.map lower, hcs, isMatch_self _⟩

/-- And it finds no others when there is no wildcard in what it looks for. -/
theorem ilike_plain {lower : Char → Char} (hlower : lower '%' = '%') {cs : List Char}
    (h : '\\' ∉ cs.map lower) (hpercent : '%' ∉ cs.map lower) (hone : '_' ∉ cs.map lower) :
    ilike lower (anywhere cs) text = true ↔ cs.map lower <:+: text.map lower := by
  refine ⟨fun hfound => ?_, ilike_of_infix hlower h⟩
  have hchars : (cs.map lower).map token = (cs.map lower).map .char := by
    apply List.map_congr_left
    intro c hc
    rw [token, if_neg (ne_of_mem_of_not_mem hc hpercent), if_neg (ne_of_mem_of_not_mem hc hone)]
  rw [ilike_anywhere hlower, like_anywhere (by decide) (tokens_of_not_mem h), hchars] at hfound
  obtain ⟨part, hpart, hmatch⟩ := hfound
  exact isMatch_chars.mp hmatch ▸ hpart

end ConnectionTopology.LikePattern
