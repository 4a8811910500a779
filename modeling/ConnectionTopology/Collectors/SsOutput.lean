import ConnectionTopology.Collectors.SsLines

/-!
# Whole outputs of `ss`

The other two kinds of lines next to the rendered connections, and the result of the parser on
every mixture of the three.
-/
namespace ConnectionTopology

/-- The line starts with `tcp` or `udp`, in any case and behind any blanks. -/
def startsTcpUdp (line : List Char) : Prop :=
  "tcp".toList <+: (line.dropWhile Text.isSpace).map Char.toLower ∨
    "udp".toList <+: (line.dropWhile Text.isSpace).map Char.toLower

instance (line : List Char) : Decidable (startsTcpUdp line) :=
  inferInstanceAs (Decidable (_ ∨ _))

/-- An unbracketed endpoint without a colon, other than the peer `*`, or with a port text that
is empty or has a letter: a character that neither an integer nor the wildcard has. -/
def BrokenEndpoint (remote : Bool) (token : List Char) : Prop :=
  token.head? ≠ some '[' ∧
    ((':' ∉ token ∧ ¬ (remote = true ∧ token = ['*'])) ∨
      ∃ host port, token = host ++ ':' :: port ∧ ':' ∉ port ∧
        (port = [] ∨ ∃ c ∈ port, c ≠ '*' ∧ Text.isNumeralChar c = false))

/-- A `tcp` or `udp` line with too few fields or a broken endpoint. -/
def BrokenLine (line : List Char) : Prop :=
  startsTcpUdp line ∧ ((Text.fields 6 line).length < 6 ∨
    ∃ first state recvQ sendQ localField peerField process,
      Text.fields 6 line =
        first :: state :: recvQ :: sendQ :: localField :: peerField :: process ∧
      (BrokenEndpoint false localField ∨ BrokenEndpoint true peerField))

inductive SsLine
  | connection (c : SsConnection)
  | other (line : List Char) (h : ¬ startsTcpUdp line)
  | broken (line : List Char) (h : BrokenLine line)

def SsLine.text : SsLine → List Char
  | .connection c => c.render
  | .other line _ => line
  | .broken line _ => line

def SsLine.connection? (upper : String → String) : SsLine → Option NormalizedConnection
  | .connection c => some (c.connection upper)
  | _ => none

/-- The reason that is given for a broken line. -/
def skipReason (line : List Char) : String :=
  if (Text.fields 6 line).length < 6 then "字段不足" else "端点无效"

def SsLine.skipped? (lineNumber : ℕ) : SsLine → Option SkippedSSLine
  | .broken line _ => some ⟨lineNumber, skipReason line, String.ofList line⟩
  | _ => none

/-- The output with these lines, with or without a line feed behind the last one. -/
def ssOutput (ended : Bool) (lines : List (List Char)) : String :=
  String.ofList (if ended then lines.flatMap (· ++ ['\n']) else ['\n'].intercalate lines)

variable {upper : String → String} {line token : List Char} {remote : Bool}

/-! ## The first field -/

theorem toLower_of_isSpace {c : Char} (h : Text.isSpace c = true) : c.toLower = c := by
  have hrange : ¬ (c.val ≥ 'A'.val ∧ c.val ≤ 'Z'.val) := by
    rintro ⟨hlow, hhigh⟩
    have hlow : 65 ≤ c.toNat := UInt32.le_iff_toNat_le.mp hlow
    have hhigh : c.toNat ≤ 90 := UInt32.le_iff_toNat_le.mp hhigh
    simp only [Text.isSpace, Bool.or_eq_true, decide_eq_true_eq, List.mem_cons, List.not_mem_nil,
      or_false, Bool.and_eq_true] at h
    omega
  exact dif_neg hrange

/-- A start without blanks is one of the first field. -/
theorem isPrefixOf_field {start : List Char} (hstart : ∀ d ∈ start, Text.isSpace d = false)
    (cs : List Char) :
    start.isPrefixOf ((cs.takeWhile fun d => !Text.isSpace d).map Char.toLower) =
      start.isPrefixOf (cs.map Char.toLower) := by
  induction start generalizing cs with
  | nil => simp
  | cons d start ih =>
    cases cs with
    | nil => rfl
    | cons c cs =>
      by_cases hc : Text.isSpace c = true
      · have hne : d ≠ c.toLower := by
          rintro rfl
          rw [toLower_of_isSpace hc] at hstart
          rw [hstart c (by simp)] at hc
          cases hc
        simp [List.isPrefixOf, hc, hne]
      · simp only [Bool.not_eq_true] at hc
        simp [List.isPrefixOf, hc, ih fun e he => hstart e (by simp [he])]

/-- The first field names a protocol exactly if the line starts with one. -/
theorem protocolOf_first {c : Char} {rest : List Char}
    (hline : line.dropWhile Text.isSpace = c :: rest) :
    protocolOf ((c :: rest).takeWhile fun d => !Text.isSpace d) = none ↔ ¬ startsTcpUdp line := by
  unfold protocolOf startsTcpUdp
  dsimp only
  rw [isPrefixOf_field (Text.forall_mem_of_all (by decide)),
    isPrefixOf_field (Text.forall_mem_of_all (by decide)), hline,
    ← List.isPrefixOf_iff_prefix, ← List.isPrefixOf_iff_prefix]
  split_ifs with htcp hudp
  · exact iff_of_false (by simp) (not_not.mpr (.inl htcp))
  · exact iff_of_false (by simp) (not_not.mpr (.inr hudp))
  · exact iff_of_true rfl (not_or.mpr ⟨htcp, hudp⟩)

theorem parseSsLine_other (h : ¬ startsTcpUdp line) : parseSsLine upper line = .ignored := by
  unfold parseSsLine
  rw [Text.fields]
  cases hline : line.dropWhile Text.isSpace with
  | nil => rfl
  | cons c rest => simp only [(protocolOf_first hline).mpr h]

theorem exists_fields (h : startsTcpUdp line) : ∃ first rest protocol,
    Text.fields 6 line = first :: rest ∧ protocolOf first = some protocol := by
  cases hline : line.dropWhile Text.isSpace with
  | nil => simp [startsTcpUdp, hline] at h
  | cons c rest =>
    have hsome := (not_congr (protocolOf_first hline)).mpr (not_not.mpr h)
    obtain ⟨protocol, hprotocol⟩ := Option.ne_none_iff_exists'.mp hsome
    have hfields : Text.fields 6 line = ((c :: rest).takeWhile fun d => !Text.isSpace d) ::
        Text.fields 5 ((c :: rest).dropWhile fun d => !Text.isSpace d) := by
      rw [Text.fields, hline]
    exact ⟨_, _, protocol, hfields, hprotocol⟩

/-! ## Broken lines -/

theorem parseEndpoint_broken (htoken : ∀ c ∈ token, Text.isSpace c = false)
    (h : BrokenEndpoint remote token) : parseEndpoint remote (String.ofList token) = none := by
  obtain ⟨hopen, ⟨hcolon, hwildcard⟩ | ⟨host, port, rfl, hport, hbad⟩⟩ := h
  · have hsplit : splitEndpoint token = none := by
      rw [splitEndpoint_plain hopen, Text.rpartition_eq_none]
      exact hcolon
    rw [parseEndpoint_unsplit htoken hsplit, if_neg hwildcard]
  · have hsplit : splitEndpoint (host ++ ':' :: port) = some (host, port) := by
      rw [splitEndpoint_plain hopen, Text.rpartition_append hport]
    have hint : Text.int (String.ofList port) = none := by
      rcases hbad with rfl | ⟨c, hc, -, hnumeral⟩
      · decide
      · exact Text.int_eq_none hc hnumeral
    have hstar : port ≠ ['*'] := by
      rintro rfl
      rcases hbad with h | ⟨c, hc, hne, -⟩
      · cases h
      · exact hne (List.mem_singleton.mp hc)
    have hzero : port ≠ ['0'] := by
      rintro rfl
      revert hint
      decide
    rw [parseEndpoint_split htoken hsplit, if_neg (by simp [isPeerWildcardPort, hstar, hzero]),
      portNumber, if_neg hstar, hint]
    rfl

theorem parseSsLine_broken (h : BrokenLine line) :
    parseSsLine upper line = .skipped (skipReason line) := by
  obtain ⟨hstart, hbroken⟩ := h
  obtain ⟨first, rest, protocol, hfields, hprotocol⟩ := exists_fields hstart
  rcases hbroken with hshort | ⟨first', state, recvQ, sendQ, localField, peerField, process,
    hall, hendpoint⟩
  · rw [skipReason, if_pos hshort, parseSsLine, hfields]
    simp only [hprotocol]
    split
    · rw [hfields] at hshort
      simp only [List.length_cons] at hshort
      omega
    · rfl
  · have hfirst : protocolOf first' = some protocol := by
      rw [hfields] at hall
      rw [← (List.cons.inj hall).1]
      exact hprotocol
    have hlocal := (Text.not_isSpace_of_mem_fields (by rw [hall]; rfl : (Text.fields 6 line)[4]? =
      some localField) (by decide)).2
    have hpeer := (Text.not_isSpace_of_mem_fields (by rw [hall]; rfl : (Text.fields 6 line)[5]? =
      some peerField) (by decide)).2
    have hlong : ¬ (Text.fields 6 line).length < 6 := by
      rw [hall]
      simp
    rw [skipReason, if_neg hlong, parseSsLine_endpoints hall hfirst]
    apply parseEndpoints_refused
    rcases hendpoint with h | h
    · exact .inl (parseEndpoint_broken hlocal h)
    · exact .inr (parseEndpoint_broken hpeer h)

/-! ## The whole output -/

/-- Each line by itself. -/
theorem parseSsLine_text (upper : String → String) (l : SsLine) (lineNumber : ℕ) :
    (parseSsLine upper l.text).row? = l.connection? upper ∧
      (parseSsLine upper l.text).skipped? lineNumber l.text = l.skipped? lineNumber := by
  cases l with
  | connection c =>
    rw [SsLine.text, parseSsLine_render]
    exact ⟨rfl, rfl⟩
  | other line h =>
    rw [SsLine.text, parseSsLine_other h]
    exact ⟨rfl, rfl⟩
  | broken line h =>
    rw [SsLine.text, parseSsLine_broken h]
    exact ⟨rfl, rfl⟩

/-- The lines of an output are those that it was made of, or all but an empty last one. -/
theorem splitLines_ssOutput (ended : Bool) {lines : List (List Char)}
    (hlines : ∀ line ∈ lines, ∀ c ∈ line, Text.isLineBreak c = false) :
    Text.splitLines (ssOutput ended lines).toList = lines ∨
      Text.splitLines (ssOutput ended lines).toList ++ [[]] = lines := by
  rw [ssOutput, String.toList_ofList, Text.splitLines]
  cases ended with
  | true =>
    left
    rw [if_pos rfl]
    induction lines with
    | nil => rfl
    | cons line rest ih =>
      have hrest := ih fun l hl => hlines l (by simp [hl])
      rw [List.flatMap_cons, List.append_assoc, List.singleton_append,
        Text.linesFrom_line (hlines line (by simp)), hrest]
  | false =>
    rw [if_neg (by decide)]
    induction lines with
    | nil => exact .inl rfl
    | cons line rest ih =>
      cases rest with
      | nil =>
        have hlast := Text.linesFrom_last (hlines line (by simp))
        have hjoin : ['\n'].intercalate [line] = line := by simp [List.intercalate]
        rw [hjoin, hlast]
        split_ifs with hempty
        · exact .inr (by simp [hempty])
        · exact .inl rfl
      | cons next rest =>
        have hjoin : ['\n'].intercalate (line :: next :: rest) =
            line ++ '\n' :: ['\n'].intercalate (next :: rest) := by
          simp [List.intercalate]
        have hrest := ih fun l hl => hlines l (by simp [hl])
        rw [hjoin, Text.linesFrom_line (hlines line (by simp))]
        rcases hrest with h | h
        · exact .inl (by rw [h])
        · exact .inr (by rw [List.cons_append, h])

/-- An empty last line adds nothing. -/
theorem parseSsLines_append_empty (upper : String → String) (start : ℕ)
    (lines : List (List Char)) :
    parseSsLines upper start (lines ++ [[]]) = parseSsLines upper start lines := by
  have hempty : parseSsLine upper [] = .ignored := rfl
  rw [parseSsLines_eq, parseSsLines_eq, List.filterMap_append, List.zipIdx_append,
    List.filterMap_append]
  simp [hempty, LineOutcome.row?, LineOutcome.skipped?]

/-- The parser returns the connections of the rendered lines, in order, and the broken lines
with their numbers; it fails only if there is a broken line and no connection. -/
theorem parseSsOutput_lines (upper : String → String) (ended : Bool) (lines : List SsLine)
    (hlines : ∀ l ∈ lines, ∀ c ∈ l.text, Text.isLineBreak c = false) :
    let output := ssOutput ended (lines.map SsLine.text)
    let connections := lines.filterMap (·.connection? upper)
    let skipped := (lines.zipIdx 1).filterMap fun p => p.1.skipped? p.2
    parseSsOutputDetails upper output = ⟨connections, skipped⟩ ∧
      parseSsOutput upper output =
        match connections, skipped with
        | [], first :: _ =>
          .error ⟨"parse_error", "无法解析 ss 第 " ++ toString first.lineNumber ++ " 行"⟩
        | _, _ => .ok connections := by
  intro output connections skipped
  have hparsed : parseSsOutputDetails upper output =
      parseSsLines upper 1 (lines.map SsLine.text) := by
    have hbreaks : ∀ line ∈ lines.map SsLine.text, ∀ c ∈ line, Text.isLineBreak c = false := by
      intro line hline
      obtain ⟨l, hl, rfl⟩ := List.mem_map.mp hline
      exact hlines l hl
    rcases splitLines_ssOutput ended hbreaks with h | h
    · rw [parseSsOutputDetails, h]
    · rw [parseSsOutputDetails, ← h, parseSsLines_append_empty]
  have hdetails : parseSsOutputDetails upper output = ⟨connections, skipped⟩ := by
    rw [hparsed, parseSsLines_eq, List.filterMap_map, List.zipIdx_map, List.filterMap_map]
    have hrow : ∀ l : SsLine, (parseSsLine upper l.text).row? = l.connection? upper :=
      fun l => (parseSsLine_text upper l 0).1
    have hskipped : ∀ p : SsLine × ℕ,
        (parseSsLine upper p.1.text).skipped? p.2 p.1.text = p.1.skipped? p.2 :=
      fun p => (parseSsLine_text upper p.1 p.2).2
    simp only [Function.comp_def, hrow, Prod.map_fst, Prod.map_snd, id_eq, hskipped]
    rfl
  refine ⟨hdetails, ?_⟩
  rw [parseSsOutput, hdetails]
  clear_value connections skipped
  cases connections with
  | nil => cases skipped <;> rfl
  | cons connection rest => rfl

/-- A listener with its process. -/
def sshdListener : SsConnection where
  protocol := .tcp
  state := ⟨"LISTEN".toList, by decide, Text.forall_mem_of_all (by decide)⟩
  recvQ := 0
  sendQ := 128
  localEnd := ⟨.ipv4 ⟨[0, 0, 0, 0], rfl, by decide⟩ none, some 22⟩
  peerEnd := ⟨.ipv6 ⟨"::", Text.forall_mem_of_all (by decide),
    ⟨⟨List.replicate 8 0, rfl, by decide⟩, by decide⟩⟩ true, none⟩
  process := some ⟨"sshd".toList, 778, "fd=3))".toList, by decide, by decide⟩
  padding := fun _ => 0

/-- The listener, a diagnostic and a line that lost its columns. -/
def sshdLines : List SsLine :=
  [.connection sshdListener, .other "diagnostic text".toList (by decide),
    .broken "udp BROKEN".toList ⟨by decide, .inl (by decide)⟩]

theorem sshd_listener_parsed :
    sshdListener.render =
        "tcp LISTEN 0 128 0.0.0.0:22 [::]:* users:((\"sshd\",pid=778,fd=3))".toList ∧
      parseSsOutputDetails id (ssOutput true (sshdLines.map SsLine.text)) =
        ⟨[sshdListener.connection id], [⟨3, "字段不足", "udp BROKEN"⟩]⟩ := by
  have hlines : ∀ line ∈ sshdLines, ∀ c ∈ line.text, Text.isLineBreak c = false := by
    intro line hline
    simp only [sshdLines, List.mem_cons, List.not_mem_nil, or_false] at hline
    rcases hline with rfl | rfl | rfl
    all_goals exact Text.forall_mem_of_all (by decide)
  refine ⟨by decide, ?_⟩
  rw [(parseSsOutput_lines id true sshdLines hlines).1]
  rfl

end ConnectionTopology
