import ConnectionTopology.Collectors.Linux

/-!
# Endpoint tokens and lines of `ss`

A token has no blanks, so stripping does nothing, and the wildcards of a peer are also caught
by its port text: two equations describe `parseEndpoint` on tokens. A line is read through its
fields, and the result of a text is that of its lines.
-/
namespace ConnectionTopology

variable {upper : String → String} {remote : Bool} {token host port : List Char}

/-! ## Tokens -/

/-- What the parser makes of a host text: the zone is cut off and `*` is spelled out. -/
def hostAddress (host : List Char) : String :=
  let host := Text.before '%' (String.ofList host)
  if host = "*" then "0.0.0.0" else host

/-- What the parser makes of a port text. -/
def portNumber (port : List Char) : Option ℤ :=
  if port = ['*'] then some 0 else Text.int (String.ofList port)

/-- The port texts that stand for no peer. -/
def isPeerWildcardPort (port : List Char) : Prop := port = ['*'] ∨ port = ['0']

instance (port : List Char) : Decidable (isPeerWildcardPort port) :=
  inferInstanceAs (Decidable (_ ∨ _))

theorem strip_token (htoken : ∀ c ∈ token, Text.isSpace c = false) :
    Text.strip (String.ofList token) = String.ofList token := by
  rw [Text.strip, String.toList_ofList, Text.stripChars_of_not_space htoken]

/-- A peer wildcard that can be split has a wildcard port. -/
theorem wildcard_port (hsplit : splitEndpoint token = some (host, port))
    (hwildcard : String.ofList token ∈ peerWildcards) : isPeerWildcardPort port := by
  have hcases : token ∈ peerWildcards.map String.toList :=
    List.mem_map.mpr ⟨_, hwildcard, String.toList_ofList⟩
  have hall : ∀ t ∈ peerWildcards.map String.toList, ∀ r ∈ splitEndpoint t,
      isPeerWildcardPort r.2 := by decide
  exact hall token hcases _ hsplit

theorem ofList_mem_wildcardPorts :
    String.ofList port ∈ ["*", "0"] ↔ isPeerWildcardPort port := by
  have hinj : ∀ cs : List Char, ∀ s : String, String.ofList cs = s ↔ cs = s.toList := by
    intro cs s
    rw [← String.toList_inj, String.toList_ofList]
  simp only [List.mem_cons, List.not_mem_nil, or_false, hinj]
  rfl

theorem parseEndpoint_split (htoken : ∀ c ∈ token, Text.isSpace c = false)
    (hsplit : splitEndpoint token = some (host, port)) :
    parseEndpoint remote (String.ofList token) =
      if remote = true ∧ isPeerWildcardPort port then some none
      else (portNumber port).map fun n => some (hostAddress host, n) := by
  have hstar : String.ofList port = "*" ↔ port = ['*'] := by
    rw [← String.toList_inj, String.toList_ofList]
    rfl
  unfold parseEndpoint
  simp only [strip_token htoken, String.toList_ofList, hsplit, Bool.and_eq_true,
    decide_eq_true_eq, ofList_mem_wildcardPorts, hstar]
  by_cases hpeer : remote = true ∧ isPeerWildcardPort port
  · rw [if_pos hpeer, if_pos hpeer]
    split_ifs <;> rfl
  · have hnot : ¬ (remote = true ∧ String.ofList token ∈ peerWildcards) :=
      fun h => hpeer ⟨h.1, wildcard_port hsplit h.2⟩
    rw [if_neg hnot, if_neg hpeer, if_neg hpeer]
    simp only [portNumber, hostAddress]
    split_ifs <;> rfl

/-- Without two parts a token can only be the one wildcard that has no colon. -/
theorem parseEndpoint_unsplit (htoken : ∀ c ∈ token, Text.isSpace c = false)
    (hsplit : splitEndpoint token = none) :
    parseEndpoint remote (String.ofList token) =
      if remote = true ∧ token = ['*'] then some none else none := by
  have hwildcard : String.ofList token ∈ peerWildcards ↔ token = ['*'] := by
    constructor
    · intro h
      have hcases : token ∈ peerWildcards.map String.toList :=
        List.mem_map.mpr ⟨_, h, String.toList_ofList⟩
      have hall : ∀ t ∈ peerWildcards.map String.toList, splitEndpoint t = none → t = ['*'] := by
        decide
      exact hall token hcases hsplit
    · rintro rfl
      decide
  unfold parseEndpoint
  simp only [strip_token htoken, String.toList_ofList, hsplit, Bool.and_eq_true,
    decide_eq_true_eq, hwildcard]

/-- The local endpoint is never a pair of two `None`s: the assertion of the source holds. -/
theorem parseEndpoint_local_ne (value : String) : parseEndpoint false value ≠ some none := by
  unfold parseEndpoint
  simp only [Bool.false_and, Bool.false_eq_true, if_false]
  split
  · simp
  · split_ifs <;> simp

/-! ## Splitting a token -/

theorem splitEndpoint_plain (hopen : token.head? ≠ some '[') :
    splitEndpoint token = Text.rpartition ':' token := by
  unfold splitEndpoint
  split
  · simp at hopen
  · rfl

theorem splitEndpoint_bracketed {rest : List Char} (hrest : ']' ∉ rest) :
    splitEndpoint ('[' :: host ++ ']' :: rest) = some (host, rest.drop 1) := by
  have h := Text.rpartition_append hrest ('[' :: host)
  rw [List.cons_append] at h
  rw [List.cons_append, splitEndpoint, h]
  rfl

theorem splitEndpoint_unclosed {rest : List Char} (hrest : ']' ∉ rest) :
    splitEndpoint ('[' :: rest) = some (rest.dropLast, rest) := by
  have h : Text.rpartition ']' ('[' :: rest) = none := by
    rw [Text.rpartition_eq_none]
    simpa using hrest
  rw [splitEndpoint, h]
  rfl

/-! ## Lines -/

theorem parseSsLine_endpoints {line first state recvQ sendQ localField peerField : List Char}
    {process : List (List Char)} {protocol : String}
    (hfields : Text.fields 6 line =
      first :: state :: recvQ :: sendQ :: localField :: peerField :: process)
    (hprotocol : protocolOf first = some protocol) :
    parseSsLine upper line =
      parseEndpoints upper protocol state localField peerField process.head? := by
  rw [parseSsLine, hfields]
  simp only [hprotocol]

/-- An endpoint that is refused is enough to skip the line. -/
theorem parseEndpoints_refused {protocol : String} {state localField peerField : List Char}
    {process : Option (List Char)}
    (h : parseEndpoint false (String.ofList localField) = none ∨
      parseEndpoint true (String.ofList peerField) = none) :
    parseEndpoints upper protocol state localField peerField process = .skipped "端点无效" := by
  unfold parseEndpoints
  split
  · rename_i hlocal hpeer
    rcases h with h | h
    · rw [h] at hlocal
      cases hlocal
    · rw [h] at hpeer
      cases hpeer
  · rfl

/-- The connection of a line, if it is one. -/
def LineOutcome.row? : LineOutcome → Option NormalizedConnection
  | .row connection => some connection
  | _ => none

/-- The entry of a line among the skipped ones, if it is skipped. -/
def LineOutcome.skipped? (lineNumber : ℕ) (line : List Char) :
    LineOutcome → Option SkippedSSLine
  | .skipped reason => some ⟨lineNumber, reason, String.ofList line⟩
  | _ => none

/-- The result of the loop, line by line. -/
theorem parseSsLines_eq (lines : List (List Char)) (start : ℕ) :
    parseSsLines upper start lines =
      ⟨lines.filterMap fun line => (parseSsLine upper line).row?,
        (lines.zipIdx start).filterMap fun p => (parseSsLine upper p.1).skipped? p.2 p.1⟩ := by
  induction lines generalizing start with
  | nil => rfl
  | cons line rest ih =>
    rw [parseSsLines, ih]
    cases hline : parseSsLine upper line <;>
      simp [hline, LineOutcome.row?, LineOutcome.skipped?]

end ConnectionTopology
