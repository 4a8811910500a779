import ConnectionTopology.Collectors.SsTokens

/-!
# What `ss` prints and what the parser makes of it

A line is the rendering of a connection, something that is not about a connection, or a line
that is visibly broken. The parser returns exactly the connections of the first kind and
exactly the lines of the last kind, each judged by itself.
-/
namespace ConnectionTopology

/-! ## Renderings -/

/-- A column without blanks. -/
structure SsToken where
  text : List Char
  ne : text ≠ []
  noBlank : ∀ c ∈ text, Text.isSpace c = false

/-- The text of an IPv6 address without a zone. -/
structure IPv6Text where
  text : String
  chars : ∀ c ∈ text.toList, c = ':' ∨ c = '.' ∨ (Text.hexValue c).isSome
  parsed : ∃ a, ipAddress text = some (.v6 a none)

inductive SsHost
  | ipv4 (address : IPv4Address) (iface : Option SsToken)
  | ipv6 (address : IPv6Text) (bracketed : Bool)
  | any

/-- The text of the host between brackets or in front of the colon. -/
def SsHost.text : SsHost → List Char
  | .ipv4 address none => address.print.toList
  | .ipv4 address (some iface) => address.print.toList ++ '%' :: iface.text
  | .ipv6 address _ => address.text.toList
  | .any => ['*']

def SsHost.render : SsHost → List Char
  | .ipv6 address true => '[' :: address.text.toList ++ [']']
  | host => host.text

/-- The address that the host stands for. -/
def SsHost.address : SsHost → String
  | .ipv4 address _ => address.print
  | .ipv6 address _ => address.text
  | .any => "0.0.0.0"

/-- The port is `none` where `ss` prints `*`. -/
structure SsEndpoint where
  host : SsHost
  port : Option (Fin 65536)

def SsEndpoint.portText (e : SsEndpoint) : List Char :=
  match e.port with
  | none => ['*']
  | some n => (toString n.val).toList

def SsEndpoint.portNumber (e : SsEndpoint) : ℕ :=
  match e.port with
  | none => 0
  | some n => n.val

def SsEndpoint.render (e : SsEndpoint) : List Char := e.host.render ++ ':' :: e.portText

/-- The process column: `users:(("name",pid=N,` and whatever follows. -/
structure SsProcess where
  name : List Char
  pid : ℕ
  rest : List Char
  name_ne : name ≠ []
  noQuote : '"' ∉ name

def SsProcess.render (p : SsProcess) : List Char :=
  "users:((\"".toList ++ (p.name ++ ("\",pid=".toList ++ ((toString p.pid).toList ++
    ',' :: p.rest)))

inductive SsProtocol
  | tcp
  | udp
  deriving DecidableEq

def SsProtocol.text : SsProtocol → String
  | .tcp => "tcp"
  | .udp => "udp"

/-- One line of `ss -H -tunap`; `padding` counts the blanks beyond the first between two
columns. -/
structure SsConnection where
  protocol : SsProtocol
  state : SsToken
  recvQ : ℕ
  sendQ : ℕ
  localEnd : SsEndpoint
  peerEnd : SsEndpoint
  process : Option SsProcess
  padding : Fin 6 → ℕ

/-- At least one blank. -/
def blanks (padding : ℕ) : List Char := List.replicate (padding + 1) ' '

/-- The process column with the blanks in front of it, or the blanks at the end of the line. -/
def SsConnection.renderProcess (c : SsConnection) : List Char :=
  match c.process with
  | none => List.replicate (c.padding 5) ' '
  | some process => blanks (c.padding 5) ++ process.render

/-- The line, given the texts of its two endpoints. -/
def SsConnection.renderWith (c : SsConnection) (localText peerText : List Char) : List Char :=
  c.protocol.text.toList ++ (blanks (c.padding 0) ++ (c.state.text ++ (blanks (c.padding 1) ++
    ((toString c.recvQ).toList ++ (blanks (c.padding 2) ++ ((toString c.sendQ).toList ++
      (blanks (c.padding 3) ++ (localText ++ (blanks (c.padding 4) ++ (peerText ++
        c.renderProcess))))))))))

def SsConnection.render (c : SsConnection) : List Char :=
  c.renderWith c.localEnd.render c.peerEnd.render

/-- The peer, unless its port is a wildcard or zero. -/
def SsEndpoint.peer (e : SsEndpoint) : Option (String × ℤ) :=
  if e.portNumber = 0 then none else some (e.host.address, e.portNumber)

/-- The connection that a line stands for. -/
def SsConnection.connection (upper : String → String) (c : SsConnection) : NormalizedConnection where
  protocol := c.protocol.text
  addressFamily := addressFamily (normalizeIpAddress c.localEnd.host.address)
  localIp := normalizeIpAddress c.localEnd.host.address
  localPort := c.localEnd.portNumber
  remoteIp := c.peerEnd.peer.map fun p => normalizeIpAddress p.1
  remotePort := c.peerEnd.peer.map (·.2)
  state := if c.protocol = .tcp then some (upper (String.ofList c.state.text)) else none
  pid := c.process.map fun p => (p.pid : ℤ)
  processName := c.process.map fun p => String.ofList p.name

/-! ## Endpoints are read back -/

theorem not_isSpace_of_isDigit_or {c : Char} (h : c = '.' ∨ c.isDigit) :
    Text.isSpace c = false := by
  rcases h with rfl | h
  · decide
  · exact Text.not_isSpace_of_isDigit h

theorem isDigit_of_mem_toString {n : ℕ} {c : Char} (h : c ∈ (toString n).toList) : c.isDigit := by
  rw [Nat.toString_eq_ofList_toDigits, String.toList_ofList] at h
  exact Text.isDigit_of_mem_toDigits h

theorem portText_chars (e : SsEndpoint) : ∀ c ∈ e.portText, c = '*' ∨ c.isDigit := by
  intro c hc
  unfold SsEndpoint.portText at hc
  split at hc
  · exact .inl (List.mem_singleton.mp hc)
  · exact .inr (isDigit_of_mem_toString hc)

theorem not_mem_portText {e : SsEndpoint} {c : Char} (hstar : c ≠ '*') (hdigit : c.isDigit = false) :
    c ∉ e.portText := by
  intro hc
  rcases portText_chars e c hc with hc | hc
  · exact hstar hc
  · rw [hdigit] at hc
    cases hc

theorem toString_toList_ne {n : ℕ} {c : Char} (hc : c.isDigit = false) :
    (toString n).toList ≠ [c] := by
  intro h
  have hmem : c ∈ (toString n).toList := by
    rw [h]
    exact List.mem_singleton_self c
  rw [isDigit_of_mem_toString hmem] at hc
  cases hc

/-- The port text denotes the port. -/
theorem portNumber_portText (e : SsEndpoint) :
    ConnectionTopology.portNumber e.portText = some (e.portNumber : ℤ) := by
  unfold ConnectionTopology.portNumber SsEndpoint.portText SsEndpoint.portNumber
  split
  · rfl
  · rename_i n _
    rw [if_neg (toString_toList_ne (by decide)), String.ofList_toList, Text.int_toString_nat]

theorem isPeerWildcardPort_portText (e : SsEndpoint) :
    isPeerWildcardPort e.portText ↔ e.portNumber = 0 := by
  unfold isPeerWildcardPort SsEndpoint.portText SsEndpoint.portNumber
  split
  · simp
  · rename_i n _
    constructor
    · rintro (h | h)
      · exact absurd h (toString_toList_ne (by decide))
      · have hread := Text.int_toString_nat n.val
        rw [← String.ofList_toList (s := toString n.val), h] at hread
        have hzero : Text.int (String.ofList ['0']) = some 0 := by decide
        rw [hzero] at hread
        have := Option.some.inj hread
        omega
    · intro h
      right
      rw [h]
      rfl

theorem hexDigit_chars {c : Char} (h : (Text.hexValue c).isSome) :
    Text.isSpace c = false ∧ c ≠ '[' ∧ c ≠ ']' ∧ c ≠ '%' := by
  have hrange : ('0' ≤ c ∧ c ≤ '9') ∨ ('a' ≤ c ∧ c ≤ 'f') ∨ ('A' ≤ c ∧ c ≤ 'F') := by
    unfold Text.hexValue at h
    split_ifs at h with h09 haf hAF
    · exact .inl h09
    · exact .inr (.inl haf)
    · exact .inr (.inr hAF)
    · simp at h
  simp only [Char.le_def, UInt32.le_iff_toNat_le] at hrange
  refine ⟨?_, ?_, ?_, ?_⟩
  · change ((48 ≤ c.toNat ∧ c.toNat ≤ 57) ∨ (97 ≤ c.toNat ∧ c.toNat ≤ 102) ∨
      (65 ≤ c.toNat ∧ c.toNat ≤ 70)) at hrange
    simp only [Text.isSpace, Bool.or_eq_false_iff, decide_eq_false_iff_not, List.mem_cons,
      List.not_mem_nil, or_false, Bool.and_eq_false_iff]
    omega
  all_goals
    rintro rfl
    revert hrange
    decide

namespace IPv6Text

variable (a : IPv6Text)

theorem char_spec {c : Char} (hc : c ∈ a.text.toList) :
    Text.isSpace c = false ∧ c ≠ '[' ∧ c ≠ ']' ∧ c ≠ '%' := by
  rcases a.chars c hc with rfl | rfl | hhex
  · decide
  · decide
  · exact hexDigit_chars hhex

theorem colon_mem : ':' ∈ a.text.toList := by
  obtain ⟨v6, hparsed⟩ := a.parsed
  exact (ipAddress_colon hparsed).mpr ⟨v6, none, rfl⟩

end IPv6Text

theorem not_mem_print_v4 {a : IPv4Address} {c : Char} (hdot : c ≠ '.') (hdigit : c.isDigit = false) :
    c ∉ a.print.toList := by
  intro hc
  rcases a.print_chars c hc with hc | hc
  · exact hdot hc
  · rw [hdigit] at hc
    cases hc

theorem dot_mem_print (a : IPv4Address) : '.' ∈ a.print.toList := by
  apply Text.mem_of_two_le_length_split
  rw [a.split_print, List.length_map, a.length_eq]
  decide

/-- The host text stands for the address. -/
theorem hostAddress_text (h : SsHost) : hostAddress h.text = h.address := by
  have hstar : ∀ {address : String} {c : Char}, c ∈ address.toList → c ≠ '*' → address ≠ "*" := by
    rintro address c hc hne rfl
    exact hne (List.mem_singleton.mp hc)
  have hdot : ∀ a : IPv4Address, a.print ≠ "*" := fun a => hstar (dot_mem_print a) (by decide)
  cases h with
  | ipv4 a iface =>
    have hpercent : '%' ∉ a.print.toList := not_mem_print_v4 (by decide) (by decide)
    cases iface with
    | none =>
      simp only [hostAddress, SsHost.text, SsHost.address, String.ofList_toList,
        Text.before_eq_self hpercent, if_neg (hdot a)]
    | some iface =>
      simp only [hostAddress, SsHost.text, SsHost.address, Text.before_append hpercent,
        String.ofList_toList, if_neg (hdot a)]
  | ipv6 a bracketed =>
    have hpercent : '%' ∉ a.text.toList := fun hc => (a.char_spec hc).2.2.2 rfl
    simp only [hostAddress, SsHost.text, SsHost.address, String.ofList_toList,
      Text.before_eq_self hpercent, if_neg (hstar a.colon_mem (by decide))]
  | any => decide

/-- The parser splits a token where it was put together. -/
theorem splitEndpoint_render (e : SsEndpoint) :
    splitEndpoint e.render = some (e.host.text, e.portText) := by
  have hcolon : ':' ∉ e.portText := not_mem_portText (by decide) (by decide)
  have hbracket : ']' ∉ ':' :: e.portText := by
    have h : ']' ∉ e.portText := not_mem_portText (by decide) (by decide)
    simpa using h
  -- a host that is not bracketed does not start with a bracket either
  have hplain : e.host.text.head? ≠ some '[' → e.host.render = e.host.text →
      splitEndpoint e.render = some (e.host.text, e.portText) := by
    intro hopen hrender
    have hhead : e.render.head? ≠ some '[' := by
      rw [SsEndpoint.render, hrender]
      cases htext : e.host.text with
      | nil => simp
      | cons c cs => simpa [htext] using hopen
    rw [splitEndpoint_plain hhead, SsEndpoint.render, hrender, Text.rpartition_append hcolon]
  cases hhost : e.host with
  | ipv4 a iface =>
    rw [hhost] at hplain
    apply hplain
    · intro hopen
      have hne : a.print.toList ≠ [] := List.ne_nil_of_mem (dot_mem_print a)
      have hhead : '[' ∈ a.print.toList := by
        obtain ⟨c, cs, htext⟩ := List.exists_cons_of_ne_nil hne
        cases iface with
        | none => exact List.mem_of_head? hopen
        | some iface =>
          rw [SsHost.text, htext] at hopen
          rw [htext, Option.some.inj hopen]
          exact List.mem_cons_self
      exact not_mem_print_v4 (by decide) (by decide) hhead
    · cases iface <;> rfl
  | ipv6 a bracketed =>
    cases bracketed with
    | true =>
      have hrender : e.render = '[' :: a.text.toList ++ ']' :: ':' :: e.portText := by
        simp [SsEndpoint.render, hhost, SsHost.render]
      rw [hrender, splitEndpoint_bracketed hbracket]
      rfl
    | false =>
      rw [hhost] at hplain
      apply hplain
      · intro hopen
        exact (a.char_spec (List.mem_of_head? hopen)).2.1 rfl
      · rfl
  | any =>
    rw [hhost] at hplain
    exact hplain (by decide) rfl

theorem render_noBlank (e : SsEndpoint) : ∀ c ∈ e.render, Text.isSpace c = false := by
  have hport : ∀ c ∈ e.portText, Text.isSpace c = false := by
    intro c hc
    rcases portText_chars e c hc with rfl | hdigit
    · decide
    · exact Text.not_isSpace_of_isDigit hdigit
  have hv4 : ∀ (a : IPv4Address), ∀ c ∈ a.print.toList, Text.isSpace c = false :=
    fun a c hc => not_isSpace_of_isDigit_or (a.print_chars c hc)
  have hhost : ∀ c ∈ e.host.render, Text.isSpace c = false := by
    intro c hc
    match e.host, hc with
    | .ipv4 a none, hc => exact hv4 a c hc
    | .ipv4 a (some iface), hc =>
      rcases List.mem_append.mp hc with hc | hc
      · exact hv4 a c hc
      · rcases List.mem_cons.mp hc with rfl | hc
        · decide
        · exact iface.noBlank c hc
    | .ipv6 a true, hc =>
      simp only [SsHost.render, List.mem_append, List.mem_cons, List.not_mem_nil, or_false] at hc
      rcases hc with (rfl | hc) | rfl
      · decide
      · exact (a.char_spec hc).1
      · decide
    | .ipv6 a false, hc => exact (a.char_spec hc).1
    | .any, hc =>
      rw [List.mem_singleton.mp hc]
      decide
  intro c hc
  rcases List.mem_append.mp hc with hc | hc
  · exact hhost c hc
  · rcases List.mem_cons.mp hc with rfl | hc
    · decide
    · exact hport c hc

/-- Every endpoint that `ss` prints is read back. -/
theorem parseEndpoint_render (remote : Bool) (e : SsEndpoint) :
    parseEndpoint remote (String.ofList e.render) =
      some (if remote = true ∧ e.portNumber = 0 then none
        else some (e.host.address, (e.portNumber : ℤ))) := by
  rw [parseEndpoint_split (render_noBlank e) (splitEndpoint_render e), portNumber_portText,
    hostAddress_text]
  simp only [isPeerWildcardPort_portText, Option.map_some]
  split_ifs <;> rfl

/-! ## The process column is read back -/

theorem matchProcess_render (p : SsProcess) :
    matchProcess ('(' :: '(' :: '"' :: (p.name ++ '"' :: ',' :: 'p' :: 'i' :: 'd' :: '=' ::
      ((toString p.pid).toList ++ ',' :: p.rest))) = some (String.ofList p.name, (p.pid : ℤ)) := by
  have hname : ∀ c ∈ p.name, (fun d => decide (d ≠ '"')) c = true := by
    intro c hc
    simp only [ne_eq, decide_eq_true_eq]
    rintro rfl
    exact p.noQuote hc
  have hdigits : ∀ c ∈ (toString p.pid).toList, (fun d => (Text.digitValue d).isSome) c = true := by
    intro c hc
    simp [Text.digitValue_of_isDigit (isDigit_of_mem_toString hc)]
  have hpid : (toString p.pid).toList ≠ [] := by
    rw [Nat.toString_eq_ofList_toDigits, String.toList_ofList]
    exact Nat.toDigits_ne_nil
  have hcomma : (Text.digitValue ',').isSome = false := by decide
  rw [matchProcess, List.dropWhile_append_of_pos hname, List.takeWhile_append_of_pos hname,
    List.dropWhile_cons_of_neg (by simp), List.takeWhile_cons_of_neg (by simp)]
  simp only [List.append_nil]
  rw [List.takeWhile_append_of_pos hdigits, List.takeWhile_cons_of_neg (by simp [hcomma]),
    List.append_nil, if_pos ⟨p.name_ne, hpid⟩, String.ofList_toList, Text.int_toString_nat]
  rfl

theorem searchProcess_cons {c : Char} (hc : c ≠ '(') (cs : List Char) :
    searchProcess (c :: cs) = searchProcess cs := by
  have hnone : matchProcess (c :: cs) = none := by
    unfold matchProcess
    split
    · rename_i heq
      exact absurd (List.cons.inj heq).1 hc
    · rfl
  rw [searchProcess, hnone]

/-- The pattern is found right behind `users:`. -/
theorem searchProcess_render (p : SsProcess) :
    searchProcess p.render = some (String.ofList p.name, (p.pid : ℤ)) := by
  have hrender : p.render = 'u' :: 's' :: 'e' :: 'r' :: 's' :: ':' :: '(' :: '(' :: '"' ::
      (p.name ++ '"' :: ',' :: 'p' :: 'i' :: 'd' :: '=' ::
        ((toString p.pid).toList ++ ',' :: p.rest)) := rfl
  have hmatch := matchProcess_render p
  rw [hrender]
  iterate 6 rw [searchProcess_cons (by decide)]
  rw [searchProcess, hmatch]

/-! ## The columns are read back -/

theorem blanks_spec (padding : ℕ) :
    (∀ c ∈ blanks padding, Text.isSpace c) ∧ ∀ rest : List Char, ∀ c ∈ (blanks padding ++ rest).head?,
      Text.isSpace c := by
  constructor
  · intro c hc
    rw [(List.mem_replicate.mp hc).2]
    decide
  · intro rest c hc
    obtain rfl : ' ' = c := by simpa [blanks, List.replicate_succ] using hc
    decide

/-- A column that blanks follow. -/
theorem fields_column {field : List Char} (hne : field ≠ [])
    (hfield : ∀ c ∈ field, Text.isSpace c = false) (n padding : ℕ) (rest : List Char) :
    Text.fields (n + 1) (field ++ (blanks padding ++ rest)) = field :: Text.fields n rest := by
  rw [Text.fields_field hne hfield ((blanks_spec padding).2 rest),
    Text.fields_blank (blanks_spec padding).1]

theorem fields_renderProcess (c : SsConnection) {peerText : List Char} (hne : peerText ≠ [])
    (hpeer : ∀ c ∈ peerText, Text.isSpace c = false) :
    Text.fields 1 (peerText ++ c.renderProcess) =
      peerText :: (c.process.map SsProcess.render).toList := by
  cases hprocess : c.process with
  | none =>
    have hblank : ∀ d ∈ c.renderProcess, Text.isSpace d := by
      intro d hd
      rw [SsConnection.renderProcess, hprocess] at hd
      rw [(List.mem_replicate.mp hd).2]
      decide
    have hrest := Text.fields_blank hblank 0 []
    rw [List.append_nil, Text.fields_nil] at hrest
    rw [Text.fields_field hne hpeer fun d hd => hblank d (List.mem_of_head? hd), hrest]
    rfl
  | some process =>
    have hrender : c.renderProcess = blanks (c.padding 5) ++ process.render := by
      rw [SsConnection.renderProcess, hprocess]
    have hstart : process.render = 'u' :: process.render.tail := rfl
    rw [hrender, fields_column hne hpeer, hstart, Text.fields_rest (by decide)]
    rfl

/-- The seven columns of a line. -/
theorem fields_renderWith (c : SsConnection) {localText peerText : List Char}
    (hlocalNe : localText ≠ []) (hlocal : ∀ c ∈ localText, Text.isSpace c = false)
    (hpeerNe : peerText ≠ []) (hpeer : ∀ c ∈ peerText, Text.isSpace c = false) :
    Text.fields 6 (c.renderWith localText peerText) =
      c.protocol.text.toList :: c.state.text :: (toString c.recvQ).toList ::
        (toString c.sendQ).toList :: localText :: peerText ::
          (c.process.map SsProcess.render).toList := by
  have hnumber : ∀ n : ℕ, (toString n).toList ≠ [] ∧
      ∀ d ∈ (toString n).toList, Text.isSpace d = false := by
    intro n
    constructor
    · rw [Nat.toString_eq_ofList_toDigits, String.toList_ofList]
      exact Nat.toDigits_ne_nil
    · exact fun d hd => Text.not_isSpace_of_isDigit (isDigit_of_mem_toString hd)
  have hprotocol : c.protocol.text.toList ≠ [] ∧
      ∀ d ∈ c.protocol.text.toList, Text.isSpace d = false := by
    cases c.protocol with
    | tcp => exact ⟨by decide, Text.forall_mem_of_all (by decide)⟩
    | udp => exact ⟨by decide, Text.forall_mem_of_all (by decide)⟩
  rw [SsConnection.renderWith, fields_column hprotocol.1 hprotocol.2,
    fields_column c.state.ne c.state.noBlank, fields_column (hnumber _).1 (hnumber _).2,
    fields_column (hnumber _).1 (hnumber _).2, fields_column hlocalNe hlocal,
    fields_renderProcess c hpeerNe hpeer]

theorem protocolOf_text (protocol : SsProtocol) :
    protocolOf protocol.text.toList = some protocol.text := by
  cases protocol <;> decide

/-- A line is judged by its two endpoint texts. -/
theorem parseSsLine_renderWith (upper : String → String) (c : SsConnection)
    {localText peerText : List Char}
    (hlocalNe : localText ≠ []) (hlocal : ∀ c ∈ localText, Text.isSpace c = false)
    (hpeerNe : peerText ≠ []) (hpeer : ∀ c ∈ peerText, Text.isSpace c = false) :
    parseSsLine upper (c.renderWith localText peerText) =
      parseEndpoints upper c.protocol.text c.state.text localText peerText
        (c.process.map SsProcess.render) := by
  rw [parseSsLine_endpoints (fields_renderWith c hlocalNe hlocal hpeerNe hpeer)
    (protocolOf_text c.protocol)]
  cases c.process <;> rfl

theorem render_ne_nil (e : SsEndpoint) : e.render ≠ [] := by
  simp [SsEndpoint.render]

/-- The line of a connection is read back. -/
theorem parseSsLine_render (upper : String → String) (c : SsConnection) :
    parseSsLine upper c.render = .row (c.connection upper) := by
  have hprotocol : c.protocol.text = "tcp" ↔ c.protocol = .tcp := by
    cases c.protocol <;> decide
  have hsearch : (c.process.map SsProcess.render).bind searchProcess =
      c.process.map fun p => (String.ofList p.name, (p.pid : ℤ)) := by
    cases c.process with
    | none => rfl
    | some process => exact searchProcess_render process
  rw [SsConnection.render, parseSsLine_renderWith upper c (render_ne_nil _) (render_noBlank _)
    (render_ne_nil _) (render_noBlank _)]
  unfold parseEndpoints
  simp only [parseEndpoint_render, hsearch, hprotocol, Option.map_map, Bool.false_eq_true,
    false_and, true_and, if_false]
  rfl

end ConnectionTopology
