import ConnectionTopology.Collectors.SsOutput

/-!
# Endpoints that are accepted

A token is split by position, and its port text is left to `int`. So a token may be accepted
although its brackets are not closed or not followed by a colon, its host is empty, or its port
is no numeral between 0 and 65535. These tokens are the misread ones; every other accepted
token is of the form that it should have. A zone behind the bracket, on the other hand, ends up
in the port text, and the line is always lost.
-/
namespace ConnectionTopology

variable {upper : String → String} {remote : Bool} {token host port line : List Char}

/-! ## Forms -/

/-- `*`, or ASCII digits of a number up to 65535. -/
def PortForm (port : List Char) : Prop :=
  port = ['*'] ∨
    (port ≠ [] ∧ (∀ c ∈ port, c.isDigit) ∧ Nat.ofDigitChars 10 port 0 ≤ 65535)

/-- The number of such a port text. -/
def portValue (port : List Char) : ℕ := if port = ['*'] then 0 else Nat.ofDigitChars 10 port 0

/-- `host:port` or `[host]:port`. -/
inductive UnscopedForm (token host port : List Char) : Prop
  | plain (htoken : token = host ++ ':' :: port) (hopen : token.head? ≠ some '[')
  | bracketed (htoken : token = '[' :: host ++ ']' :: ':' :: port)

/-- `host:port`, `[host]:port` or `[host]%iface:port`, with a host and a port. -/
inductive EndpointForm (token host port : List Char) : Prop
  | unscoped (hhost : host ≠ []) (hport : PortForm port) (h : UnscopedForm token host port)
  | zoned (hhost : host ≠ []) (hport : PortForm port) (iface : List Char) (hiface : ']' ∉ iface)
      (htoken : token = '[' :: host ++ ']' :: '%' :: iface ++ ':' :: port)

/-- A port text that the parser accepts: the wildcard or whatever `int` reads. -/
def Readable (port : List Char) : Prop := port = ['*'] ∨ (Text.int (String.ofList port)).isSome

/-- The tokens that are accepted although they should not be. -/
inductive Misread (token : List Char) : Prop
  | unclosed (port : List Char) (htoken : token = '[' :: port) (hclosed : ']' ∉ port)
      (hport : Readable port)
  | noColon (host : List Char) (c : Char) (port : List Char)
      (htoken : token = '[' :: host ++ ']' :: c :: port) (hcolon : c ≠ ':')
      (hlast : ']' ∉ c :: port) (hport : Readable port)
  | noHost (port : List Char) (htoken : UnscopedForm token [] port) (hport : Readable port)
  | badPort (host port : List Char) (htoken : UnscopedForm token host port)
      (hport : Readable port) (hform : ¬ PortForm port)

/-! ## How the forms are split -/

theorem not_mem_of_readable (h : Readable port) (c : Char) (hstar : c ≠ '*')
    (hnumeral : Text.isNumeralChar c = false) : c ∉ port := by
  intro hc
  rcases h with rfl | h
  · exact hstar (List.mem_singleton.mp hc)
  · rw [Text.int_eq_none hc hnumeral] at h
    cases h

theorem PortForm.readable (h : PortForm port) : Readable port := by
  rcases h with h | ⟨hne, hdigits, -⟩
  · exact .inl h
  · right
    rw [Text.int_of_digits hne hdigits]
    rfl

theorem PortForm.portNumber_eq (h : PortForm port) : portNumber port = some (portValue port : ℤ) := by
  unfold portNumber portValue
  split_ifs with hstar
  · rfl
  · obtain ⟨hne, hdigits, -⟩ := h.resolve_left hstar
    exact Text.int_of_digits hne hdigits

theorem UnscopedForm.split (h : UnscopedForm token host port) (hport : Readable port) :
    splitEndpoint token = some (host, port) := by
  have hcolon : ':' ∉ port := not_mem_of_readable hport ':' (by decide) (by decide)
  have hbracket : ']' ∉ ':' :: port := by
    have h := not_mem_of_readable hport ']' (by decide) (by decide)
    simpa using h
  cases h with
  | plain htoken hopen => rw [splitEndpoint_plain hopen, htoken, Text.rpartition_append hcolon]
  | bracketed htoken => rw [htoken, splitEndpoint_bracketed hbracket, List.drop_one, List.tail_cons]

/-- A zone behind the bracket ends up in the port text. -/
theorem splitEndpoint_scoped {iface : List Char} (hiface : ']' ∉ iface) (hport : ']' ∉ port) :
    splitEndpoint ('[' :: host ++ ']' :: '%' :: iface ++ ':' :: port) =
      some (host, iface ++ ':' :: port) := by
  have hrest : ']' ∉ '%' :: iface ++ ':' :: port := by simp [hiface, hport]
  have hsplit := @splitEndpoint_bracketed host _ hrest
  simpa using hsplit

/-- The form of an accepted token shows in how it is split. -/
theorem EndpointForm.split {hostText portText : List Char} (h : EndpointForm token host port)
    (hsplit : splitEndpoint token = some (hostText, portText)) (hread : Readable portText) :
    hostText = host ∧ portText = port ∧ UnscopedForm token host port := by
  cases h with
  | unscoped hhost hport h =>
    rw [h.split hport.readable] at hsplit
    cases hsplit
    exact ⟨rfl, rfl, h⟩
  | zoned hhost hport iface hiface htoken =>
    have hbracket : ']' ∉ port := not_mem_of_readable hport.readable ']' (by decide) (by decide)
    rw [htoken, splitEndpoint_scoped hiface hbracket] at hsplit
    cases hsplit
    exact absurd (by simp) (not_mem_of_readable hread ':' (by decide) (by decide))

/-! ## Misread tokens -/

/-- A misread token is split into a host and a readable port that are not its own. -/
theorem Misread.split (h : Misread token) : ∃ host port,
    splitEndpoint token = some (host, port) ∧ Readable port ∧ ¬ EndpointForm token host port := by
  cases h with
  | unclosed port htoken hclosed hport =>
    refine ⟨port.dropLast, port, ?_, hport, ?_⟩
    · rw [htoken, splitEndpoint_unclosed hclosed]
    · have hnone : ']' ∉ token := by simpa [htoken] using hclosed
      rintro (⟨-, -, ⟨-, hopen⟩ | ⟨hbracketed⟩⟩ | ⟨-, -, iface, -, hzoned⟩)
      · exact hopen (by rw [htoken]; rfl)
      · exact hnone (by simp [hbracketed])
      · exact hnone (by simp [hzoned])
  | noColon host c port htoken hcolon hlast hport =>
    refine ⟨host, port, ?_, hport, ?_⟩
    · rw [htoken, splitEndpoint_bracketed hlast, List.drop_one, List.tail_cons]
    · rintro (⟨-, -, ⟨-, hopen⟩ | ⟨hbracketed⟩⟩ | ⟨-, -, iface, -, hzoned⟩)
      · exact hopen (by rw [htoken]; rfl)
      · rw [htoken] at hbracketed
        simp at hbracketed
        exact hcolon hbracketed
      · have hlength := congrArg List.length (htoken.symm.trans hzoned)
        simp only [List.length_append, List.length_cons] at hlength
        omega
  | noHost port htoken hport =>
    refine ⟨[], port, htoken.split hport, hport, ?_⟩
    rintro (⟨hhost, -, -⟩ | ⟨hhost, -, -, -, -⟩)
    · exact hhost rfl
    · exact hhost rfl
  | badPort host port htoken hport hform =>
    refine ⟨host, port, htoken.split hport, hport, ?_⟩
    rintro (⟨-, hgood, -⟩ | ⟨-, hgood, -, -, -⟩)
    · exact hform hgood
    · exact hform hgood

/-- An unscoped token with a readable port is misread or well formed. -/
theorem UnscopedForm.cases (h : UnscopedForm token host port) (hport : Readable port) :
    Misread token ∨ EndpointForm token host port := by
  by_cases hform : PortForm port
  · by_cases hhost : host = []
    · subst hhost
      exact .inl (.noHost port h hport)
    · exact .inr (.unscoped hhost hform h)
  · exact .inl (.badPort host port h hport hform)

/-- A token that is split into a host and a readable port is misread or well formed. -/
theorem misread_or_form (hsplit : splitEndpoint token = some (host, port))
    (hport : Readable port) : Misread token ∨ EndpointForm token host port := by
  by_cases hopen : token.head? = some '['
  · obtain ⟨cs, htoken⟩ : ∃ cs, token = '[' :: cs := by
      cases token with
      | nil => simp at hopen
      | cons c cs =>
        rw [Option.some.inj hopen]
        exact ⟨cs, rfl⟩
    cases hclosed : Text.rpartition ']' token with
    | none =>
      rw [Text.rpartition_eq_none] at hclosed
      have hcs : ']' ∉ cs := by simpa [htoken] using hclosed
      rw [htoken, splitEndpoint_unclosed hcs] at hsplit
      cases hsplit
      exact .inl (.unclosed _ htoken hcs hport)
    | some parts =>
      obtain ⟨opened, rest⟩ := parts
      obtain ⟨hparts, hlast⟩ := Text.rpartition_eq_some.mp hclosed
      obtain ⟨inner, rfl⟩ : ∃ inner, opened = '[' :: inner := by
        rw [htoken] at hparts
        cases opened with
        | nil => simp at hparts
        | cons c inner =>
          rw [(List.cons.inj hparts).1]
          exact ⟨inner, rfl⟩
      rw [hparts, splitEndpoint_bracketed hlast] at hsplit
      cases hsplit
      cases rest with
      | nil =>
        exfalso
        revert hport
        unfold Readable
        decide
      | cons c port =>
        rw [List.drop_one, List.tail_cons] at hport ⊢
        by_cases hcolon : c = ':'
        · subst hcolon
          exact UnscopedForm.cases (.bracketed hparts) hport
        · exact .inl (.noColon _ c port hparts hcolon hlast hport)
  · rw [splitEndpoint_plain hopen, Text.rpartition_eq_some] at hsplit
    exact UnscopedForm.cases (.plain hsplit.1 hopen) hport

/-! ## Accepted tokens -/

theorem portNumber_isSome : (portNumber port).isSome ↔ Readable port := by
  unfold portNumber Readable
  split_ifs with hstar
  · simp [hstar]
  · simp [hstar]

/-- The texts that an endpoint may have. -/
def Legible (remote : Bool) (token : List Char) : Prop :=
  (remote = true ∧ token = ['*']) ∨ Misread token ∨
    ∃ host port, host ≠ [] ∧ PortForm port ∧ UnscopedForm token host port

/-- The result of a token that is split into a host and a readable port. -/
theorem parseEndpoint_readable (htoken : ∀ c ∈ token, Text.isSpace c = false)
    (hsplit : splitEndpoint token = some (host, port)) (hport : Readable port) : ∃ n,
      portNumber port = some n ∧ parseEndpoint remote (String.ofList token) =
        some (if remote = true ∧ isPeerWildcardPort port then none
          else some (hostAddress host, n)) := by
  obtain ⟨n, hn⟩ := Option.isSome_iff_exists.mp (portNumber_isSome.mpr hport)
  refine ⟨n, hn, ?_⟩
  rw [parseEndpoint_split htoken hsplit, hn]
  split_ifs <;> rfl

/-- An accepted token is the lone wildcard or is split into a host and a readable port. -/
theorem exists_split_of_accepted (htoken : ∀ c ∈ token, Text.isSpace c = false)
    (h : (parseEndpoint remote (String.ofList token)).isSome) :
    (remote = true ∧ token = ['*']) ∨
      ∃ host port, splitEndpoint token = some (host, port) ∧ Readable port := by
  cases hsplit : splitEndpoint token with
  | none =>
    rw [parseEndpoint_unsplit htoken hsplit] at h
    split_ifs at h with hwildcard
    · exact .inl hwildcard
    · cases h
  | some parts =>
    obtain ⟨host, port⟩ := parts
    refine .inr ⟨host, port, rfl, ?_⟩
    rw [parseEndpoint_split htoken hsplit] at h
    split_ifs at h with hwildcard
    · rcases hwildcard.2 with rfl | rfl
      · exact .inl rfl
      · exact .inr (by decide)
    · rw [Option.isSome_map] at h
      exact portNumber_isSome.mp h

/-- The accepted tokens are the legible ones. -/
theorem legible_iff (htoken : ∀ c ∈ token, Text.isSpace c = false) :
    (parseEndpoint remote (String.ofList token)).isSome ↔ Legible remote token := by
  constructor
  · intro h
    rcases exists_split_of_accepted htoken h with hwildcard | ⟨host, port, hsplit, hport⟩
    · exact .inl hwildcard
    · rcases misread_or_form hsplit hport with hmisread | hform
      · exact .inr (.inl hmisread)
      · obtain ⟨-, -, hunscoped⟩ := hform.split hsplit hport
        cases hform with
        | unscoped hhost hgood h => exact .inr (.inr ⟨host, port, hhost, hgood, hunscoped⟩)
        | zoned hhost hgood iface hiface h =>
          exact .inr (.inr ⟨host, port, hhost, hgood, hunscoped⟩)
  · rintro (⟨hremote, rfl⟩ | hmisread | ⟨host, port, -, hgood, hform⟩)
    · rw [hremote]
      decide
    · obtain ⟨host, port, hsplit, hport, -⟩ := hmisread.split
      obtain ⟨n, -, hparse⟩ := parseEndpoint_readable htoken hsplit hport
      rw [hparse]
      rfl
    · obtain ⟨n, -, hparse⟩ := parseEndpoint_readable htoken (hform.split hgood.readable)
        hgood.readable
      rw [hparse]
      rfl

/-- The peer wildcards that can be split are well formed. -/
theorem wildcard_form (hsplit : splitEndpoint token = some (host, port))
    (hwildcard : String.ofList token ∈ peerWildcards) : EndpointForm token host port := by
  have hcases : token ∈ peerWildcards.map String.toList :=
    List.mem_map.mpr ⟨_, hwildcard, String.toList_ofList⟩
  have hzero : PortForm ['0'] := .inr ⟨by decide, Text.forall_mem_of_all (by decide), by decide⟩
  simp only [peerWildcards, List.map_cons, List.map_nil, List.mem_cons, List.not_mem_nil,
    or_false] at hcases
  rcases hcases with rfl | rfl | rfl | rfl
  · cases hsplit
  · cases hsplit
    exact .unscoped (by decide) (.inl rfl) (.plain rfl (by decide))
  · cases hsplit
    exact .unscoped (by decide) hzero (.plain rfl (by decide))
  · cases hsplit
    exact .unscoped (by decide) hzero (.bracketed rfl)

/-- What is stored for an endpoint is its own: nothing for a peer wildcard, else the address of
its host and the number of its port. -/
def EndpointStored (remote : Bool) (token : List Char) (stored : Option (String × ℤ)) : Prop :=
  (remote = true ∧ String.ofList token ∈ peerWildcards ∧ stored = none) ∨
    ∃ host port, EndpointForm token host port ∧
      stored = if remote = true ∧ isPeerWildcardPort port then none
        else some (hostAddress host, (portValue port : ℤ))

/-- Nothing that could be stored for a misread token would be its own. -/
theorem Misread.not_stored (h : Misread token) (stored : Option (String × ℤ)) :
    ¬ EndpointStored remote token stored := by
  obtain ⟨host, port, hsplit, hport, hnot⟩ := h.split
  rintro (⟨-, hwildcard, -⟩ | ⟨host', port', hform, -⟩)
  · exact hnot (wildcard_form hsplit hwildcard)
  · obtain ⟨rfl, rfl, -⟩ := hform.split hsplit hport
    exact hnot hform

/-- An accepted token that is not misread is stored as it should be. -/
theorem endpointStored_of_accepted (htoken : ∀ c ∈ token, Text.isSpace c = false)
    {stored : Option (String × ℤ)}
    (hparse : parseEndpoint remote (String.ofList token) = some stored)
    (hmisread : ¬ Misread token) : EndpointStored remote token stored := by
  have haccepted : (parseEndpoint remote (String.ofList token)).isSome := by
    rw [hparse]
    rfl
  rcases exists_split_of_accepted htoken haccepted with ⟨hremote, rfl⟩ | ⟨host, port, hsplit, hport⟩
  · left
    subst hremote
    have hstar : parseEndpoint true (String.ofList ['*']) = some none := by decide
    rw [hstar] at hparse
    exact ⟨rfl, by decide, (Option.some.inj hparse).symm⟩
  · have hform := (misread_or_form hsplit hport).resolve_left hmisread
    obtain ⟨n, hn, hresult⟩ := @parseEndpoint_readable remote _ _ _ htoken hsplit hport
    rw [hparse] at hresult
    refine .inr ⟨host, port, hform, ?_⟩
    have hgood : PortForm port := by
      cases hform with
      | unscoped hhost hport h => exact hport
      | zoned hhost hport iface hiface h => exact hport
    rw [hgood.portNumber_eq] at hn
    rw [Option.some.inj hresult, Option.some.inj hn]

/-! ## Lines -/

/-- The two endpoint fields of a `tcp` or `udp` line with at least six fields. -/
def EndpointFields (line localField peerField : List Char) : Prop :=
  startsTcpUdp line ∧ (Text.fields 6 line)[4]? = some localField ∧
    (Text.fields 6 line)[5]? = some peerField

/-- What is stored for the line belongs to its endpoints. -/
def RowRespected (localField peerField : List Char) (connection : NormalizedConnection) : Prop :=
  ∃ localEnd peerEnd, EndpointStored false localField (some localEnd) ∧
    connection.localIp = normalizeIpAddress localEnd.1 ∧ connection.localPort = localEnd.2 ∧
    EndpointStored true peerField peerEnd ∧
    connection.remoteIp = peerEnd.map (fun p => normalizeIpAddress p.1) ∧
    connection.remotePort = peerEnd.map (·.2)

/-- A connection is only built from endpoints that are well formed, and stores them; a line with
another endpoint yields no connection and is among the skipped ones. -/
def EndpointsRespected (upper : String → String) (output : String) : Prop :=
  ∀ line lineNumber, (line, lineNumber) ∈ (Text.splitLines output.toList).zipIdx 1 →
    (∀ connection, parseSsLine upper line = .row connection → ∃ localField peerField,
      EndpointFields line localField peerField ∧
        RowRespected localField peerField connection) ∧
    ∀ localField peerField, EndpointFields line localField peerField →
      (¬ ∃ stored, EndpointStored false localField stored) ∨
          (¬ ∃ stored, EndpointStored true peerField stored) →
        (∀ connection, parseSsLine upper line ≠ .row connection) ∧
          ∃ reason, ⟨lineNumber, reason, String.ofList line⟩ ∈
            (parseSsOutputDetails upper output).skippedLines

/-- One endpoint of the line is misread while the other one is legible. -/
def MisreadLine (line : List Char) : Prop :=
  ∃ localField peerField, EndpointFields line localField peerField ∧
    ((Misread localField ∧ Legible true peerField) ∨
      (Legible false localField ∧ Misread peerField))

theorem EndpointFields.outcome {localField peerField : List Char} (upper : String → String)
    (h : EndpointFields line localField peerField) : ∃ protocol state process,
      parseSsLine upper line = parseEndpoints upper protocol state localField peerField process := by
  obtain ⟨hstart, hlocal, hpeer⟩ := h
  obtain ⟨first, rest, protocol, hfields, hprotocol⟩ := exists_fields hstart
  rw [hfields] at hlocal hpeer
  match rest, hfields, hlocal, hpeer with
  | state :: recvQ :: sendQ :: l :: p :: process, hfields, hlocal, hpeer =>
    obtain rfl : l = localField := Option.some.inj hlocal
    obtain rfl : p = peerField := Option.some.inj hpeer
    exact ⟨protocol, state, process.head?, parseSsLine_endpoints hfields hprotocol⟩

theorem EndpointFields.noBlank {localField peerField : List Char}
    (h : EndpointFields line localField peerField) :
    (∀ c ∈ localField, Text.isSpace c = false) ∧ ∀ c ∈ peerField, Text.isSpace c = false :=
  ⟨(Text.not_isSpace_of_mem_fields h.2.1 (by decide)).2,
    (Text.not_isSpace_of_mem_fields h.2.2 (by decide)).2⟩

/-- The fields of a line are determined by the line. -/
theorem EndpointFields.unique {localField peerField localField' peerField' : List Char}
    (h : EndpointFields line localField peerField)
    (h' : EndpointFields line localField' peerField') :
    localField = localField' ∧ peerField = peerField' :=
  ⟨Option.some.inj (h.2.1.symm.trans h'.2.1), Option.some.inj (h.2.2.symm.trans h'.2.2)⟩

theorem exists_endpointFields {connection : NormalizedConnection}
    (h : parseSsLine upper line = .row connection) : ∃ localField peerField,
      EndpointFields line localField peerField := by
  have hstart : startsTcpUdp line := by
    by_contra hno
    rw [parseSsLine_other hno] at h
    cases h
  obtain ⟨first, rest, protocol, hfields, hprotocol⟩ := exists_fields hstart
  rw [parseSsLine, hfields] at h
  simp only [hprotocol] at h
  split at h
  · exact ⟨_, _, hstart, by rw [hfields]; rfl, by rw [hfields]; rfl⟩
  · cases h

variable {protocol : String} {state localField peerField : List Char}
  {process : Option (List Char)} {connection : NormalizedConnection}

/-- A line with two accepted endpoints is a connection, and only such a line is. -/
theorem parseEndpoints_eq_row
    (h : parseEndpoints upper protocol state localField peerField process = .row connection) :
    ∃ localEnd peerEnd, parseEndpoint false (String.ofList localField) = some (some localEnd) ∧
      parseEndpoint true (String.ofList peerField) = some peerEnd ∧
      connection.localIp = normalizeIpAddress localEnd.1 ∧ connection.localPort = localEnd.2 ∧
      connection.remoteIp = peerEnd.map (fun p => normalizeIpAddress p.1) ∧
      connection.remotePort = peerEnd.map (·.2) := by
  unfold parseEndpoints at h
  split at h
  · rename_i localIp localPort peerEnd hlocal hpeer
    cases h
    exact ⟨(localIp, localPort), peerEnd, hlocal, hpeer, rfl, rfl, rfl, rfl⟩
  · cases h

theorem exists_parseEndpoints_row (upper : String → String) (protocol : String) (state : List Char)
    (process : Option (List Char))
    (hlocal : (parseEndpoint false (String.ofList localField)).isSome)
    (hpeer : (parseEndpoint true (String.ofList peerField)).isSome) : ∃ connection,
      parseEndpoints upper protocol state localField peerField process = .row connection := by
  obtain ⟨localEnd, hlocal⟩ := Option.isSome_iff_exists.mp hlocal
  obtain ⟨peerEnd, hpeer⟩ := Option.isSome_iff_exists.mp hpeer
  cases localEnd with
  | none => exact absurd hlocal (parseEndpoint_local_ne _)
  | some localEnd =>
    rw [parseEndpoints, hlocal, hpeer]
    exact ⟨_, rfl⟩

theorem parseEndpoints_row_or_skipped :
    (∃ connection, parseEndpoints upper protocol state localField peerField process =
        .row connection) ∨
      parseEndpoints upper protocol state localField peerField process = .skipped "端点无效" := by
  unfold parseEndpoints
  split
  · exact .inl ⟨_, rfl⟩
  · exact .inr rfl

/-- A line that is not misread stores what belongs to its endpoints. -/
theorem rowRespected_of_row (hfields : EndpointFields line localField peerField)
    (hmisread : ¬ MisreadLine line) (h : parseSsLine upper line = .row connection) :
    RowRespected localField peerField connection := by
  obtain ⟨hlocalBlank, hpeerBlank⟩ := hfields.noBlank
  obtain ⟨protocol, state, process, houtcome⟩ := hfields.outcome upper
  rw [houtcome] at h
  obtain ⟨localEnd, peerEnd, hlocal, hpeer, hip, hport, hremoteIp, hremotePort⟩ :=
    parseEndpoints_eq_row h
  have hlocalLegible := (legible_iff hlocalBlank).mp (Option.isSome_of_eq_some hlocal)
  have hpeerLegible := (legible_iff hpeerBlank).mp (Option.isSome_of_eq_some hpeer)
  have hlocalRead : ¬ Misread localField := fun hbad =>
    hmisread ⟨localField, peerField, hfields, .inl ⟨hbad, hpeerLegible⟩⟩
  have hpeerRead : ¬ Misread peerField := fun hbad =>
    hmisread ⟨localField, peerField, hfields, .inr ⟨hlocalLegible, hbad⟩⟩
  exact ⟨localEnd, peerEnd, endpointStored_of_accepted hlocalBlank hlocal hlocalRead, hip, hport,
    endpointStored_of_accepted hpeerBlank hpeer hpeerRead, hremoteIp, hremotePort⟩

/-- A port beyond 65535 is stored as it is printed. -/
theorem oversized_port_stored :
    ¬ EndpointsRespected id "tcp ESTAB 0 0 10.0.0.1:99999 10.0.0.2:443" := by
  intro h
  have hfields : EndpointFields "tcp ESTAB 0 0 10.0.0.1:99999 10.0.0.2:443".toList
      "10.0.0.1:99999".toList "10.0.0.2:443".toList := ⟨by decide, by decide, by decide⟩
  obtain ⟨protocol, state, process, houtcome⟩ := hfields.outcome id
  obtain ⟨connection, hrow⟩ := exists_parseEndpoints_row id protocol state process
    (by decide : (parseEndpoint false (String.ofList "10.0.0.1:99999".toList)).isSome)
    (by decide : (parseEndpoint true (String.ofList "10.0.0.2:443".toList)).isSome)
  obtain ⟨localField, peerField, hfields', localEnd, -, hstored, -⟩ :=
    (h _ 1 (by decide)).1 connection (houtcome.trans hrow)
  obtain ⟨rfl, -⟩ := hfields.unique hfields'
  have hmisread : Misread "10.0.0.1:99999".toList := by
    apply Misread.badPort "10.0.0.1".toList "99999".toList
    · exact .plain rfl (by decide)
    · right
      decide
    · rintro (hstar | ⟨-, -, hlarge⟩)
      · revert hstar
        decide
      · revert hlarge
        decide
  exact hmisread.not_stored _ hstored

/-- The parser respects the endpoints of an output exactly if none of its lines is misread. -/
theorem endpointsRespected_iff (upper : String → String) (output : String) :
    EndpointsRespected upper output ↔
      ∀ line ∈ Text.splitLines output.toList, ¬ MisreadLine line := by
  constructor
  · intro h line hline hmisread
    obtain ⟨localField, peerField, hfields, hcases⟩ := hmisread
    obtain ⟨lineNumber, hnumber⟩ : ∃ lineNumber,
        (line, lineNumber) ∈ (Text.splitLines output.toList).zipIdx 1 := by
      obtain ⟨i, hi⟩ := List.mem_iff_getElem?.mp hline
      exact ⟨1 + i, List.mk_add_mem_zipIdx_iff_getElem?.mpr hi⟩
    obtain ⟨hlocalBlank, hpeerBlank⟩ := hfields.noBlank
    have hlegible : Legible false localField ∧ Legible true peerField := by
      rcases hcases with ⟨hbad, hgood⟩ | ⟨hgood, hbad⟩
      · exact ⟨.inr (.inl hbad), hgood⟩
      · exact ⟨hgood, .inr (.inl hbad)⟩
    obtain ⟨protocol, state, process, houtcome⟩ := hfields.outcome upper
    obtain ⟨connection, hrow⟩ := exists_parseEndpoints_row upper protocol state process
      ((legible_iff hlocalBlank).mpr hlegible.1) ((legible_iff hpeerBlank).mpr hlegible.2)
    obtain ⟨localField', peerField', hfields', localEnd, peerEnd, hlocal, -, -, hpeer, -⟩ :=
      (h line lineNumber hnumber).1 connection (houtcome.trans hrow)
    obtain ⟨rfl, rfl⟩ := hfields.unique hfields'
    rcases hcases with ⟨hbad, -⟩ | ⟨-, hbad⟩
    · exact hbad.not_stored _ hlocal
    · exact hbad.not_stored _ hpeer
  · intro h line lineNumber hnumber
    have hmisread := h line (List.fst_mem_of_mem_zipIdx hnumber)
    have hrow : ∀ localField peerField, EndpointFields line localField peerField →
        ∀ connection, parseSsLine upper line = .row connection →
          RowRespected localField peerField connection :=
      fun localField peerField hfields connection => rowRespected_of_row hfields hmisread
    refine ⟨?_, ?_⟩
    · intro connection hline
      obtain ⟨localField, peerField, hfields⟩ := exists_endpointFields hline
      exact ⟨localField, peerField, hfields, hrow _ _ hfields _ hline⟩
    · intro localField peerField hfields hbad
      have hnoRow : ∀ connection, parseSsLine upper line ≠ .row connection := by
        intro connection hline
        obtain ⟨localEnd, peerEnd, hlocal, -, -, hpeer, -⟩ := hrow _ _ hfields _ hline
        rcases hbad with hbad | hbad
        · exact hbad ⟨_, hlocal⟩
        · exact hbad ⟨_, hpeer⟩
      refine ⟨hnoRow, "端点无效", ?_⟩
      obtain ⟨protocol, state, process, houtcome⟩ := hfields.outcome upper
      have hskipped : parseSsLine upper line = .skipped "端点无效" := by
        rw [houtcome]
        refine parseEndpoints_row_or_skipped.resolve_left ?_
        rintro ⟨connection, hline⟩
        exact hnoRow connection (houtcome.trans hline)
      rw [parseSsOutputDetails, parseSsLines_eq, List.mem_filterMap]
      exact ⟨_, hnumber, by rw [hskipped]; rfl⟩

end ConnectionTopology
