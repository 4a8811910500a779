import ConnectionTopology.Collectors.Base
import ConnectionTopology.Library.Fields
import ConnectionTopology.Services.ServiceObservations

/-!
# The `ss` parser

`app/collectors/linux.py` up to `parse_ss_output`. Every line is judged by itself: it is
ignored, skipped with a reason, or a connection. `upper` is Python's `str.upper`, of which
nothing is assumed.
-/
namespace ConnectionTopology

structure SkippedSSLine where
  lineNumber : ℕ
  reason : String
  content : String
  deriving DecidableEq, Repr

structure SSParseResult where
  connections : List NormalizedConnection
  skippedLines : List SkippedSSLine
  deriving DecidableEq, Repr

structure CollectorError where
  code : String
  message : String
  deriving DecidableEq, Repr

/-! ## Endpoints -/

/-- The tokens that stand for no peer. -/
def peerWildcards : List String := ["*", "*:*", "0.0.0.0:0", "[::]:0"]

/-- The host and the port text of a token, which may be bracketed. `rfind` answers `-1` when
the closing bracket is missing, and both slices are taken from there all the same. -/
def splitEndpoint (value : List Char) : Option (List Char × List Char) :=
  match value with
  | '[' :: _ =>
    match Text.rpartition ']' value with
    | some (opened, rest) => some (opened.drop 1, rest.drop 1)
    | none => some ((value.drop 1).dropLast, value.drop 1)
  | _ => Text.rpartition ':' value

/-- `_parse_endpoint`: `none` is the `ValueError`, `some none` the pair of two `None`s. -/
def parseEndpoint (remote : Bool) (value : String) : Option (Option (String × ℤ)) :=
  let value := Text.strip value
  if remote && value ∈ peerWildcards then some none
  else
    match splitEndpoint value.toList with
    | none => none
    | some (hostText, portText) =>
      let host := Text.before '%' (String.ofList hostText)
      let host := if host = "*" then "0.0.0.0" else host
      let portText := String.ofList portText
      if remote && portText ∈ ["*", "0"] then some none
      else if portText = "*" then some (some (host, 0))
      else (Text.int portText).map fun port => some (host, port)

/-! ## The process column -/

/-- A match of `_PROCESS_RE` at the start of the text. -/
def matchProcess (cs : List Char) : Option (String × ℤ) :=
  match cs with
  | '(' :: '(' :: '"' :: rest =>
    let name := rest.takeWhile (· ≠ '"')
    match rest.dropWhile (· ≠ '"') with
    | '"' :: ',' :: 'p' :: 'i' :: 'd' :: '=' :: rest =>
      let pid := rest.takeWhile fun c => (Text.digitValue c).isSome
      if name ≠ [] ∧ pid ≠ [] then
        (Text.int (String.ofList pid)).map fun pid => (String.ofList name, pid)
      else none
    | _ => none
  | _ => none

/-- `_PROCESS_RE.search`: the leftmost match. -/
def searchProcess : List Char → Option (String × ℤ)
  | [] => none
  | c :: cs =>
    match matchProcess (c :: cs) with
    | some found => some found
    | none => searchProcess cs

/-! ## Lines -/

/-- The protocol that the first field names, in any case. No character outside ASCII has one
of the letters in question as its lower case. -/
def protocolOf (field : List Char) : Option String :=
  let lowered := field.map Char.toLower
  if "tcp".toList.isPrefixOf lowered then some "tcp"
  else if "udp".toList.isPrefixOf lowered then some "udp"
  else none

inductive LineOutcome
  | ignored
  | skipped (reason : String)
  | row (connection : NormalizedConnection)
  deriving DecidableEq, Repr

/-- The body of the loop from the endpoints on. The local endpoint is never a pair of two
`None`s, so that the assertion holds. -/
def parseEndpoints (upper : String → String) (protocol : String) (state localField peerField :
    List Char) (process : Option (List Char)) : LineOutcome :=
  match parseEndpoint false (String.ofList localField),
      parseEndpoint true (String.ofList peerField) with
  | some (some (localIp, localPort)), some peer =>
    let localIp := normalizeIpAddress localIp
    let found := process.bind searchProcess
    .row {
      protocol := protocol
      addressFamily := addressFamily localIp
      localIp := localIp
      localPort := localPort
      remoteIp := peer.map fun p => normalizeIpAddress p.1
      remotePort := peer.map (·.2)
      state := if protocol = "tcp" then some (upper (String.ofList state)) else none
      pid := found.map (·.2)
      processName := found.map (·.1) }
  | _, _ => .skipped "端点无效"

/-- The body of the loop of `_parse_ss_output_details`. -/
def parseSsLine (upper : String → String) (line : List Char) : LineOutcome :=
  match Text.fields 6 line with
  | [] => .ignored
  | first :: rest =>
    match protocolOf first with
    | none => .ignored
    | some protocol =>
      match rest with
      | state :: _ :: _ :: localField :: peerField :: process =>
        parseEndpoints upper protocol state localField peerField process.head?
      | _ => .skipped "字段不足"

/-- The loop over the lines, numbered from `lineNumber` on. -/
def parseSsLines (upper : String → String) : ℕ → List (List Char) → SSParseResult
  | _, [] => ⟨[], []⟩
  | lineNumber, line :: rest =>
    let parsed := parseSsLines upper (lineNumber + 1) rest
    match parseSsLine upper line with
    | .ignored => parsed
    | .skipped reason =>
      { parsed with skippedLines :=
        ⟨lineNumber, reason, String.ofList line⟩ :: parsed.skippedLines }
    | .row connection => { parsed with connections := connection :: parsed.connections }

/-- `_parse_ss_output_details`. -/
def parseSsOutputDetails (upper : String → String) (output : String) : SSParseResult :=
  parseSsLines upper 1 (Text.splitLines output.toList)

/-- `_raise_if_all_candidates_invalid`. -/
def raiseIfAllCandidatesInvalid (parsed : SSParseResult) : Except CollectorError Unit :=
  match parsed.connections, parsed.skippedLines with
  | [], first :: _ =>
    .error ⟨"parse_error", "无法解析 ss 第 " ++ toString first.lineNumber ++ " 行"⟩
  | _, _ => .ok ()

def parseSsOutput (upper : String → String) (output : String) :
    Except CollectorError (List NormalizedConnection) :=
  let parsed := parseSsOutputDetails upper output
  match raiseIfAllCandidatesInvalid parsed with
  | .error e => .error e
  | .ok () => .ok parsed.connections

end ConnectionTopology
