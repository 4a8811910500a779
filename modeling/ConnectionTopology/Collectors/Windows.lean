import ConnectionTopology.Collectors.Linux

/-!
# The Windows parser

`parse_windows_json` of `app/collectors/windows.py`. A row that is no object is looked at as
Python does: a text is searched, a list is compared item by item, and anything else raises.
-/
namespace ConnectionTopology

/-- What the parser raises; only the first is a `CollectorError`. -/
inductive WindowsError
  | collector (error : CollectorError)
  | typeError
  | valueError
  | overflowError
  deriving DecidableEq, Repr

/-- A number with a fraction or an exponent, as far as the parser looks at it. -/
structure JsonFloat where
  /-- `str(x)`. -/
  text : String
  /-- `int(x)`; infinity and NaN raise. -/
  truncated : Except WindowsError ℤ
  isZero : Bool

/-- A value of `json.loads`. -/
inductive Json
  | null
  | bool (b : Bool)
  | int (n : ℤ)
  | float (x : JsonFloat)
  | str (text : String)
  | arr (items : List Json)
  | obj (entries : List (String × Json))

/-- The parts of Python that the parser uses and of which nothing is assumed. -/
structure JsonTools where
  /-- `json.loads`; `none` is the `JSONDecodeError`. -/
  loads : String → Option Json
  /-- `str` of a list or a dictionary. -/
  containerText : Json → String
  /-- `str.upper`. -/
  upper : String → String

/-! ## Values -/

namespace Json

/-- `str(value)`. -/
def text (tools : JsonTools) : Json → String
  | null => "None"
  | bool true => "True"
  | bool false => "False"
  | int n => toString n
  | float x => x.text
  | str text => text
  | value => tools.containerText value

/-- `int(value)`. -/
def toInt : Json → Except WindowsError ℤ
  | bool b => .ok (if b then 1 else 0)
  | int n => .ok n
  | float x => x.truncated
  | str text =>
    match Text.int text with
    | none => .error .valueError
    | some n => .ok n
  | null | arr _ | obj _ => .error .typeError

/-- `bool(value)`. -/
def truthy : Json → Bool
  | null => false
  | bool b => b
  | int n => n ≠ 0
  | float x => !x.isZero
  | str text => text ≠ ""
  | arr items => !items.isEmpty
  | obj entries => !entries.isEmpty

/-- `value in {None, 0, "0"}`; lists and dictionaries are not hashable. -/
def isMissing : Json → Except WindowsError Bool
  | null => .ok true
  | bool b => .ok !b
  | int n => .ok (n = 0)
  | float x => .ok x.isZero
  | str text => .ok (text = "0")
  | arr _ | obj _ => .error .typeError

/-- `None if value in {None, 0, "0"} else int(value)`. -/
def optionalInt (value : Json) : Except WindowsError (Option ℤ) := do
  if ← value.isMissing then pure none
  else
    let n ← value.toInt
    pure (some n)

/-- `value in {None, "", "0.0.0.0", "::"}`. -/
def isUnspecified : Json → Except WindowsError Bool
  | null => .ok true
  | str text => .ok (text ∈ ["", "0.0.0.0", "::"])
  | bool _ | int _ | float _ => .ok false
  | arr _ | obj _ => .error .typeError

/-- `_value`: the value under the first name that occurs. -/
def value (row : Json) (names : List String) : Except WindowsError Json :=
  match row with
  | obj entries =>
    .ok ((names.findSome? fun name => (entries.find? (·.1 = name)).map (·.2)).getD null)
  | str text =>
    if names.any fun name => name.toList <:+: text.toList then .error .typeError else .ok null
  | arr items =>
    if names.any fun name => items.any fun item =>
        match item with
        | str text => text = name
        | _ => false
    then .error .typeError
    else .ok null
  | null | bool _ | int _ | float _ => .error .typeError

end Json

/-! ## Rows -/

/-- The port is looked at only when there is a remote address. -/
def windowsRemotePort (remoteIp : Option String) (remotePortRaw : Json) :
    Except WindowsError (Option ℤ) :=
  if remoteIp.isNone then .ok none else remotePortRaw.optionalInt

/-- The body of the loop from the protocol on. -/
def parseWindowsFields (tools : JsonTools) (protocol : String) (row : Json) :
    Except WindowsError NormalizedConnection := do
  let localIp := (← row.value ["LocalAddress", "local_address"]).text tools
  let localPort ← (← row.value ["LocalPort", "local_port"]).toInt
  let remoteRaw ← row.value ["RemoteAddress", "remote_address"]
  let remotePortRaw ← row.value ["RemotePort", "remote_port"]
  let remoteIp := if ← remoteRaw.isUnspecified then none else some (remoteRaw.text tools)
  let localIp := normalizeIpAddress localIp
  let remoteIp := remoteIp.map normalizeIpAddress
  let remotePort ← windowsRemotePort remoteIp remotePortRaw
  let stateRaw ← row.value ["State", "state"]
  let pidRaw ← row.value ["OwningProcess", "pid"]
  let processRaw ← row.value ["ProcessName", "process_name"]
  let pid ← pidRaw.optionalInt
  pure {
    protocol := protocol
    addressFamily := addressFamily localIp
    localIp := localIp
    localPort := localPort
    remoteIp := remoteIp
    remotePort := remotePort
    state := if stateRaw.truthy then some (tools.upper (stateRaw.text tools)) else none
    pid := pid
    processName := if processRaw.truthy then some (processRaw.text tools) else none }

/-- The loop over the rows. Only an ASCII text has `tcp` or `udp` as its lower case. -/
def parseWindowsRows (tools : JsonTools) : List Json → Except WindowsError (List NormalizedConnection)
  | [] => .ok []
  | row :: rest => do
    let named := (← row.value ["Protocol", "protocol"]).text tools
    let protocol := String.ofList (named.toList.map Char.toLower)
    if protocol ∈ ["tcp", "udp"] then
      let connection ← parseWindowsFields tools protocol row
      let connections ← parseWindowsRows tools rest
      pure (connection :: connections)
    else parseWindowsRows tools rest

def parseWindowsJson (tools : JsonTools) (output : String) :
    Except WindowsError (List NormalizedConnection) :=
  if Text.strip output = "" then .ok []
  else
    match tools.loads output with
    | none => .error (.collector ⟨"parse_error", "Windows 返回了无效 JSON"⟩)
    | some (.arr rows) => parseWindowsRows tools rows
    | some decoded => parseWindowsRows tools [decoded]

end ConnectionTopology
