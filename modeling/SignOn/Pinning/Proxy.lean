import SignOn.Fault
/-!
# Choosing a proxy

A configured proxy is always used.  Without one the environment may name a proxy, which is passed
by for loopback targets and for the targets that the environment's list of exceptions names.
-/

namespace SignOn.Proxy

/-- The port of a proxy whose URL names none. -/
def defaultPort : Nat := 8080

/-- Read a port: decimal digits, with a plus sign or without. -/
def port? (s : List Char) : Option Nat := do
  let n ← Text.digitsToNat? (match s with
    | '+' :: ds => ds
    | ds => ds)
  if n ≤ 65535 then some n else none

/-- The authority that a text writes after `://`. -/
def authority? (s : List Char) : Option (List Char) := do
  let (_, rest) ← Text.cutAtText? [':', '/', '/'] s
  return rest.takeWhile fun c => c ≠ '/' ∧ c ≠ '?' ∧ c ≠ '#'

/-- The port that an authority writes: what follows its last colon, but not a colon in brackets. -/
def writtenPort? (authority : List Char) : Option Nat := do
  let hostPort := match Text.cutAtLast? (· == '@') authority with
    | some (_, hp) => hp
    | none => authority
  match Text.cutAtLast? (· == ']') hostPort with
  | some (_, ':' :: digits) => port? digits
  | some _ => none
  | none =>
    let (_, digits) ← Text.cutAtLast? (· == ':') hostPort
    port? digits

/-- The port that the text of a URL writes, also when it is the default of its scheme. -/
def explicitPort? (s : String) : Option Nat :=
  (authority? s.toList).bind writtenPort?

/-- Read a proxy.  A text without `://` is taken for an `http` URL. -/
def parse? (value : String) : Option Endpoint := do
  let value := Text.trim value
  let text := if Text.containsText "://" value then value else "http://" ++ value
  let url ← (Url.parse text).toOption
  let host ← url.hostText?
  let port := match url.port with
    | some p => some p
    | none => explicitPort? text
  return ⟨host, port.getD defaultPort⟩

/-- Whether a text has anything but blanks. -/
def isWritten (s : String) : Bool :=
  ¬(Text.trim s).isEmpty

/-- The four numbers of a dotted address. -/
def ipv4Octets? (s : List Char) : Option (List Nat) := do
  let parts := Text.splitWhere (· == '.') s
  if parts.length ≠ 4 then none
  else
    parts.mapM fun p => do
      let n ← Text.digitsToNat? p
      if 255 < n ∨ 3 < p.length ∨ (p.head? = some '0' ∧ p.length ≠ 1) then none else some n

/-- A host that is this machine: `localhost` in any case, or a loopback address. -/
def isLoopback (host : String) : Bool :=
  Text.lowerAscii host == "localhost" ||
    (match ipv4Octets? host.toList with
      | some (127 :: _) => true
      | _ => false) ||
    Url.Host.ipv6? host.toList == some [0, 0, 0, 0, 0, 0, 0, 1]

/-- Whether one exception covers a host in lower case: it names the host or a domain around it.  A
port after a colon and dots at the start do not count. -/
def covers (host entry : String) : Bool :=
  entry == "*" ||
    let name := (Text.splitOn ':' entry).headD ""
    let domain := Text.dropStart '.' name
    host == domain || Text.endsWith ("." ++ domain) host

/-- The exceptions of a list, in lower case. -/
def exceptions (list : String) : List String :=
  ((Text.splitOn ',' list).map fun e => Text.lowerAscii (Text.trim e)).filter fun e => ¬e.isEmpty

/-- Whether a list of exceptions covers a host. -/
def bypasses (list host : String) : Bool :=
  (exceptions list).any (covers (Text.lowerAscii host))

/-- The variables that may name a proxy, the first one that is set counting. -/
def variableNames : List String :=
  ["HTTPS_PROXY", "https_proxy", "ALL_PROXY", "all_proxy"]

/-- The list of exceptions of an environment. -/
def exceptionList (env : String → Option String) : String :=
  match env "NO_PROXY" with
  | some list => list
  | none => (env "no_proxy").getD ""

/-- The proxy of an environment for a target. -/
def ofEnvironment? (env : String → Option String) (target : String) : Option Endpoint := do
  let value ← (variableNames.findSome? env).filter isWritten
  if isLoopback target ∨ bypasses (exceptionList env) target then none else parse? value

/-- The proxy for a target: the configured one if it is written, else that of the environment. -/
def resolve (configured : Option String) (env : String → Option String) (target : String) :
    Option Endpoint :=
  match configured.filter isWritten with
  | some value => parse? value
  | none => ofEnvironment? env target

end SignOn.Proxy
