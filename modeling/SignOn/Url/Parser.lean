import SignOn.Url.Basic
/-!
# Reading URLs

Blanks and controls around the text and all tabs and line breaks in it are dropped.  A scheme must
be written.  After the scheme of a hosted scheme any number of slashes of either kind may stand;
the authority ends at the first slash, `?` or `#`, and the user info at its last `@`.
-/

namespace SignOn.Url

/-- What kind a scheme is. -/
inductive SchemeKind
  | file
  | hosted
  | other
  deriving DecidableEq

/-- The kind of a scheme. -/
def SchemeKind.of (scheme : String) : SchemeKind :=
  if scheme = "file" then .file else if isHostedScheme scheme then .hosted else .other

/-- Whether a backslash counts as a slash. -/
def SchemeKind.isSpecial (kind : SchemeKind) : Bool :=
  kind ≠ .other

/-- The text that counts: without blanks and controls around it, tabs and line breaks. -/
def cleaned (s : List Char) : List Char :=
  (Text.trimWhile (·.toNat ≤ 32) s).filter fun c => c ≠ '\t' ∧ c ≠ '\n' ∧ c ≠ '\r'

/-- A character that may follow the first letter of a scheme. -/
def isSchemeChar (c : Char) : Bool :=
  c.isAlphanum || c == '+' || c == '-' || c == '.'

/-- The scheme in lower case and what follows its colon. -/
def scheme? (s : List Char) : Option (String × List Char) :=
  let name := s.takeWhile isSchemeChar
  match name, s.dropWhile isSchemeChar with
  | c :: _, ':' :: rest =>
    if c.isAlpha then some (String.ofList (name.map Char.toLower), rest) else none
  | _, _ => none

/-- A slash; in special schemes a backslash is one. -/
def isSlash (special : Bool) (c : Char) : Bool :=
  c == '/' || (special && c == '\\')

/-- A character that ends the authority. -/
def endsAuthority (special : Bool) (c : Char) : Bool :=
  isSlash special c || c == '?' || c == '#'

/-- User name and password, encoded; an empty password is not kept. -/
def userinfo (s : List Char) : String × Option String :=
  let encode (part : List Char) := String.ofList (EncodeSet.userinfo.encode part)
  match Text.cutAt? (· == ':') s with
  | none => (encode s, none)
  | some (name, password) => (encode name, if password = [] then none else some (encode password))

/-- Cut host and port at the first colon outside of brackets; the colon stays with the port. -/
def cutHost (inBrackets : Bool) : List Char → List Char × List Char
  | [] => ([], [])
  | c :: rest =>
    if c = ':' ∧ ¬inBrackets then ([], c :: rest)
    else
      let inBrackets := if c = '[' then true else if c = ']' then false else inBrackets
      let (host, port) := cutHost inBrackets rest
      (c :: host, port)

/-- Read the port after a colon.  An empty one is none; a port above 65535 is an error, also when
another character follows its digits. -/
def parsePort (scheme : String) (s : List Char) : Except ParseError (Option Nat) :=
  if s.all Char.isDigit then
    let n := s.foldl (fun n c => 10 * n + (c.toNat - 48)) 0
    if 65535 < n then .error .invalidPort
    else .ok (if s = [] ∨ defaultPort? scheme = some n then none else some n)
  else .error .invalidPort

/-- Host and port of an authority without user info. -/
def parseHostPort (kind : SchemeKind) (scheme : String) (s : List Char) :
    Except ParseError (Option Host × Option Nat) := do
  let (hostText, portText) := cutHost false s
  if hostText = [] then
    if kind = .hosted ∨ portText ≠ [] then throw .emptyHost
    else return (none, none)
  else
    let host ← if kind = .other then Host.parseOpaque hostText else Host.parse hostText
    let port ← if portText = [] then pure none else parsePort scheme (portText.drop 1)
    return (some host, port)

/-- The parts of an authority. -/
structure Authority where
  username : String
  password : Option String
  host : Option Host
  port : Option Nat

/-- Read an authority. -/
def parseAuthority (kind : SchemeKind) (scheme : String) (s : List Char) :
    Except ParseError Authority := do
  match Text.cutAtLast? (· == '@') s with
  | none =>
    let (host, port) ← parseHostPort kind scheme s
    return ⟨"", none, host, port⟩
  | some (info, rest) =>
    let (username, password) := userinfo info
    let (host, port) ← parseHostPort kind scheme rest
    if host.isNone ∧ (¬username.isEmpty ∨ password.isSome) then throw .emptyHost
    return ⟨username, password, host, port⟩

/-- A path segment that stands for the one it is in. -/
def isSingleDot (s : String) : Bool :=
  [".", "%2e"].contains (Text.lowerAscii s)

/-- A path segment that stands for the one above. -/
def isDoubleDot (s : String) : Bool :=
  ["..", ".%2e", "%2e.", "%2e%2e"].contains (Text.lowerAscii s)

/-- Add one written segment to the path read so far, which is in reverse. -/
def pushSegment (reversed : List String) (segment : String) (isLast : Bool) : List String :=
  if isDoubleDot segment then
    let up := reversed.drop 1
    if isLast then "" :: up else up
  else if isSingleDot segment then
    if isLast then "" :: reversed else reversed
  else segment :: reversed

/-- Read the segments of a path. -/
def readSegments (reversed : List String) : List (List Char) → List String
  | [] => reversed.reverse
  | [last] =>
    (pushSegment reversed (String.ofList (EncodeSet.path.encode last)) true).reverse
  | part :: rest =>
    readSegments (pushSegment reversed (String.ofList (EncodeSet.path.encode part)) false) rest

/-- Read a path after its first slash. -/
def parsePath (kind : SchemeKind) (s : List Char) : Path :=
  .segments (readSegments [] (Text.splitWhere (isSlash kind.isSpecial) s))

/-- The path where the authority has ended: special URLs always have one. -/
def parsePathStart (kind : SchemeKind) (s : List Char) : Path :=
  match s with
  | [] => if kind.isSpecial then .segments [""] else .segments []
  | c :: rest => parsePath kind (if isSlash kind.isSpecial c then rest else c :: rest)

/-- What stands before the first `?` or `#`, the query and the fragment. -/
def cutTail (s : List Char) : List Char × Option (List Char) × Option (List Char) :=
  let (front, fragment) := match Text.cutAt? (· == '#') s with
    | some (a, b) => (a, some b)
    | none => (s, none)
  match Text.cutAt? (· == '?') front with
  | some (a, b) => (a, some b, fragment)
  | none => (front, none, fragment)

/-- Read the URL of a scheme with an authority. -/
def parseWithAuthority (kind : SchemeKind) (scheme : String) (s : List Char) :
    Except ParseError (Authority × List Char) := do
  let text := s.takeWhile fun c => ¬endsAuthority kind.isSpecial c
  let rest := s.drop text.length
  -- a lone `@` before the end of the authority is an error of its own
  if text = ['@'] ∧ rest ≠ [] then throw .emptyHost
  return (← parseAuthority kind scheme text, rest)

/-- The host of a `file` URL: none when it is empty or the local one. -/
def parseFileHost (s : List Char) : Except ParseError (Option Host) :=
  if s = [] then .ok none
  else
    match Host.parse s with
    | .error e => .error e
    | .ok host => .ok (if host = .name "localhost" then none else some host)

/-- Authority and path of what stands between the scheme and the query. -/
def parseBody (kind : SchemeKind) (scheme : String) (s : List Char) :
    Except ParseError (Bool × Authority × Path) :=
  let none' : Authority := ⟨"", none, none, none⟩
  match kind with
  | .hosted => do
    let (a, rest) ← parseWithAuthority kind scheme (s.dropWhile (isSlash true))
    return (true, a, parsePathStart kind rest)
  | .file =>
    let slashes := (s.takeWhile (isSlash true)).length
    if 2 ≤ slashes then do
      let body := s.drop 2
      let text := body.takeWhile fun c => ¬isSlash true c
      let host ← parseFileHost text
      return (true, { none' with host }, parsePathStart kind (body.drop text.length))
    else return (true, none', parsePathStart kind s)
  | .other =>
    match s with
    | '/' :: '/' :: rest => do
      let (a, rest) ← parseWithAuthority kind scheme rest
      return (true, a, parsePathStart kind rest)
    | '/' :: _ => return (false, none', parsePathStart kind s)
    | _ => return (false, none', .opaquePath (String.ofList (EncodeSet.control.encode s)))

/-- Read a URL. -/
def parse (text : String) : Except ParseError Url := do
  match scheme? (cleaned text.toList) with
  | none => throw .relativeWithoutBase
  | some (scheme, rest) =>
    let kind := SchemeKind.of scheme
    let (front, query, fragment) := cutTail rest
    let (authority, a, path) ← parseBody kind scheme front
    let querySet := if kind.isSpecial then EncodeSet.specialQuery else EncodeSet.query
    return {
      scheme, authority, path
      username := a.username
      password := a.password
      host := a.host
      port := a.port
      query := query.map fun q => String.ofList (querySet.encode q)
      fragment := fragment.map fun f => String.ofList (EncodeSet.fragment.encode f) }

end SignOn.Url
