import SignOn.Url.Host
/-!
# URLs

A URL is kept in parts; `Url.parse` reads the parts and brings each into its one form, `Url.write`
joins them.  The special schemes (`http`, `https`, `ws`, `wss`, `ftp`, `file`) always have a host
and a path, other URLs may be opaque.  A port that is the default of its scheme is not kept.
-/

namespace SignOn

/-- The path of a URL: text without structure, or segments. -/
inductive Url.Path
  | opaquePath (s : String)
  | segments (parts : List String)
  deriving DecidableEq, Repr

/-- A URL in parts.  `authority` says whether `//` is written. -/
structure Url where
  scheme : String
  authority : Bool
  username : String
  password : Option String
  host : Option Url.Host
  port : Option Nat
  path : Url.Path
  query : Option String
  fragment : Option String
  deriving DecidableEq, Repr

namespace Url

/-- The schemes whose URLs have a host, `file` apart. -/
def isHostedScheme (scheme : String) : Bool :=
  ["http", "https", "ws", "wss", "ftp"].contains scheme

/-- The port that a scheme has when none is written. -/
def defaultPort? (scheme : String) : Option Nat :=
  if scheme = "http" ∨ scheme = "ws" then some 80
  else if scheme = "https" ∨ scheme = "wss" then some 443
  else if scheme = "ftp" then some 21
  else none

/-- The text of a path. -/
def Path.write : Path → String
  | .opaquePath s => s
  | .segments parts => String.join (parts.map ("/" ++ ·))

/-- The text of the host, if there is one. -/
def hostText? (u : Url) : Option String :=
  u.host.map Host.write

/-- The text of user name and password with the mark after them. -/
def writeUserinfo (u : Url) : String :=
  match u.password with
  | some p => u.username ++ ":" ++ p ++ "@"
  | none => if u.username.isEmpty then "" else u.username ++ "@"

/-- A part that is written after a mark, if it is there. -/
def writeAfter (mark : String) : Option String → String
  | none => ""
  | some s => mark ++ s

/-- The text of host and port. -/
def writeHostPort (u : Url) : String :=
  u.hostText?.getD "" ++ writeAfter ":" (u.port.map toString)

/-- What keeps a path that starts with an empty segment apart from an authority. -/
def Path.guard : Path → String
  | .segments ("" :: _ :: _) => "/."
  | _ => ""

/-- The text of a URL. -/
def write (u : Url) : String :=
  u.scheme ++ ":" ++
    (if u.authority then "//" ++ u.writeUserinfo ++ u.writeHostPort else u.path.guard) ++
    u.path.write ++ writeAfter "?" u.query ++ writeAfter "#" u.fragment

/-- Add pairs to the query. -/
def appendPairs (pairs : List (String × String)) (u : Url) : Url :=
  let added := Form.encode pairs
  { u with query := some (match u.query with
      | none => added
      | some q => if q.isEmpty then added else q ++ "&" ++ added) }

/-- The URL without user name and password. -/
def withoutUserinfo (u : Url) : Url :=
  { u with username := "", password := none }

/-- The URL without its fragment. -/
def withoutFragment (u : Url) : Url :=
  { u with fragment := none }

/-- The URL without its query. -/
def withoutQuery (u : Url) : Url :=
  { u with query := none }

end Url

end SignOn
