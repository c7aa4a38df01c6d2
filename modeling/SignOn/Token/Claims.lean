import SignOn.Json.Reader
import SignOn.Json.Writer
import SignOn.Text.Base64
import SignOn.Credential
/-!
# The claims of a token

A token is three segments with dots between them, of which the second holds the claims.
`Claims` are read from any token without looking at its signature, for display only; `Verified`
is the form in which a checked token gives them, with four claims of known types apart.
-/

namespace SignOn

/-- The segments of a token. -/
def Token.segments (jwt : String) : List String :=
  Text.splitOn '.' jwt

/-- A claim as text: a string is itself, `null` is absent, all else is written out. -/
def Json.claimText? : Json → Option String
  | .null => none
  | .str s => some s
  | v => some v.compact

/-- The claims of a token whose signature nobody has looked at. -/
structure Claims where
  members : List (String × Json)

namespace Claims

/-- Read the second segment of a token; only an object holds claims. -/
def ofToken? (jwt : String) : Option Claims := do
  let payload ← (Token.segments jwt)[1]?
  let bytes ← Base64.decodeUrl? (Text.dropEnd '=' payload)
  match ← Json.ofBytes? bytes with
  | .obj members => some ⟨members⟩
  | _ => none

/-- The text of a claim. -/
def text? (c : Claims) (name : String) : Option String := do
  (← Json.member? name c.members).claimText?

/-- Round a double toward zero, at the ends of the 64-bit range if it lies outside. -/
def truncate (x : Float) : Int :=
  x.toInt64.toInt

/-- Bring an integer into the 64-bit range. -/
def clamp (i : Int) : Int :=
  if 0x8000000000000000 ≤ i then 0x7fffffffffffffff else i

/-- Read a signed 64-bit number in decimal digits. -/
def int64OfText? (s : String) : Option Int := do
  let (negative, digits) := match s.toList with
    | '-' :: ds => (true, ds)
    | '+' :: ds => (false, ds)
    | ds => (false, ds)
  let n ← Text.digitsToNat? digits
  if negative then (if n ≤ 0x8000000000000000 then some (-n) else none)
  else if n < 0x8000000000000000 then some n else none

/-- The expiry in Unix seconds: a number, or a text that holds a whole one. -/
def expiry? (c : Claims) : Option Int :=
  match Json.member? "exp" c.members with
  | some (.num (.int i)) => some (clamp i)
  | some (.num (.float x)) => some (truncate x)
  | some (.str s) => int64OfText? s
  | _ => none

/-- The name that the provider prefers for the user. -/
def preferredUsername? (c : Claims) : Option String :=
  (c.text? "preferred_username").filter fun u => ¬u.isEmpty

/-- The name shown for a token that names nobody. -/
def fallbackUsername : String :=
  "OAuth2"

/-- The name shown for a token. -/
def usernameOf (jwt : String) : String :=
  ((ofToken? jwt).bind preferredUsername?).getD fallbackUsername

end Claims

/-- The expiry that the access token states. -/
def BearerToken.statedExpiry? (t : BearerToken) : Option Int :=
  (Claims.ofToken? t.accessToken).bind Claims.expiry?

/-- The claims of a token whose signature and expiry were checked. -/
structure Verified where
  expiry : Int
  subject : Option String
  issuer : Option String
  preferredUsername : Option String
  other : List (String × Json)

namespace Verified

/-- The claims of known types. -/
def named : List String :=
  ["exp", "sub", "iss", "preferred_username"]

/-- Read the claims of a payload: an object with a 64-bit expiry, in which each named claim stands
once at most. -/
def ofNode? : Json.Node → Option Verified
  | .obj members => do
    match ← (Json.Node.obj members).record? named with
    | [some expiry, subject, issuer, username] =>
      let rest ← Json.Node.memberValues? (Json.Node.depthLimit - 1)
        (members.filter fun m => ¬(named.map some).contains m.1)
      let other := rest.foldl (fun acc (name, v) => Json.insertMember name v acc) []
      return ⟨← expiry.int64?, ← Json.Node.optional? Json.Node.text? subject,
        ← Json.Node.optional? Json.Node.text? issuer,
        ← Json.Node.optional? Json.Node.text? username, other⟩
    | _ => none
  | _ => none

/-- The text of a claim; an empty one is absent. -/
def text? (v : Verified) (name : String) : Option String :=
  let value :=
    if name = "sub" then v.subject
    else if name = "iss" then v.issuer
    else if name = "preferred_username" then v.preferredUsername
    else if name = "exp" then some (toString v.expiry)
    else (Json.member? name v.other).bind Json.claimText?
  value.filter fun s => ¬s.isEmpty

end Verified

end SignOn
