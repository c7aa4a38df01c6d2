import SignOn.Scope
import SignOn.Json.Basic
import SignOn.Text.Base64
import SignOn.Text.Quoted
/-!
# Credentials

What a client puts on the wire (`Credential`), what is kept of a login with user name and password
(`ScopedToken`), and the process-wide pair of tokens of the identity provider (`BearerToken`).
Their diagnostic texts never show a secret.
-/

namespace SignOn

/-- How a scope was last authenticated. -/
inductive AuthMode
  | basic
  | oauth2
  deriving DecidableEq, Repr

namespace AuthMode

/-- The marker kept in the store. -/
def marker : AuthMode → String
  | basic => "basic"
  | oauth2 => "oauth2"

/-- The mode of a marker. -/
def ofMarker? (s : String) : Option AuthMode :=
  if s = "basic" then some basic else if s = "oauth2" then some oauth2 else none

theorem ofMarker?_marker (m : AuthMode) : ofMarker? m.marker = some m := by
  cases m <;> simp [ofMarker?, marker]

end AuthMode

/-- User name and password of one scope; a stored one may lack either. -/
structure ScopedToken where
  scope : Scope
  username : Option String
  password : Option String
  deriving DecidableEq, Repr

/-- The tokens that the identity provider issued.  The id token is the hint of a logout. -/
structure BearerToken where
  accessToken : String
  idToken : Option String
  deriving DecidableEq, Repr

/-- A credential that a client can send. -/
inductive Credential
  | basic (username password : String)
  | bearer (token : String)
  deriving DecidableEq, Repr

/-- What diagnostics show of a secret. -/
def hidden (secret : Option String) : Option String :=
  secret.map fun _ => "***"

/-- The diagnostic text of a scope. -/
def Scope.diagnostic (s : Scope) : String :=
  "AuthenticationScope \x7b id: " ++ Text.quoted s.id ++ ", display_name: " ++
    Text.quoted s.displayName ++ " \x7d"

/-- The diagnostic text of a scoped token. -/
def ScopedToken.diagnostic (t : ScopedToken) : String :=
  "ScopedAuthenticationToken \x7b scope: " ++ t.scope.diagnostic ++ ", username: " ++
    Text.quotedOption t.username ++ ", password: " ++ Text.quotedOption (hidden t.password) ++
    " \x7d"

/-- The document of a scoped token. -/
def ScopedToken.toJson (t : ScopedToken) : Json :=
  .obj [
    ("scope", .obj [("id", .str t.scope.id), ("display_name", .str t.scope.displayName)]),
    ("username", Json.ofOption .str t.username),
    ("password", Json.ofOption .str t.password)]

/-- The diagnostic text of the tokens. -/
def BearerToken.diagnostic (t : BearerToken) : String :=
  "BearerToken \x7b access_token: \"***\", id_token: " ++ Text.quotedOption (hidden t.idToken) ++
    " \x7d"

namespace Credential

/-- The value of the `Authorization` header. -/
def authorizationHeader : Credential → String
  | basic username password => "Basic " ++ Base64.encode (Utf8.encode (username ++ ":" ++ password))
  | bearer token => "Bearer " ++ token

/-- The diagnostic text of a credential. -/
def diagnostic : Credential → String
  | basic username _ =>
    "Basic \x7b username: " ++ Text.quoted username ++ ", password: \"***\" \x7d"
  | bearer _ => "Bearer(\"***\")"

end Credential

end SignOn
