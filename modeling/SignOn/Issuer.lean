import SignOn.Fault
/-!
# The identity provider's endpoints

An issuer is the base URL of a realm.  All endpoints hang below it at fixed paths.
-/

namespace SignOn

/-- The base URL of a realm, as text. -/
structure Issuer where
  url : String
  deriving DecidableEq, Repr

namespace Issuer

/-- The issuer of a realm: `<base>/realms/<realm>`, or the base itself when the realm is empty.
Slashes at the end of the base do not count. -/
def ofRealm (base realm : String) : Issuer :=
  let base := Text.dropEnd '/' base
  ⟨if realm.isEmpty then base else base ++ "/realms/" ++ realm⟩

/-- The issuer of a configured base URL, which has to be there and to be a URL. -/
def ofConfigured (base : Option String) (realm : String) : Except Fault Issuer :=
  match base with
  | none => .error (.config .noBaseUrl)
  | some text =>
    if text.isEmpty then .error (.config .noBaseUrl)
    else
      match Url.parse text with
      | .error cause => .error (.config (.invalidBaseUrl text cause))
      | .ok _ => .ok (ofRealm text realm)

/-- The path of the discovery document below the issuer. -/
def discoveryPath : String :=
  "/.well-known/openid-configuration"

/-- The URL of the discovery document. -/
def discoveryUrl (i : Issuer) : String :=
  i.url ++ discoveryPath

/-- The URL of an endpoint, as text. -/
def endpointText (i : Issuer) (name : String) : String :=
  i.url ++ "/protocol/openid-connect/" ++ name

/-- The URL of the token endpoint. -/
def tokenUrl (i : Issuer) : String :=
  i.endpointText "token"

/-- An endpoint as a URL. -/
def endpoint (i : Issuer) (name : String) : Except Fault Url :=
  match Url.parse (i.endpointText name) with
  | .ok url => .ok url
  | .error cause => .error (.config (.invalidEndpoint (i.endpointText name) cause))

/-- The pairs that the authorization URL carries. -/
def authorizationPairs (clientId redirectUri : String) : List (String × String) :=
  [("response_type", "code"), ("client_id", clientId), ("scope", "openid email"),
   ("redirect_uri", redirectUri)]

/-- The URL that an operator opens in a browser to log in. -/
def authorizationUrl (i : Issuer) (clientId redirectUri : String) : Except Fault Url :=
  (i.endpoint "auth").map (Url.appendPairs (authorizationPairs clientId redirectUri))

/-- The pairs that the logout URL carries: the hint of an id token, if there is one. -/
def logoutPairs (hint : String) : List (String × String) :=
  [("id_token_hint", hint), ("post_logout_redirect_uri", "")]

/-- The URL that ends the provider's session. -/
def logoutUrl (i : Issuer) (hint : Option String) : Except Fault Url :=
  (i.endpoint "logout").map fun url =>
    match hint with
    | none => url
    | some hint => url.appendPairs (logoutPairs hint)

/-- The URL under which the local listener is registered with the provider. -/
def redirectUri (port : Nat) (path : String) : String :=
  "http://localhost:" ++ toString port ++ (if Text.startsWith "/" path then path else "/" ++ path)

end Issuer

end SignOn
