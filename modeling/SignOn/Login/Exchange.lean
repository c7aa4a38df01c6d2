import SignOn.Issuer
import SignOn.Network
import SignOn.Json.Reader
import SignOn.Credential
/-!
# Exchanging a code for tokens

The client side of the token endpoint and of the logout endpoint.  Sending the code and reading
the answer are two functions, because a login waits between them.
-/

namespace SignOn

/-- What the token endpoint grants. -/
structure Grant where
  accessToken : String
  idToken : Option String
  refreshToken : Option String
  tokenType : Option String
  expiresIn : Option Nat
  deriving DecidableEq, Repr

namespace Grant

/-- Read a grant; only the access token must be there. -/
def ofNode? (node : Json.Node) : Option Grant := do
  let fields := ["access_token", "id_token", "refresh_token", "token_type", "expires_in"]
  match ← node.record? fields with
  | [some access, id, refresh, kind, lifetime] =>
    let text? := Json.Node.optional? Json.Node.text?
    return ⟨← access.text?, ← text? id, ← text? refresh, ← text? kind,
      ← Json.Node.optional? Json.Node.nat64? lifetime⟩
  | _ => none

/-- The diagnostic text of a grant, which shows no token. -/
def diagnostic (g : Grant) : String :=
  let lifetime := match g.expiresIn with
    | none => "None"
    | some n => "Some(" ++ toString n ++ ")"
  "TokenResponse \x7b token_type: " ++ Text.quotedOption g.tokenType ++ ", expires_in: " ++
    lifetime ++ ", .. \x7d"

/-- The tokens that are kept of a grant. -/
def bearer (g : Grant) : BearerToken :=
  ⟨g.accessToken, g.idToken⟩

end Grant

/-- A client of the token endpoint. -/
structure TokenClient where
  issuer : Issuer
  clientId : String
  redirectUri : String
  deriving DecidableEq, Repr

namespace TokenClient

/-- The URL that an operator opens in a browser. -/
def authorizationUrl (c : TokenClient) : Except Fault Url :=
  c.issuer.authorizationUrl c.clientId c.redirectUri

/-- The form that carries a code to the token endpoint. -/
def exchangePairs (c : TokenClient) (code : String) : List (String × String) :=
  [("grant_type", "authorization_code"), ("code", code), ("scope", "openid"),
   ("redirect_uri", c.redirectUri), ("client_id", c.clientId)]

/-- The request that carries a code to the token endpoint. -/
def exchangeRequest (c : TokenClient) (code : String) : Except Http.Failure Http.Request :=
  Http.buildText .post (some (.form (c.exchangePairs code))) c.issuer.tokenUrl

/-- What the answer to an exchange grants.  Only status 200 grants anything; the body of another
status is kept as far as it arrived whole. -/
def grantOf (request : Except Http.Failure Http.Request)
    (result : Except Http.Failure Http.Reply) : Except Fault Grant :=
  match result with
  | .error failure => .error (.transport (.tokenRequest failure))
  | .ok reply =>
    if reply.status ≠ 200 then
      .error (.exchange reply.status (if reply.complete then Utf8.decodeLossy reply.body else ""))
    else
      match if reply.complete then (Json.nodeOfBytes? reply.body).bind Grant.ofNode? else none with
      | some grant => .ok grant
      | none =>
        let url := match request with
          | .ok r => r.url.write
          | .error _ => ""
        .error (.protocol (.tokenResponse (.unreadable url)))

/-- Exchange a code for tokens. -/
def exchange (c : TokenClient) (code : String) (net : Network) : Except Fault Grant × Network :=
  let request := c.exchangeRequest code
  let (result, net) := net.fetch request
  (grantOf request result, net)

/-- Whether the provider has ended its session. -/
def sessionEnded (result : Except Http.Failure Http.Reply) : Except Fault Unit :=
  match result with
  | .error failure => .error (.transport (.logoutRequest failure))
  | .ok reply =>
    if Http.isSuccess reply.status ∨ Http.isRedirection reply.status then .ok ()
    else .error (.protocol (.logoutStatus reply.status))

/-- End the provider's session; the hint is the id token of the login. -/
def endSession (c : TokenClient) (hint : Option String) (net : Network) :
    Except Fault Unit × Network :=
  match c.issuer.logoutUrl hint with
  | .error fault => (.error fault, net)
  | .ok url =>
    let (result, net) := net.fetch (Http.build .get none url)
    (sessionEnded result, net)

end TokenClient

end SignOn
