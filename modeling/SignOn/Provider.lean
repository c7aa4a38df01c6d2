import SignOn.Login.Listener
import SignOn.Token.Validator
/-!
# Providers

A provider authenticates the users of one service: with user name and password, which the service
itself confirms, or with the bearer token of the identity provider.  Where the identity provider is
not in use, a service that needs it stays undetermined.
-/

namespace SignOn

/-- How a service is authenticated. -/
inductive Provider
  | basic (scope : Scope) (loginUrl : String)
  | bearer (scope : Scope)
  | undetermined (scope : Scope)
  deriving DecidableEq, Repr

/-! Login with user name and password at the service itself. -/

namespace PasswordLogin

/-- The login endpoint of a service. -/
def urlOf (service : String) : String :=
  Text.dropEnd '/' service ++ "/login"

/-- What is sent to the endpoint. -/
def body (username password : String) : Http.Body :=
  let pair := Json.obj [("username", .str username), ("password", .str password)]
  ⟨"application/json", pair.compact⟩

/-- What the answer of the endpoint says about the user. -/
def verdict (loginUrl username : String) : Except Http.Failure Http.Reply → Except Fault Unit
  | .error failure => .error (.transport (.loginRequest loginUrl failure))
  | .ok reply =>
    if reply.status = 200 then .ok ()
    else if reply.status = 401 then .error (.badCredentials username)
    else .error (.protocol (.loginStatus reply.status))

/-- Keep confirmed credentials, and then how they were confirmed. -/
def keep (scope : Scope) (username password : String) (store : Store) : Except Fault Unit × Store :=
  match store.set ⟨scope, some username, some password⟩ with
  | (.error fault, store) => (.error fault, store)
  | (.ok (), store) => store.setAuthMode scope.id .basic

/-- Post the credentials and keep them when the service confirms them. -/
def login (scope : Scope) (loginUrl username password : String) (store : Store) (net : Network) :
    Except Fault Unit × Store × Network :=
  let request := Http.buildText .post (some (body username password)) loginUrl
  match net.fetch request with
  | (result, net) =>
    match verdict loginUrl username result with
    | .error fault => (.error fault, store, net)
    | .ok () =>
      let (kept, store) := keep scope username password store
      (kept, store, net)

/-- The status after a login. -/
def authenticate (scope : Scope) (loginUrl username password : String) (store : Store)
    (net : Network) : Status × Store × Network :=
  match login scope loginUrl username password store net with
  | (.ok (), store, net) => (.authenticated, store, net)
  | (.error fault, store, net) => (fault.status, store, net)

/-- Forget the credentials of a scope, and then how they were confirmed. -/
def logout (scope : Scope) (store : Store) : Store :=
  match store.delete scope.id with
  | (.error _, store) => store
  | (.ok (), store) => (store.clearAuthMode scope.id).2

end PasswordLogin

/-! Login with the stored bearer token. -/

namespace BearerLogin

/-- Note that the token was accepted for a scope. -/
def accept (scope : Scope) (store : Store) : Status × Store :=
  match store.setAuthMode scope.id .oauth2 with
  | (.ok (), store) => (.authenticated, store)
  | (.error fault, store) => (fault.status, store)

/-- Check the stored token.  One that is rejected is removed; one that could not be checked stays.
Without a token the browser login is needed. -/
def authenticate (scope : Scope) (v : Validator) (now : Moment) (store : Store) (net : Network) :
    Status × Validator × Store × Network :=
  match store.contents.bearer? with
  | none => (.undetermined, v, store, net)
  | some token =>
    match v.validate now token.accessToken net with
    | (.ok _, v, net) =>
      let (status, store) := accept scope store
      (status, v, store, net)
    | (.error (.token _), v, net) => (.undetermined, v, store.clearBearer.2, net)
    | (.error fault, v, net) => (fault.status, v, store, net)

/-- Remove the token, with the provider's session if there is a listener, and then forget the mode
of the scope. -/
def logout (scope : Scope) (listener : Option Listener) (store : Store) (net : Network) :
    Store × Network :=
  let (cleared, store, net) := match listener with
    | some l => l.logout store net
    | none =>
      let (cleared, store) := store.clearBearer
      (cleared, store, net)
  match cleared with
  | .error _ => (store, net)
  | .ok () => ((store.clearAuthMode scope.id).2, net)

end BearerLogin

namespace Provider

/-- The scope of a provider. -/
def scope : Provider → Scope
  | basic scope _ | bearer scope | undetermined scope => scope

/-- The mode of a provider, once it is known. -/
def mode? : Provider → Option AuthMode
  | basic _ _ => some .basic
  | bearer _ => some .oauth2
  | undetermined _ => none

/-- The provider needs the bearer token. -/
def isBearer : Provider → Bool
  | bearer _ => true
  | _ => false

/-- The diagnostic text of a provider. -/
def diagnostic (p : Provider) : String :=
  let kind := match p with
    | basic _ _ => "Basic"
    | bearer _ => "OAuth2"
    | undetermined _ => "Undetermined"
  "ServiceAuthenticationProvider \x7b kind: " ++ Text.quoted kind ++ ", scope: " ++
    p.scope.diagnostic ++ " \x7d"

end Provider

end SignOn
