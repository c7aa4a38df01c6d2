import SignOn.Config
import SignOn.Pinning.Store
import SignOn.Provider
/-!
# The authentication service

The service puts everything together: the pinned certificates, the token checks, the redirect
listener, the credential store, and a provider for each configured service.  Its operations report
a `Status`; why something failed is not told to callers.
-/

namespace SignOn

/-- What is there when the identity provider is in use. -/
structure BrowserLogin where
  validator : Validator
  listener : Listener

/-- The service.  `defaultTrust` is the trust for those who are not handed any. -/
structure Service where
  config : Config
  pins : PinStore
  defaultTrust : Trust
  store : Store
  browser : Option BrowserLogin
  providers : List Provider

/-- A row of the overview. -/
structure ServiceRow where
  scope : Scope
  status : Status
  username : Option String
  deriving DecidableEq

/-- The outcome of a browser login and the status of each service that uses it. -/
structure BrowserOutcome where
  outcome : Progress
  services : List (Scope × Status)
  deriving DecidableEq

namespace Service

/-- The browser login of a configuration that has the identity provider in use. -/
def browserOf (c : Config) (issuer : Issuer) : BrowserLogin where
  validator := .new issuer.url c.token.keyLifetime c.token.usernameClaim
  listener := .new ⟨issuer, c.provider.clientId,
    Issuer.redirectUri c.provider.callbackPort c.provider.callbackPath⟩

/-- The provider of a configured service. -/
def providerOf (enabled : Bool) (id : String) (s : ServiceConfig) : Provider :=
  let scope : Scope := ⟨id, s.displayName.getD id⟩
  match s.mode with
  | .basic => .basic scope (PasswordLogin.urlOf s.url)
  | .oauth2 => if enabled then .bearer scope else .undetermined scope

/-- The trust for connections.  The identity provider's chain is captured only if it is in use. -/
def openTrust (c : Config) (pins : PinStore) (now : Timestamp) (net : Network) :
    Trust × PinStore × Network :=
  if c.provider.enabled then pins.providerTrust now net
  else
    let (trust, pins) := pins.pinnedTrust
    (trust, pins, net)

/-- Put a service together. -/
def build (c : Config) (store : Store) (pins : PinStore) (now : Timestamp) (net : Network) :
    Except Fault Service × Network :=
  let (trust, pins, net) := openTrust c pins now net
  let providers := c.services.toList.map fun (id, s) => providerOf c.provider.enabled id s
  if c.provider.enabled then
    match Issuer.ofConfigured c.provider.baseUrl c.provider.realm with
    | .error fault => (.error fault, net)
    | .ok issuer => (.ok ⟨c, pins, trust, store, some (browserOf c issuer), providers⟩, net)
  else (.ok ⟨c, pins, trust, store, none, providers⟩, net)

/-- The provider of a scope. -/
def provider? (s : Service) (id : String) : Option Provider :=
  s.providers.find? fun p => p.scope.id = id

/-- Whether a bearer token states an expiry that is still to come. -/
def isFresh (now : Moment) (token : BearerToken) : Bool :=
  token.statedExpiry?.any fun expiry => now.unix < expiry

/-- What the stored credentials say about a service, without asking anybody. -/
def cached (s : Service) (now : Moment) (p : Provider) : Status × Option String :=
  match s.store.contents.token? p.scope.id with
  | some token => (.cached, token.username)
  | none =>
    match s.store.contents.bearer?.filter fun token => p.isBearer && isFresh now token with
    | some token => (.cached, some (Claims.usernameOf token.accessToken))
    | none => (.undetermined, none)

/-- The status of a scope, without asking anybody. -/
def status (s : Service) (now : Moment) (id : String) : Status :=
  match s.provider? id with
  | some p => (s.cached now p).1
  | none => .undetermined

/-- The rows of all services in the order of their display names. -/
def overview (s : Service) (now : Moment) : List ServiceRow :=
  let rows := s.providers.map fun p =>
    let (status, username) := s.cached now p
    (⟨p.scope, status, username⟩ : ServiceRow)
  rows.mergeSort fun a b => !decide (b.scope.displayName < a.scope.displayName)

/-- Log in with a provider.  Only one that takes them looks at user name and password. -/
def authenticate (s : Service) (now : Moment) (p : Provider) (username password : String)
    (net : Network) : Status × Service × Network :=
  match p with
  | .basic scope loginUrl =>
    let (status, store, net) :=
      PasswordLogin.authenticate scope loginUrl username password s.store net
    (status, { s with store }, net)
  | .bearer scope =>
    match s.browser with
    | none => (.undetermined, s, net)
    | some b =>
      let (status, validator, store, net) :=
        BearerLogin.authenticate scope b.validator now s.store net
      (status, { s with store, browser := some { b with validator } }, net)
  | .undetermined _ => (.undetermined, s, net)

/-- Log in to a service. -/
def login (s : Service) (now : Moment) (id username password : String) (net : Network) :
    Status × Service × Network :=
  match s.provider? id with
  | some p => s.authenticate now p username password net
  | none => (.unknownError, s, net)

/-- Log in with each of the providers in turn. -/
def authenticateAll (now : Moment) (username password : String) :
    List Provider → Service → Network → List (Scope × Status) × Service × Network
  | [], s, net => ([], s, net)
  | p :: rest, s, net =>
    let (status, s, net) := s.authenticate now p username password net
    let (later, s, net) := authenticateAll now username password rest s net
    ((p.scope, status) :: later, s, net)

/-- Log in to all services with the same credentials. -/
def loginAll (s : Service) (now : Moment) (username password : String) (net : Network) :
    List (Scope × Status) × Service × Network :=
  authenticateAll now username password s.providers s net

/-- Log out with a provider. -/
def release (s : Service) (p : Provider) (net : Network) : Service × Network :=
  match p with
  | .basic scope _ => ({ s with store := PasswordLogin.logout scope s.store }, net)
  | .bearer scope =>
    let (store, net) := BearerLogin.logout scope (s.browser.map BrowserLogin.listener) s.store net
    ({ s with store }, net)
  | .undetermined _ => (s, net)

/-- Log out of a service; whether there is one. -/
def logout (s : Service) (id : String) (net : Network) : Bool × Service × Network :=
  match s.provider? id with
  | some p => (true, s.release p net)
  | none => (false, s, net)

/-- Log out of all services. -/
def logoutAll (s : Service) (net : Network) : Service × Network :=
  s.providers.foldl (fun (s, net) p => s.release p net) (s, net)

/-- Remove a bearer token that states no expiry to come; whether one is left. -/
def checkStoredBearer (s : Service) (now : Moment) : Bool × Service :=
  match s.store.contents.bearer? with
  | none => (false, s)
  | some token =>
    if isFresh now token then (true, s) else (false, { s with store := s.store.clearBearer.2 })

/-- Verify the stored bearer token: its claims, or nothing without a token.  One that is rejected is
removed; one that could not be checked stays. -/
def verifyBearer (s : Service) (now : Moment) (net : Network) :
    Except Fault (Option Verified) × Service × Network :=
  match s.browser, s.store.contents.bearer? with
  | none, _ => (.error (.config .providerDisabled), s, net)
  | some _, none => (.ok none, s, net)
  | some b, some token =>
    match b.validator.validate now token.accessToken net with
    | (.ok claims, validator, net) =>
      (.ok (some claims), { s with browser := some { b with validator } }, net)
    | (.error (.token reason), validator, net) =>
      let (cleared, store) := s.store.clearBearer
      let s := { s with store, browser := some { b with validator } }
      match cleared with
      | .ok () => (.error (.token reason), s, net)
      | .error fault => (.error fault, s, net)
    | (.error fault, validator, net) =>
      (.error fault, { s with browser := some { b with validator } }, net)

/-- Capture the identity provider's chain again; the default trust follows when that is done. -/
def refreshPins (s : Service) (now : Timestamp) (net : Network) : Service × Network :=
  match s.pins.refresh now net with
  | (false, pins, net) => ({ s with pins }, net)
  | (true, pins, net) =>
    let (trust, pins, net) := pins.providerTrust now net
    ({ s with pins, defaultTrust := trust }, net)

/-- Get ready for a browser login: capture the identity provider's chain again and start the
listener, which may already run.  Nothing is done when the identity provider is not in use. -/
def prepare (s : Service) (now : Timestamp) (bound : Except String Endpoint) (net : Network) :
    Except Fault Unit × Service × Network :=
  match s.browser with
  | none => (.ok (), s, net)
  | some b =>
    let (s, net) := s.refreshPins now net
    let (started, listener) :=
      b.listener.start s.config.provider.callbackPort s.config.provider.callbackPath bound
    let s := { s with browser := some { b with listener } }
    match started with
    | .ok _ | .error (.alreadyRunning _) => (.ok (), s, net)
    | .error fault => (.error fault, s, net)

/-- Take the outcome of the browser login once there is one, and check the new token for each
service that uses it. -/
def completeLogin? (s : Service) (now : Moment) (net : Network) :
    Option (BrowserOutcome × Service × Network) :=
  let bearers := s.providers.filter Provider.isBearer
  let all (status : Status) : List (Scope × Status) := bearers.map fun p => (p.scope, status)
  match s.browser with
  | none => some (⟨.idle, all .undetermined⟩, s, net)
  | some b =>
    b.listener.wait?.map fun (outcome, listener) =>
      let s := { s with browser := some { b with listener } }
      if outcome = .success then
        let (services, s, net) := authenticateAll now "" "" bearers s net
        (⟨outcome, services⟩, s, net)
      else (⟨outcome, all .unknownError⟩, s, net)

/-- Let a redirect come in, and have its code exchanged if it is accepted. -/
def followRedirect (s : Service) (r : Redirect) (net : Network) : Service × Network :=
  match s.browser with
  | none => (s, net)
  | some b =>
    match b.listener.redirect r with
    | none => (s, net)
    | some (_, none, listener) => ({ s with browser := some { b with listener } }, net)
    | some (_, some e, listener) =>
      let (result, net) := listener.client.exchange e.code net
      let (listener, store) := (listener.answered e.ticket result).storeTokens e.ticket s.store
      ({ s with store, browser := some { b with listener } }, net)

/-- Wait for the end of the browser login while redirects come in one after another; there may be
none. -/
def awaitLogin (s : Service) (now : Moment) :
    List Redirect → Network → Option BrowserOutcome × Service × Network
  | [], net =>
    match s.completeLogin? now net with
    | some (outcome, s, net) => (some outcome, s, net)
    | none => (none, s, net)
  | r :: later, net =>
    match s.completeLogin? now net with
    | some (outcome, s, net) => (some outcome, s, net)
    | none =>
      let (s, net) := s.followRedirect r net
      s.awaitLogin now later net

/-- Stop the redirect listener. -/
def stopListening (s : Service) : Service :=
  { s with browser := s.browser.map fun b => { b with listener := b.listener.stop } }

/-- End the identity provider's session, remove the bearer token, and forget the mode of each
service that uses it. -/
def oauthLogout (s : Service) (net : Network) : Service × Network :=
  let (store, net) := match s.browser with
    | some b => (b.listener.logout s.store net).2
    | none => (s.store.clearBearer.2, net)
  let store := (s.providers.filter Provider.isBearer).foldl
    (fun store p => (store.clearAuthMode p.scope.id).2) store
  ({ s with store }, net)

end Service

end SignOn
