import SignOn.CommandLine.Invocation
import SignOn.CommandLine.Report
/-!
# Carrying out commands

A command about certificates works on the trust store alone; a command about logins has the whole
service put together first.  Both leave the state files as the stores have written them.
-/

namespace SignOn

/-- What a command works with: the two state files, or why there is no path for one, the variables
that name proxies, the time, what becomes of the wish for the callback port, and the redirects that
a browser sends before the time is up. -/
structure Surroundings where
  credentials : Except Fault StateFile
  pins : Except Fault StateFile
  environment : String → Option String
  now : Moment
  bound : Except String Endpoint
  redirects : List Redirect

/-- Work on the trust store. -/
def PinCommand.run (c : PinCommand) (s : PinStore) (now : Timestamp) (net : Network) :
    Report × PinStore × Network :=
  match c with
  | .acquire url =>
    match url <|> s.providerUrl with
    | none => (.failure "No URL given and idp.base_url is not configured", s, net)
    | some url =>
      let (done, s, net) := s.acquire now url net
      (.ofCapture url done s, s, net)
  | .refresh =>
    let (done, s, net) := s.refresh now net
    (.ofCapture (s.providerUrl.getD "<unset>") done s, s, net)
  | .list => (.ofPins s, s, net)

namespace LoginCommand

/-- Print the URL of the provider's login page and wait for a browser to come back. -/
def runBrowserLogin (s : Service) (b : BrowserLogin) (w : Surroundings) (net : Network) :
    Report × Service × Network :=
  match s.prepare (.ofUnix w.now.unix) w.bound net with
  | (.error cause, s, net) => (.ofFault cause, s, net)
  | (.ok (), s, net) =>
    match b.listener.client.authorizationUrl with
    | .error cause => (.ofFault cause, s, net)
    | .ok url =>
      let (outcome, s, net) := s.awaitLogin w.now w.redirects net
      ((Report.ofLoginPage url).andThen (.ofLogin outcome), s.stopListening, net)

/-- Have the service work.  The overview drops a stale bearer token first. -/
def run (c : LoginCommand) (s : Service) (w : Surroundings) (net : Network) :
    Report × Service × Network :=
  match c with
  | .login id username password =>
    let (status, s, net) := s.login w.now id username password net
    (.ofStatus id status, s, net)
  | .logout id =>
    match s.logout id net with
    | (true, s, net) => (.success ["✅ Logged out of " ++ id], s, net)
    | (false, s, net) => (.failure ("Unknown service: " ++ id), s, net)
  | .logoutAll =>
    let (s, net) := s.logoutAll net
    (.success ["✅ Logged out of all services"], s, net)
  | .overview format =>
    let (_, s) := s.checkStoredBearer w.now
    (.ofRows format (s.overview w.now), s, net)
  | .browserLogin _ =>
    match s.browser with
    | none => (.failure ConfigFault.providerDisabled.message, s, net)
    | some b => runBrowserLogin s b w net
  | .browserLogout =>
    match s.browser with
    | none => (.failure ConfigFault.providerDisabled.message, s, net)
    | some _ =>
      let (s, net) := s.oauthLogout net
      (.success ["✅ Logged out of the identity provider"], s, net)
  | .checkToken =>
    let (verdict, s, net) := s.verifyBearer w.now net
    (.ofVerdict verdict, s, net)

end LoginCommand

namespace Command

/-- Put the service together, and have it work. -/
def runLogins (c : LoginCommand) (config : Config) (credentials trusted : StateFile)
    (w : Surroundings) (net : Network) : Report × Surroundings × Network :=
  let now := Timestamp.ofUnix w.now.unix
  let store := (Store.openFile credentials).1
  let pinStore := PinStore.openFile trusted config.provider.baseUrl config.trust.proxy w.environment
  match Service.build config store pinStore now net with
  | (.error cause, after) =>
    let (_, pinStore, _) := Service.openTrust config pinStore now net
    (.ofFault cause, { w with pins := .ok pinStore.file }, after)
  | (.ok s, net) =>
    let (report, s, net) := c.run s w net
    (report, { w with
      credentials := .ok (s.store.file.getD credentials), pins := .ok s.pins.file }, net)

/-- Carry a command out. -/
def run (c : Command) (config : Config) (w : Surroundings) (net : Network) :
    Report × Surroundings × Network :=
  match c, w.credentials, w.pins with
  | .pins _, _, .error cause => (.ofFault cause, w, net)
  | .pins c, _, .ok file =>
    let store := PinStore.openFile file config.provider.baseUrl config.trust.proxy w.environment
    let (report, store, net) := c.run store (.ofUnix w.now.unix) net
    (report, { w with pins := .ok store.file }, net)
  | .logins _, .error cause, _ => (.ofFault cause, w, net)
  | .logins _, .ok _, .error cause => (.ofFault cause, w, net)
  | .logins c, .ok credentials, .ok trusted => runLogins c config credentials trusted w net

end Command

end SignOn
