import SignOn.Login.Exchange
import SignOn.Login.Redirect
import SignOn.Store
/-!
# The redirect listener

The listener takes the browser's redirect, answers at once, and has the code exchanged in the
background.  Each start opens a session; the exchanges of a session live on when it is stopped.
An exchange advances in three steps, between which anything may happen: the code is accepted, the
token endpoint answers, the tokens are stored.  Within a session only one exchange is in flight.
-/

namespace SignOn

/-- How far a login is. -/
inductive Progress
  | idle
  | listening
  | codeReceived
  | tokenExchanged
  | success
  | failed (reason : String)
  deriving DecidableEq, Repr

/-- A login has ended. -/
def Progress.isTerminal : Progress → Bool
  | success | failed _ => true
  | _ => false

/-- An exchange in flight.  Its ticket is its number among all accepted codes; a grant is there
once the token endpoint has answered. -/
structure Exchange where
  ticket : Nat
  session : Nat
  code : String
  grant : Option Grant
  deriving DecidableEq, Repr

/-- The session of a running listener. -/
structure Session where
  number : Nat
  address : Endpoint
  path : String
  deriving DecidableEq, Repr

/-- A redirect listener.  `opened` counts the sessions and `accepted` the codes so far. -/
structure Listener where
  client : TokenClient
  progress : Progress
  session : Option Session
  opened : Nat
  accepted : Nat
  exchanges : List Exchange
  deriving DecidableEq, Repr

namespace Listener

/-- A listener that was never started. -/
def new (client : TokenClient) : Listener :=
  ⟨client, .idle, none, 0, 0, []⟩

/-- Whether the listener takes redirects. -/
def isRunning (l : Listener) : Bool := l.session.isSome

/-- Start the listener on a port.  `bound` is what became of the wish for the port: the address, or
why it could not be had. -/
def start (l : Listener) (port : Nat) (path : String) (bound : Except String Endpoint) :
    Except Fault Endpoint × Listener :=
  match l.session with
  | some s => (.error (.alreadyRunning s.address.text), l)
  | none =>
    match bound with
    | .error cause => (.error (.transport (.bind port cause)), l)
    | .ok address =>
      let path := if Text.startsWith "/" path then path else "/" ++ path
      (.ok address, { l with
        progress := .listening, session := some ⟨l.opened, address, path⟩, opened := l.opened + 1 })

/-- Stop the listener.  Exchanges in flight go on. -/
def stop (l : Listener) : Listener :=
  { l with progress := .idle, session := none }

/-- Whether an exchange of a session is in flight. -/
def isBusy (l : Listener) (session : Nat) : Bool :=
  l.exchanges.any fun e => e.session == session

/-- The page after an accepted code. -/
def acceptedPage : Page := ⟨200, "Login successful! You can close this window."⟩

/-- The page while another code is exchanged. -/
def busyPage : Page := ⟨409, "A login is already being processed."⟩

/-- The page for a redirect without a code. -/
def noCodePage : Page := ⟨400, "Login failed: no authorization code received."⟩

/-- The page for a redirect with an error. -/
def refusedPage (error description : String) : Page :=
  ⟨400, "Login failed: " ++ error ++ " (" ++ description ++ ")"⟩

/-- Take a redirect; the exchange that it opens comes back with the page.  A listener that is not
running takes none. -/
def redirect (l : Listener) (r : Redirect) : Option (Page × Option Exchange × Listener) :=
  l.session.map fun s =>
    match r.message with
    | .refused error description =>
      (refusedPage error description, none,
        { l with progress := .failed (error ++ ": " ++ description) })
    | .noCode => (noCodePage, none, { l with progress := .failed "Missing authorization code" })
    | .code code =>
      if l.isBusy s.number then (busyPage, none, l)
      else
        let e : Exchange := ⟨l.accepted, s.number, code, none⟩
        (acceptedPage, some e, { l with
          progress := .codeReceived, accepted := l.accepted + 1, exchanges := l.exchanges ++ [e] })

/-- The exchange with a ticket, while it is in flight. -/
def exchange? (l : Listener) (ticket : Nat) : Option Exchange :=
  l.exchanges.find? fun e => e.ticket == ticket

/-- The end of an exchange. -/
def finish (l : Listener) (ticket : Nat) (progress : Progress) : Listener :=
  { l with progress, exchanges := l.exchanges.filter fun e => e.ticket != ticket }

/-- Put a grant into the exchange with a ticket. -/
def grantTo (l : Listener) (ticket : Nat) (grant : Grant) : Listener :=
  { l with
    progress := .tokenExchanged
    exchanges := l.exchanges.map fun e =>
      if e.ticket = ticket then { e with grant := some grant } else e }

/-- Take the token endpoint's answer to an exchange that waits for it. -/
def answered (l : Listener) (ticket : Nat) (result : Except Fault Grant) : Listener :=
  match l.exchange? ticket with
  | some ⟨_, _, _, none⟩ =>
    match result with
    | .error fault => l.finish ticket (.failed fault.message)
    | .ok grant => l.grantTo ticket grant
  | _ => l

/-- Store the tokens of an exchange that has them. -/
def storeTokens (l : Listener) (ticket : Nat) (store : Store) : Listener × Store :=
  match l.exchange? ticket with
  | some ⟨_, _, _, some grant⟩ =>
    match store.setBearer grant.bearer with
    | (.ok (), store) => (l.finish ticket .success, store)
    | (.error fault, store) => (l.finish ticket (.failed fault.message), store)
  | _ => (l, store)

/-- What a wait for the end of the login returns, once it has ended. -/
def outcome? (l : Listener) : Option Progress :=
  if l.progress.isTerminal then some l.progress else none

/-- Take an outcome that was waited for away, so that the next wait is for the next login. -/
def consume (l : Listener) (outcome : Progress) : Listener :=
  if l.isRunning ∧ l.progress = outcome then { l with progress := .listening } else l

/-- Wait for the end of the login: its outcome, or nothing while it goes on. -/
def wait? (l : Listener) : Option (Progress × Listener) :=
  l.outcome?.map fun outcome => (outcome, l.consume outcome)

/-- End the provider's session and forget the tokens, whatever the provider says. -/
def logout (l : Listener) (store : Store) (net : Network) :
    Except Fault Unit × Store × Network :=
  let hint := store.contents.bearer?.bind BearerToken.idToken
  let (_, net) := l.client.endSession hint net
  let (result, store) := store.clearBearer
  (result, store, net)

end Listener

end SignOn
