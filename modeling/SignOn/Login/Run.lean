import SignOn.Login.Listener
/-!
# Runs of a login

A run is a list of events, in whatever order they come: the listener is started and stopped,
redirects arrive, the token endpoint answers, tokens are stored, and somebody waits for the end.
Each step tells the outside what it is to know.  A wait takes two steps, the sight of an outcome
and its removal, because a redirect may come between them.
-/

namespace SignOn.Login

/-- What happens to a login. -/
inductive Event
  | start (port : Nat) (path : String) (bound : Except String Endpoint)
  | stop
  | redirect (r : Redirect)
  | answer (ticket : Nat) (result : Except Fault Grant)
  | store (ticket : Nat)
  | observe
  | consume

/-- What the outside is told: progress is published, a browser is shown a page, a code is sent to
the token endpoint, and a wait returns. -/
inductive Signal
  | published (p : Progress)
  | page (p : Page)
  | sent (ticket : Nat) (code : String)
  | returned (outcome : Progress)
  deriving DecidableEq

/-- A login in progress: the listener, the store, and the outcome that the wait has seen. -/
structure State where
  listener : Listener
  store : Store
  observed : Option Progress

namespace State

/-- A listener that was never started, over a store. -/
def new (client : TokenClient) (store : Store) : State :=
  ⟨.new client, store, none⟩

/-- One step, and what the outside is told. -/
def step (s : State) : Event → State × List Signal
  | .start port path bound =>
    match s.listener.start port path bound with
    | (.ok _, l) => ({ s with listener := l }, [.published l.progress])
    | (.error _, l) => ({ s with listener := l }, [])
  | .stop => ({ s with listener := s.listener.stop }, [.published .idle])
  | .redirect r =>
    match s.listener.redirect r with
    | none => (s, [])
    | some (page, some e, l) =>
      ({ s with listener := l }, [.published l.progress, .sent e.ticket e.code, .page page])
    | some (page, none, l) =>
      ({ s with listener := l },
        (if r.message matches .code _ then [] else [.published l.progress]) ++ [.page page])
  | .answer ticket result =>
    match s.listener.exchange? ticket with
    | some ⟨_, _, _, none⟩ =>
      let l := s.listener.answered ticket result
      ({ s with listener := l }, [.published l.progress])
    | _ => (s, [])
  | .store ticket =>
    match s.listener.exchange? ticket with
    | some ⟨_, _, _, some _⟩ =>
      let (l, store) := s.listener.storeTokens ticket s.store
      ({ s with listener := l, store }, [.published l.progress])
    | _ => (s, [])
  | .observe =>
    match s.observed with
    | some _ => (s, [])
    | none => ({ s with observed := s.listener.outcome? }, [])
  | .consume =>
    match s.observed with
    | none => (s, [])
    | some outcome =>
      ({ s with listener := s.listener.consume outcome, observed := none },
        (if s.listener.isRunning ∧ s.listener.progress = outcome then [.published .listening]
          else []) ++ [.returned outcome])

/-- A run, and what the outside is told on the way. -/
def run (s : State) : List Event → State × List Signal
  | [] => (s, [])
  | e :: events =>
    let (s, signals) := s.step e
    let (s, later) := s.run events
    (s, signals ++ later)

end State

end SignOn.Login
