import SignOn.Proofs.Service.LoginCredential
import SignOn.Proofs.Store.Writes
/-!
# The two writes of a password login

A login that the service confirms stores user name and password, and then the marker; a logout
removes the one and then the other.  Either makes two changes with a write each (`keep_eq_applyTwo`,
`logout_eq_applyTwo`), so either ends in one of three ways: everything is spared, all is done, or it
stops halfway, exactly when the first write succeeds and the second fails.

Halfway a login is reported as an unknown error, and yet the password is stored and clients send it;
a logout has removed the password and leaves the marker.  The main statement is
`password_login_ends`; `password_login_stops_halfway` is a store in which both stop there.
-/

namespace SignOn

namespace PasswordLogin

/-- Whether credentials were kept, as a status. -/
def statusOf : Except Fault Unit → Status
  | .ok () => .authenticated
  | .error fault => fault.status

/-- Confirmed credentials are kept in two changes. -/
theorem keep_eq_applyTwo (scope : Scope) (username password : String) (store : Store) :
    keep scope username password store =
      store.applyTwo (.set ⟨scope, some username, some password⟩)
        (.setAuthMode scope.id .basic) := rfl

/-- Credentials are forgotten in two changes. -/
theorem logout_eq_applyTwo (scope : Scope) (store : Store) :
    logout scope store =
      (store.applyTwo (.delete scope.id) (.clearAuthMode scope.id)).2 := by
  unfold logout Store.applyTwo
  cases hdelete : store.delete scope.id with
  | mk result after =>
      have hfirst : store.apply (.delete scope.id) = (result, after) := hdelete
      rw [hfirst]
      cases result <;> rfl

/-- The request of a login, if it can be built. -/
def request (loginUrl username password : String) : Except Http.Failure Http.Request :=
  Http.buildText .post (some (body username password)) loginUrl

/-- What comes of a login, from the answer to its request: the status and the store. -/
def outcomeOf (scope : Scope) (loginUrl username password : String) (store : Store)
    (answer : Except Http.Failure Http.Reply) : Status × Store :=
  match verdict loginUrl username answer with
  | .error fault => (fault.status, store)
  | .ok () =>
    let kept := keep scope username password store
    (statusOf kept.1, kept.2)

/-- A login makes one request, and all else depends on its answer. -/
theorem authenticate_eq (scope : Scope) (loginUrl username password : String) (store : Store)
    (net : Network) :
    authenticate scope loginUrl username password store net =
      let fetched := net.fetch (request loginUrl username password)
      let outcome := outcomeOf scope loginUrl username password store fetched.1
      (outcome.1, outcome.2, fetched.2) := by
  unfold authenticate login outcomeOf request
  simp only
  cases net.fetch (Http.buildText .post (some (body username password)) loginUrl) with
  | mk answer after =>
      simp only
      cases verdict loginUrl username answer with
      | error fault => rfl
      | ok done =>
          simp only
          cases keep scope username password store with
          | mk made kept => cases made <;> rfl

/-- The answer to a login confirms it exactly if the verdict on it is good. -/
theorem confirms_iff (loginUrl username password : String) (net : Network) :
    Confirms loginUrl username password net ↔
      verdict loginUrl username (net.fetch (request loginUrl username password)).1 = .ok () := by
  refine ⟨?_, confirms_of_verdict⟩
  intro hparts
  obtain ⟨r, reply, after, hbuild, hsend, hstatus⟩ := hparts
  have hfetch := Network.fetch_eq_ok_iff.mpr ⟨r, hbuild, hsend⟩
  simp only [request, hfetch, verdict, hstatus, if_true]

/-- A confirmed login keeps the credentials. -/
theorem authenticate_of_confirms {loginUrl username password : String} {net : Network}
    (h : Confirms loginUrl username password net) (scope : Scope) (store : Store) :
    let login := authenticate scope loginUrl username password store net
    let kept := keep scope username password store
    login.1 = statusOf kept.1 ∧ login.2.1 = kept.2 := by
  rw [confirms_iff] at h
  simp only [authenticate_eq, outcomeOf, h, and_self]

/-- A login that is not confirmed does nothing. -/
theorem authenticate_of_not_confirms {loginUrl username password : String} {net : Network}
    (h : ¬Confirms loginUrl username password net) (scope : Scope) (store : Store) :
    let login := authenticate scope loginUrl username password store net
    login.1 ≠ .authenticated ∧ login.2.1 = store := by
  rw [confirms_iff] at h
  cases hverdict : verdict loginUrl username
      (net.fetch (request loginUrl username password)).1 with
  | ok done => exact (h hverdict).elim
  | error fault =>
      simp only [authenticate_eq, outcomeOf, hverdict, and_true]
      exact fault.status_ne_authenticated

/-- **How logins and logouts with user name and password end.**  A login that is not confirmed with
status 200, or whose first write fails, spares the store.  A confirmed one whose writes succeed is
reported as authenticated, and token and marker are stored.  In between is a login whose second
write fails alone: it is reported as an unknown error, the token is stored without the marker, and
clients send the password.  In the same way a logout spares the store, removes both, or removes the
token and leaves the marker. -/
theorem password_login_ends (scope : Scope) (loginUrl username password : String) (store : Store)
    (net : Network) :
    let confirmed := Confirms loginUrl username password net
    let login := authenticate scope loginUrl username password store net
    let kept := store.contents.setToken ⟨scope, some username, some password⟩
    let left := store.contents.eraseToken scope.id
    ((¬(confirmed ∧ ¬store.Fails 0) ∧ login.1 ≠ .authenticated ∧ store.Spared login.2.1) ∨
      (confirmed ∧ ¬store.Fails 0 ∧ store.Fails 1 ∧ login.1 = .unknownError ∧
        login.2.1.contents = kept ∧
        login.2.1.contents.credential? scope.id = some (.basic username password)) ∨
      (confirmed ∧ ¬store.Fails 0 ∧ ¬store.Fails 1 ∧ login.1 = .authenticated ∧
        login.2.1.contents =
          kept.setValue (Contents.modeKey scope.id) AuthMode.basic.marker)) ∧
    ((store.Fails 0 ∧ store.Spared (logout scope store)) ∨
      (¬store.Fails 0 ∧ store.Fails 1 ∧ (logout scope store).contents = left) ∨
      (¬store.Fails 0 ∧ ¬store.Fails 1 ∧
        (logout scope store).contents = left.eraseValue (Contents.modeKey scope.id))) := by
  intro confirmed login kept left
  constructor
  · by_cases hconfirmed : confirmed
    · obtain ⟨hstatus, hstore⟩ := authenticate_of_confirms hconfirmed scope store
      rw [keep_eq_applyTwo] at hstatus hstore
      have houtcome := store.applyTwo_outcome (.set ⟨scope, some username, some password⟩)
        (.setAuthMode scope.id .basic)
      generalize store.applyTwo (.set ⟨scope, some username, some password⟩)
        (.setAuthMode scope.id .basic) = out at hstatus hstore houtcome
      have hlogin : login.1 = statusOf out.1 := hstatus
      have hafter : login.2.1 = out.2 := hstore
      rw [hlogin, hafter]
      rcases houtcome with ⟨hfails, ⟨cause, hfault⟩, hspared⟩ |
        ⟨hfirst, hsecond, ⟨cause, hfault⟩, hcontents, -⟩ | ⟨hfirst, hsecond, hok, hcontents⟩
      · refine .inl ⟨fun h => h.2 hfails, ?_, hspared⟩
        rw [hfault]
        exact Fault.status_ne_authenticated (.storage cause)
      · refine .inr (.inl ⟨hconfirmed, hfirst, hsecond, ?_, hcontents, ?_⟩)
        · rw [hfault]
          rfl
        · rw [hcontents]
          refine Contents.credential?_of_own ?_
          simp [Store.Change.next, Contents.token?, Contents.setToken, KeyMap.get?_insert,
            Contents.tokenOf, ScopedToken.credential?]
      · refine .inr (.inr ⟨hconfirmed, hfirst, hsecond, ?_, hcontents⟩)
        rw [hok]
        rfl
    · obtain ⟨hstatus, hstore⟩ := authenticate_of_not_confirms hconfirmed scope store
      refine .inl ⟨fun h => hconfirmed h.1, hstatus, ?_⟩
      rw [show login.2.1 = store from hstore]
      exact ⟨rfl, rfl, rfl⟩
  · rw [logout_eq_applyTwo]
    rcases store.applyTwo_outcome (.delete scope.id) (.clearAuthMode scope.id) with
      ⟨hfails, -, hspared⟩ | ⟨hfirst, hsecond, -, hcontents, -⟩ | ⟨hfirst, hsecond, -, hcontents⟩
    · exact .inl ⟨hfails, hspared⟩
    · exact .inr (.inl ⟨hfirst, hsecond, hcontents⟩)
    · exact .inr (.inr ⟨hfirst, hsecond, hcontents⟩)

/-- A store in a file of which the second write fails, with the given contents. -/
def blockedSecond (contents : Contents) : Store :=
  ⟨some { StateFile.new "credentials.json" .missing with
      obstacles := fun n => if n = 1 then some (.write "No space left on device") else none },
    contents, []⟩

/-- A network in which every request is answered with status 200. -/
def agreeable : Network :=
  ⟨none, fun _ _ => .reply ⟨200, [], true, false⟩, fun _ _ => .reply ⟨200, [], true, false⟩,
    fun _ _ => [], fun _ _ => .fails "", []⟩

/-- **A login and a logout that stop halfway.**  The service confirms the login and the second write
fails: the status is an unknown error, the store has changed, and the password is the credential of
the scope.  After a login that went well, a logout of which the second write fails leaves the marker
and not the token. -/
theorem password_login_stops_halfway :
    let scope : Scope := ⟨"logbook", "Logbook"⟩
    let login := authenticate scope (urlOf "http://logbook") "alice" "secret"
      (blockedSecond .empty) agreeable
    let stored := (Contents.empty.setToken ⟨scope, some "alice", some "secret"⟩).setValue
      (Contents.modeKey "logbook") AuthMode.basic.marker
    (login.1 = .unknownError ∧ login.2.1.contents ≠ Contents.empty ∧
        login.2.1.contents.authMode? "logbook" = none ∧
        login.2.1.contents.credential? "logbook" = some (.basic "alice" "secret")) ∧
      (logout scope (blockedSecond stored)).contents.token? "logbook" = none ∧
        (logout scope (blockedSecond stored)).contents.authMode? "logbook" = some .basic := by
  decide +kernel

end PasswordLogin

end SignOn
