import SignOn.Proofs.Service.SignOut
import SignOn.Proofs.Token.TransparentCache
/-!
# The credential after a login

A login that succeeds has confirmed something: user name and password by the service itself, or the
stored bearer token by the key of the identity provider.  What clients send from then on is computed
from the store, where a user name and password of the scope come first and the bearer token second
(`Contents.credential?`).

After a login with user name and password the two agree, since the login puts them into the store.
After a login with the bearer token they agree unless the scope has a user name and password of its
own, left from a time when the service took them: these go first, whatever was confirmed
(`credential_of_login`, `login_confirms_other_credential`).
-/

namespace SignOn

/-- No fault is reported as a success. -/
theorem Fault.status_ne_authenticated (fault : Fault) : fault.status ≠ .authenticated := by
  unfold Fault.status
  split <;> simp

namespace Contents

/-- User name and password of a scope are its credential. -/
theorem credential?_of_own {c : Contents} {id : String} {own : Credential}
    (h : (c.token? id).bind ScopedToken.credential? = some own) : c.credential? id = some own := by
  unfold token? at h
  unfold credential?
  rcases hscope : c.scopes.get? id with _ | ⟨name, _ | username, _ | password⟩ <;>
    simp_all [tokenOf, ScopedToken.credential?]

/-- The credential of a scope that was last authenticated with the bearer token: its own user name
and password before the token. -/
theorem credential?_of_marked {c : Contents} {id : String} {token : BearerToken}
    (hmode : c.authMode? id = some .oauth2) (htoken : c.bearer? = some token) :
    c.credential? id = some (((c.token? id).bind ScopedToken.credential?).getD
      (.bearer token.accessToken)) := by
  cases hown : (c.token? id).bind ScopedToken.credential? with
  | some own => exact credential?_of_own hown
  | none =>
      unfold token? at hown
      unfold credential?
      rcases hscope : c.scopes.get? id with _ | ⟨name, _ | username, _ | password⟩ <;>
        simp_all [tokenOf, ScopedToken.credential?]

/-- A marker is read back. -/
theorem authMode?_setMode (c : Contents) (id : String) (mode : AuthMode) :
    (c.setValue (modeKey id) mode.marker).authMode? id = some mode := by
  simp [authMode?, setValue, KeyMap.get?_insert, AuthMode.ofMarker?_marker]

/-- Contents with the same two token keys hold the same bearer token. -/
theorem SameBearer.bearer?_eq {before after : Contents} (h : SameBearer before after) :
    after.bearer? = before.bearer? := by
  unfold bearer?
  rw [h.1, h.2]

end Contents

/-- A change that is reported as made is made. -/
theorem Store.contents_of_ok {s : Store} {c : Store.Change} (h : (s.apply c).1 = .ok ()) :
    (s.apply c).2.contents = c.next s.contents := by
  rcases s.apply_cases c with ⟨-, hcontents, -⟩ | ⟨cause, hfault, -⟩
  · exact hcontents
  · rw [h] at hfault
    cases hfault

namespace PasswordLogin

/-- The service itself confirms user name and password: it answers the login with status 200. -/
def Confirms (loginUrl username password : String) (net : Network) : Prop :=
  ∃ request reply after,
    Http.buildText .post (some (body username password)) loginUrl = .ok request ∧
      net.send request = (.reply reply, after) ∧ reply.status = 200

/-- A verdict that is good comes from a reply of status 200. -/
theorem verdict_eq_ok {loginUrl username : String} {result : Except Http.Failure Http.Reply}
    (h : verdict loginUrl username result = .ok ()) :
    ∃ reply, result = .ok reply ∧ reply.status = 200 := by
  unfold verdict at h
  split at h
  · cases h
  · next reply =>
    by_cases hstatus : reply.status = 200
    · exact ⟨reply, rfl, hstatus⟩
    · rw [if_neg hstatus] at h
      split at h <;> cases h

/-- A good verdict on the answer to a login confirms it. -/
theorem confirms_of_verdict {loginUrl username password : String} {net : Network}
    (h : verdict loginUrl username
      (net.fetch (Http.buildText .post (some (body username password)) loginUrl)).1 = .ok ()) :
    Confirms loginUrl username password net := by
  obtain ⟨reply, hfetch, hstatus⟩ := verdict_eq_ok h
  obtain ⟨request, hbuild, hsend⟩ := Network.fetch_eq_ok_iff.mp (Prod.ext hfetch rfl)
  exact ⟨request, reply, _, hbuild, hsend, hstatus⟩

/-- Credentials that are kept are in the store, with the marker of their scope. -/
theorem contents_keep {scope : Scope} {username password : String} {store : Store}
    (h : (keep scope username password store).1 = .ok ()) :
    (keep scope username password store).2.contents =
      (store.contents.setToken ⟨scope, some username, some password⟩).setValue
        (Contents.modeKey scope.id) AuthMode.basic.marker := by
  unfold keep at h ⊢
  have hset : (store.set ⟨scope, some username, some password⟩).1 = .ok () →
      (store.set ⟨scope, some username, some password⟩).2.contents =
        store.contents.setToken ⟨scope, some username, some password⟩ :=
    @Store.contents_of_ok store (.set ⟨scope, some username, some password⟩)
  cases hcall : store.set ⟨scope, some username, some password⟩ with
  | mk result kept =>
      rw [hcall] at hset h
      cases result with
      | error fault => cases h
      | ok done =>
          have hkept : kept.contents =
              store.contents.setToken ⟨scope, some username, some password⟩ := hset rfl
          have hmarked : (kept.setAuthMode scope.id .basic).2.contents =
              kept.contents.setValue (Contents.modeKey scope.id) AuthMode.basic.marker :=
            @Store.contents_of_ok kept (.setAuthMode scope.id .basic) h
          simp only [hmarked, hkept]

/-- **A login with user name and password that succeeds** was confirmed, and they are the credential
of the scope from then on. -/
theorem credential_of_authenticate {scope : Scope} {loginUrl username password : String}
    {store : Store} {net : Network}
    (h : (authenticate scope loginUrl username password store net).1 = .authenticated) :
    Confirms loginUrl username password net ∧
      (authenticate scope loginUrl username password store net).2.1.contents.credential? scope.id =
        some (.basic username password) := by
  have hconfirms := @confirms_of_verdict loginUrl username password net
  have hkeep := @contents_keep scope username password store
  unfold authenticate login at h ⊢
  simp only at h ⊢
  cases hfetch : net.fetch (Http.buildText .post (some (body username password)) loginUrl) with
  | mk result after =>
      rw [hfetch] at hconfirms h
      cases hverdict : verdict loginUrl username result with
      | error fault =>
          simp only [hverdict] at h
          exact (fault.status_ne_authenticated h).elim
      | ok done =>
          simp only [hverdict] at h ⊢
          cases hkept : keep scope username password store with
          | mk made store' =>
              rw [hkept] at hkeep h
              cases made with
              | error fault => exact (fault.status_ne_authenticated h).elim
              | ok done =>
                  refine ⟨hconfirms hverdict, Contents.credential?_of_own ?_⟩
                  rw [show store'.contents = _ from hkeep rfl]
                  simp [Contents.token?, Contents.setValue, Contents.setToken, KeyMap.get?_insert,
                    Contents.tokenOf, ScopedToken.credential?]

end PasswordLogin

namespace BearerLogin

/-- **A login with the bearer token that succeeds** has judged the stored token genuine, and this
token is the credential of the scope from then on unless the scope has its own. -/
theorem credential_of_authenticate {scope : Scope} {v : Validator} {now : Moment} {store : Store}
    {net : Network} (h : (authenticate scope v now store net).1 = .authenticated) :
    ∃ token, store.contents.bearer? = some token ∧ v.Vouches now token.accessToken net ∧
      (authenticate scope v now store net).2.2.1.contents.credential? scope.id =
        some (((store.contents.token? scope.id).bind ScopedToken.credential?).getD
          (.bearer token.accessToken)) := by
  obtain ⟨hfair, -, hmarked⟩ := fair_authenticate scope v now store net
  have hcontents := hmarked h
  cases htoken : store.contents.bearer? with
  | none =>
      simp only [authenticate, htoken] at h
      cases h
  | some token =>
      refine ⟨token, rfl, ?_, ?_⟩
      · -- The other two verdicts end in another status.
        rcases v.validate_verdict now token.accessToken net with
          ⟨hvouches, -⟩ | ⟨-, reason, hresult⟩ | ⟨-, fault, hresult⟩
        · exact hvouches
        all_goals
          cases hvalidate : v.validate now token.accessToken net with
          | mk result rest =>
              rw [hvalidate] at hresult
              cases hresult
              simp only [authenticate, htoken, hvalidate] at h
              cases h
      · have hsame := store.contents.sameBearer_setMode scope.id AuthMode.oauth2.marker
        rw [hcontents]
        exact Contents.credential?_of_marked (Contents.authMode?_setMode _ _ _)
          (hsame.bearer?_eq.trans htoken)

/-- A token that is accepted is noted in a store that has no file to fail. -/
theorem authenticate_of_ok {scope : Scope} {v : Validator} {now : Moment} {store : Store}
    {net : Network} {token : BearerToken} {claims : Verified} (hfile : store.file = none)
    (htoken : store.contents.bearer? = some token)
    (hok : (v.validate now token.accessToken net).1 = .ok claims) :
    (authenticate scope v now store net).1 = .authenticated := by
  cases hcall : v.validate now token.accessToken net with
  | mk result rest =>
      rw [hcall] at hok
      obtain rfl : result = .ok claims := hok
      simp only [authenticate, htoken, hcall, accept, Store.setAuthMode, Store.setValue,
        Store.commit, hfile]

end BearerLogin

namespace Service

/-- What a successful login with a provider has confirmed, and the credential of its scope
afterwards. -/
def Confirmed (s : Service) (now : Moment) (username password : String) (net : Network)
    (after : Option Credential) : Provider → Prop
  | .basic _ loginUrl =>
    PasswordLogin.Confirms loginUrl username password net ∧ after = some (.basic username password)
  | .bearer scope =>
    ∃ b token, s.browser = some b ∧ s.store.contents.bearer? = some token ∧
      b.validator.Vouches now token.accessToken net ∧
      after = some (((s.store.contents.token? scope.id).bind ScopedToken.credential?).getD
        (.bearer token.accessToken))
  | .undetermined _ => False

/-- A login to a service that takes user name and password is one at the service itself. -/
theorem login_basic {s : Service} {scope : Scope} {loginUrl id : String}
    (hprovider : s.provider? id = some (.basic scope loginUrl)) (now : Moment)
    (username password : String) (net : Network) :
    let login := PasswordLogin.authenticate scope loginUrl username password s.store net
    (s.login now id username password net).1 = login.1 ∧
      (s.login now id username password net).2.1.store = login.2.1 := by
  simp only [login, hprovider, authenticate, and_self]

/-- A login to a service that needs the bearer token is one with the stored token. -/
theorem login_bearer {s : Service} {b : BrowserLogin} {scope : Scope} {id : String}
    (hprovider : s.provider? id = some (.bearer scope)) (hbrowser : s.browser = some b)
    (now : Moment) (username password : String) (net : Network) :
    let login := BearerLogin.authenticate scope b.validator now s.store net
    (s.login now id username password net).1 = login.1 ∧
      (s.login now id username password net).2.1.store = login.2.2.1 := by
  simp only [login, hprovider, authenticate, hbrowser, and_self]

/-- **What was confirmed is what clients send**, but for a user name and password of the scope's
own.  A login to a service that takes user name and password succeeds only if the service has
confirmed them, and then they are the credential of its scope.  A login to a service that needs the
bearer token succeeds only if the stored token was judged genuine just then, and this token is the
credential of the scope unless the scope has a user name and password in the store: then these are,
as they were. -/
theorem credential_of_login {s : Service} {now : Moment} {id username password : String}
    {net : Network} (h : (s.login now id username password net).1 = .authenticated) :
    ∃ p, s.provider? id = some p ∧ s.Confirmed now username password net
      ((s.login now id username password net).2.1.store.contents.credential? id) p := by
  cases hprovider : s.provider? id with
  | none =>
      simp only [login, hprovider] at h
      cases h
  | some p =>
      have hid : p.scope.id = id := by simpa using List.find?_some hprovider
      subst hid
      refine ⟨p, rfl, ?_⟩
      cases p with
      | basic scope loginUrl =>
          obtain ⟨hstatus, hstore⟩ := login_basic hprovider now username password net
          rw [hstatus] at h
          rw [hstore]
          exact PasswordLogin.credential_of_authenticate h
      | undetermined scope =>
          simp only [login, hprovider] at h
          cases h
      | bearer scope =>
          cases hbrowser : s.browser with
          | none =>
              simp only [login, hprovider, authenticate, hbrowser] at h
              cases h
          | some b =>
              obtain ⟨hstatus, hstore⟩ :=
                login_bearer hprovider hbrowser now username password net
              rw [hstatus] at h
              rw [hstore]
              obtain ⟨token, htoken, hvouches, hcredential⟩ :=
                BearerLogin.credential_of_authenticate h
              exact ⟨b, token, hbrowser, htoken, hvouches, hcredential⟩

/-- A store in memory that holds a bearer token without an id token, and nothing else. -/
def holding (access : String) : Store :=
  (Store.inMemory.setBearer ⟨access, none⟩).2

/-- The store with a user name and password of the scope besides, left from an earlier time. -/
def holdingLeftover (access : String) : Store :=
  ((holding access).set ⟨⟨"alarms", "Alarms"⟩, some "alice", some "secret"⟩).2

/-- What the first store holds. -/
theorem contents_holding (access : String) :
    (holding access).contents.bearer? = some ⟨access, none⟩ ∧
      (holding access).contents.token? "alarms" = none :=
  ⟨rfl, rfl⟩

/-- What the second store holds. -/
theorem contents_holdingLeftover (access : String) :
    (holdingLeftover access).contents.bearer? = some ⟨access, none⟩ ∧
      (holdingLeftover access).contents.token? "alarms" =
        some ⟨⟨"alarms", "Alarms"⟩, some "alice", some "secret"⟩ :=
  ⟨rfl, rfl⟩

/-- Until the fitted token expires, a login with it succeeds at the provider that has published its
key, and clients send that token afterwards unless the scope has its own credential. -/
theorem login_fitted {now : Moment} (hnow : now.unix < 4102444800) {store : Store}
    (hfile : store.file = none)
    (htoken : store.contents.bearer? = some ⟨Token.fittedJwt, none⟩) :
    let login := (alarms store).login now "alarms" "bob" "other" (Token.fittedNetwork [])
    login.1 = .authenticated ∧ login.2.1.store.contents.credential? "alarms" =
      some (((store.contents.token? "alarms").bind ScopedToken.credential?).getD
        (.bearer Token.fittedJwt)) := by
  obtain ⟨b, hbrowser, hissuer⟩ :
      ∃ b, (alarms store).browser = some b ∧ b.validator.issuer = "http://idp" := ⟨_, rfl, rfl⟩
  obtain ⟨claims, hverdict⟩ := Validator.freshVerdict_fittedJwt hnow
  rw [← hissuer] at hverdict
  have hprovider : (alarms store).provider? "alarms" = some (.bearer ⟨"alarms", "alarms"⟩) := rfl
  have hsame : (alarms store).store = store := rfl
  obtain ⟨hstatus, hstore⟩ :=
    login_bearer hprovider hbrowser now "bob" "other" (Token.fittedNetwork [])
  rw [hsame] at hstatus hstore
  have hlogin := @BearerLogin.authenticate_of_ok ⟨"alarms", "alarms"⟩ _ _ _ _ _ _ hfile htoken
    (Validator.validate_of_freshVerdict hverdict)
  obtain ⟨token, htoken', -, hcredential⟩ := BearerLogin.credential_of_authenticate hlogin
  rw [htoken] at htoken'
  cases htoken'
  simp only
  rw [hstatus, hstore]
  exact ⟨hlogin, hcredential⟩

/-- After a login with the bearer token clients send that token. -/
theorem credential_of_login_fitted :
    let login := (alarms (holding Token.fittedJwt)).login ⟨1750000000, 0⟩ "alarms" "bob" "other"
      (Token.fittedNetwork [])
    login.1 = .authenticated ∧
      login.2.1.store.contents.credential? "alarms" = some (.bearer Token.fittedJwt) := by
  obtain ⟨htoken, hnone⟩ := contents_holding Token.fittedJwt
  obtain ⟨hlogin, -⟩ := @login_fitted ⟨1750000000, 0⟩ (by decide) _ rfl htoken
  obtain ⟨p, hp, hconfirmed⟩ := credential_of_login hlogin
  have hprovider : (alarms (holding Token.fittedJwt)).provider? "alarms" =
      some (.bearer ⟨"alarms", "alarms"⟩) := rfl
  have hsame : (alarms (holding Token.fittedJwt)).store = holding Token.fittedJwt := rfl
  rw [hprovider] at hp
  cases hp
  obtain ⟨b, token, -, htoken', -, hcredential⟩ := hconfirmed
  rw [hsame, htoken] at htoken'
  cases htoken'
  rw [hsame] at hcredential
  simp only [hnone, Option.bind_none, Option.getD_none] at hcredential
  exact ⟨hlogin, hcredential⟩

/-- **A login confirms one credential and clients send another.**  The bearer token is judged
genuine, and clients send the user name and password that were left in the store. -/
theorem login_confirms_other_credential :
    let s := alarms (holdingLeftover Token.fittedJwt)
    let login := s.login ⟨1750000000, 0⟩ "alarms" "bob" "other" (Token.fittedNetwork [])
    login.1 = .authenticated ∧ s.store.contents.bearer? = some ⟨Token.fittedJwt, none⟩ ∧
      login.2.1.store.contents.credential? "alarms" = some (.basic "alice" "secret") := by
  obtain ⟨htoken, hown⟩ := contents_holdingLeftover Token.fittedJwt
  obtain ⟨hlogin, hcredential⟩ := @login_fitted ⟨1750000000, 0⟩ (by decide) _ rfl htoken
  rw [hown] at hcredential
  exact ⟨hlogin, htoken, hcredential⟩

end Service

end SignOn
