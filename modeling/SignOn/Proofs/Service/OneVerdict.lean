import SignOn.Proofs.Service.Operations
import SignOn.Proofs.Service.PasswordWrites
import SignOn.Proofs.Token.RepeatedChecks
/-!
# One token, one verdict

A login to all services checks the bearer token once for each service that uses it, and each check
may change what the next one finds: a key is kept, a refused token is removed, a marker is made.
While the provider answers in one way and the writes of the store end alike, none of this changes
the verdict (`BearerLogin.verdict_again`).  A removed token is as good as a refused one, since a
login without a token is reported like one with a refused token.

So the verdict is settled before the first service is asked (`Poised`), and logins with user name
and password do not disturb it.  The main statement is `one_verdict`.
-/

namespace SignOn

namespace Parts

/-- Frames of one place compose. -/
theorem SameBut.trans {p q r : Parts} {place : Place} (h : p.SameBut q place)
    (h' : q.SameBut r place) : p.SameBut r place := by
  cases place with
  | scope id =>
      obtain ⟨hscopes, hbearer, hfree⟩ := h
      obtain ⟨hscopes', hbearer', hfree'⟩ := h'
      refine ⟨fun other hne => ?_, hbearer'.trans hbearer, hfree'.trans hfree⟩
      exact ⟨(hscopes' other hne).1.trans (hscopes other hne).1,
        (hscopes' other hne).2.trans (hscopes other hne).2⟩
  | allScopes => exact ⟨h'.1.trans h.1, h'.2.trans h.2⟩
  | bearer => exact ⟨h'.1.trans h.1, h'.2.1.trans h.2.1, h'.2.2.trans h.2.2⟩
  | free key =>
      obtain ⟨htoken, hmarker, hbearer, hfree⟩ := h
      obtain ⟨htoken', hmarker', hbearer', hfree'⟩ := h'
      exact ⟨htoken'.trans htoken, hmarker'.trans hmarker, hbearer'.trans hbearer,
        fun other hne => (hfree' other hne).trans (hfree other hne)⟩

/-- Changes in one place touch nothing else. -/
theorem sameBut_run {place : Place} (changes : List Store.Change) : ∀ s : Store,
    (∀ c ∈ changes, c.place = place) →
      (of s.contents).SameBut (of (s.run changes).contents) place := by
  induction changes with
  | nil => exact fun s _ => sameBut_refl _ _
  | cons c changes ih =>
      intro s hplace
      obtain ⟨hc, hrest⟩ := List.forall_mem_cons.mp hplace
      exact (hc ▸ sameBut_apply s c).trans (ih _ hrest)

end Parts

/-- A login with user name and password makes two changes at most, both in its scope. -/
theorem PasswordLogin.authenticate_run (scope : Scope) (loginUrl username password : String)
    (store : Store) (net : Network) : ∃ changes : List Store.Change,
    (authenticate scope loginUrl username password store net).2.1 = store.run changes ∧
      changes.length ≤ 2 ∧ ∀ c ∈ changes, c.place = .scope scope.id := by
  by_cases hconfirms : Confirms loginUrl username password net
  · obtain ⟨-, hstore⟩ := authenticate_of_confirms hconfirms scope store
    rw [hstore, keep_eq_applyTwo]
    rcases store.applyTwo_run (.set ⟨scope, some username, some password⟩)
      (.setAuthMode scope.id .basic) with hone | hboth
    · exact ⟨_, hone, by simp, by simp [Store.Change.place]⟩
    · exact ⟨_, hboth, by simp, by simp [Store.Change.place]⟩
  · obtain ⟨-, hstore⟩ := authenticate_of_not_confirms hconfirms scope store
    exact ⟨[], hstore, by simp, by simp⟩

/-- A login with user name and password leaves its traces on the network and nothing else. -/
theorem PasswordLogin.authenticate_seen (scope : Scope) (loginUrl username password : String)
    (store : Store) (net : Network) :
    ∃ seen, (authenticate scope loginUrl username password store net).2.2 = { net with seen } := by
  rw [authenticate_eq]
  exact net.fetch_snd (request loginUrl username password)

namespace BearerLogin

/-- The status of a login with the stored token, from the result of its check and whether the marker
can be written. -/
def statusOf (written : Bool) : Except Fault Verified → Status
  | .ok _ => if written then .authenticated else .unknownError
  | .error (.token _) => .undetermined
  | .error fault => fault.status

/-- The verdict on the stored token.  It is about no scope. -/
def verdict (written : Bool) (v : Validator) (now : Moment) (store : Store) (net : Network) :
    Status :=
  match store.contents.bearer? with
  | none => .undetermined
  | some token => statusOf written (v.validate now token.accessToken net).1

section

variable {written : Bool} {v : Validator} {now : Moment} {store : Store} {net : Network}

theorem verdict_of_none (h : store.contents.bearer? = none) :
    verdict written v now store net = .undetermined := by
  simp only [verdict, h]

theorem verdict_of_some {token : BearerToken} (h : store.contents.bearer? = some token) :
    verdict written v now store net =
      statusOf written (v.validate now token.accessToken net).1 := by
  simp only [verdict, h]

/-- A login makes one change at most: the marker of its scope, or the removal of the token. -/
theorem authenticate_run (scope : Scope) (v : Validator) (now : Moment) (store : Store)
    (net : Network) : ∃ changes : List Store.Change,
    (authenticate scope v now store net).2.2.1 = store.run changes ∧
      (changes = [] ∨ changes = [.setAuthMode scope.id .oauth2] ∨ changes = [.clearBearer]) := by
  cases htoken : store.contents.bearer? with
  | none => exact ⟨[], by simp only [authenticate, htoken]; rfl, .inl rfl⟩
  | some token =>
      cases hcheck : v.validate now token.accessToken net with
      | mk result rest =>
          cases result with
          | ok claims =>
              refine ⟨_, ?_, .inr (.inl rfl)⟩
              simp only [authenticate, htoken, hcheck, accept]
              have hset : store.run [.setAuthMode scope.id .oauth2] =
                (store.setAuthMode scope.id .oauth2).2 := rfl
              rw [hset]
              cases store.setAuthMode scope.id .oauth2 with
              | mk made marked => cases made <;> rfl
          | error fault =>
              cases fault with
              | token reason =>
                  exact ⟨_, by simp only [authenticate, htoken, hcheck]; rfl, .inr (.inr rfl)⟩
              | _ => exact ⟨[], by simp only [authenticate, htoken, hcheck]; rfl, .inl rfl⟩

/-- What a login leaves of the validator and of the network. -/
theorem authenticate_leaves (scope : Scope) (v : Validator) (now : Moment) (store : Store)
    (net : Network) :
    (∃ kept, (authenticate scope v now store net).2.1 = { v with kept }) ∧
      ∃ seen, (authenticate scope v now store net).2.2.2 = { net with seen } := by
  cases htoken : store.contents.bearer? with
  | none =>
      simp only [authenticate, htoken]
      exact ⟨⟨v.kept, rfl⟩, net.seen, rfl⟩
  | some token =>
      have hkept := v.settings_validate now token.accessToken net
      have hseen := v.validate_seen now token.accessToken net
      cases hcheck : v.validate now token.accessToken net with
      | mk result rest =>
          rw [hcheck] at hkept hseen
          cases result with
          | ok claims =>
              simp only [authenticate, htoken, hcheck]
              exact ⟨hkept, hseen⟩
          | error fault =>
              cases fault <;> simp only [authenticate, htoken, hcheck] <;> exact ⟨hkept, hseen⟩

/-- An accepted token is reported by whether the marker can be written. -/
theorem accept_status {writes : Nat} (h : store.Uniform written (writes + 1)) (scope : Scope)
    (claims : Verified) : (accept scope store).1 = statusOf written (.ok claims) := by
  obtain ⟨-, hend⟩ := h.apply (.setAuthMode scope.id .oauth2)
  have hset : store.apply (.setAuthMode scope.id .oauth2) =
    store.setAuthMode scope.id .oauth2 := rfl
  rw [hset] at hend
  unfold accept
  cases hmarked : store.setAuthMode scope.id .oauth2 with
  | mk made marked =>
      rw [hmarked] at hend
      rcases hend with ⟨rfl, rfl, -⟩ | ⟨rfl, cause, rfl, -⟩ <;> rfl

/-- The marker of an accepted token leaves the token alone. -/
theorem bearer?_accept (scope : Scope) (store : Store) :
    (accept scope store).2.contents.bearer? = store.contents.bearer? := by
  rcases accept_cases scope store with ⟨-, hcontents⟩ | ⟨-, hcontents⟩
  · rw [hcontents, (store.contents.sameBearer_setMode scope.id _).bearer?_eq]
  · rw [hcontents]

/-- A removed token is as good as a refused one: whether or not the removal succeeds, the verdict is
that nothing is determined. -/
theorem verdict_clearBearer {writes : Nat} (h : store.Uniform written (writes + 1))
    {token : BearerToken} (htoken : store.contents.bearer? = some token) {reason : TokenFault}
    (hcheck : (v.validate now token.accessToken net).1 = .error (.token reason)) :
    verdict written v now store.clearBearer.2 net = .undetermined := by
  obtain ⟨-, hend⟩ := h.apply .clearBearer
  have hclear : store.apply .clearBearer = store.clearBearer := rfl
  rw [hclear] at hend
  rcases hend with ⟨-, -, hcontents⟩ | ⟨-, cause, -, hcontents⟩
  · refine verdict_of_none ?_
    rw [hcontents]
    exact store.contents.bearer?_eraseBearer
  · have hsame := (congrArg Contents.bearer? hcontents).trans htoken
    rw [verdict_of_some hsame, hcheck]
    rfl

/-- **A login reports the verdict and leaves it as it is**, for the next login at whatever scope. -/
theorem verdict_again {provider : String → Http.Answer} {net' : Network} {writes : Nat}
    (h : net.Steady v.issuer provider) (h' : net'.Steady v.issuer provider)
    (hwrites : store.Uniform written (writes + 1)) (scope : Scope) (now : Moment) :
    let login := authenticate scope v now store net
    login.1 = verdict written v now store net ∧
      verdict written login.2.1 now login.2.2.1 net' = verdict written v now store net := by
  intro login
  cases htoken : store.contents.bearer? with
  | none =>
      have hlogin : login = (.undetermined, v, store, net) := by
        simp only [login, authenticate, htoken]
      rw [hlogin, verdict_of_none htoken]
      exact ⟨rfl, verdict_of_none htoken⟩
  | some token =>
      have hagain := Validator.validate_again h h' now token.accessToken
      rw [verdict_of_some htoken]
      cases hcheck : v.validate now token.accessToken net with
      | mk result rest =>
          obtain ⟨v', after⟩ := rest
          rw [hcheck] at hagain
          cases result with
          | ok claims =>
              have hlogin : login =
                  ((accept scope store).1, v', (accept scope store).2, after) := by
                simp only [login, authenticate, htoken, hcheck]
              -- The marker leaves the token alone, so the next check is of the same token.
              have hsame := (bearer?_accept scope store).trans htoken
              rw [hlogin]
              exact ⟨accept_status hwrites scope claims, by rw [verdict_of_some hsame, hagain]⟩
          | error fault =>
              cases fault with
              | token reason =>
                  have hlogin : login = (.undetermined, v', store.clearBearer.2, after) := by
                    simp only [login, authenticate, htoken, hcheck]
                  rw [hlogin]
                  exact ⟨rfl, verdict_clearBearer hwrites htoken hagain⟩
              | _ =>
                  simp only [login, authenticate, htoken, hcheck]
                  exact ⟨rfl, by rw [verdict_of_some htoken, hagain]⟩

end

end BearerLogin

namespace Service

/-- The verdict of a service on the stored bearer token. -/
def bearerVerdict (s : Service) (written : Bool) (now : Moment) (net : Network) : Status :=
  match s.browser with
  | none => .undetermined
  | some b => BearerLogin.verdict written b.validator now s.store net

/-- The verdict is settled: the provider is steady, and the verdict is `status` whatever arrives. -/
structure Poised (provider : String → Http.Answer) (written : Bool) (now : Moment)
    (status : Status) (s : Service) (net : Network) : Prop where
  steady (b : BrowserLogin) (h : s.browser = some b) : net.Steady b.validator.issuer provider
  verdict (seen : List Arrival) : s.bearerVerdict written now { net with seen } = status

/-- All services that use the bearer token have got one verdict; if the token was accepted, then it
is still there, and each of these services is marked. -/
structure OneVerdict (verdict : Status) (before : Service) (reports : List (Scope × Status))
    (after : Service) : Prop where
  reported (id : String) (h : before.config.usesBearer id = true) : ∃ r ∈ reports, r.1.id = id
  alike : ∀ r ∈ reports, before.config.usesBearer r.1.id = true → r.2 = verdict
  bearer (h : verdict = .authenticated) :
    Contents.SameBearer before.store.contents after.store.contents
  marked (h : verdict = .authenticated) (id : String) (hid : before.config.usesBearer id = true) :
    after.store.contents.authMode? id = some .oauth2

section

variable {provider : String → Http.Answer} {written : Bool} {now : Moment} {status : Status}
  {s : Service} {net : Network}

/-- At a steady provider the verdict is settled. -/
theorem poised_of_steady
    (h : ∀ b, s.browser = some b → net.Steady b.validator.issuer provider) :
    s.Poised provider written now (s.bearerVerdict written now net) net := by
  refine ⟨h, fun seen => ?_⟩
  unfold bearerVerdict
  cases hbrowser : s.browser with
  | none => rfl
  | some b =>
      have hsteady := h b hbrowser
      simp only [BearerLogin.verdict]
      split
      · rfl
      · rw [Validator.validate_congr (hsteady.seen seen) hsteady]

/-- Without the browser login the verdict is that nothing is determined. -/
theorem Poised.undetermined (h : s.Poised provider written now status net)
    (hnone : s.browser = none) : status = .undetermined := by
  have hverdict := h.verdict net.seen
  rw [bearerVerdict, hnone] at hverdict
  exact hverdict.symm

/-- The verdict stays settled while validator and token are what they were. -/
theorem Poised.of_same {s' : Service} (h : s.Poised provider written now status net)
    (hbrowser : s'.browser = s.browser)
    (hbearer : s'.store.contents.bearer? = s.store.contents.bearer?) (seen : List Arrival) :
    s'.Poised provider written now status { net with seen } := by
  refine ⟨fun b hb => (h.steady b (hbrowser ▸ hb)).seen seen, fun seen' => ?_⟩
  rw [← h.verdict seen', bearerVerdict, bearerVerdict, hbrowser]
  cases s.browser with
  | none => rfl
  | some b => simp only [BearerLogin.verdict, hbearer]

/-- What a login with a provider may do to the store: two changes at most, in its scope, or the
removal of the token. -/
theorem authenticate_run (s : Service) (now : Moment) (p : Provider)
    (username password : String) (net : Network) : ∃ changes place,
    (s.authenticate now p username password net).2.1.store = s.store.run changes ∧
      changes.length ≤ 2 ∧ (∀ c ∈ changes, c.place = place) ∧
      (place = .scope p.scope.id ∨ (p.isBearer = true ∧ place = .bearer)) := by
  cases p with
  | basic scope loginUrl =>
      obtain ⟨changes, hstore, hlength, hplace⟩ :=
        PasswordLogin.authenticate_run scope loginUrl username password s.store net
      exact ⟨changes, _, hstore, hlength, hplace, .inl rfl⟩
  | undetermined scope => exact ⟨[], _, rfl, by simp, by simp, .inl rfl⟩
  | bearer scope =>
      cases hbrowser : s.browser with
      | none =>
          simp only [authenticate, hbrowser]
          exact ⟨[], _, rfl, by simp, by simp, .inl rfl⟩
      | some b =>
          simp only [authenticate, hbrowser]
          obtain ⟨changes, hstore, rfl | rfl | rfl⟩ :=
            BearerLogin.authenticate_run scope b.validator now s.store net
          · exact ⟨[], _, hstore, by simp, by simp, .inl rfl⟩
          · exact ⟨_, .scope scope.id, hstore, by simp, by simp [Store.Change.place], .inl rfl⟩
          · exact ⟨_, .bearer, hstore, by simp, by simp [Store.Change.place], .inr ⟨rfl, rfl⟩⟩

/-- A login leaves the markers of other scopes alone, and one that takes user name and password
leaves the bearer token alone. -/
theorem parts_authenticate (s : Service) (now : Moment) (p : Provider)
    (username password : String) (net : Network) :
    let after := (s.authenticate now p username password net).2.1
    (∀ id, id ≠ p.scope.id →
        (Parts.of after.store.contents).marker id = (Parts.of s.store.contents).marker id) ∧
      (p.isBearer = false →
        (Parts.of after.store.contents).bearer = (Parts.of s.store.contents).bearer) := by
  intro after
  obtain ⟨changes, place, hstore, -, hplace, hwhere⟩ :=
    s.authenticate_run now p username password net
  have hsame := Parts.sameBut_run changes s.store hplace
  rw [← hstore] at hsame
  rcases hwhere with rfl | ⟨hbearer, rfl⟩
  · exact ⟨fun id hid => (hsame.1 id hid).2, fun _ => hsame.2.1⟩
  · exact ⟨fun id _ => congrFun hsame.2.1 id, fun hno => nomatch hbearer.symm.trans hno⟩

/-- **One login reports the settled verdict and leaves it settled.** -/
theorem poised_authenticate {writes : Nat} (h : s.Poised provider written now status net)
    (hwrites : s.store.Uniform written (writes + 2)) (p : Provider)
    (username password : String) :
    let login := s.authenticate now p username password net
    (p.isBearer = true → login.1 = status) ∧
      login.2.1.Poised provider written now status login.2.2 ∧
      login.2.1.store.Uniform written writes := by
  intro login
  have huniform : login.2.1.store.Uniform written writes := by
    obtain ⟨changes, place, hstore, hlength, -⟩ :=
      s.authenticate_run now p username password net
    rw [show login.2.1.store = _ from hstore]
    exact Store.Uniform.run changes (hwrites.mono (Nat.add_le_add_left hlength writes))
  cases p with
  | basic scope loginUrl =>
      obtain ⟨-, hbearer⟩ := s.parts_authenticate now (.basic scope loginUrl) username password net
      obtain ⟨seen, hseen⟩ :=
        PasswordLogin.authenticate_seen scope loginUrl username password s.store net
      refine ⟨by simp [Provider.isBearer], ?_, huniform⟩
      rw [show login.2.2 = _ from hseen]
      refine Poised.of_same h ?_ ?_ seen
      · rfl
      · rw [(Parts.reads_of _).bearer, (Parts.reads_of _).bearer, Parts.bearer?, hbearer rfl,
          Parts.bearer?]
  | undetermined scope => exact ⟨by simp [Provider.isBearer], h, huniform⟩
  | bearer scope =>
      cases hbrowser : s.browser with
      | none =>
          have hlogin : login = (.undetermined, s, net) := by
            simp only [login, authenticate, hbrowser]
          rw [hlogin] at huniform ⊢
          exact ⟨fun _ => (h.undetermined hbrowser).symm, h, huniform⟩
      | some b =>
          have hsteady := h.steady b hbrowser
          obtain ⟨⟨kept, hkept⟩, seen, hseen⟩ :=
            BearerLogin.authenticate_leaves scope b.validator now s.store net
          have hwrite : s.store.Uniform written (0 + 1) := hwrites.mono (by omega)
          have hagain (net' : Network) (h' : net'.Steady b.validator.issuer provider) :=
            BearerLogin.verdict_again hsteady h' hwrite scope now
          have hverdict := h.verdict net.seen
          rw [bearerVerdict, hbrowser] at hverdict
          refine ⟨?_, ?_, huniform⟩ <;> simp only [login, authenticate, hbrowser]
          · exact fun _ => (hagain net hsteady).1.trans hverdict
          refine ⟨?_, fun seen' => ?_⟩
          · intro b' hb'
            cases hb'
            rw [hkept, hseen]
            exact hsteady.seen seen
          · rw [hseen]
            exact (hagain _ (hsteady.seen seen')).2.trans hverdict

/-- A login with the bearer token that is reported as authenticated makes the marker of its scope
and does nothing else. -/
theorem parts_of_authenticated {p : Provider} {username password : String}
    (hp : p.isBearer = true)
    (h : (s.authenticate now p username password net).1 = .authenticated) :
    Parts.of (s.authenticate now p username password net).2.1.store.contents =
      (Parts.of s.store.contents).step (.setAuthMode p.scope.id .oauth2) := by
  cases p with
  | basic scope loginUrl => simp [Provider.isBearer] at hp
  | undetermined scope => simp [Provider.isBearer] at hp
  | bearer scope =>
      cases hbrowser : s.browser with
      | none =>
          simp only [authenticate, hbrowser] at h
          cases h
      | some b =>
          simp only [authenticate, hbrowser] at h ⊢
          obtain ⟨-, -, hmarked⟩ :=
            BearerLogin.fair_authenticate scope b.validator now s.store net
          rw [← Parts.of_next, hmarked h]
          rfl

/-- Logins with several providers leave the markers of other scopes alone. -/
theorem marker_authenticateAll (now : Moment) (username password : String) {id : String}
    (ps : List Provider) : ∀ (s : Service) (net : Network), (∀ p ∈ ps, id ≠ p.scope.id) →
    (Parts.of (authenticateAll now username password ps s net).2.1.store.contents).marker id =
      (Parts.of s.store.contents).marker id := by
  induction ps with
  | nil => exact fun _ _ _ => rfl
  | cons p ps ih =>
      intro s net hid
      obtain ⟨hp, hrest⟩ := List.forall_mem_cons.mp hid
      exact (ih _ _ hrest).trans ((s.parts_authenticate now p username password net).1 id hp)

/-- **Logins with several providers report the settled verdict** for each that uses the bearer
token.  If that is a good one, the token stays and each of their scopes is marked. -/
theorem poised_authenticateAll (username password : String) (ps : List Provider) :
    ∀ {s : Service} {net : Network}, s.Poised provider written now status net →
    s.store.Uniform written (2 * ps.length) →
    let all := authenticateAll now username password ps s net
    all.1.map Prod.fst = ps.map Provider.scope ∧
      (∀ r ∈ all.1, ∃ p ∈ ps, r.1 = p.scope ∧ (p.isBearer = true → r.2 = status) ∧
        (p.mode? = none → r.2 = .undetermined)) ∧
      (status = .authenticated →
        (Parts.of all.2.1.store.contents).bearer = (Parts.of s.store.contents).bearer) ∧
      (status = .authenticated → ps.Pairwise (fun p q => p.scope.id ≠ q.scope.id) →
        ∀ p ∈ ps, p.isBearer = true →
          (Parts.of all.2.1.store.contents).marker p.scope.id =
            some AuthMode.oauth2.marker) := by
  induction ps with
  | nil =>
      intro s net _ _
      exact ⟨rfl, by simp [authenticateAll], fun _ => rfl, by simp⟩
  | cons p ps ih =>
      intro s net h hwrites
      obtain ⟨hreport, hpoised, hwrites'⟩ := poised_authenticate h hwrites p username password
      obtain ⟨hscopes, hreports, hbearer, hmarked⟩ := ih hpoised hwrites'
      refine ⟨congrArg _ hscopes, ?_, fun hgood => (hbearer hgood).trans ?_, ?_⟩
      · intro r hr
        rcases List.mem_cons.mp hr with rfl | hr
        · refine ⟨p, List.mem_cons_self, rfl, hreport, ?_⟩
          cases p <;> simp [Provider.mode?]
        · obtain ⟨q, hq, hr⟩ := hreports r hr
          exact ⟨q, List.mem_cons_of_mem p hq, hr⟩
      · cases hp : p.isBearer with
        | true => rw [parts_of_authenticated hp ((hreport hp).trans hgood)]; rfl
        | false => exact (s.parts_authenticate now p username password net).2 hp
      · intro hgood hids q hq hneeds
        obtain ⟨hid, hids⟩ := List.pairwise_cons.mp hids
        rcases List.mem_cons.mp hq with rfl | hq
        · -- The marker that this login has made survives the later ones, at other scopes.
          have hmade := parts_of_authenticated hneeds ((hreport hneeds).trans hgood)
          have hkept := marker_authenticateAll now username password ps
            (s.authenticate now q username password net).2.1
            (s.authenticate now q username password net).2.2 hid
          rw [hmade] at hkept
          exact hkept.trans (Function.update_self ..)
        · exact hmarked hgood hids q hq hneeds

/-- Logins with providers among which are all that use the bearer token have one verdict. -/
theorem oneVerdict_authenticateAll (hwired : s.Wired)
    (hpoised : s.Poised provider written now status net) {ps : List Provider}
    (hps : ps.Sublist s.providers)
    (hall : ∀ p ∈ s.providers, s.config.usesBearer p.scope.id = true → p ∈ ps)
    (hwrites : s.store.Uniform written (2 * s.providers.length)) (username password : String) :
    let all := authenticateAll now username password ps s net
    OneVerdict status s all.1 all.2.1 := by
  intro all
  have hwrites' : s.store.Uniform written (2 * ps.length) :=
    hwrites.mono (Nat.mul_le_mul_left 2 hps.length_le)
  obtain ⟨hscopes, hreports, hbearer, hmarked⟩ :=
    poised_authenticateAll username password ps hpoised hwrites'
  have hfound (id : String) (hid : s.config.usesBearer id = true) :
      ∃ p ∈ ps, p.scope.id = id := by
    obtain ⟨p, hp, rfl⟩ := hwired.exists_provider hid
    exact ⟨p, hall p hp hid, rfl⟩
  refine ⟨?_, ?_, ?_, ?_⟩
  · intro id hid
    obtain ⟨p, hp, rfl⟩ := hfound id hid
    have hscope : p.scope ∈ all.1.map Prod.fst := hscopes ▸ List.mem_map_of_mem hp
    obtain ⟨r, hr, hr'⟩ := List.mem_map.mp hscope
    exact ⟨r, hr, congrArg Scope.id hr'⟩
  · intro r hr huses
    obtain ⟨p, hp, hscope, hverdict, hnone⟩ := hreports r hr
    rw [hscope] at huses
    have hmem := hps.subset hp
    cases henabled : s.config.provider.enabled with
    | true => exact hverdict (by rw [hwired.isBearer_eq hmem, henabled, huses]; rfl)
    | false =>
        have hbrowser : s.browser = none := by
          rw [← Option.isNone_iff_eq_none, ← Option.not_isSome, hwired.browser, henabled]
          rfl
        rw [hpoised.undetermined hbrowser]
        exact hnone ((hwired.mode?_eq_none_iff hmem).mpr ⟨henabled, huses⟩)
  · intro hgood
    have hsame := hbearer hgood
    exact ⟨congrArg Prod.fst hsame, congrArg Prod.snd hsame⟩
  · intro hgood id hid
    obtain ⟨p, hp, rfl⟩ := hfound id hid
    have henabled : s.config.provider.enabled = true := by
      rw [← hwired.browser, Option.isSome_iff_ne_none]
      intro hnone
      exact nomatch hgood.symm.trans (hpoised.undetermined hnone)
    have hneeds : p.isBearer = true := by
      rw [hwired.isBearer_eq (hps.subset hp), henabled, hid]
      rfl
    have hmarker := hmarked hgood (hwired.pairwise_ids.sublist hps) p hp hneeds
    rw [(Parts.reads_of _).authMode, Parts.authMode?, hmarker]
    exact AuthMode.ofMarker?_marker .oauth2

/-- **All services that use the bearer token get the same verdict.**  For every service with
whatever it is configured for, whatever its store holds and whatever key is kept, while the provider
answers in one way and the writes of the store end alike: a login to all services reports one status
for those that use the bearer token, wherever they stand, and so does the end of a browser login
that has succeeded.  It is the verdict on the token that is stored at the start.  If that is a good
one, the token stays and the scope of each of these services is marked. -/
theorem one_verdict (hwired : s.Wired)
    (hsteady : ∀ b, s.browser = some b → net.Steady b.validator.issuer provider)
    (hwrites : s.store.Uniform written (2 * s.providers.length)) (username password : String) :
    let login := s.loginAll now username password net
    OneVerdict (s.bearerVerdict written now net) s login.1 login.2.1 ∧
      ∀ b, s.browser = some b → b.listener.progress = .success →
        ∃ result after net', s.completeLogin? now net = some (result, after, net') ∧
          result.outcome = .success ∧
          OneVerdict (s.bearerVerdict written now net) s result.services after := by
  intro login
  have hpoised : s.Poised provider written now (s.bearerVerdict written now net) net :=
    poised_of_steady hsteady
  refine ⟨?_, fun b hbrowser hprogress => ?_⟩
  · exact oneVerdict_authenticateAll hwired hpoised (List.Sublist.refl _) (fun p hp _ => hp) hwrites
      username password
  · have hwait : b.listener.wait? = some (.success, b.listener.consume .success) := by
      simp [Listener.wait?, Listener.outcome?, hprogress, Progress.isTerminal]
    let taken : Service :=
      { s with browser := some { b with listener := b.listener.consume .success } }
    have hframe : s.SameFrame taken := ⟨rfl, rfl, by rw [hbrowser]; rfl⟩
    have hpoised' : taken.Poised provider written now (s.bearerVerdict written now net) net := by
      refine ⟨fun b' hb' => ?_, fun seen => ?_⟩
      · cases hb'
        exact hsteady b hbrowser
      · have hverdict := hpoised.verdict seen
        rw [← hverdict, bearerVerdict, bearerVerdict, hbrowser]
    have hall : ∀ p ∈ taken.providers, taken.config.usesBearer p.scope.id = true →
        p ∈ s.providers.filter Provider.isBearer := by
      intro p hp huses
      have henabled : s.config.provider.enabled = true := by rw [← hwired.browser, hbrowser]; rfl
      refine List.mem_filter.mpr ⟨hp, ?_⟩
      rw [hwired.isBearer_eq hp, henabled]
      exact huses
    have hone := oneVerdict_authenticateAll (hwired.of_sameFrame hframe) hpoised'
      List.filter_sublist hall hwrites "" ""
    let all := authenticateAll now "" "" (s.providers.filter Provider.isBearer) taken net
    have hcall : s.completeLogin? now net = some (⟨.success, all.1⟩, all.2.1, all.2.2) := by
      simp only [completeLogin?, hbrowser, hwait, Option.map_some, if_true]
      rfl
    exact ⟨_, _, _, hcall, rfl, hone.reported, hone.alike, hone.bearer, hone.marked⟩

end

/-- A configuration with three services, the outer two of which use the bearer token. -/
def mixedConfig : Config :=
  { Config.default with
    provider := { Config.default.provider with enabled := true, baseUrl := some "http://idp" }
    services := .ofList [("alarms", ⟨none, "http://alarms", .oauth2⟩),
      ("logbook", ⟨none, "http://logbook", .basic⟩), ("trends", ⟨none, "http://trends", .oauth2⟩)] }

/-- The service of that configuration after a browser login that has succeeded. -/
def mixed (store : Store) : Service :=
  let b := browserOf mixedConfig ⟨"http://idp"⟩
  { config := mixedConfig, store
    pins := ⟨.new "pins.json" .missing, none, none, fun _ => none, .empty, some ⟨[]⟩, none, []⟩
    defaultTrust := ⟨[]⟩
    browser := some { b with listener := { b.listener with progress := .success } }
    providers := mixedConfig.services.toList.map fun (id, c) => providerOf true id c }

/-- With a good token and a file that can be written, both services that use the token are reported
as authenticated and marked, and the token stays. -/
theorem one_verdict_mixed :
    let s := mixed { holding Token.fittedJwt with file := some (.new "credentials.json" .missing) }
    let login := s.loginAll ⟨1750000000, 0⟩ "bob" "other" (Token.fittedNetwork [])
    (∀ r ∈ login.1, r.1.id = "alarms" ∨ r.1.id = "trends" → r.2 = .authenticated) ∧
      login.2.1.store.contents.authMode? "alarms" = some .oauth2 ∧
      login.2.1.store.contents.authMode? "trends" = some .oauth2 ∧
      login.2.1.store.contents.bearer? = some ⟨Token.fittedJwt, none⟩ ∧
      (s.completeLogin? ⟨1750000000, 0⟩ (Token.fittedNetwork [])).isSome = true := by
  intro s login
  have hwired : s.Wired := ⟨rfl, rfl⟩
  have hsteady : ∀ b, s.browser = some b →
      (Token.fittedNetwork []).Steady b.validator.issuer fun _ => .reply Token.fittedReply :=
    fun b _ => Token.steady_fittedNetwork b.validator.issuer []
  have hwrites : s.store.Uniform true (2 * s.providers.length) := by
    intro n _
    simp [s, mixed, Store.Fails, StateFile.new]
  have htoken : s.store.contents.bearer? = some ⟨Token.fittedJwt, none⟩ := rfl
  have hverdict : s.bearerVerdict true ⟨1750000000, 0⟩ (Token.fittedNetwork []) =
      .authenticated := by
    obtain ⟨claims, hfresh⟩ := @Validator.freshVerdict_fittedJwt ⟨1750000000, 0⟩ (by decide)
    have hissuer : (browserOf mixedConfig ⟨"http://idp"⟩).validator.issuer = "http://idp" := rfl
    rw [← hissuer] at hfresh
    have hbrowser : ∃ b, s.browser = some b ∧
      b.validator = (browserOf mixedConfig ⟨"http://idp"⟩).validator := ⟨_, rfl, rfl⟩
    obtain ⟨b, hb, hvalidator⟩ := hbrowser
    rw [bearerVerdict, hb]
    simp only [hvalidator, BearerLogin.verdict_of_some htoken,
      Validator.validate_of_freshVerdict hfresh]
    rfl
  obtain ⟨hlogin, hcomplete⟩ :=
    @one_verdict _ true ⟨1750000000, 0⟩ s _ hwired hsteady hwrites "bob" "other"
  obtain ⟨result, after, net', hcall, -, -⟩ := hcomplete _ rfl rfl
  rw [hverdict, show s.loginAll ⟨1750000000, 0⟩ "bob" "other" (Token.fittedNetwork []) = login
    from rfl] at hlogin
  have halarms : s.config.usesBearer "alarms" = true := by decide +kernel
  have htrends : s.config.usesBearer "trends" = true := by decide +kernel
  have hbearer := (hlogin.bearer rfl).bearer?_eq
  refine ⟨?_, hlogin.marked rfl _ halarms, hlogin.marked rfl _ htrends, hbearer.trans htoken, ?_⟩
  · intro r hr hid
    refine hlogin.alike r hr ?_
    rcases hid with hid | hid <;> rw [hid]
    · exact halarms
    · exact htrends
  · rw [hcall]
    rfl

end Service

end SignOn
