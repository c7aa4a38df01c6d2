import SignOn.Proofs.Store.Durability
import SignOn.Proofs.Store.Keys
import SignOn.Proofs.Token.Judgement
import SignOn.Service
/-!
# A bearer token is lost only because it was judged bad

Two operations remove the stored bearer token: the login with it, and its verification for the
service.  Both look at the result of one check and remove the token when the fault lies in it.  So
all depends on how the results of a check are told apart, and there are three kinds of them
(`validate_verdict`): the token is genuine under the last key that was tried, it is refused, or the
check starved because a key that it needed could not be fetched.  No token is in two of these cases,
since the last key that is tried is determined (`LastTried.unique`).

The main statement is `bearer_lost_only_if_refused`, for every state of the key cache, every network
and every store, whatever its writes come to.
-/

namespace SignOn

namespace Contents

/-- The two token keys have the values they had. -/
def SameBearer (before after : Contents) : Prop :=
  after.values.get? accessKey = before.values.get? accessKey ∧
    after.values.get? idKey = before.values.get? idKey

/-- The scoped tokens and the auth-mode markers of all scopes are what they were. -/
def SameLogins (before after : Contents) : Prop :=
  after.scopes = before.scopes ∧
    ∀ id, after.values.get? (modeKey id) = before.values.get? (modeKey id)

/-- Removing the tokens leaves the logins alone. -/
theorem sameLogins_eraseBearer (c : Contents) : SameLogins c c.eraseBearer := by
  refine ⟨rfl, fun id => ?_⟩
  obtain ⟨haccess, hid⟩ := modeKey_ne id
  simp only [eraseBearer, KeyMap.get?_erase, if_neg haccess, if_neg hid]

/-- A marker leaves the tokens alone. -/
theorem sameBearer_setMode (c : Contents) (id marker : String) :
    SameBearer c (c.setValue (modeKey id) marker) := by
  obtain ⟨haccess, hid⟩ := modeKey_ne id
  simp only [SameBearer, setValue, KeyMap.get?_insert, if_neg haccess.symm, if_neg hid.symm,
    and_self]

end Contents

namespace Validator

open Token

/-- The last key that a check tries: the kept one if that settles it, and the fetched one
otherwise. -/
def LastTried (v : Validator) (now : Moment) (jwt : String) (net : Network) (key : PublicKey) :
    Prop :=
  v.Settles now jwt key ∨ (v.NeedsKey now jwt ∧ ∃ after, PublicKey.Fetched v.issuer net key after)

/-- A token is judged bad: it does not have three segments, or there is a last key, and under it the
token is not genuine. -/
def Refuses (v : Validator) (now : Moment) (jwt : String) (net : Network) : Prop :=
  (segments jwt).length ≠ 3 ∨
    ∃ key, v.LastTried now jwt net key ∧ ∀ claims, ¬Genuine now.unix key jwt claims

/-- A check needs a key that cannot be fetched. -/
def Starves (v : Validator) (now : Moment) (jwt : String) (net : Network) : Prop :=
  v.NeedsKey now jwt ∧ ∀ key after, ¬PublicKey.Fetched v.issuer net key after

/-- A token is genuine under the last key. -/
def Vouches (v : Validator) (now : Moment) (jwt : String) (net : Network) : Prop :=
  ∃ key claims, v.LastTried now jwt net key ∧ Genuine now.unix key jwt claims

/-- A kept key settles a check or is needed to be fetched again, but not both. -/
theorem Settles.not_needsKey {v : Validator} {now : Moment} {jwt : String} {key : PublicKey}
    (h : v.Settles now jwt key) : ¬v.NeedsKey now jwt := by
  obtain ⟨header, payload, signature, hjwt, hkept, hno⟩ := h
  intro hparts
  obtain ⟨header', payload', signature', hjwt', hmismatch⟩ := hparts
  rw [hjwt] at hjwt'
  cases hjwt'
  exact hno (hmismatch key hkept)

/-- There is one last key at most. -/
theorem LastTried.unique {v : Validator} {now : Moment} {jwt : String} {net : Network}
    {key key' : PublicKey} (h : v.LastTried now jwt net key) (h' : v.LastTried now jwt net key') :
    key = key' := by
  rcases h with h | ⟨hneeds, after, hfetched⟩
  · rcases h' with h' | ⟨hneeds', -⟩
    · obtain ⟨-, -, -, -, hkept, -⟩ := h
      obtain ⟨-, -, -, -, hkept', -⟩ := h'
      rw [hkept, Option.some.injEq] at hkept'
      exact hkept'
    · exact (h.not_needsKey hneeds').elim
  · rcases h' with h' | ⟨-, after', hfetched'⟩
    · exact (h'.not_needsKey hneeds).elim
    · exact hfetched.unique hfetched'

/-- A check that needs a key is one of a token of three segments. -/
theorem NeedsKey.length_segments {v : Validator} {now : Moment} {jwt : String}
    (h : v.NeedsKey now jwt) : (segments jwt).length = 3 := by
  obtain ⟨header, payload, signature, hjwt, -⟩ := h
  rw [hjwt]
  rfl

/-- Without the key that it needs, a check tries no last key. -/
theorem Starves.not_lastTried {v : Validator} {now : Moment} {jwt : String} {net : Network}
    (h : v.Starves now jwt net) (key : PublicKey) : ¬v.LastTried now jwt net key := by
  intro hparts
  rcases hparts with hsettles | ⟨-, after, hfetched⟩
  · exact hsettles.not_needsKey h.1
  · exact h.2 key after hfetched

/-- A starved check refuses nothing. -/
theorem Starves.not_refuses {v : Validator} {now : Moment} {jwt : String} {net : Network}
    (h : v.Starves now jwt net) : ¬v.Refuses now jwt net := by
  intro hparts
  rcases hparts with hlength | ⟨key, hlast, -⟩
  · exact hlength h.1.length_segments
  · exact h.not_lastTried key hlast

/-- A token that is vouched for is not refused. -/
theorem Vouches.not_refuses {v : Validator} {now : Moment} {jwt : String} {net : Network}
    (h : v.Vouches now jwt net) : ¬v.Refuses now jwt net := by
  obtain ⟨key, claims, hlast, hgenuine⟩ := h
  intro hparts
  rcases hparts with hlength | ⟨key', hlast', hno⟩
  · exact hlength hgenuine.length_segments
  · exact hno claims (hlast.unique hlast' ▸ hgenuine)

/-- Under the last key a token is vouched for, or refused for a fault of its own. -/
theorem verdict_of_judged {v : Validator} {now : Moment} {jwt : String} {net : Network}
    {key : PublicKey} {result : Except Fault Verified} (hlast : v.LastTried now jwt net key)
    (hjudged : Judged now.unix key jwt result) :
    (v.Vouches now jwt net ∧ ∃ claims, result = .ok claims) ∨
      (v.Refuses now jwt net ∧ ∃ reason, result = .error (.token reason)) := by
  cases hresult : result with
  | ok claims =>
      exact .inl ⟨⟨key, claims, hlast, (hjudged.ok_iff claims).mp hresult⟩, claims, rfl⟩
  | error fault =>
      obtain ⟨reason, rfl⟩ := hjudged.fault fault hresult
      refine .inr ⟨.inr ⟨key, hlast, fun claims hgenuine => ?_⟩, reason, rfl⟩
      have hok := (hjudged.ok_iff claims).mpr hgenuine
      rw [hresult] at hok
      cases hok

/-- **The three kinds of results of a check.** -/
theorem validate_verdict (v : Validator) (now : Moment) (jwt : String) (net : Network) :
    (v.Vouches now jwt net ∧ ∃ claims, (v.validate now jwt net).1 = .ok claims) ∨
      (v.Refuses now jwt net ∧ ∃ reason, (v.validate now jwt net).1 = .error (.token reason)) ∨
      (v.Starves now jwt net ∧ ∃ fault, (v.validate now jwt net).1 = .error (.key fault)) := by
  have hcourse := course_validate v now jwt net
  generalize v.validate now jwt net = outcome at hcourse
  cases hcourse with
  | malformed hjwt => exact .inr (.inl ⟨.inl hjwt, _, rfl⟩)
  | kept hsettles hjudged => exact (verdict_of_judged (.inl hsettles) hjudged).imp_right .inl
  | starved hneeds hnone => exact .inr (.inr ⟨⟨hneeds, hnone⟩, _, rfl⟩)
  | fetched hneeds hfetched hjudged =>
      exact (verdict_of_judged (.inr ⟨hneeds, _, hfetched⟩) hjudged).imp_right .inl

end Validator

namespace Store

/-- What becomes of a store, and whether the provider is reported to be out of reach, is fair to the
stored token: it is removed when it is refused and at no other time, and when the check starved the
store is as it was and the report is made. -/
structure Fair (v : Validator) (now : Moment) (net : Network) (before after : Store)
    (offline : Prop) : Prop where
  lost : Contents.SameBearer before.contents after.contents ∨
    ∃ token, before.contents.bearer? = some token ∧ v.Refuses now token.accessToken net
  refused (token : BearerToken) (htoken : before.contents.bearer? = some token)
    (h : v.Refuses now token.accessToken net) : after = before.clearBearer.2
  starved (token : BearerToken) (htoken : before.contents.bearer? = some token)
    (h : v.Starves now token.accessToken net) : after = before ∧ offline

section

variable {v : Validator} {now : Moment} {net : Network} {before after : Store} {offline : Prop}
  {token : BearerToken}

/-- Without a token there is nothing to be fair to. -/
theorem Fair.of_none (hnone : before.contents.bearer? = none) :
    Fair v now net before before offline where
  lost := .inl ⟨rfl, rfl⟩
  refused token htoken _ := by rw [hnone] at htoken; cases htoken
  starved token htoken _ := by rw [hnone] at htoken; cases htoken

/-- A token that is vouched for has to stay. -/
theorem Fair.of_vouches (htoken : before.contents.bearer? = some token)
    (h : v.Vouches now token.accessToken net)
    (hsame : Contents.SameBearer before.contents after.contents) :
    Fair v now net before after offline where
  lost := .inl hsame
  refused token' htoken' hrefuses := by
    rw [htoken, Option.some.injEq] at htoken'
    exact (h.not_refuses (htoken' ▸ hrefuses)).elim
  starved token' htoken' hstarves := by
    rw [htoken, Option.some.injEq] at htoken'
    obtain ⟨key, claims, hlast, -⟩ := h
    exact (hstarves.not_lastTried key (htoken' ▸ hlast)).elim

/-- A token that is refused has to go. -/
theorem Fair.of_refuses (htoken : before.contents.bearer? = some token)
    (h : v.Refuses now token.accessToken net) :
    Fair v now net before before.clearBearer.2 offline where
  lost := .inr ⟨token, htoken, h⟩
  refused _ _ _ := rfl
  starved token' htoken' hstarves := by
    rw [htoken, Option.some.injEq] at htoken'
    exact (hstarves.not_refuses (htoken' ▸ h)).elim

/-- After a check that starved everything has to stay, and the provider is out of reach. -/
theorem Fair.of_starves (htoken : before.contents.bearer? = some token)
    (h : v.Starves now token.accessToken net) (hoffline : offline) :
    Fair v now net before before offline where
  lost := .inl ⟨rfl, rfl⟩
  refused token' htoken' hrefuses := by
    rw [htoken, Option.some.injEq] at htoken'
    exact (h.not_refuses (htoken' ▸ hrefuses)).elim
  starved _ _ _ := ⟨rfl, hoffline⟩

end

/-- An attempt to remove the tokens leaves the logins alone. -/
theorem sameLogins_clearBearer (s : Store) :
    Contents.SameLogins s.contents s.clearBearer.2.contents := by
  rcases s.apply_cases .clearBearer with ⟨-, hcontents, -⟩ | ⟨cause, -, hspared⟩
  · rw [show s.clearBearer.2.contents = _ from hcontents]
    exact s.contents.sameLogins_eraseBearer
  · rw [show s.clearBearer.2.contents = _ from hspared.contents]
    exact ⟨rfl, fun _ => rfl⟩

end Store

namespace BearerLogin

/-- Noting that the token was accepted makes the marker, or changes nothing. -/
theorem accept_cases (scope : Scope) (store : Store) :
    ((accept scope store).1 = .authenticated ∧ (accept scope store).2.contents =
        store.contents.setValue (Contents.modeKey scope.id) AuthMode.oauth2.marker) ∨
      ((accept scope store).1 = .unknownError ∧
        (accept scope store).2.contents = store.contents) := by
  unfold accept
  have hcases := store.apply_cases (.setAuthMode scope.id .oauth2)
  have happly : store.apply (.setAuthMode scope.id .oauth2) =
      store.setAuthMode scope.id .oauth2 := rfl
  rw [happly] at hcases
  rcases hset : store.setAuthMode scope.id .oauth2 with ⟨result, store'⟩
  rw [hset] at hcases
  rcases hcases with ⟨rfl, hcontents, -⟩ | ⟨cause, rfl, hspared⟩
  · exact .inl ⟨rfl, hcontents⟩
  · exact .inr ⟨rfl, hspared.contents⟩

/-- The login with the stored token: it is fair to the token, it leaves all logins alone unless it
succeeds, and when it succeeds it makes the marker of its scope and changes nothing else. -/
theorem fair_authenticate (scope : Scope) (v : Validator) (now : Moment) (store : Store)
    (net : Network) :
    let login := authenticate scope v now store net
    Store.Fair v now net store login.2.2.1 (login.1 = .serviceOffline) ∧
      (login.1 ≠ .authenticated → Contents.SameLogins store.contents login.2.2.1.contents) ∧
      (login.1 = .authenticated → login.2.2.1.contents =
        store.contents.setValue (Contents.modeKey scope.id) AuthMode.oauth2.marker) := by
  intro login
  have hsame : Contents.SameLogins store.contents store.contents := ⟨rfl, fun _ => rfl⟩
  cases htoken : store.contents.bearer? with
  | none =>
      have hlogin : login = (.undetermined, v, store, net) := by
        simp only [login, authenticate, htoken]
      rw [hlogin]
      exact ⟨.of_none htoken, fun _ => hsame, (nomatch ·)⟩
  | some token =>
      have hverdict := v.validate_verdict now token.accessToken net
      rcases hvalidate : v.validate now token.accessToken net with ⟨result, v', net'⟩
      rw [hvalidate] at hverdict
      rcases hverdict with
        ⟨hvouches, claims, rfl⟩ | ⟨hrefuses, reason, rfl⟩ | ⟨hstarves, fault, rfl⟩
      · have hlogin : login = ((accept scope store).1, v', (accept scope store).2, net') := by
          simp only [login, authenticate, htoken, hvalidate]
        rw [hlogin]
        rcases accept_cases scope store with ⟨hstatus, hcontents⟩ | ⟨hstatus, hcontents⟩
        · refine ⟨.of_vouches htoken hvouches ?_, fun hne => (hne hstatus).elim, fun _ => hcontents⟩
          rw [hcontents]
          exact store.contents.sameBearer_setMode scope.id _
        · refine ⟨.of_vouches htoken hvouches ?_, fun _ => ?_, ?_⟩
          · rw [hcontents]
            exact ⟨rfl, rfl⟩
          · rw [hcontents]
            exact hsame
          · intro h
            rw [show (accept scope store).1 = _ from hstatus] at h
            cases h
      · have hlogin : login = (.undetermined, v', store.clearBearer.2, net') := by
          simp only [login, authenticate, htoken, hvalidate]
        rw [hlogin]
        exact ⟨.of_refuses htoken hrefuses, fun _ => store.sameLogins_clearBearer, (nomatch ·)⟩
      · have hlogin : login = (.serviceOffline, v', store, net') := by
          simp only [login, authenticate, htoken, hvalidate, Fault.status]
        rw [hlogin]
        exact ⟨.of_starves htoken hstarves rfl, fun _ => hsame, (nomatch ·)⟩

end BearerLogin

namespace Service

/-- The verification of the stored token for a service that has the browser login: it is fair to the
token and leaves all logins alone. -/
theorem fair_verifyBearer (s : Service) {b : BrowserLogin} (hbrowser : s.browser = some b)
    (now : Moment) (net : Network) :
    let verification := s.verifyBearer now net
    Store.Fair b.validator now net s.store verification.2.1.store
        (∃ fault, verification.1 = .error (.key fault)) ∧
      Contents.SameLogins s.store.contents verification.2.1.store.contents := by
  intro verification
  have hsame : Contents.SameLogins s.store.contents s.store.contents := ⟨rfl, fun _ => rfl⟩
  cases htoken : s.store.contents.bearer? with
  | none =>
      have hverification : verification = (.ok none, s, net) := by
        simp only [verification, verifyBearer, hbrowser, htoken]
      rw [hverification]
      exact ⟨.of_none htoken, hsame⟩
  | some token =>
      have hverdict := b.validator.validate_verdict now token.accessToken net
      rcases hvalidate : b.validator.validate now token.accessToken net with ⟨result, v', net'⟩
      rw [hvalidate] at hverdict
      rcases hverdict with
        ⟨hvouches, claims, rfl⟩ | ⟨hrefuses, reason, rfl⟩ | ⟨hstarves, fault, rfl⟩
      · have hstore : verification.2.1.store = s.store := by
          simp only [verification, verifyBearer, hbrowser, htoken, hvalidate]
        rw [hstore]
        exact ⟨.of_vouches htoken hvouches ⟨rfl, rfl⟩, hsame⟩
      · have hstore : verification.2.1.store = s.store.clearBearer.2 := by
          simp only [verification, verifyBearer, hbrowser, htoken, hvalidate]
          split <;> rfl
        rw [hstore]
        exact ⟨.of_refuses htoken hrefuses, s.store.sameLogins_clearBearer⟩
      · have hstore : verification.2.1.store = s.store := by
          simp only [verification, verifyBearer, hbrowser, htoken, hvalidate]
        have hresult : verification.1 = .error (.key fault) := by
          simp only [verification, verifyBearer, hbrowser, htoken, hvalidate]
        rw [hstore]
        exact ⟨.of_starves htoken hstarves ⟨fault, hresult⟩, hsame⟩

/-- Without the browser login nothing is verified and nothing changes. -/
theorem verifyBearer_none {s : Service} (hbrowser : s.browser = none) (now : Moment)
    (net : Network) :
    s.verifyBearer now net = (.error (.config .providerDisabled), s, net) := by
  simp only [verifyBearer, hbrowser]

/-- **A bearer token is lost only because it was judged bad.**  For every validator with whatever
key it keeps, every network and every store with whatever becomes of its writes: the login of a
provider and the verification for the service try to remove the stored token exactly when it is
refused, and when a needed key could not be fetched they leave the store as it is and report that,
and nothing else.  The scoped tokens and the markers of all scopes stay, but for the marker that a
successful login makes. -/
theorem bearer_lost_only_if_refused (scope : Scope) (v : Validator) (now : Moment) (store : Store)
    (s : Service) (net : Network) :
    let login := BearerLogin.authenticate scope v now store net
    let verification := s.verifyBearer now net
    (Store.Fair v now net store login.2.2.1 (login.1 = .serviceOffline) ∧
      (login.1 ≠ .authenticated → Contents.SameLogins store.contents login.2.2.1.contents) ∧
      (login.1 = .authenticated → login.2.2.1.contents =
        store.contents.setValue (Contents.modeKey scope.id) AuthMode.oauth2.marker)) ∧
    Contents.SameLogins s.store.contents verification.2.1.store.contents ∧
    match s.browser with
    | some b => Store.Fair b.validator now net s.store verification.2.1.store
        (∃ fault, verification.1 = .error (.key fault))
    | none => verification.2.1 = s := by
  intro login verification
  refine ⟨BearerLogin.fair_authenticate scope v now store net, ?_⟩
  cases hbrowser : s.browser with
  | none =>
      have hverification := verifyBearer_none hbrowser now net
      rw [show verification = _ from hverification]
      exact ⟨⟨rfl, fun _ => rfl⟩, rfl⟩
  | some b =>
      obtain ⟨hfair, hsame⟩ := s.fair_verifyBearer hbrowser now net
      exact ⟨hsame, hfair⟩

end Service

end SignOn
