import SignOn.Proofs.Login.StoredBearer
import SignOn.Proofs.Service.UsableStatus
/-!
# What a logout leaves behind

A logout removes what a login with the same provider keeps: with user name and password the token of
the scope, otherwise the bearer token, and in both cases the auth-mode marker of the scope
(`Provider.clear`).  What the identity provider answers plays no part in it.

So a logout from a service that needs the bearer token does not look at a token of its scope, which
may still be there from a time when the service took passwords.  After `logout_leaves_token` the
scope has the credential of that token, and its status is usable.  The main statement,
`signedOut_logout`, says that nothing but such a token is left, for a logout from one service and for
a logout from all of them, where the logout from one service changes the store that the next one
finds.
-/

namespace SignOn

/-- The credential that is a token's own: its user name and password if both are there. -/
def ScopedToken.credential? (t : ScopedToken) : Option Credential := do
  return .basic (← t.username) (← t.password)

namespace Contents

/-- Without a marker the credential of a scope is that of its token. -/
theorem credential?_of_unmarked {c : Contents} {id : String}
    (h : c.values.get? (modeKey id) = none) :
    c.credential? id = (c.token? id).bind ScopedToken.credential? := by
  have hmode : c.authMode? id = none := by rw [authMode?, h]; rfl
  unfold credential? token?
  rcases c.scopes.get? id with _ | ⟨name, _ | username, _ | password⟩ <;>
    simp [hmode, tokenOf, ScopedToken.credential?]

/-- Removing the tokens of a login removes the bearer token. -/
theorem bearer?_eraseBearer (c : Contents) : c.eraseBearer.bearer? = none := by
  simp [bearer?, eraseBearer, KeyMap.get?_erase]

/-- Forgetting a marker leaves the bearer token alone. -/
theorem bearer?_eraseMode (c : Contents) (id : String) :
    (c.eraseValue (modeKey id)).bearer? = c.bearer? := by
  obtain ⟨haccess, hid⟩ := modeKey_ne id
  simp [bearer?, eraseValue, KeyMap.get?_erase, haccess.symm, hid.symm]

end Contents

namespace Store

/-- The next writes of a store succeed. -/
def Writable (writes : Nat) (s : Store) : Prop :=
  ∀ f, s.file = some f → ∀ n < writes, f.obstacles n = none

/-- A change is made by the first of the writes that succeed. -/
theorem Writable.apply {writes : Nat} {s : Store} (h : s.Writable (writes + 1)) (c : Change) :
    (s.apply c).1 = .ok () ∧ (s.apply c).2.contents = c.next s.contents ∧
      (s.apply c).2.Writable writes := by
  rw [apply_eq_commit]
  cases hf : s.file with
  | none => simp [commit, hf, Writable]
  | some f =>
      have hfirst : f.obstacles 0 = none := h f hf 0 (Nat.succ_pos writes)
      simp only [commit, hf, StateFile.replace, hfirst, true_and]
      intro g hg n hn
      cases hg
      exact h f hf (n + 1) (Nat.succ_lt_succ hn)

/-- Two changes are made by the first two of the writes that succeed. -/
theorem Writable.apply_apply {writes : Nat} {s : Store} (h : s.Writable (writes + 2))
    (c d : Change) :
    (s.apply c).1 = .ok () ∧
      ((s.apply c).2.apply d).2.contents = d.next (c.next s.contents) ∧
      ((s.apply c).2.apply d).2.Writable writes := by
  obtain ⟨hok, hcontents, hwritable⟩ := h.apply c
  obtain ⟨-, hcontents', hwritable'⟩ := hwritable.apply d
  exact ⟨hok, by rw [hcontents', hcontents], hwritable'⟩

end Store

/-- A logout with user name and password makes two changes if the first of them is made. -/
theorem PasswordLogin.logout_eq {scope : Scope} {store : Store}
    (hok : (store.apply (.delete scope.id)).1 = .ok ()) :
    PasswordLogin.logout scope store =
      ((store.apply (.delete scope.id)).2.apply (.clearAuthMode scope.id)).2 := by
  unfold PasswordLogin.logout
  rw [show store.delete scope.id = (.ok (), (store.apply (.delete scope.id)).2) from
    Prod.ext hok rfl]
  rfl

/-- A logout with the bearer token makes two changes if the first of them is made, whether there is
a listener to end the provider's session or not. -/
theorem BearerLogin.logout_eq {scope : Scope} {store : Store} (listener : Option Listener)
    (net : Network) (hok : (store.apply .clearBearer).1 = .ok ()) :
    (BearerLogin.logout scope listener store net).1 =
      ((store.apply .clearBearer).2.apply (.clearAuthMode scope.id)).2 := by
  have hclear : store.clearBearer = (.ok (), (store.apply .clearBearer).2) := Prod.ext hok rfl
  cases listener <;> simp only [BearerLogin.logout, Listener.logout, hclear] <;> rfl

namespace Provider

/-- The contents of a store after a logout with a provider. -/
def clear (p : Provider) (c : Contents) : Contents :=
  match p with
  | basic scope _ => (c.eraseToken scope.id).eraseValue (Contents.modeKey scope.id)
  | bearer scope => c.eraseBearer.eraseValue (Contents.modeKey scope.id)
  | undetermined _ => c

/-- The token of a scope that is left by logouts with some providers. -/
def tokenLeft (ps : List Provider) (c : Contents) (id : String) : Option ScopedToken :=
  if ∃ p ∈ ps, p.mode? = some .basic ∧ p.scope.id = id then none else c.token? id

section

variable (p : Provider) (c : Contents) (id : String)

theorem token?_clear :
    (p.clear c).token? id =
      if p.mode? = some .basic ∧ p.scope.id = id then none else c.token? id := by
  cases p with
  | basic scope =>
      by_cases h : scope.id = id <;>
        simp [clear, mode?, Provider.scope, Contents.token?, Contents.eraseToken,
          Contents.eraseValue, KeyMap.get?_erase, h, Ne.symm]
  | bearer scope => simp [clear, mode?, Contents.token?, Contents.eraseBearer, Contents.eraseValue]
  | undetermined scope => simp [clear, mode?]

theorem marker_clear :
    (p.clear c).values.get? (Contents.modeKey id) =
      if p.mode? ≠ none ∧ p.scope.id = id then none
      else c.values.get? (Contents.modeKey id) := by
  cases p with
  | basic scope =>
      simp [clear, mode?, Provider.scope, Contents.eraseToken, Contents.eraseValue,
        KeyMap.get?_erase, Contents.modeKey_inj, eq_comm]
  | bearer scope =>
      have hmarker := (Contents.sameLogins_eraseBearer c).2 id
      simp [clear, mode?, Provider.scope, Contents.eraseValue, KeyMap.get?_erase, hmarker,
        Contents.modeKey_inj, eq_comm]
  | undetermined scope => simp [clear, mode?]

theorem bearer?_clear :
    (p.clear c).bearer? = if p.isBearer = true then none else c.bearer? := by
  cases p with
  | basic scope => exact Contents.bearer?_eraseMode _ _
  | bearer scope => exact (Contents.bearer?_eraseMode _ _).trans c.bearer?_eraseBearer
  | undetermined scope => rfl

end

/-- **Logouts with several providers.**  What one of them removes stays removed. -/
theorem view_clearAll {α : Type} (view : Contents → Option α) (goes : Provider → Prop)
    [DecidablePred goes]
    (hclear : ∀ p c, view (p.clear c) = if goes p then none else view c) (ps : List Provider) :
    ∀ c, view (ps.foldl (fun c p => p.clear c) c) =
      if ∃ p ∈ ps, goes p then none else view c := by
  induction ps with
  | nil => simp
  | cons p ps ih =>
      intro c
      rw [List.foldl_cons, ih, hclear]
      by_cases hp : goes p <;> simp [hp]

end Provider

namespace Service

/-- A provider's scope is signed out, but for a token that is left: there is no marker, and for a
provider that needs it no bearer token; credential and status are those of what is left. -/
structure SignedOut (s : Service) (p : Provider) (left : Option ScopedToken) : Prop where
  token : s.store.contents.token? p.scope.id = left
  marker : s.store.contents.values.get? (Contents.modeKey p.scope.id) = none
  bearer : p.isBearer = true → s.store.contents.bearer? = none
  credential : s.store.contents.credential? p.scope.id = left.bind ScopedToken.credential?
  status (now : Moment) :
    s.status now p.scope.id = if left.isSome then .cached else .undetermined

/-- **A logout with a provider clears the contents**, whatever the identity provider answers. -/
theorem contents_release (writes : Nat) {s : Service} (h : s.store.Writable (writes + 2))
    (p : Provider) (net : Network) :
    (s.release p net).1.store.contents = p.clear s.store.contents ∧
      (s.release p net).1.store.Writable writes ∧
      (s.release p net).1.providers = s.providers := by
  cases p with
  | basic scope loginUrl =>
      obtain ⟨hok, hcleared⟩ := h.apply_apply (.delete scope.id) (.clearAuthMode scope.id)
      simp only [release, PasswordLogin.logout_eq hok]
      exact ⟨hcleared.1, hcleared.2, trivial⟩
  | bearer scope =>
      obtain ⟨hok, hcleared⟩ := h.apply_apply .clearBearer (.clearAuthMode scope.id)
      simp only [release, BearerLogin.logout_eq _ net hok]
      exact ⟨hcleared.1, hcleared.2, trivial⟩
  | undetermined scope =>
      exact ⟨rfl, fun f hf n hn => h f hf n (Nat.lt_of_lt_of_le hn (Nat.le_add_right _ _)), rfl⟩

/-- Logouts with several providers clear the contents in turn. -/
theorem contents_releaseAll (ps : List Provider) : ∀ {s : Service} (net : Network),
    s.store.Writable (2 * ps.length) →
    let after := (ps.foldl (fun (s, net) p => s.release p net) (s, net)).1
    after.store.contents = ps.foldl (fun c p => p.clear c) s.store.contents ∧
      after.providers = s.providers := by
  induction ps with
  | nil => exact fun _ _ => ⟨rfl, rfl⟩
  | cons p ps ih =>
      intro s net h
      obtain ⟨hcontents, hwritable, hproviders⟩ := contents_release (2 * ps.length) h p net
      obtain ⟨hlater, hsame⟩ := ih (s.release p net).2 hwritable
      rw [hcontents] at hlater
      exact ⟨hlater, hsame.trans hproviders⟩

/-- After logouts with several providers each of their scopes is signed out. -/
theorem signedOut_of_clearAll {s after : Service} {ps : List Provider}
    (hcontents : after.store.contents = ps.foldl (fun c p => p.clear c) s.store.contents)
    (hproviders : after.providers = s.providers) {p : Provider} (hp : p ∈ ps)
    (hmode : p.mode? ≠ none) (hfound : ∃ q ∈ ps, s.provider? p.scope.id = some q) :
    after.SignedOut p (Provider.tokenLeft ps s.store.contents p.scope.id) := by
  have htoken : after.store.contents.token? p.scope.id =
      Provider.tokenLeft ps s.store.contents p.scope.id := by
    rw [hcontents]
    exact Provider.view_clearAll (fun c => c.token? p.scope.id)
      (fun q => q.mode? = some .basic ∧ q.scope.id = p.scope.id)
      (fun q c => q.token?_clear c p.scope.id) ps _
  have hmarker : after.store.contents.values.get? (Contents.modeKey p.scope.id) = none := by
    rw [hcontents, Provider.view_clearAll (fun c => c.values.get? (Contents.modeKey p.scope.id))
      (fun q => q.mode? ≠ none ∧ q.scope.id = p.scope.id)
      (fun q c => q.marker_clear c p.scope.id) ps]
    exact if_pos ⟨p, hp, hmode, rfl⟩
  have hbearer : ∀ q ∈ ps, q.isBearer = true → after.store.contents.bearer? = none := by
    intro q hq hneeds
    rw [hcontents, Provider.view_clearAll Contents.bearer? (fun q => q.isBearer = true)
      Provider.bearer?_clear ps]
    exact if_pos ⟨q, hq, hneeds⟩
  refine ⟨htoken, hmarker, hbearer p hp, ?_, fun now => ?_⟩
  · rw [Contents.credential?_of_unmarked hmarker, htoken]
  · obtain ⟨q, hq, hprovider⟩ := hfound
    have hscope : q.scope.id = p.scope.id := by simpa using List.find?_some hprovider
    have hprovider' : after.provider? p.scope.id = some q := by
      rw [provider?, hproviders]
      exact hprovider
    have hstatus : after.status now p.scope.id = (after.cached now q).1 := by
      rw [status, hprovider']
    rw [hstatus, cached, hscope, htoken]
    cases Provider.tokenLeft ps s.store.contents p.scope.id with
    | some t => rfl
    | none =>
        -- If the status looks for a bearer token, then the provider's own logout has removed it.
        have hnothing : (after.store.contents.bearer?.filter fun t => q.isBearer && isFresh now t) =
            none := by
          refine Option.filter_eq_none_iff.mpr fun t ht hpass => ?_
          rw [Bool.and_eq_true] at hpass
          exact nomatch (hbearer q hq hpass.1).symm.trans ht
        simp only [hnothing]
        rfl

/-- **A logout leaves nothing but a token of a scope that needs none.**  When the writes of the store
succeed, and whatever the identity provider answers, the scope of a service is signed out after a
logout from the service and after a logout from all: there is no marker, for a service that needs it
no bearer token, and no token of the scope if a provider of the scope takes user name and password.
Another token of the scope stays; credential and status are then those of this token, and without it
there is no credential and the status is undetermined. -/
theorem signedOut_logout (s : Service) (p : Provider) (net : Network) (hmode : p.mode? ≠ none) :
    (s.provider? p.scope.id = some p → s.store.Writable 2 →
      (s.logout p.scope.id net).1 = true ∧
        (s.logout p.scope.id net).2.1.SignedOut p
          (Provider.tokenLeft [p] s.store.contents p.scope.id)) ∧
    (p ∈ s.providers → s.store.Writable (2 * s.providers.length) →
      (s.logoutAll net).1.SignedOut p
        (Provider.tokenLeft s.providers s.store.contents p.scope.id)) := by
  constructor
  · intro hprovider hwrites
    obtain ⟨hcontents, -, hproviders⟩ := contents_release 0 hwrites p net
    simp only [logout, hprovider, true_and]
    exact signedOut_of_clearAll hcontents hproviders (List.mem_singleton_self p) hmode
      ⟨p, List.mem_singleton_self p, hprovider⟩
  · intro hp hwrites
    obtain ⟨hcontents, hproviders⟩ := contents_releaseAll s.providers net hwrites
    have hsome : (s.provider? p.scope.id).isSome = true :=
      List.find?_isSome.mpr ⟨p, hp, by simp⟩
    obtain ⟨q, hq⟩ := Option.isSome_iff_exists.mp hsome
    exact signedOut_of_clearAll hcontents hproviders hp hmode
      ⟨q, List.mem_of_find?_eq_some hq, hq⟩

/-- A network without any connection. -/
def outage : Network :=
  ⟨some "down", fun _ _ => .silence false, fun _ _ => .silence false, fun _ _ => [],
    fun _ _ => .fails "down", []⟩

/-- A store in a file that can be written, with a bearer token that was accepted for `alarms`. -/
def filed : Store :=
  { withMarker with file := some (.new "credentials.json" .missing) }

/-- After a logout while the identity provider is out of reach there is no credential. -/
theorem signedOut_logout_filed :
    (((alarms filed).logout "alarms" outage).2.1.store.contents.credential? "alarms" = none ∧
        ((alarms filed).logout "alarms" outage).2.1.status ⟨1750000000, 0⟩ "alarms" =
          .undetermined) ∧
      ((alarms filed).logoutAll outage).1.store.contents.credential? "alarms" = none := by
  have hwrites (writes : Nat) : (alarms filed).store.Writable writes := by
    intro f hf n _
    cases hf
    rfl
  obtain ⟨hone, hall⟩ := signedOut_logout (alarms filed) (.bearer ⟨"alarms", "alarms"⟩) outage
    (by decide)
  obtain ⟨-, hout⟩ := hone (by decide +kernel) (hwrites _)
  have hout' := hall (by decide +kernel) (hwrites _)
  have hcredential := hout.credential
  have hstatus := hout.status ⟨1750000000, 0⟩
  have hcredential' := hout'.credential
  simp only [Provider.scope] at hcredential hstatus hcredential'
  rw [hcredential, hstatus, hcredential']
  decide +kernel

/-- The store in which a token of the scope is left from a time when the service took passwords. -/
def withPassword : Store :=
  (withMarker.set ⟨⟨"alarms", "Alarms"⟩, some "alice", some "secret"⟩).2

/-- **A logout leaves a token.**  A service that needs the bearer token finds a token of its scope
from an earlier time.  After the logout the scope has the credential of that token, and its status
is usable. -/
theorem logout_leaves_token :
    let after := ((alarms withPassword).logout "alarms" outage).2.1
    after.store.contents.bearer? = none ∧
      after.store.contents.token? "alarms" =
        some ⟨⟨"alarms", "Alarms"⟩, some "alice", some "secret"⟩ ∧
      after.store.contents.credential? "alarms" = some (.basic "alice" "secret") ∧
      after.status ⟨1750000000, 0⟩ "alarms" = .cached ∧
      ((alarms withPassword).logoutAll outage).1.store.contents.credential? "alarms" =
        some (.basic "alice" "secret") := by
  decide +kernel

end Service

end SignOn
