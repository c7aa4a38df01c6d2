import SignOn.Proofs.Requests
import SignOn.Proofs.Store.Parts
import SignOn.Service
/-!
# The operations of a service

What a service is put together from does not change while it works.  It has a provider for each
configured service, in the order of their ids, and the browser login exactly if the identity
provider is in use (`Wired`).  A service is wired when it is built (`wired_build`).

Whoever uses a service makes one call after another, and between two calls the world may change, so
each call brings the network that it finds (`call`, `run`).  No call touches the wiring: of the
service it may replace the store, the pins, and the parts of the browser login (`sameFrame_call`).
So whatever is shown of a wired service holds of every service that has been built and used
(`wired_run`).
-/

namespace SignOn

/-- A service is configured to use the bearer token of the identity provider. -/
def Config.usesBearer (c : Config) (id : String) : Bool :=
  (c.services.get? id).any fun s => s.mode == .oauth2

/-- Send requests one after another, whatever is answered. -/
def Network.sendAll (net : Network) (requests : List Http.Request) : Network :=
  requests.foldl (fun net r => (net.send r).2) net

/-- A request that is fetched is sent if it could be built, and nothing else is sent. -/
theorem Network.fetch_eq_sendAll (request : Except Http.Failure Http.Request) (net : Network) :
    (net.fetch request).2 = net.sendAll request.toOption.toList := by
  cases request with
  | error failure => rfl
  | ok r => exact net.fetch_ok_snd r

namespace Service

/-- The parts of a service fit together as its configuration says. -/
structure Wired (s : Service) : Prop where
  providers : s.providers =
    s.config.services.toList.map fun (id, c) => providerOf s.config.provider.enabled id c
  browser : s.browser.isSome = s.config.provider.enabled

/-- The frame of a service: what it is put together from. -/
structure SameFrame (s s' : Service) : Prop where
  config : s'.config = s.config
  providers : s'.providers = s.providers
  browser : s'.browser.isSome = s.browser.isSome

/-- What can be asked of a service. -/
inductive Call
  | prepare (now : Timestamp) (bound : Except String Endpoint)
  | status (now : Moment) (id : String)
  | login (now : Moment) (id username password : String)
  | logout (id : String)
  | loginAll (now : Moment) (username password : String)
  | logoutAll
  | checkStoredBearer (now : Moment)
  | verifyBearer (now : Moment)
  | completeLogin (now : Moment) (redirects : List Redirect)
  | oauthLogout
  | overview (now : Moment)

/-- What comes of a call: the statuses that it reports with the ids of their scopes, and the service
and the network after it. -/
structure Outcome where
  reports : List (String × Status)
  after : Service
  net : Network

/-- Statuses with the ids of their scopes. -/
def byId (reports : List (Scope × Status)) : List (String × Status) :=
  reports.map fun (scope, status) => (scope.id, status)

/-- Make a call. -/
def call (s : Service) (net : Network) : Call → Outcome
  | .prepare now bound =>
    let (_, after, net) := s.prepare now bound net
    ⟨[], after, net⟩
  | .status now id => ⟨[(id, s.status now id)], s, net⟩
  | .login now id username password =>
    let (status, after, net) := s.login now id username password net
    ⟨[(id, status)], after, net⟩
  | .logout id =>
    let (_, after, net) := s.logout id net
    ⟨[], after, net⟩
  | .loginAll now username password =>
    let (reports, after, net) := s.loginAll now username password net
    ⟨byId reports, after, net⟩
  | .logoutAll =>
    let (after, net) := s.logoutAll net
    ⟨[], after, net⟩
  | .checkStoredBearer now => ⟨[], (s.checkStoredBearer now).2, net⟩
  | .verifyBearer now =>
    let (_, after, net) := s.verifyBearer now net
    ⟨[], after, net⟩
  | .completeLogin now redirects =>
    let (result, after, net) := s.awaitLogin now redirects net
    ⟨byId (result.elim [] BrowserOutcome.services), after, net⟩
  | .oauthLogout =>
    let (after, net) := s.oauthLogout net
    ⟨[], after, net⟩
  | .overview now => ⟨(s.overview now).map fun row => (row.scope.id, row.status), s, net⟩

/-- Make calls one after another, each with the network that it finds. -/
def run (s : Service) (calls : List (Call × Network)) : Service :=
  calls.foldl (fun s (c, net) => (s.call net c).after) s

/-! The wiring of a service. -/

/-- A provider has the id of its service. -/
@[simp]
theorem id_providerOf (enabled : Bool) (id : String) (c : ServiceConfig) :
    (providerOf enabled id c).scope.id = id := by
  unfold providerOf
  cases c.mode <;> cases enabled <;> rfl

section

variable {s : Service} (h : s.Wired)
include h

/-- The providers of a service are those of the configured services. -/
theorem Wired.mem_providers_iff (p : Provider) :
    p ∈ s.providers ↔ ∃ id c, s.config.services.get? id = some c ∧
      p = providerOf s.config.provider.enabled id c := by
  rw [h.providers]
  simp only [List.mem_map, Prod.exists, KeyMap.mem_toList_iff, eq_comm]

/-- A service that is configured to use the bearer token has a provider. -/
theorem Wired.exists_provider {id : String} (huses : s.config.usesBearer id = true) :
    ∃ p ∈ s.providers, p.scope.id = id := by
  unfold Config.usesBearer at huses
  cases hget : s.config.services.get? id with
  | none => simp [hget] at huses
  | some c => exact ⟨_, (h.mem_providers_iff _).mpr ⟨id, c, hget, rfl⟩, id_providerOf _ id c⟩

/-- No two providers have the same scope. -/
theorem Wired.pairwise_ids : s.providers.Pairwise fun p q => p.scope.id ≠ q.scope.id := by
  rw [h.providers, List.pairwise_map]
  refine s.config.services.sorted.imp fun {a b} hlt => ?_
  simp only [id_providerOf]
  exact fun heq => String.lt_irrefl b.1 (heq ▸ hlt)

/-- A provider needs the bearer token if its service is configured to use it and the identity
provider is in use. -/
theorem Wired.isBearer_eq {p : Provider} (hp : p ∈ s.providers) :
    p.isBearer = (s.config.provider.enabled && s.config.usesBearer p.scope.id) := by
  obtain ⟨id, c, hc, rfl⟩ := (h.mem_providers_iff p).mp hp
  rw [id_providerOf, Config.usesBearer, hc]
  unfold providerOf
  cases hmode : c.mode <;> cases s.config.provider.enabled <;> simp [Provider.isBearer, hmode]

/-- The scopes with a provider that needs the bearer token are those of the services that are
configured to use it, if the identity provider is in use. -/
theorem Wired.exists_bearer_iff (id : String) :
    (∃ p ∈ s.providers.filter Provider.isBearer, p.scope.id = id) ↔
      s.config.provider.enabled = true ∧ s.config.usesBearer id = true := by
  rw [← Bool.and_eq_true]
  constructor
  · intro hparts
    obtain ⟨p, hp, rfl⟩ := hparts
    obtain ⟨hp, hneeds⟩ := List.mem_filter.mp hp
    rw [← h.isBearer_eq hp, hneeds]
  · intro huses
    obtain ⟨p, hp, rfl⟩ := h.exists_provider (Bool.and_eq_true_iff.mp huses).2
    exact ⟨p, List.mem_filter.mpr ⟨hp, (h.isBearer_eq hp).trans huses⟩, rfl⟩

/-- A provider without a mode is one whose service is configured to use the bearer token while the
identity provider is not in use. -/
theorem Wired.mode?_eq_none_iff {p : Provider} (hp : p ∈ s.providers) :
    p.mode? = none ↔
      s.config.provider.enabled = false ∧ s.config.usesBearer p.scope.id = true := by
  obtain ⟨id, c, hc, rfl⟩ := (h.mem_providers_iff p).mp hp
  rw [id_providerOf, Config.usesBearer, hc]
  unfold providerOf
  cases hmode : c.mode <;> cases s.config.provider.enabled <;> simp [Provider.mode?, hmode]

end

/-- **A service is wired when it is built.** -/
theorem wired_build {c : Config} {store : Store} {pins : PinStore} {now : Timestamp}
    {net after : Network} {s : Service} (h : build c store pins now net = (.ok s, after)) :
    s.Wired ∧ s.config = c := by
  unfold build at h
  simp only at h
  split at h
  · next henabled =>
    split at h <;> cases h
    exact ⟨⟨rfl, henabled.symm⟩, rfl⟩
  · next hdisabled =>
    cases h
    exact ⟨⟨rfl, (Bool.eq_false_iff.mpr hdisabled).symm⟩, rfl⟩

/-! The frame of a service stays. -/

theorem SameFrame.refl (s : Service) : s.SameFrame s := ⟨rfl, rfl, rfl⟩

theorem SameFrame.trans {s s' s'' : Service} (h : s.SameFrame s') (h' : s'.SameFrame s'') :
    s.SameFrame s'' :=
  ⟨h'.config.trans h.config, h'.providers.trans h.providers, h'.browser.trans h.browser⟩

/-- What has the frame of a wired service is wired. -/
theorem Wired.of_sameFrame {s s' : Service} (h : s.Wired) (hframe : s.SameFrame s') :
    s'.Wired := by
  refine ⟨?_, ?_⟩
  · rw [hframe.providers, hframe.config]
    exact h.providers
  · rw [hframe.browser, hframe.config]
    exact h.browser

theorem sameFrame_authenticate (s : Service) (now : Moment) (p : Provider)
    (username password : String) (net : Network) :
    s.SameFrame (s.authenticate now p username password net).2.1 := by
  cases p with
  | basic scope loginUrl => exact ⟨rfl, rfl, rfl⟩
  | undetermined scope => exact .refl s
  | bearer scope =>
      unfold authenticate
      cases hbrowser : s.browser with
      | none => exact .refl s
      | some b => exact ⟨rfl, rfl, by rw [hbrowser]; rfl⟩

theorem sameFrame_authenticateAll (now : Moment) (username password : String)
    (ps : List Provider) : ∀ (s : Service) (net : Network),
    s.SameFrame (authenticateAll now username password ps s net).2.1 := by
  induction ps with
  | nil => exact fun s _ => .refl s
  | cons p ps ih =>
      intro s net
      exact (s.sameFrame_authenticate now p username password net).trans (ih _ _)

theorem sameFrame_release (s : Service) (p : Provider) (net : Network) :
    s.SameFrame (s.release p net).1 := by
  cases p <;> exact ⟨rfl, rfl, rfl⟩

theorem sameFrame_releaseAll (ps : List Provider) : ∀ (s : Service) (net : Network),
    s.SameFrame (ps.foldl (fun (s, net) p => s.release p net) (s, net)).1 := by
  induction ps with
  | nil => exact fun s _ => .refl s
  | cons p ps ih =>
      intro s net
      exact (s.sameFrame_release p net).trans (ih _ _)

theorem sameFrame_prepare (s : Service) (now : Timestamp) (bound : Except String Endpoint)
    (net : Network) : s.SameFrame (s.prepare now bound net).2.1 := by
  unfold prepare
  cases hbrowser : s.browser with
  | none => exact .refl s
  | some b =>
      have hpins : s.SameFrame (s.refreshPins now net).1 := by
        unfold refreshPins
        split <;> exact ⟨rfl, rfl, rfl⟩
      simp only
      split <;> exact ⟨hpins.config, hpins.providers, by rw [hbrowser]; rfl⟩

theorem sameFrame_verifyBearer (s : Service) (now : Moment) (net : Network) :
    s.SameFrame (s.verifyBearer now net).2.1 := by
  unfold verifyBearer
  split
  · exact .refl s
  · exact .refl s
  · next hbrowser _ =>
    split
    · exact ⟨rfl, rfl, by rw [hbrowser]; rfl⟩
    · simp only
      split <;> exact ⟨rfl, rfl, by rw [hbrowser]; rfl⟩
    · exact ⟨rfl, rfl, by rw [hbrowser]; rfl⟩

theorem sameFrame_completeLogin? {s after : Service} {now : Moment} {net net' : Network}
    {result : BrowserOutcome} (h : s.completeLogin? now net = some (result, after, net')) :
    s.SameFrame after := by
  unfold completeLogin? at h
  cases hbrowser : s.browser with
  | none =>
      rw [hbrowser] at h
      cases h
      exact .refl s
  | some b =>
      rw [hbrowser] at h
      obtain ⟨⟨outcome, listener⟩, -, h⟩ := Option.map_eq_some_iff.mp h
      have htaken : s.SameFrame { s with browser := some { b with listener } } :=
        ⟨rfl, rfl, by rw [hbrowser]; rfl⟩
      simp only at h
      split at h <;> cases h
      · exact htaken.trans (sameFrame_authenticateAll ..)
      · exact htaken

theorem sameFrame_followRedirect (s : Service) (r : Redirect) (net : Network) :
    s.SameFrame (s.followRedirect r net).1 := by
  unfold followRedirect
  cases hbrowser : s.browser with
  | none => exact .refl s
  | some b =>
      simp only
      split
      · exact .refl s
      · exact ⟨rfl, rfl, by rw [hbrowser]; rfl⟩
      · exact ⟨rfl, rfl, by rw [hbrowser]; rfl⟩

theorem sameFrame_awaitLogin (now : Moment) (redirects : List Redirect) :
    ∀ (s : Service) (net : Network), s.SameFrame (s.awaitLogin now redirects net).2.1 := by
  induction redirects with
  | nil =>
      intro s net
      unfold awaitLogin
      split
      · next hdone => exact sameFrame_completeLogin? hdone
      · exact .refl s
  | cons r later ih =>
      intro s net
      unfold awaitLogin
      split
      · next hdone => exact sameFrame_completeLogin? hdone
      · exact (s.sameFrame_followRedirect r net).trans (ih _ _)

/-- **No call touches the frame.** -/
theorem sameFrame_call (s : Service) (net : Network) (c : Call) :
    s.SameFrame (s.call net c).after := by
  cases c with
  | prepare now bound => exact s.sameFrame_prepare now bound net
  | status now id => exact .refl s
  | login now id username password =>
      simp only [call, login]
      cases s.provider? id with
      | none => exact .refl s
      | some p => exact s.sameFrame_authenticate now p username password net
  | logout id =>
      simp only [call, logout]
      cases s.provider? id with
      | none => exact .refl s
      | some p => exact s.sameFrame_release p net
  | loginAll now username password => exact sameFrame_authenticateAll ..
  | logoutAll => exact sameFrame_releaseAll ..
  | checkStoredBearer now =>
      simp only [call, checkStoredBearer]
      split
      · exact .refl s
      · split <;> exact ⟨rfl, rfl, rfl⟩
  | verifyBearer now => exact s.sameFrame_verifyBearer now net
  | completeLogin now redirects => exact sameFrame_awaitLogin ..
  | oauthLogout => exact ⟨rfl, rfl, rfl⟩
  | overview now => exact .refl s

/-- No run touches the frame. -/
theorem sameFrame_run (calls : List (Call × Network)) :
    ∀ s : Service, s.SameFrame (s.run calls) := by
  induction calls with
  | nil => exact .refl
  | cons c calls ih =>
      intro s
      exact (s.sameFrame_call c.2 c.1).trans (ih _)

/-- **A service is wired as long as it works**, after whatever calls in whatever world. -/
theorem wired_run {c : Config} {store : Store} {pins : PinStore} {now : Timestamp}
    {net after : Network} {s : Service} (h : build c store pins now net = (.ok s, after))
    (calls : List (Call × Network)) : (s.run calls).Wired ∧ (s.run calls).config = c := by
  obtain ⟨hwired, hconfig⟩ := wired_build h
  have hframe := sameFrame_run calls s
  exact ⟨hwired.of_sameFrame hframe, hframe.config.trans hconfig⟩

end Service

end SignOn
