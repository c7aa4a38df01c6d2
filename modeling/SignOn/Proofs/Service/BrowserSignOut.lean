import SignOn.Proofs.Issuer.ProviderUrls
import SignOn.Proofs.Requests
import SignOn.Proofs.Service.Operations
import SignOn.Proofs.Service.SignOut
import SignOn.Proofs.Steps
/-!
# Signing out of the identity provider

The end of a browser login removes the pair of bearer tokens and then the markers of all services
that need it, whatever the provider answers.  Which services these are is read off their providers.
While the identity provider is not in use, a service that is configured to use the bearer token has
a provider of another kind, and is left out.

The request that ends the session carries the stored id token in its query
(`ends_of_mem_endRequest?`).  On the parts of the store the whole operation is one step
(`parts_oauthLogout`).  The main statement, `oauthLogout_forgets_iff`, says for every service what
is forgotten, what stays, and what is sent; `oauthLogout_keeps_marker` is a service that is left
out.
-/

namespace SignOn

namespace TokenClient

/-- The request that ends the provider's session, if there can be one. -/
def endRequest? (c : TokenClient) (hint : Option String) : Option Http.Request :=
  match c.issuer.logoutUrl hint with
  | .error _ => none
  | .ok url => (Http.build .get none url).toOption

/-- A request asks for the end of the provider's session: it gets the end-session endpoint, and who
reads its query finds the hint there, with an empty address to return to, behind what the endpoint
has of its own. -/
structure Ends (c : TokenClient) (hint : Option String) (request : Http.Request) : Prop where
  method : request.method = .get
  body : request.body = none
  url : ∃ endpoint, Http.buildText .get none (c.issuer.endpointText "logout") = .ok endpoint ∧
    match hint with
    | none => request.url = endpoint.url
    | some token => endpoint.url.Adds request.url
        [("id_token_hint", token), ("post_logout_redirect_uri", "")]

/-- Ending the session sends that request and nothing else, whatever is answered. -/
theorem endSession_snd (c : TokenClient) (hint : Option String) (net : Network) :
    (c.endSession hint net).2 = net.sendAll (c.endRequest? hint).toList := by
  unfold endSession endRequest?
  cases c.issuer.logoutUrl hint with
  | error fault => rfl
  | ok url => exact net.fetch_eq_sendAll (Http.build .get none url)

/-- The request is the one for the endpoint, to which the hint is added. -/
theorem endRequest?_eq (c : TokenClient) (hint : Option String) :
    c.endRequest? hint =
      (Http.buildText .get none (c.issuer.endpointText "logout")).toOption.map fun endpoint =>
        { endpoint with
          url := hint.elim endpoint.url fun token =>
            endpoint.url.appendPairs (Issuer.logoutPairs token) } := by
  unfold endRequest? Issuer.logoutUrl Issuer.endpoint Http.buildText
  cases Url.parse (c.issuer.endpointText "logout") with
  | error cause => rfl
  | ok url =>
      cases hint with
      | none => simp [Except.map]
      | some token => exact Http.build_appendPairs .get none url (Issuer.logoutPairs token)

/-- There is a request exactly if the endpoint can be asked, whatever the hint. -/
theorem isSome_endRequest?_iff (c : TokenClient) (hint : Option String) :
    (c.endRequest? hint).isSome = true ↔
      ∃ endpoint, Http.buildText .get none (c.issuer.endpointText "logout") = .ok endpoint := by
  rw [endRequest?_eq, Option.isSome_map, Option.isSome_iff_exists]
  simp only [toOption_eq_some_iff]

/-- The request asks for the end of the session. -/
theorem ends_of_mem_endRequest? {c : TokenClient} {hint : Option String} {request : Http.Request}
    (h : request ∈ c.endRequest? hint) : c.Ends hint request := by
  rw [endRequest?_eq, Option.mem_map] at h
  obtain ⟨endpoint, hendpoint, rfl⟩ := h
  have hbuild := toOption_eq_some_iff.mp hendpoint
  obtain ⟨url, hparse, rfl⟩ := Http.exists_of_buildText hbuild
  refine ⟨rfl, rfl, _, hbuild, ?_⟩
  cases hint with
  | none => rfl
  | some token => exact (Url.unmarked_of_parse hparse).withoutUserinfo.adds_appendPairs _

end TokenClient

namespace Service

/-- Forgetting the markers of several providers changes no other part. -/
theorem parts_clearMarkers (ps : List Provider) : ∀ {s : Store}, s.Writable ps.length →
    Parts.of (ps.foldl (fun s p => (s.clearAuthMode p.scope.id).2) s).contents =
      { Parts.of s.contents with
        marker := fun id =>
          if ∃ p ∈ ps, p.scope.id = id then none else (Parts.of s.contents).marker id } := by
  induction ps with
  | nil => intro s _; simp
  | cons p ps ih =>
      intro s h
      obtain ⟨hok, -, hwritable⟩ := h.apply (.clearAuthMode p.scope.id)
      have hstep := Parts.of_apply_ok hok
      rw [List.foldl_cons]
      refine (ih hwritable).trans ?_
      change Parts.mk _ _ _ _ = _
      rw [hstep]
      refine Parts.ext rfl ?_ rfl rfl
      funext id
      by_cases hid : p.scope.id = id
      · simp [Parts.step, hid]
      · simp [Parts.step, hid, Ne.symm hid, Function.update_of_ne]

/-- What becomes of the parts of the store when the browser login ends: a plain assignment. -/
theorem parts_oauthLogout {s : Service} (hwired : s.Wired)
    (hwrites : s.store.Writable (s.providers.length + 1)) (net : Network) :
    Parts.of (s.oauthLogout net).1.store.contents =
      { Parts.of s.store.contents with
        bearer := (none, none)
        marker := fun id =>
          if s.config.provider.enabled = true ∧ s.config.usesBearer id = true then none
          else (Parts.of s.store.contents).marker id } := by
  obtain ⟨hok, -, hwritable⟩ := hwrites.apply .clearBearer
  have hstep := Parts.of_apply_ok hok
  have hstore : (s.oauthLogout net).1.store =
      (s.providers.filter Provider.isBearer).foldl
        (fun store p => (store.clearAuthMode p.scope.id).2) (s.store.apply .clearBearer).2 := by
    unfold oauthLogout
    cases s.browser <;> rfl
  have hfew : (s.store.apply .clearBearer).2.Writable
      (s.providers.filter Provider.isBearer).length :=
    fun f hf n hn => hwritable f hf n (Nat.lt_of_lt_of_le hn (List.length_filter_le _ _))
  rw [hstore, parts_clearMarkers _ hfew, hstep]
  simp only [hwired.exists_bearer_iff]
  rfl

/-- **What the end of the browser login forgets.**  For every service, whatever its store holds and
whatever the identity provider answers, when the writes of the store succeed: the bearer tokens are
removed, and all but the markers of the services configured to use them is as it was.  These markers
are removed if the identity provider is in use, and stay otherwise.  If it is in use, the request
that ends the session is sent once, if its endpoint can be asked; it carries the stored id token as
its hint.  Otherwise nothing is sent. -/
theorem oauthLogout_forgets_iff {s : Service} (hwired : s.Wired)
    (hwrites : s.store.Writable (s.providers.length + 1)) (net : Network) :
    let out := s.oauthLogout net
    let before := Parts.of s.store.contents
    let after := Parts.of out.1.store.contents
    (after.bearer = (none, none) ∧ after.token = before.token ∧ after.free = before.free ∧
        (∀ id, s.config.usesBearer id = false → after.marker id = before.marker id) ∧
        out.1 = { s with store := out.1.store }) ∧
      ((∀ id, s.config.usesBearer id = true → after.marker id = none) ↔
        s.config.provider.enabled = true ∨
          ∀ id, s.config.usesBearer id = true → before.marker id = none) ∧
      (s.config.provider.enabled = false → after.marker = before.marker ∧ out.2 = net) ∧
      (s.config.provider.enabled = true → ∃ b, s.browser = some b ∧
        let client := b.listener.client
        let hint := s.store.contents.bearer?.bind BearerToken.idToken
        out.2 = net.sendAll (client.endRequest? hint).toList ∧
          ((client.endRequest? hint).isSome = true ↔ ∃ endpoint,
            Http.buildText .get none (client.issuer.endpointText "logout") = .ok endpoint) ∧
          ∀ request ∈ client.endRequest? hint, client.Ends hint request) := by
  intro out before after
  have hparts : after = _ := parts_oauthLogout hwired hwrites net
  have hmarker (id : String) : after.marker id =
      if s.config.provider.enabled = true ∧ s.config.usesBearer id = true then none
      else before.marker id := congrArg (fun parts => Parts.marker parts id) hparts
  have hbrowser := hwired.browser
  refine ⟨⟨?_, ?_, ?_, ?_, rfl⟩, ?_, ?_, ?_⟩
  · rw [hparts]
  · rw [hparts]
  · rw [hparts]
  · intro id hid
    rw [hmarker, hid]
    simp
  · cases henabled : s.config.provider.enabled with
    | true => simp +contextual [hmarker, henabled]
    | false => simp [hmarker, henabled]
  · intro hdisabled
    rw [hdisabled] at hbrowser
    refine ⟨?_, ?_⟩
    · funext id
      rw [hmarker, hdisabled]
      simp
    · have hnone : s.browser = none := by simpa using hbrowser
      simp only [out, oauthLogout, hnone]
  · intro henabled
    rw [henabled] at hbrowser
    obtain ⟨b, hb⟩ := Option.isSome_iff_exists.mp hbrowser
    refine ⟨b, hb, ?_, TokenClient.isSome_endRequest?_iff _ _,
      fun request hrequest => TokenClient.ends_of_mem_endRequest? hrequest⟩
    rw [← TokenClient.endSession_snd]
    simp only [out, oauthLogout, hb, Listener.logout]

/-- After the browser login has ended, while the identity provider is out of reach, the marker is
gone. -/
theorem oauthLogout_forgets_filed :
    ((alarms filed).oauthLogout outage).1.store.contents.bearer? = none ∧
      ((alarms filed).oauthLogout outage).1.store.contents.authMode? "alarms" = none := by
  have hwired : (alarms filed).Wired := ⟨rfl, rfl⟩
  have hwrites : (alarms filed).store.Writable ((alarms filed).providers.length + 1) := by
    intro f hf n _
    cases hf
    rfl
  have huses : (alarms filed).config.usesBearer "alarms" = true := by decide +kernel
  obtain ⟨⟨hbearer, -⟩, hforgets, -⟩ := oauthLogout_forgets_iff hwired hwrites outage
  have hmarker := hforgets.mpr (.inl rfl) "alarms" huses
  constructor
  · rw [(Parts.reads_of _).bearer, Parts.bearer?, hbearer]
    rfl
  · rw [(Parts.reads_of _).authMode, Parts.authMode?, hmarker]
    rfl

/-- A service with one scope, `alarms`, which is configured to use the bearer token while the
identity provider is not in use. -/
def alarmsOffline (store : Store) : Service :=
  let config : Config := { Config.default with
    services := .ofList [("alarms", ⟨none, "http://alarms", .oauth2⟩)] }
  { alarms store with
    config
    browser := none
    providers := config.services.toList.map fun (id, c) => providerOf false id c }

/-- **The end of the browser login keeps a marker.**  The service is configured to use the bearer
token and was last authenticated with it.  While the identity provider is not in use, the tokens are
removed and the marker stays. -/
theorem oauthLogout_keeps_marker :
    let s := alarmsOffline filed
    let after := (s.oauthLogout outage).1
    s.config.usesBearer "alarms" = true ∧ after.store.contents.bearer? = none ∧
      after.store.contents.authMode? "alarms" = some .oauth2 := by
  decide +kernel

end Service

end SignOn
