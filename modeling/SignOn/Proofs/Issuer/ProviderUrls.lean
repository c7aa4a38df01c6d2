import SignOn.Network.Script
import SignOn.Proofs.Login.CarriedCode
import SignOn.Proofs.Url.QueryText
/-!
# The parameters of the provider's URLs

The authorization URL and the logout URL are endpoints to whose query pairs are added.  Whoever gets
the text of such a URL finds the pairs behind those of the endpoint (`Url.Adds`), for an endpoint
with a query or a fragment of its own as well.  The client id and the redirect URI that the
authorization URL carries are those that the exchange of a code sends
(`TokenClient.urls_carry_parameters`).
-/

namespace SignOn

/-- The pairs that a reader finds in the text of a URL, between its first `?` and the first `#`. -/
def Url.shownPairs (u : Url) : List (String × String) :=
  Form.decode (String.ofList ((cutTail u.write.toList).2.1.getD []))

/-- A URL is an endpoint with pairs added: they are shown behind those of the endpoint, the pairs
that are shown are those of the query, and nothing but the query is changed. -/
structure Url.Adds (endpoint url : Url) (pairs : List (String × String)) : Prop where
  shown : url.shownPairs = endpoint.shownPairs ++ pairs
  query : url.shownPairs = Form.decode (url.query.getD "")
  rest : url.withoutQuery = endpoint.withoutQuery

namespace Url

theorem Unmarked.shownPairs {u : Url} (h : u.Unmarked) :
    u.shownPairs = Form.decode (u.query.getD "") := by
  rw [Url.shownPairs, h.cutTail_write]
  cases u.query with
  | none => rfl
  | some q => simp

/-- **Added pairs are shown** behind those that are there. -/
theorem Unmarked.adds_appendPairs {u : Url} (h : u.Unmarked) (pairs : List (String × String)) :
    u.Adds (u.appendPairs pairs) pairs := by
  obtain ⟨q, hq, hpairs⟩ := decode_appendPairs u pairs
  refine ⟨?_, (h.appendPairs pairs).shownPairs, rfl⟩
  rw [(h.appendPairs pairs).shownPairs, h.shownPairs, hq, Option.getD_some, hpairs]

/-- Without user name and password the text in front of the query gets no mark. -/
theorem Unmarked.withoutUserinfo {u : Url} (h : u.Unmarked) : u.withoutUserinfo.Unmarked := by
  refine ⟨?_, h.query⟩
  obtain ⟨⟨hscheme, hmiddle⟩, hpath⟩ :=
    (isUnmarked_append.mp h.front).imp_left isUnmarked_append.mp
  refine (hscheme.append ?_).append hpath
  change IsUnmarked (if u.authority = true then "//" ++ "" ++ u.writeHostPort else u.path.guard)
  by_cases hauthority : u.authority = true
  · rw [if_pos hauthority] at hmiddle ⊢
    exact (by decide : IsUnmarked ("//" ++ "")).append (isUnmarked_append.mp hmiddle).2
  · rw [if_neg hauthority] at hmiddle ⊢
    exact hmiddle

/-- A URL that is read from a text without a `?` shows no pairs. -/
theorem shownPairs_eq_nil {text : String} {u : Url} (h : parse text = .ok u)
    (hask : '?' ∉ text.toList) : u.shownPairs = [] := by
  rw [(unmarked_of_parse h).shownPairs, query_eq_none_of_parse h hask]
  rfl

end Url

namespace Issuer

/-- What follows the issuer in the URL of an endpoint has no `?`. -/
theorem ask_not_mem_endpointText {i : Issuer} {name : String} (hissuer : '?' ∉ i.url.toList)
    (hname : '?' ∉ name.toList) : '?' ∉ (i.endpointText name).toList := by
  simp [endpointText, hissuer, hname]

theorem endpoint_eq_ok {i : Issuer} {name : String} {url : Url}
    (h : Url.parse (i.endpointText name) = .ok url) : i.endpoint name = .ok url := by
  simp only [endpoint, h]

end Issuer

/-- **The provider's URLs carry their parameters.**  For every base, realm, client id and redirect
URI: if the authorization endpoint is a URL, the authorization URL is that endpoint with four pairs
added, which are all that it shows if the issuer has no `?`.  The exchange of a code sends the same
client id and redirect URI, in a form and nowhere else.  If the logout endpoint is a URL, the logout
URL is that endpoint, with two pairs added for a hint. -/
theorem TokenClient.urls_carry_parameters (base realm clientId redirectUri : String) :
    let client : TokenClient := ⟨.ofRealm base realm, clientId, redirectUri⟩
    (∀ endpoint, Url.parse (client.issuer.endpointText "auth") = .ok endpoint →
      ∃ url, client.authorizationUrl = .ok url ∧
        endpoint.Adds url [("response_type", "code"), ("client_id", clientId),
          ("scope", "openid email"), ("redirect_uri", redirectUri)] ∧
        ('?' ∉ client.issuer.url.toList → endpoint.shownPairs = [])) ∧
    (∀ code net endpoint, Http.buildText .get none client.issuer.tokenUrl = .ok endpoint →
      ∃ body, (client.exchange code net).2 = (net.send ⟨.post, endpoint.url,
          some ⟨"application/x-www-form-urlencoded", body⟩⟩).2 ∧
        Form.decode body = [("grant_type", "authorization_code"), ("code", code),
          ("scope", "openid"), ("redirect_uri", redirectUri), ("client_id", clientId)]) ∧
    ∀ endpoint, Url.parse (client.issuer.endpointText "logout") = .ok endpoint →
      client.issuer.logoutUrl none = .ok endpoint ∧
      ∀ hint, ∃ url, client.issuer.logoutUrl (some hint) = .ok url ∧
        endpoint.Adds url [("id_token_hint", hint), ("post_logout_redirect_uri", "")] := by
  intro client
  refine ⟨fun endpoint h => ?_, fun code net endpoint h => ?_,
    fun endpoint h => ⟨?_, fun hint => ?_⟩⟩
  · refine ⟨endpoint.appendPairs (Issuer.authorizationPairs clientId redirectUri), ?_,
      (Url.unmarked_of_parse h).adds_appendPairs _, fun hask => ?_⟩
    · simp only [authorizationUrl, Issuer.authorizationUrl, Issuer.endpoint_eq_ok h]
      rfl
    · exact Url.shownPairs_eq_nil h (Issuer.ask_not_mem_endpointText hask (by decide))
  · exact client.posts_exchange code net endpoint h
  · simp only [Issuer.logoutUrl, Issuer.endpoint_eq_ok h]
    rfl
  · refine ⟨endpoint.appendPairs (Issuer.logoutPairs hint), ?_,
      (Url.unmarked_of_parse h).adds_appendPairs _⟩
    simp only [Issuer.logoutUrl, Issuer.endpoint_eq_ok h]
    rfl

/-- An issuer with a query and a fragment of its own. -/
def tenantIssuer : Issuer :=
  .ofRealm "https://idp.test/?tenant=a%26b#top" "r"

def tenantEndpoint : Url :=
  ⟨"https", true, "", none, some (.name "idp.test"), none, .segments [""], some "tenant=a%26b",
    some "top/realms/r/protocol/openid-connect/auth"⟩

/-- A client with reserved characters in its id and its redirect URI. -/
def reservedClient : TokenClient :=
  ⟨.ofRealm "http://idp.test" "r", "a b&c=d", "http://localhost:1/cb?x#y"⟩

/-- An endpoint of its issuer. -/
def reservedEndpoint (name : String) : Url :=
  ⟨"http", true, "", none, some (.name "idp.test"), none,
    .segments ["realms", "r", "protocol", "openid-connect", name], none, none⟩

/-- Reserved characters are carried, also behind a query, and the exchange sends the same. -/
theorem TokenClient.urls_carry_parameters_reserved :
    (∃ url, TokenClient.authorizationUrl { reservedClient with issuer := tenantIssuer } = .ok url ∧
      url.shownPairs = [("tenant", "a&b"), ("response_type", "code"), ("client_id", "a b&c=d"),
        ("scope", "openid email"), ("redirect_uri", "http://localhost:1/cb?x#y")]) ∧
    (∃ url, reservedClient.authorizationUrl = .ok url ∧
      url.shownPairs = [("response_type", "code"), ("client_id", "a b&c=d"),
        ("scope", "openid email"), ("redirect_uri", "http://localhost:1/cb?x#y")]) ∧
    (∃ body, (reservedClient.exchange "é&+" (Script.network none ⟨[], []⟩ [])).2.seen =
        [.request ⟨.post, reservedEndpoint "token",
          some ⟨"application/x-www-form-urlencoded", body⟩⟩] ∧
      Form.decode body = [("grant_type", "authorization_code"), ("code", "é&+"),
        ("scope", "openid"), ("redirect_uri", "http://localhost:1/cb?x#y"),
        ("client_id", "a b&c=d")]) ∧
    ∃ url, reservedClient.issuer.logoutUrl (some "%41 +") = .ok url ∧
      url.shownPairs = [("id_token_hint", "%41 +"), ("post_logout_redirect_uri", "")] := by
  have htenant : Url.parse (tenantIssuer.endpointText "auth") = .ok tenantEndpoint := by
    decide +kernel
  have hshown : tenantEndpoint.shownPairs = [("tenant", "a&b")] := by decide +kernel
  have hparse : ∀ name ∈ ["auth", "token", "logout"],
      Url.parse (reservedClient.issuer.endpointText name) = .ok (reservedEndpoint name) := by
    decide +kernel
  have hrequest : Http.buildText .get none reservedClient.issuer.tokenUrl =
      .ok ⟨.get, reservedEndpoint "token", none⟩ := by
    simp only [Http.buildText, Issuer.tokenUrl, hparse "token" (by simp), Http.build]
    exact if_pos ⟨rfl, .inl rfl, by decide⟩
  have hplain : (reservedEndpoint "logout").shownPairs = [] := by decide +kernel
  obtain ⟨htenantAuth, -, -⟩ := urls_carry_parameters "https://idp.test/?tenant=a%26b#top" "r"
    "a b&c=d" "http://localhost:1/cb?x#y"
  obtain ⟨hauth, hexchange, hlogout⟩ := urls_carry_parameters "http://idp.test" "r"
    "a b&c=d" "http://localhost:1/cb?x#y"
  refine ⟨?_, ?_, ?_, ?_⟩
  · obtain ⟨url, hurl, hadds, -⟩ := htenantAuth tenantEndpoint htenant
    exact ⟨url, hurl, by rw [hadds.shown, hshown]; rfl⟩
  · obtain ⟨url, hurl, hadds, hnone⟩ := hauth _ (hparse "auth" (by simp))
    exact ⟨url, hurl, by rw [hadds.shown, hnone (by decide)]; rfl⟩
  · obtain ⟨body, hsent, hbody⟩ := hexchange "é&+" (Script.network none ⟨[], []⟩ []) _ hrequest
    exact ⟨body, (congrArg Network.seen hsent).trans rfl, hbody⟩
  · obtain ⟨url, hurl, hadds⟩ := (hlogout _ (hparse "logout" (by simp))).2 "%41 +"
    exact ⟨url, hurl, by rw [hadds.shown, hplain]; rfl⟩

end SignOn
