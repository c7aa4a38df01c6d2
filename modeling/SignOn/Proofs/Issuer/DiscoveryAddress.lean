import SignOn.Issuer.Keys
import SignOn.Network.Script
import SignOn.Proofs.Text.Cutting
import SignOn.Proofs.Token.TransparentCache
/-!
# The address of the discovery document

The address is put together in two places.  `Issuer.discoveryUrl` hangs the path of the document
below the issuer as it stands.  A search for a key cuts the slashes at the end of the issuer first
(`PublicKey.startsAt_iff`).  An issuer of a realm ends with a slash exactly when the realm does
(`Issuer.getLast?_ofRealm`), because only the base is trimmed when the two are joined.  So the two
addresses agree up to the realms that end with a slash (`Issuer.discoveryUrl_requested_iff`).
-/

namespace SignOn

/-- A search for the key of an issuer asks for the document at `address` before anything else:
without a reply it ends and says from where there is none, and with one this request stands in
front of all that arrives later. -/
structure PublicKey.StartsAt (issuer address : String) : Prop where
  unanswered (net after : Network) (failure : Http.Failure)
    (h : net.fetch (Http.buildText .get none address) = (.error failure, after)) :
    resolve issuer net = (.error (.noAnswer address failure), after)
  answered (net after : Network) (reply : Http.Reply)
    (h : net.fetch (Http.buildText .get none address) = (.ok reply, after)) :
    after.seen <+: (resolve issuer net).2.seen

namespace Network

/-- What has arrived stays in front of what arrives later. -/
theorem seen_prefix_afterGet (url : String) (net : Network) :
    net.seen <+: (net.afterGet url).seen := by
  obtain ⟨arrived, hafter, -⟩ := net.fetch_arrived (Http.buildText .get none url)
  rw [afterGet, hafter]
  exact List.prefix_append ..

/-- During an outage no document is fetched from anywhere. -/
theorem fetch_of_outage {net : Network} {cause : String} (h : net.outage = some cause)
    (request : Except Http.Failure Http.Request) :
    ∃ failure, net.fetch request = (.error failure, net) := by
  cases request with
  | error failure => exact ⟨failure, rfl⟩
  | ok request =>
      exact ⟨.unanswered request.url.write false, by simp only [fetch, send, h]⟩

end Network

namespace PublicKey

theorem startsAt_discoveryUrlOf (issuer : String) : StartsAt issuer (discoveryUrlOf issuer) where
  unanswered net after failure h := by
    simp only [resolve, getDocument, h]
  answered net after reply h := by
    have hafter : net.afterGet (discoveryUrlOf issuer) = after := by rw [Network.afterGet, h]
    rcases resolve_traffic issuer net with hone | ⟨url, htwo⟩
    · exact hone ▸ hafter ▸ List.prefix_rfl
    · rw [htwo, hafter]
      exact after.seen_prefix_afterGet url

/-- **The document that is asked for first** is below the issuer without the slashes at its end. -/
theorem startsAt_iff (issuer address : String) :
    StartsAt issuer address ↔ address = discoveryUrlOf issuer := by
  constructor
  · intro h
    -- During an outage a search says which address it has asked for.
    let net : Network := Script.network (some "") ⟨[], []⟩ []
    obtain ⟨failure, hfetch⟩ := net.fetch_of_outage rfl (Http.buildText .get none address)
    obtain ⟨failure', hfetch'⟩ :=
      net.fetch_of_outage rfl (Http.buildText .get none (discoveryUrlOf issuer))
    have hresolve := h.unanswered net net failure hfetch
    rw [(startsAt_discoveryUrlOf issuer).unanswered net net failure' hfetch'] at hresolve
    simp only [Prod.mk.injEq, Except.error.injEq, KeyFault.noAnswer.injEq] at hresolve
    exact hresolve.1.1.symm
  · rintro rfl
    exact startsAt_discoveryUrlOf issuer

end PublicKey

namespace Issuer

/-- The issuer of a realm ends with a slash exactly when the realm does. -/
theorem getLast?_ofRealm (base realm : String) :
    (ofRealm base realm).url.toList.getLast? = some '/' ↔ realm.toList.getLast? = some '/' := by
  unfold ofRealm
  split
  · next hempty =>
    obtain rfl := String.isEmpty_iff.mp hempty
    simpa using Text.getLast?_dropEnd '/' base
  · next hne =>
    have hlast : realm.toList.getLast? ≠ none := by simpa [String.isEmpty_iff] using hne
    obtain ⟨c, hc⟩ := Option.ne_none_iff_exists'.mp hlast
    rw [String.toList_append, List.getLast?_append, hc, Option.some_or]

/-- **The two addresses of the discovery document** agree exactly up to the realms that end with a
slash.  For every base and realm, a search for the key of the issuer asks for one address first, and
that one has no doubled slash before the path of the document.  The discovery URL of the issuer is
this address exactly when the realm does not end with a slash, and otherwise it has a doubled
slash there. -/
theorem discoveryUrl_requested_iff (base realm : String) :
    ∃ requested,
      (∀ address, PublicKey.StartsAt (ofRealm base realm).url address ↔ address = requested) ∧
      Text.endsWith ("/" ++ discoveryPath) requested = false ∧
      ((ofRealm base realm).discoveryUrl = requested ↔ Text.endsWith "/" realm = false) ∧
      (Text.endsWith ("/" ++ discoveryPath) (ofRealm base realm).discoveryUrl = true ↔
        Text.endsWith "/" realm = true) := by
  have hlast := getLast?_ofRealm base realm
  generalize ofRealm base realm = issuer at hlast ⊢
  have hslash : ("/" : String) = String.singleton '/' := rfl
  refine ⟨PublicKey.discoveryUrlOf issuer.url, PublicKey.startsAt_iff issuer.url, ?_, ?_, ?_⟩
  · rw [PublicKey.discoveryUrlOf, Text.endsWith_append_append, hslash, Bool.eq_false_iff, ne_eq,
      Text.endsWith_singleton_iff]
    exact Text.getLast?_dropEnd '/' issuer.url
  · rw [PublicKey.discoveryUrlOf, discoveryUrl, String.append_left_inj, eq_comm,
      Text.dropEnd_eq_self_iff, ne_eq, hlast, hslash, Bool.eq_false_iff, ne_eq,
      Text.endsWith_singleton_iff]
  · rw [discoveryUrl, Text.endsWith_append_append, hslash, Text.endsWith_singleton_iff,
      Text.endsWith_singleton_iff, hlast]

/-- The keys of a realm with a slash at its end are not looked for at its discovery URL. -/
theorem discoveryUrl_not_requested :
    (ofRealm "https://idp.example.org" "r/").discoveryUrl =
        "https://idp.example.org/realms/r//.well-known/openid-configuration" ∧
      ¬PublicKey.StartsAt (ofRealm "https://idp.example.org" "r/").url
        (ofRealm "https://idp.example.org" "r/").discoveryUrl ∧
      PublicKey.StartsAt (ofRealm "https://idp.example.org" "r/").url
        "https://idp.example.org/realms/r/.well-known/openid-configuration" := by
  refine ⟨by decide, ?_, ?_⟩
  · rw [PublicKey.startsAt_iff]
    decide
  · rw [PublicKey.startsAt_iff]
    decide

end Issuer

end SignOn
