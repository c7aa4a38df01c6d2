import SignOn.Proofs.Issuer.DiscoveryAddress
import SignOn.Proofs.Issuer.KeySets
/-!
# Keys over every answer of a provider

What a provider has to answer for a key to be found is said here in terms of its documents.  A
search finds a key exactly if it is published (`PublicKey.Published`): two documents are delivered
one after another, and the first RSA entry of the second holds the key.  Every way in which a search
can end without a key has its fault (`PublicKey.NotFound`).  What is found depends on the items of
the key set alone (`PublicKey.resolve_of_offers`).
-/

namespace SignOn

/-! ### The answers of a provider -/

/-- The fault of a document that does not have the shape that is asked for. -/
def PublicKey.illegible (url : String) : KeyFault :=
  .unparsable url (.unreadable (match Http.buildText .get none url with
    | .ok request => request.url.write
    | .error _ => url))

/-- Why a document is not got from `url`: there is no answer, its status is not one of success, or
not all of its body arrives or has the shape that is asked for. -/
inductive Network.Withholds (net : Network) (url : String) (shape : Json.Node → Prop) :
    KeyFault → Network → Prop
  | unanswered {failure : Http.Failure} {after : Network}
      (fetched : net.fetch (Http.buildText .get none url) = (.error failure, after)) :
      Withholds net url shape (.noAnswer url failure) after
  | refused {reply : Http.Reply} {after : Network}
      (fetched : net.fetch (Http.buildText .get none url) = (.ok reply, after))
      (status : Http.isSuccess reply.status = false) :
      Withholds net url shape (.status url reply.status) after
  | shapeless {reply : Http.Reply} {after : Network}
      (fetched : net.fetch (Http.buildText .get none url) = (.ok reply, after))
      (status : Http.isSuccess reply.status = true)
      (body : reply.complete = true →
        ∀ node, Json.nodeOfBytes? reply.body = some node → ¬shape node) :
      Withholds net url shape (PublicKey.illegible url) after

/-- The discovery document of an issuer is delivered and names an address. -/
def Network.Names (net : Network) (issuer url : String) (after : Network) : Prop :=
  ∃ discovery, net.Delivers (PublicKey.discoveryUrlOf issuer) discovery after ∧
    discovery.NamesKeySet (some url) ∧ url ≠ ""

/-- A key set of these items is delivered from the address that the discovery document of an issuer
names. -/
def Network.Offers (net : Network) (issuer url : String) (items : List Json.Node)
    (after : Network) : Prop :=
  ∃ between keySet, net.Names issuer url between ∧ between.Delivers url keySet after ∧
    keySet.ListsKeys items

namespace PublicKey

/-- A key set is offered, all of its items have the types of an entry, and the first RSA entry of
them publishes the key. -/
def Published (issuer : String) (net : Network) (key : PublicKey) (after : Network) : Prop :=
  ∃ url items others first rest, net.Offers issuer url items after ∧
    List.Forall₂ KeyEntry.Typed items (others ++ first :: rest) ∧
    (∀ entry ∈ others, entry.kind ≠ "RSA") ∧ first.Publishes key

/-- Why no key is found, and what the network is then. -/
inductive NotFound (issuer : String) (net : Network) : KeyFault → Network → Prop
  | discovery {fault : KeyFault} {after : Network}
      (withheld : net.Withholds (discoveryUrlOf issuer) (∃ url, ·.NamesKeySet url) fault after) :
      NotFound issuer net fault after
  | unnamed {node : Json.Node} {url : Option String} {after : Network}
      (delivered : net.Delivers (discoveryUrlOf issuer) node after) (named : node.NamesKeySet url)
      (empty : url.getD "" = "") : NotFound issuer net (.noKeysUrl issuer) after
  | keySet {url : String} {between after : Network} {fault : KeyFault}
      (named : net.Names issuer url between)
      (withheld : between.Withholds url
        (fun node => ∃ entries items, node.ListsKeys items ∧
          List.Forall₂ KeyEntry.Typed items entries) fault after) :
      NotFound issuer net fault after
  | noRsaKey {url : String} {items : List Json.Node} {entries : List KeyEntry} {after : Network}
      (offered : net.Offers issuer url items after)
      (typed : List.Forall₂ KeyEntry.Typed items entries)
      (others : ∀ entry ∈ entries, entry.kind ≠ "RSA") : NotFound issuer net .noRsaKey after
  | spoilt {url : String} {items : List Json.Node} {others rest : List KeyEntry}
      {first : KeyEntry} {after : Network} {fault : KeyFault}
      (offered : net.Offers issuer url items after)
      (typed : List.Forall₂ KeyEntry.Typed items (others ++ first :: rest))
      (before : ∀ entry ∈ others, entry.kind ≠ "RSA") (kind : first.kind = "RSA")
      (spoils : first.Spoils fault) : NotFound issuer net fault after

end PublicKey

/-! ### The search -/

/-- A document is asked for with its own request and no other. -/
theorem Network.request_of_mem_since_afterGet {net : Network} {url : String}
    {request : Http.Request} (h : .request request ∈ net.since (net.afterGet url)) :
    Http.buildText .get none url = .ok request := by
  obtain ⟨arrived, hafter, harrived⟩ := net.fetch_arrived (Http.buildText .get none url)
  rw [since, afterGet, hafter, List.drop_left] at h
  exact harrived request h

namespace PublicKey

/-- A document that is delivered is read, or does not have the shape that is asked for. -/
theorem getDocument_of_delivers {α : Type} {url : String} {net after : Network}
    {node : Json.Node} (h : net.Delivers url node after) (read : Json.Node → Option α) :
    getDocument url read net = ((read node).elim (.error (illegible url)) .ok, after) := by
  obtain ⟨request, reply, hbuild, hsend, hstatus, hcomplete, hnode⟩ := h
  cases hread : read node <;>
    simp [getDocument, Network.fetch, document, illegible, hbuild, hsend, hstatus, hcomplete,
      hnode, hread]

/-- A document that is not got is withheld. -/
theorem withholds_of_getDocument {α : Type} {url : String} {read : Json.Node → Option α}
    {net after : Network} {fault : KeyFault}
    (h : getDocument url read net = (.error fault, after)) :
    net.Withholds url (fun node => ∃ a, read node = some a) fault after := by
  unfold getDocument at h
  cases hfetch : net.fetch (Http.buildText .get none url) with
  | mk result later =>
      cases result with
      | error failure =>
          simp only [hfetch] at h
          cases h
          exact .unanswered hfetch
      | ok reply =>
          simp only [hfetch, Prod.mk.injEq] at h
          obtain ⟨hdocument, rfl⟩ := h
          unfold document at hdocument
          split at hdocument
          · next hstatus =>
            cases hdocument
            exact .refused hfetch (by simpa using hstatus)
          · next hstatus =>
            split at hdocument
            · cases hdocument
            · next hread =>
              cases hdocument
              refine .shapeless hfetch (by simpa using hstatus) fun hcomplete node hnode => ?_
              rw [if_pos hcomplete, hnode, Option.bind_some] at hread
              simp [hread]

/-- **A key is found exactly if it is published.** -/
theorem resolve_eq_ok_iff_published {issuer : String} {net after : Network} {key : PublicKey} :
    resolve issuer net = (.ok key, after) ↔ Published issuer net key after := by
  rw [resolve_eq_ok_iff]
  constructor
  · rintro ⟨discovery, url, between, keySet, entries, hdiscovery, hurl, hne, hkeys, hentries,
      others, first, rest, rfl, hothers, hkind, hholds⟩
    obtain ⟨items, hlists, htyped⟩ := KeyEntry.listOfNode?_eq_some_iff.mp hentries
    exact ⟨url, items, others, first, rest, ⟨between, keySet,
      ⟨discovery, hdiscovery, keysUrl?_eq_some_iff.mp hurl, hne⟩, hkeys, hlists⟩, htyped, hothers,
      KeyEntry.publishes_iff.mpr ⟨hkind, hholds⟩⟩
  · rintro ⟨url, items, others, first, rest, ⟨between, keySet, ⟨discovery, hdiscovery, hurl, hne⟩,
      hkeys, hlists⟩, htyped, hothers, hpublishes⟩
    obtain ⟨hkind, hholds⟩ := KeyEntry.publishes_iff.mp hpublishes
    exact ⟨discovery, url, between, keySet, _, hdiscovery, keysUrl?_eq_some_iff.mpr hurl, hne,
      hkeys, KeyEntry.listOfNode?_eq_some_iff.mpr ⟨items, hlists, htyped⟩, others, first, rest, rfl,
      hothers, hkind, hholds⟩

/-- Where an address is named, what is found is what the document there says. -/
theorem resolve_of_names {issuer url : String} {net between : Network}
    (h : net.Names issuer url between) :
    resolve issuer net =
      ((getDocument url KeyEntry.listOfNode? between).1.bind KeyEntry.firstRsa,
        between.afterGet url) := by
  obtain ⟨discovery, hdelivers, hnamed, hne⟩ := h
  have hurl : ¬url.isEmpty = true := by simpa [String.isEmpty_iff] using hne
  rw [resolve_eq, ← getDocument_snd (discoveryUrlOf issuer) keysUrl? net,
    getDocument_of_delivers hdelivers, keysUrl?_eq_some_iff.mpr hnamed]
  exact if_neg hurl

/-- **Without an address** of the key set a search fails, and the discovery document is all that it
has asked for. -/
theorem resolve_of_not_names {issuer : String} {net : Network}
    (h : ∀ url between, ¬net.Names issuer url between) :
    ∃ fault, resolve issuer net = (.error fault, net.afterGet (discoveryUrlOf issuer)) ∧
      NotFound issuer net fault (net.afterGet (discoveryUrlOf issuer)) := by
  rw [resolve_eq, ← getDocument_snd (discoveryUrlOf issuer) keysUrl? net]
  cases hget : getDocument (discoveryUrlOf issuer) keysUrl? net with
  | mk named between =>
      cases named with
      | error fault =>
          have hwithheld := withholds_of_getDocument hget
          simp only [keysUrl?_eq_some_iff] at hwithheld
          exact ⟨fault, rfl, .discovery hwithheld⟩
      | ok named =>
          obtain ⟨discovery, hdelivers, hread⟩ := (getDocument_eq_ok_iff _ _ _ _ _).mp hget
          have hnamed := keysUrl?_eq_some_iff.mp hread
          cases named with
          | none => exact ⟨.noKeysUrl issuer, rfl, .unnamed hdelivers hnamed rfl⟩
          | some url =>
              have hempty : url = "" := by
                by_contra hne
                exact h url between ⟨discovery, hdelivers, hnamed, hne⟩
              exact ⟨.noKeysUrl issuer, if_pos (String.isEmpty_iff.mpr hempty),
                .unnamed hdelivers hnamed hempty⟩

/-- What is found depends on the items of the key set alone. -/
theorem resolve_of_offers {issuer url : String} {net after : Network} {items : List Json.Node}
    (h : net.Offers issuer url items after) :
    resolve issuer net = ((KeyEntry.keyOf? items).getD (.error (illegible url)), after) := by
  obtain ⟨between, keySet, hnames, hkeys, hlists⟩ := h
  rw [resolve_of_names hnames, ← getDocument_snd url KeyEntry.listOfNode? between,
    getDocument_of_delivers hkeys, KeyEntry.listOfNode?_eq_of_listsKeys hlists, KeyEntry.keyOf?]
  cases items.mapM KeyEntry.ofNode? <;> rfl

/-- Where an address is named, a search without a key has ended at the key set. -/
theorem notFound_of_names {issuer url : String} {net between after : Network} {fault : KeyFault}
    (hnames : net.Names issuer url between) (h : resolve issuer net = (.error fault, after)) :
    NotFound issuer net fault after := by
  rw [resolve_of_names hnames, ← getDocument_snd url KeyEntry.listOfNode? between] at h
  cases hget : getDocument url KeyEntry.listOfNode? between with
  | mk found later =>
      rw [hget, Prod.mk.injEq] at h
      obtain ⟨hfirst, rfl⟩ := h
      cases found with
      | error cause =>
          cases hfirst
          have hwithheld := withholds_of_getDocument hget
          simp only [KeyEntry.listOfNode?_eq_some_iff] at hwithheld
          exact .keySet hnames hwithheld
      | ok entries =>
          obtain ⟨keySet, hdelivers, hread⟩ := (getDocument_eq_ok_iff _ _ _ _ _).mp hget
          obtain ⟨items, hlists, htyped⟩ := KeyEntry.listOfNode?_eq_some_iff.mp hread
          have hoffers : net.Offers issuer url items later :=
            ⟨between, keySet, hnames, hdelivers, hlists⟩
          rcases KeyEntry.firstRsa_eq_error hfirst with
            ⟨rfl, hnone⟩ | ⟨others, first, rest, rfl, hothers, hkind, hspoils⟩
          · exact .noRsaKey hoffers htyped hnone
          · exact .spoilt hoffers htyped hothers hkind hspoils

/-- **A search without a key** has ended at one of its steps. -/
theorem notFound_of_resolve {issuer : String} {net after : Network} {fault : KeyFault}
    (h : resolve issuer net = (.error fault, after)) : NotFound issuer net fault after := by
  by_cases hnames : ∃ url between, net.Names issuer url between
  · obtain ⟨url, between, hnames⟩ := hnames
    exact notFound_of_names hnames h
  · push Not at hnames
    obtain ⟨fault', hresolve, hnotFound⟩ := resolve_of_not_names hnames
    rw [hresolve] at h
    cases h
    exact hnotFound

/-- **A fault of the search** is what a check of a token reports when no key is kept. -/
theorem validate_of_resolve {issuer : String} {net after : Network} {fault : KeyFault}
    (h : resolve issuer net = (.error fault, after)) (lifetime : Nat) (claim : String)
    (now : Moment) {jwt : String} (hjwt : (Token.segments jwt).length = 3) :
    ((Validator.new issuer lifetime claim).validate now jwt net).1 = .error (.key fault) := by
  have hnone : (Validator.new issuer lifetime claim).kept? now = none := rfl
  obtain ⟨header, payload, signature, hsegments⟩ := List.length_eq_three.mp hjwt
  rw [Validator.validate_of_kept?_eq_none hnone, Validator.freshVerdict, hsegments]
  simp only [Validator.new, h]

/-- **Keys over every answer of a provider.**  For every issuer and network: a key is found exactly
if it is published, so its numbers are the bytes that are written in the first RSA entry.  Items of
other kinds may come and go in the key set, and all items behind the first RSA entry, and the same
key or the same fault comes of it.  A search without a key ends at one of its steps with the fault
of that step, which is what a check of a token reports then.  If no discovery document names an
address, nothing but that document is asked for. -/
theorem resolve_every_answer (issuer : String) (net : Network) :
    (∀ key after, resolve issuer net = (.ok key, after) ↔ Published issuer net key after) ∧
    (∀ url items after, net.Offers issuer url items after → ∀ (net' : Network) items' after',
      net'.Offers issuer url items' after' → Relation.EqvGen KeyEntry.Adds items items' →
        (resolve issuer net').1 = (resolve issuer net).1) ∧
    (∀ fault after, resolve issuer net = (.error fault, after) →
      NotFound issuer net fault after ∧
      ∀ lifetime claim now jwt, (Token.segments jwt).length = 3 →
        ((Validator.new issuer lifetime claim).validate now jwt net).1 = .error (.key fault)) ∧
    ((∀ url between, ¬net.Names issuer url between) →
      ∀ request, .request request ∈ net.since (resolve issuer net).2 →
        Http.buildText .get none (discoveryUrlOf issuer) = .ok request) := by
  refine ⟨fun key after => resolve_eq_ok_iff_published, ?_, fun fault after h =>
    ⟨notFound_of_resolve h, fun lifetime claim now jwt => validate_of_resolve h lifetime claim now⟩,
    ?_⟩
  · intro url items after hoffers net' items' after' hoffers' hadds
    rw [resolve_of_offers hoffers, resolve_of_offers hoffers',
      KeyEntry.keyOf?_eq_of_eqvGen hadds]
  · intro hnames request hrequest
    obtain ⟨fault, hresolve, -⟩ := resolve_of_not_names hnames
    simp only [hresolve] at hrequest
    exact Network.request_of_mem_since_afterGet hrequest

/-- A document that is discovery and key set in one. -/
def keySetDocument (items : List Json) : Json :=
  .obj [("jwks_uri", .str "http://idp/keys"), ("keys", .arr items)]

/-- A network in which that document answers everything. -/
def keySetNetwork (items : List Json) (seen : List Arrival) : Network :=
  let reply : Http.Reply := ⟨200, Utf8.encode (keySetDocument items).pretty, true, false⟩
  ⟨none, fun _ _ => .reply reply, fun _ _ => .reply reply, fun _ _ => [], fun _ _ => .fails "",
    seen⟩

/-- An item of another kind. -/
def ellipticItem : Json :=
  .obj [("kty", .str "EC"), ("kid", .str "ec1"), ("crv", .str "P-256")]

/-- RSA items, of which the number is padded. -/
def rsaItem (id : String) : Json :=
  .obj [("kty", .str "RSA"), ("kid", .str id), ("n", .str "AQ=="), ("e", .str "AQAB")]

/-- The network delivers its document from wherever it is asked for. -/
theorem delivers_keySetNetwork {items : List Json} (hitems : Json.LegibleItems items) {url : String}
    (hbuild : (Http.buildText .get none url).isOk = true) (seen : List Arrival) :
    ∃ seen', (keySetNetwork items seen).Delivers url (Json.Node.ofJson (keySetDocument items))
      (keySetNetwork items seen') := by
  have hlegible : (keySetDocument items).Legible := by
    simp [keySetDocument, Json.Legible, Json.LegibleMembers, hitems]
  refine Network.exists_delivers_of_pretty hlegible (fun request => ?_) hbuild
  unfold Network.send keySetNetwork
  simp only
  split <;> exact ⟨_, rfl⟩

theorem offers_keySetNetwork {items : List Json} (hitems : Json.LegibleItems items) :
    ∃ seen, (keySetNetwork items []).Offers "http://idp" "http://idp/keys"
      (Json.Node.ofItems items) (keySetNetwork items seen) := by
  obtain ⟨seen, hdiscovery⟩ := delivers_keySetNetwork hitems
    (show (Http.buildText .get none (discoveryUrlOf "http://idp")).isOk = true by decide +kernel) []
  obtain ⟨seen', hkeys⟩ := delivers_keySetNetwork hitems
    (show (Http.buildText .get none "http://idp/keys").isOk = true by decide +kernel) seen
  exact ⟨seen', _, _, ⟨_, hdiscovery, keysUrl?_eq_some_iff.mp rfl, by decide⟩, hkeys,
    .inl (Json.Node.record?_eq_some_iff.mp rfl)⟩

/-- A key stays where an item of another kind and a second RSA item are added around it, and a
provider without a discovery document is asked for nothing else. -/
theorem resolve_every_answer_added :
    (∃ after, resolve "http://idp" (keySetNetwork [rsaItem "sig"] []) =
      (.ok ⟨some "sig", [1], [1, 0, 1]⟩, after)) ∧
    (resolve "http://idp" (keySetNetwork [ellipticItem, rsaItem "sig", rsaItem "next"] [])).1 =
      .ok ⟨some "sig", [1], [1, 0, 1]⟩ ∧
    (∃ fault, ((Validator.new "http://idp" 60 "sub").validate ⟨0, 0⟩ "a.b.c"
      (Script.network none ⟨[], []⟩ [])).1 = .error (.key fault)) ∧
    ∀ request, .request request ∈ (Script.network none ⟨[], []⟩ []).since
        (resolve "http://idp" (Script.network none ⟨[], []⟩ [])).2 →
      Http.buildText .get none (discoveryUrlOf "http://idp") = .ok request := by
  have hlegible : Json.LegibleItems [ellipticItem, rsaItem "sig", rsaItem "next"] := by
    simp [ellipticItem, rsaItem, Json.Legible, Json.LegibleItems, Json.LegibleMembers]
  have hlegible' : Json.LegibleItems [rsaItem "sig"] := ⟨hlegible.2.1, trivial⟩
  obtain ⟨seen, hoffers⟩ := offers_keySetNetwork hlegible'
  obtain ⟨seen', hoffers'⟩ := offers_keySetNetwork hlegible
  have htyped (id : String) : KeyEntry.Typed (Json.Node.ofJson (rsaItem id))
      ⟨"RSA", some id, some "AQ==", some "AQAB"⟩ := KeyEntry.ofNode?_eq_some_iff.mp rfl
  have helliptic : KeyEntry.Typed (Json.Node.ofJson ellipticItem)
      ⟨"EC", some "ec1", none, none⟩ := KeyEntry.ofNode?_eq_some_iff.mp rfl
  have hadds : Relation.EqvGen KeyEntry.Adds (Json.Node.ofItems [rsaItem "sig"])
      (Json.Node.ofItems [ellipticItem, rsaItem "sig", rsaItem "next"]) :=
    .trans _ _ _ (.rel _ _ (.behind [] [] [] (htyped "sig") rfl (htyped "next")))
      (.rel _ _ (.other [] _ helliptic (by decide)))
  obtain ⟨hok, hadded, -, -⟩ := resolve_every_answer "http://idp" (keySetNetwork [rsaItem "sig"] [])
  have hfound := (hok ⟨some "sig", [1], [1, 0, 1]⟩ _).mpr ⟨_, _, [], _, [], hoffers,
    .cons (htyped "sig") .nil, by simp, rfl, rfl, ⟨by decide, _, rfl, 2, by decide⟩,
    ⟨by decide, _, rfl, 0, by decide⟩⟩
  refine ⟨⟨_, hfound⟩, ?_, ?_⟩
  · rw [hadded _ _ _ hoffers _ _ _ hoffers' hadds, hfound]
  · obtain ⟨-, -, hfault, hrequests⟩ :=
      resolve_every_answer "http://idp" (Script.network none ⟨[], []⟩ [])
    have hnames (url : String) (between : Network) :
        ¬(Script.network none ⟨[], []⟩ []).Names "http://idp" url between := by
      rintro ⟨_, ⟨request, reply, -, hsend, hstatus, -⟩, -⟩
      simp only [Network.send, Script.network, Script.answer, Script.secure,
        List.lookup_nil] at hsend
      split at hsend
      · cases hsend
      · cases hsend
        exact absurd hstatus (by decide)
    refine ⟨?_, hrequests hnames⟩
    rcases hresolve : resolve "http://idp" (Script.network none ⟨[], []⟩ []) with ⟨result, after⟩
    cases result with
    | error fault => exact ⟨fault, (hfault fault after hresolve).2 60 "sub" ⟨0, 0⟩ "a.b.c" rfl⟩
    | ok key =>
        have hpublished := resolve_eq_ok_iff_published.mp hresolve
        obtain ⟨url, _, _, _, _, ⟨between, _, hnamed, -⟩, -⟩ := hpublished
        exact (hnames url between hnamed).elim

end PublicKey

end SignOn
