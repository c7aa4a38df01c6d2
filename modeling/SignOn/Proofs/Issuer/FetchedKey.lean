import SignOn.Issuer.Keys
import SignOn.Proofs.Requests
import SignOn.Proofs.Steps
/-!
# What it takes to fetch a key

`PublicKey.resolve` gives a key exactly when a peer delivered two documents one after another: a
discovery document that names an address, and from that address a key set whose first RSA entry
holds the key.  `PublicKey.Fetched` says this without reference to the code that does it, and the
main statement, `resolve_eq_ok_iff`, says that the two agree.

A document is only delivered when its request has arrived at the peer.  So what a network has seen
tells whether a key was fetched (`Fetched.after_ne`).
-/

namespace SignOn

/-- A document is delivered from `url`: the request can be made, its answer is one of success, all
bytes of it arrive, and they are the text of `node`. -/
def Network.Delivers (net : Network) (url : String) (node : Json.Node) (after : Network) : Prop :=
  ∃ request reply, Http.buildText .get none url = .ok request ∧
    net.send request = (.reply reply, after) ∧ Http.isSuccess reply.status = true ∧
    reply.complete = true ∧ Json.nodeOfBytes? reply.body = some node

/-- An entry holds a key: its two numbers are written in URL-safe base64, and neither is empty. -/
structure KeyEntry.Holds (entry : KeyEntry) (key : PublicKey) : Prop where
  id : key.id = entry.id
  modulus : ∃ text, entry.modulus = some text ∧
    Base64.decodeUrl? (Text.dropEnd '=' text) = some key.modulus ∧ key.modulus ≠ []
  exponent : ∃ text, entry.exponent = some text ∧
    Base64.decodeUrl? (Text.dropEnd '=' text) = some key.exponent ∧ key.exponent ≠ []

/-- The first RSA entry of a key set holds the key. -/
def KeyEntry.FirstHolds (entries : List KeyEntry) (key : PublicKey) : Prop :=
  ∃ others entry rest, entries = others ++ entry :: rest ∧ (∀ e ∈ others, e.kind ≠ "RSA") ∧
    entry.kind = "RSA" ∧ entry.Holds key

/-- The key of an issuer is fetched: the discovery document names an address, and the key set that
is delivered from there has `key` in its first RSA entry. -/
def PublicKey.Fetched (issuer : String) (net : Network) (key : PublicKey) (after : Network) :
    Prop :=
  ∃ discovery url between keySet entries,
    net.Delivers (discoveryUrlOf issuer) discovery between ∧
    keysUrl? discovery = some (some url) ∧ url ≠ "" ∧
    between.Delivers url keySet after ∧
    KeyEntry.listOfNode? keySet = some entries ∧ KeyEntry.FirstHolds entries key

namespace Network

/-- The request of a document that is delivered has arrived. -/
theorem Delivers.length_lt {net after : Network} {url : String} {node : Json.Node}
    (h : net.Delivers url node after) : net.seen.length < after.seen.length := by
  obtain ⟨request, reply, -, hsend, -⟩ := h
  obtain ⟨earlier, hseen⟩ := seen_of_reply hsend
  rw [hseen]
  simp only [List.length_append, List.length_singleton]
  omega

end Network

namespace KeyEntry

/-- A part of a key is read when it is there, is base64, and is not empty. -/
theorem decodePart_eq_ok_iff (part : KeyPart) (written : Option String) (bytes : Bytes) :
    decodePart part written = .ok bytes ↔ ∃ text, written = some text ∧
      Base64.decodeUrl? (Text.dropEnd '=' text) = some bytes ∧ bytes ≠ [] := by
  cases written with
  | none => simp [decodePart]
  | some text =>
      simp only [decodePart, Base64.decodeUrl, Option.some.injEq, exists_eq_left']
      cases hdecode : Base64.decodeUrl? (Text.dropEnd '=' text) with
      | none => simp
      | some decoded =>
          cases decoded with
          | nil =>
              simp only [reduceCtorEq, Option.some.injEq, false_iff]
              intro hparts
              obtain ⟨rfl, hne⟩ := hparts
              exact hne rfl
          | cons b rest =>
              simp only [Except.ok.injEq, Option.some.injEq]
              exact ⟨fun h => ⟨h, h ▸ List.cons_ne_nil b rest⟩, And.left⟩

/-- An entry gives the key that it holds. -/
theorem publicKey_eq_ok_iff (entry : KeyEntry) (key : PublicKey) :
    entry.publicKey = .ok key ↔ entry.Holds key := by
  obtain ⟨kind, id, modulus, exponent⟩ := entry
  match modulus, exponent with
  | none, _ =>
      simp only [publicKey, reduceCtorEq, false_iff]
      intro hparts
      obtain ⟨-, ⟨text, h, -⟩, -⟩ := hparts
      cases h
  | some n, none =>
      simp only [publicKey, reduceCtorEq, false_iff]
      intro hparts
      obtain ⟨-, -, ⟨text, h, -⟩⟩ := hparts
      cases h
  | some n, some e =>
      simp only [publicKey, bind_eq_ok_iff, decodePart_eq_ok_iff, pure, Except.pure,
        Except.ok.injEq]
      constructor
      · intro hparts
        obtain ⟨m, hm, x, hx, rfl⟩ := hparts
        exact ⟨rfl, hm, hx⟩
      · intro hparts
        obtain ⟨hid, hm, hx⟩ := hparts
        subst hid
        exact ⟨key.modulus, hm, key.exponent, hx, rfl⟩

/-- A key set gives the key that its first RSA entry holds. -/
theorem firstRsa_eq_ok_iff (entries : List KeyEntry) (key : PublicKey) :
    firstRsa entries = .ok key ↔ FirstHolds entries key := by
  unfold firstRsa FirstHolds
  cases hfind : entries.find? (·.kind == "RSA") with
  | none =>
      simp only [reduceCtorEq, false_iff]
      intro hparts
      obtain ⟨others, entry, rest, rfl, -, hkind, -⟩ := hparts
      have hno := List.find?_eq_none.mp hfind entry (by simp)
      exact hno (by simpa using hkind)
  | some entry =>
      obtain ⟨hkind, others, rest, hentries, hothers⟩ := List.find?_eq_some_iff_append.mp hfind
      rw [publicKey_eq_ok_iff]
      constructor
      · intro hholds
        exact ⟨others, entry, rest, hentries, fun e he => by simpa using hothers e he,
          by simpa using hkind, hholds⟩
      · intro hparts
        obtain ⟨others', entry', rest', hentries', hothers', hkind', hholds⟩ := hparts
        have hfind' : entries.find? (·.kind == "RSA") = some entry' :=
          List.find?_eq_some_iff_append.mpr ⟨by simpa using hkind', others', rest', hentries',
            fun e he => by simpa using hothers' e he⟩
        rw [hfind, Option.some.injEq] at hfind'
        exact hfind' ▸ hholds

end KeyEntry

namespace PublicKey

/-- The body of a reply is read as a document when the status is one of success, all of it has
arrived, and it is the text of one that can be read. -/
theorem document_eq_ok_iff {α : Type} {url : String} {read : Json.Node → Option α}
    {reply : Http.Reply} {sent : Except Http.Failure Http.Request} {a : α} :
    document url read reply sent = .ok a ↔
      Http.isSuccess reply.status = true ∧ reply.complete = true ∧
        ∃ node, Json.nodeOfBytes? reply.body = some node ∧ read node = some a := by
  unfold document
  cases hstatus : Http.isSuccess reply.status with
  | false => simp
  | true =>
      cases hcomplete : reply.complete with
      | false => simp
      | true =>
          cases hread : (Json.nodeOfBytes? reply.body).bind read <;>
            simp [← Option.bind_eq_some_iff, hread]

/-- A document is got when it is delivered and can be read. -/
theorem getDocument_eq_ok_iff {α : Type} (url : String) (read : Json.Node → Option α)
    (net after : Network) (a : α) :
    getDocument url read net = (.ok a, after) ↔
      ∃ node, net.Delivers url node after ∧ read node = some a := by
  constructor
  · intro h
    unfold getDocument at h
    rcases hfetch : net.fetch (Http.buildText .get none url) with ⟨result, later⟩
    cases result with
    | error failure => simp [hfetch] at h
    | ok reply =>
        obtain ⟨request, hbuild, hsend⟩ := Network.fetch_eq_ok_iff.mp hfetch
        simp only [hfetch, Prod.mk.injEq] at h
        obtain ⟨hdocument, rfl⟩ := h
        obtain ⟨hstatus, hcomplete, node, hnode, hread⟩ := document_eq_ok_iff.mp hdocument
        exact ⟨node, ⟨request, reply, hbuild, hsend, hstatus, hcomplete, hnode⟩, hread⟩
  · intro hparts
    obtain ⟨node, ⟨request, reply, hbuild, hsend, hparts⟩, hread⟩ := hparts
    have hfetch := Network.fetch_eq_ok_iff.mpr ⟨request, hbuild, hsend⟩
    obtain ⟨hstatus, hcomplete, hnode⟩ := hparts
    simp only [getDocument, hfetch,
      document_eq_ok_iff.mpr ⟨hstatus, hcomplete, node, hnode, hread⟩]

/-- **The key of an issuer is found exactly when it is fetched.** -/
theorem resolve_eq_ok_iff (issuer : String) (net after : Network) (key : PublicKey) :
    resolve issuer net = (.ok key, after) ↔ Fetched issuer net key after := by
  constructor
  · intro h
    unfold resolve at h
    split at h
    · cases h
    · cases h
    · next url between hdiscovery =>
      obtain ⟨discovery, hdelivered, hurl⟩ :=
        (getDocument_eq_ok_iff _ _ _ _ _).mp hdiscovery
      split at h
      · cases h
      · next hne =>
        split at h
        · cases h
        · next entries net' hkeys =>
          obtain ⟨hfirst, rfl⟩ := Prod.mk.inj h
          obtain ⟨keySet, hdelivered', hentries⟩ := (getDocument_eq_ok_iff _ _ _ _ _).mp hkeys
          refine ⟨discovery, url, between, keySet, entries, hdelivered, hurl, ?_, hdelivered',
            hentries, (KeyEntry.firstRsa_eq_ok_iff entries key).mp hfirst⟩
          simpa [String.isEmpty_iff] using hne
  · intro hparts
    obtain ⟨discovery, url, between, keySet, entries, hdelivered, hurl, hne, hdelivered',
      hentries, hholds⟩ := hparts
    have hdiscovery := (getDocument_eq_ok_iff _ _ _ _ _).mpr ⟨discovery, hdelivered, hurl⟩
    have hkeys := (getDocument_eq_ok_iff _ _ _ _ _).mpr ⟨keySet, hdelivered', hentries⟩
    have hne' : ¬url.isEmpty = true := by simpa [String.isEmpty_iff] using hne
    have hfirst := (KeyEntry.firstRsa_eq_ok_iff entries key).mpr hholds
    simp only [resolve, hdiscovery, hkeys, if_neg hne', hfirst]

/-- One fetch gives one key. -/
theorem Fetched.unique {issuer : String} {net after after' : Network} {key key' : PublicKey}
    (h : Fetched issuer net key after) (h' : Fetched issuer net key' after') : key = key' := by
  rw [← resolve_eq_ok_iff] at h h'
  rw [h] at h'
  cases h'
  rfl

/-- Fetching a key leaves its mark on the network. -/
theorem Fetched.after_ne {issuer : String} {net after : Network} {key : PublicKey}
    (h : Fetched issuer net key after) : after ≠ net := by
  obtain ⟨discovery, url, between, keySet, entries, hfirst, -, -, hsecond, -⟩ := h
  have hlt : net.seen.length < after.seen.length :=
    Nat.lt_trans hfirst.length_lt hsecond.length_lt
  intro heq
  subst heq
  exact Nat.lt_irrefl _ hlt

end PublicKey

end SignOn
