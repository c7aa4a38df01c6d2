import Mathlib.Logic.Relation
import SignOn.Proofs.Issuer.FetchedKey
import SignOn.Proofs.Json.Records
import SignOn.Proofs.Text.Base64
/-!
# Discovery documents and key sets

The two documents of a provider are given by their shapes: a record that may name an address
(`Json.Node.NamesKeySet`) and a record with a list of items (`Json.Node.ListsKeys`), each of which
has the types of an entry (`KeyEntry.Typed`).  They are read exactly if they have these shapes.  The
first RSA entry gives a key exactly if its numbers are the base64 of bytes (`KeyEntry.Publishes`),
and otherwise one of them is at fault (`KeyEntry.Spoils`).

A key set is searched for its first RSA entry, so what stands elsewhere in it does not matter as
long as it has the types of an entry: items of other kinds may come and go anywhere, and all items
behind an RSA entry (`KeyEntry.keyOf?_eq_of_eqvGen`).
-/

namespace SignOn

open Json.Node (Record OptionalText)

/-! ### The shapes of the documents -/

/-- A discovery document, with the address of the key set if it names one. -/
def Json.Node.NamesKeySet (node : Json.Node) (url : Option String) : Prop :=
  ∃ part, Record ["jwks_uri"] node [part] ∧ OptionalText part url

/-- A key set with its items; it may have no list of them. -/
def Json.Node.ListsKeys (node : Json.Node) (items : List Json.Node) : Prop :=
  Record ["keys"] node [some (.arr items)] ∨ Record ["keys"] node [none] ∧ items = []

/-- An item of a key set that has the types of an entry. -/
def KeyEntry.Typed (item : Json.Node) (entry : KeyEntry) : Prop :=
  ∃ kind id modulus exponent,
    Record ["kty", "kid", "n", "e"] item [kind, id, modulus, exponent] ∧
    (kind = none ∧ entry.kind = "" ∨ kind = some (.str (some entry.kind))) ∧
    OptionalText id entry.id ∧ OptionalText modulus entry.modulus ∧
    OptionalText exponent entry.exponent

/-- URL-safe base64 of a byte string, with padding or without. -/
def Base64.IsUrlText (bytes : Bytes) (text : String) : Prop :=
  ∃ k, text = encodeUrl bytes ++ String.ofList (List.replicate k '=')

/-- A number of an entry, as it is written. -/
def KeyEntry.part (entry : KeyEntry) : KeyPart → Option String
  | .modulus => entry.modulus
  | .exponent => entry.exponent

/-- An RSA entry from which a key is read: its numbers are not empty and are written in base64. -/
structure KeyEntry.Publishes (entry : KeyEntry) (key : PublicKey) : Prop where
  kind : entry.kind = "RSA"
  id : entry.id = key.id
  modulus : key.modulus ≠ [] ∧ ∃ text, entry.modulus = some text ∧
    Base64.IsUrlText key.modulus text
  exponent : key.exponent ≠ [] ∧ ∃ text, entry.exponent = some text ∧
    Base64.IsUrlText key.exponent text

/-- Why no key is read from an RSA entry: one of its numbers is not there, is not base64, or is
empty. -/
inductive KeyEntry.Spoils (entry : KeyEntry) : KeyFault → Prop
  | missing (part : KeyPart) (absent : entry.part part = none) : Spoils entry (.missingPart part)
  | undecodable (part : KeyPart) (text cause : String) (written : entry.part part = some text)
      (unread : ∀ bytes, ¬Base64.IsUrlText bytes text) :
      Spoils entry (.undecodablePart part cause)
  | empty (part : KeyPart) (text : String) (written : entry.part part = some text)
      (empty : Base64.IsUrlText [] text) : Spoils entry (.emptyPart part)

/-- Items are added to a key set that its first RSA entry does not depend on: one of another kind
anywhere, or any one behind an RSA entry. -/
inductive KeyEntry.Adds : List Json.Node → List Json.Node → Prop
  | other (front back : List Json.Node) {item : Json.Node} {entry : KeyEntry}
      (typed : Typed item entry) (kind : entry.kind ≠ "RSA") :
      Adds (front ++ back) (front ++ item :: back)
  | behind (front between back : List Json.Node) {first item : Json.Node}
      {rsa entry : KeyEntry} (typed : Typed first rsa) (kind : rsa.kind = "RSA")
      (added : Typed item entry) :
      Adds (front ++ first :: (between ++ back)) (front ++ first :: (between ++ item :: back))

/-! ### Reading the documents -/

theorem PublicKey.keysUrl?_eq_some_iff {node : Json.Node} {url : Option String} :
    keysUrl? node = some url ↔ node.NamesKeySet url := by
  constructor
  · intro h
    obtain ⟨parts, hparts, h⟩ := Option.bind_eq_some_iff.mp h
    split at h
    · next part =>
      exact ⟨part, Json.Node.record?_eq_some_iff.mp hparts,
        Json.Node.optional?_text?_eq_some_iff.mp h⟩
    · cases h
  · rintro ⟨part, hrecord, htext⟩
    rw [keysUrl?, Json.Node.record?_eq_some_iff.mpr hrecord]
    exact Json.Node.optional?_text?_eq_some_iff.mpr htext

namespace KeyEntry

/-- The texts of an entry are read one after another. -/
theorem texts_eq_some_iff {kind : String} {id modulus exponent : Option Json.Node}
    {entry : KeyEntry} :
    (do
      let idText ← Json.Node.optional? Json.Node.text? id
      let n ← Json.Node.optional? Json.Node.text? modulus
      let e ← Json.Node.optional? Json.Node.text? exponent
      return (⟨kind, idText, n, e⟩ : KeyEntry)) = some entry ↔
      entry.kind = kind ∧ OptionalText id entry.id ∧ OptionalText modulus entry.modulus ∧
        OptionalText exponent entry.exponent := by
  simp only [bind, Option.bind_eq_some_iff, pure, Option.some.injEq,
    Json.Node.optional?_text?_eq_some_iff]
  constructor
  · rintro ⟨_, hid, _, hn, _, he, rfl⟩
    exact ⟨rfl, hid, hn, he⟩
  · rintro ⟨rfl, hid, hn, he⟩
    exact ⟨_, hid, _, hn, _, he, rfl⟩

/-- **An item** is read as the entry whose types it has. -/
theorem ofNode?_eq_some_iff {item : Json.Node} {entry : KeyEntry} :
    ofNode? item = some entry ↔ Typed item entry := by
  constructor
  · intro h
    obtain ⟨parts, hparts, h⟩ := Option.bind_eq_some_iff.mp h
    rw [Json.Node.record?_eq_some_iff] at hparts
    split at h
    · next kind id modulus exponent =>
      cases kind with
      | none =>
          obtain ⟨hkind, htexts⟩ := texts_eq_some_iff.mp h
          exact ⟨_, _, _, _, hparts, .inl ⟨rfl, hkind⟩, htexts⟩
      | some node =>
          obtain ⟨name, hname, h⟩ := Option.bind_eq_some_iff.mp h
          obtain ⟨rfl, htexts⟩ := texts_eq_some_iff.mp h
          exact ⟨_, _, _, _, hparts, .inr (by rw [Json.Node.text?_eq_some_iff.mp hname]), htexts⟩
    · cases h
  · rintro ⟨kind, id, modulus, exponent, hrecord, hkind, htexts⟩
    rw [ofNode?, Json.Node.record?_eq_some_iff.mpr hrecord]
    rcases hkind with ⟨rfl, hkind⟩ | rfl
    · exact texts_eq_some_iff.mpr ⟨hkind, htexts⟩
    · exact texts_eq_some_iff.mpr ⟨rfl, htexts⟩

theorem mapM_ofNode?_eq_some_iff {items : List Json.Node} {entries : List KeyEntry} :
    items.mapM ofNode? = some entries ↔ List.Forall₂ Typed items entries := by
  simp only [mapM_eq_some_iff_forall₂, ofNode?_eq_some_iff]

/-- What is read of a key set is read of its items. -/
theorem listOfNode?_eq_of_listsKeys {node : Json.Node} {items : List Json.Node}
    (h : node.ListsKeys items) : listOfNode? node = items.mapM ofNode? := by
  rcases h with hrecord | ⟨hrecord, rfl⟩
  · rw [listOfNode?, Json.Node.record?_eq_some_iff.mpr hrecord]
    rfl
  · rw [listOfNode?, Json.Node.record?_eq_some_iff.mpr hrecord]
    rfl

/-- **A key set** is read as its entries. -/
theorem listOfNode?_eq_some_iff {node : Json.Node} {entries : List KeyEntry} :
    listOfNode? node = some entries ↔
      ∃ items, node.ListsKeys items ∧ List.Forall₂ Typed items entries := by
  constructor
  · intro h
    obtain ⟨parts, hparts, h⟩ := Option.bind_eq_some_iff.mp h
    rw [Json.Node.record?_eq_some_iff] at hparts
    split at h
    · next items =>
      exact ⟨items, .inl hparts, mapM_ofNode?_eq_some_iff.mp h⟩
    · cases h
      exact ⟨[], .inr ⟨hparts, rfl⟩, .nil⟩
    · cases h
  · rintro ⟨items, hlists, htyped⟩
    rw [listOfNode?_eq_of_listsKeys hlists, mapM_ofNode?_eq_some_iff]
    exact htyped

/-! ### The key of an entry -/

theorem publishes_iff {entry : KeyEntry} {key : PublicKey} :
    entry.Publishes key ↔ entry.kind = "RSA" ∧ entry.Holds key := by
  have hnumber (written : Option String) (bytes : Bytes) :
      (bytes ≠ [] ∧ ∃ text, written = some text ∧ Base64.IsUrlText bytes text) ↔
        ∃ text, written = some text ∧
          Base64.decodeUrl? (Text.dropEnd '=' text) = some bytes ∧ bytes ≠ [] := by
    simp only [Base64.decodeUrl?_dropEnd_iff, Base64.IsUrlText]
    constructor
    · rintro ⟨hne, text, hwritten, htext⟩
      exact ⟨text, hwritten, htext, hne⟩
    · rintro ⟨text, hwritten, htext, hne⟩
      exact ⟨hne, text, hwritten, htext⟩
  constructor
  · rintro ⟨hkind, hid, hmodulus, hexponent⟩
    exact ⟨hkind, hid.symm, (hnumber _ _).mp hmodulus, (hnumber _ _).mp hexponent⟩
  · rintro ⟨hkind, hid, hmodulus, hexponent⟩
    exact ⟨hkind, hid.symm, (hnumber _ _).mpr hmodulus, (hnumber _ _).mpr hexponent⟩

/-- A number that is there is refused if it is not base64 or is empty. -/
theorem spoils_of_decodePart {entry : KeyEntry} {part : KeyPart} {text : String}
    {fault : KeyFault} (hwritten : entry.part part = some text)
    (h : decodePart part (some text) = .error fault) : entry.Spoils fault := by
  simp only [decodePart, Base64.decodeUrl] at h
  cases hread : Base64.decodeUrl? (Text.dropEnd '=' text) with
  | none =>
      rw [hread] at h
      cases h
      refine .undecodable part text _ hwritten fun bytes hbytes => ?_
      rw [Base64.decodeUrl?_dropEnd_iff.mpr hbytes] at hread
      cases hread
  | some bytes =>
      rw [hread] at h
      cases bytes with
      | nil =>
          cases h
          exact .empty part text hwritten (Base64.decodeUrl?_dropEnd_iff.mp hread)
      | cons b bytes => cases h

/-- **An entry without a key** is spoilt by one of its numbers. -/
theorem spoils_of_publicKey {entry : KeyEntry} {fault : KeyFault}
    (h : entry.publicKey = .error fault) : entry.Spoils fault := by
  unfold publicKey at h
  split at h
  · next hmodulus =>
    cases h
    exact .missing .modulus hmodulus
  · next hexponent _ =>
    cases h
    exact .missing .exponent hexponent
  · next n e hmodulus hexponent =>
    have hwritten : entry.part .modulus = some n := hmodulus
    have hwritten' : entry.part .exponent = some e := hexponent
    cases hn : decodePart .modulus (some n) with
    | error cause =>
        rw [hn] at h
        cases h
        exact spoils_of_decodePart hwritten hn
    | ok modulus =>
        cases he : decodePart .exponent (some e) with
        | error cause =>
            rw [hn, he] at h
            cases h
            exact spoils_of_decodePart hwritten' he
        | ok exponent =>
            rw [hn, he] at h
            cases h

/-- A key set without a key has no RSA entry, or its first one is spoilt. -/
theorem firstRsa_eq_error {entries : List KeyEntry} {fault : KeyFault}
    (h : firstRsa entries = .error fault) :
    (fault = .noRsaKey ∧ ∀ entry ∈ entries, entry.kind ≠ "RSA") ∨
      ∃ others first rest, entries = others ++ first :: rest ∧
        (∀ entry ∈ others, entry.kind ≠ "RSA") ∧ first.kind = "RSA" ∧ first.Spoils fault := by
  unfold firstRsa at h
  cases hfind : entries.find? (·.kind == "RSA") with
  | none =>
      rw [hfind] at h
      cases h
      exact .inl ⟨rfl, by simpa using List.find?_eq_none.mp hfind⟩
  | some first =>
      rw [hfind] at h
      obtain ⟨hkind, others, rest, rfl, hothers⟩ := List.find?_eq_some_iff_append.mp hfind
      exact .inr ⟨others, first, rest, rfl, by simpa using hothers, by simpa using hkind,
        spoils_of_publicKey h⟩

/-! ### Items that do not matter -/

/-- What is found in a list of items, if all of them have the types of entries. -/
def keyOf? (items : List Json.Node) : Option (Except KeyFault PublicKey) :=
  (items.mapM ofNode?).map firstRsa

theorem firstRsa_other (front back : List KeyEntry) {entry : KeyEntry} (h : entry.kind ≠ "RSA") :
    firstRsa (front ++ entry :: back) = firstRsa (front ++ back) := by
  have hskip : (entry :: back).find? (·.kind == "RSA") = back.find? (·.kind == "RSA") :=
    List.find?_cons_of_neg (by simpa using h)
  simp only [firstRsa, List.find?_append, hskip]

theorem firstRsa_behind (front back : List KeyEntry) {entry : KeyEntry} (h : entry.kind = "RSA") :
    firstRsa (front ++ entry :: back) = firstRsa (front ++ [entry]) := by
  have hfound (rest : List KeyEntry) : (entry :: rest).find? (·.kind == "RSA") = some entry :=
    List.find?_cons_of_pos (by simpa using h)
  simp only [firstRsa, List.find?_append, hfound]

/-- **Items that are added** change nothing. -/
theorem Adds.keyOf?_eq {items items' : List Json.Node} (h : Adds items items') :
    keyOf? items' = keyOf? items := by
  cases h with
  | @other front back item entry htyped hkind =>
      have hitem := ofNode?_eq_some_iff.mpr htyped
      simp only [keyOf?, List.mapM_append, List.mapM_cons, hitem]
      cases front.mapM ofNode? with
      | none => rfl
      | some first =>
          cases back.mapM ofNode? with
          | none => rfl
          | some last => exact congrArg some (firstRsa_other first last hkind)
  | @behind front between back first item rsa entry hfirst hkind htyped =>
      have hitem := ofNode?_eq_some_iff.mpr htyped
      have hrsa := ofNode?_eq_some_iff.mpr hfirst
      simp only [keyOf?, List.mapM_append, List.mapM_cons, hitem, hrsa]
      cases front.mapM ofNode? with
      | none => rfl
      | some before =>
          cases between.mapM ofNode? with
          | none => rfl
          | some middle =>
              cases back.mapM ofNode? with
              | none => rfl
              | some last =>
                  exact congrArg some ((firstRsa_behind before _ hkind).trans
                    (firstRsa_behind before _ hkind).symm)

/-- However items of this kind come and go, the key stays. -/
theorem keyOf?_eq_of_eqvGen {items items' : List Json.Node}
    (h : Relation.EqvGen Adds items items') : keyOf? items = keyOf? items' := by
  induction h with
  | rel items items' hadds => exact hadds.keyOf?_eq.symm
  | refl items => rfl
  | symm items items' _ ih => exact ih.symm
  | trans items items' items'' _ _ ih ih' => exact ih.trans ih'

end KeyEntry

end SignOn
