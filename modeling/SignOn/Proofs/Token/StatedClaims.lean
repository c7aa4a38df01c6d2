import SignOn.Proofs.Json.Members
import SignOn.Proofs.Text.Base64
import SignOn.Proofs.Token.Judgement
/-!
# The two readers of a payload agree

A payload is read in two ways.  The reader of checked tokens (`Verified.ofNode?`) sets four claims
apart, which it insists on finding once at most and of known types, and keeps all others in the form
in which they are found.  The reader of unchecked tokens (`Claims.ofToken?`) keeps all claims in one
form and looks at their types only when it is asked for one.

What the first one accepts, the second one accepts too: a claim that is set apart is a whole number,
a text or nothing, and each of these has a value (`Verified.Found.exists_members`).  And both give
the same texts, since the places of the members among each other do not matter to a name
(`Verified.Found.text?_eq`).  The main statement is `Claims.ofToken?_of_states`.
-/

namespace SignOn

namespace Json.Node

/-- A whole number of 64 bits is a number that is written as such. -/
theorem int64?_eq_some_iff (node : Node) (i : Int) :
    node.int64? = some i ↔
      node = .num (some (.int i)) ∧ -0x8000000000000000 ≤ i ∧ i < 0x8000000000000000 := by
  constructor
  · intro h
    simp only [int64?, bind, Option.bind_eq_some_iff, Option.ite_none_right_eq_some,
      Option.some.injEq] at h
    obtain ⟨_, hint, hrange, rfl⟩ := h
    unfold int? at hint
    split at hint
    · cases hint
      exact ⟨rfl, hrange⟩
    · cases hint
  · intro h
    obtain ⟨rfl, hrange⟩ := h
    simp [int64?, int?, hrange]

/-- A text that may be missing or null has a value if it is there, which is rendered as that
text. -/
theorem claimText?_of_optional {depth : Nat} {found : Option Node} {text : Option String}
    (h : optional? text? found = some text) :
    (∀ node, found = some node → ∃ v, value? depth node = some v) ∧
      (found.bind (value? depth)).bind claimText? = text := by
  cases found with
  | none =>
      cases h
      exact ⟨fun _ hnode => (nomatch hnode), rfl⟩
  | some node =>
      cases node with
      | null =>
          cases h
          exact ⟨fun node hnode => by cases hnode; exact ⟨.null, rfl⟩, rfl⟩
      | str s =>
          cases s with
          | none => cases h
          | some s =>
              cases h
              exact ⟨fun node hnode => by cases hnode; exact ⟨.str s, rfl⟩, rfl⟩
      | bool b => cases h
      | num n => cases h
      | arr items => cases h
      | obj members => cases h

end Json.Node

namespace Verified

open Json Json.Node

/-- How deep the claims of a payload may be nested: the payload itself is one level. -/
def depth : Nat := depthLimit - 1

/-- Whether a claim is one of those that are set apart. -/
def isNamed (name : Option String) : Bool :=
  (named.map some).contains name

/-- What the reader of checked tokens has found among the members of a payload. -/
structure Found (members : List (Option String × Node)) (c : Verified) : Prop where
  expiry : once? "exp" members = some (some (.num (some (.int c.expiry)))) ∧
    c.expiry < 0x8000000000000000
  subject : ∃ found, once? "sub" members = some found ∧ optional? Node.text? found = some c.subject
  issuer : ∃ found, once? "iss" members = some found ∧ optional? Node.text? found = some c.issuer
  username : ∃ found, once? "preferred_username" members = some found ∧
    optional? Node.text? found = some c.preferredUsername
  other : ∃ rest, memberValues? depth (members.filter fun m => !isNamed m.1) = some rest ∧
    c.other = gather rest

/-- **Claims that are read were found** in an object. -/
theorem found_of_ofNode? {node : Node} {c : Verified} (h : ofNode? node = some c) :
    ∃ members, node = .obj members ∧ Found members c := by
  cases node with
  | obj members =>
      simp only [ofNode?, bind, Option.bind_eq_some_iff] at h
      obtain ⟨parts, hparts, h⟩ := h
      simp only [record?, named, List.mapM_cons, List.mapM_nil, bind, pure,
        Option.ite_none_right_eq_some, Option.bind_eq_some_iff, Option.some.injEq] at hparts
      obtain ⟨-, expiry, hexpiry, _, ⟨subject, hsubject, _, ⟨issuer, hissuer, _, ⟨username,
        husername, _, rfl, rfl⟩, rfl⟩, rfl⟩, rfl⟩ := hparts
      cases expiry with
      | none => cases h
      | some expiry =>
          simp only [Option.bind_eq_some_iff, pure, Option.some.injEq] at h
          obtain ⟨rest, hrest, i, hi, s, hs, n, hn, u, hu, rfl⟩ := h
          obtain ⟨rfl, -, hlarge⟩ := (int64?_eq_some_iff expiry i).mp hi
          refine ⟨members, rfl, ⟨hexpiry, hlarge⟩, ⟨subject, hsubject, hs⟩, ⟨issuer, hissuer, hn⟩,
            ⟨username, husername, hu⟩, rest, ?_, rfl⟩
          rw [← hrest, depth]
          refine congrArg (memberValues? _) (List.filter_congr fun m _ => ?_)
          unfold isNamed
          cases (named.map some).contains m.1 <;> rfl
  | null => cases h
  | bool b => cases h
  | num n => cases h
  | str s => cases h
  | arr items => cases h

variable {members : List (Option String × Node)} {c : Verified} {list : List (String × Json)}

/-- **All members of a payload have values**, also those that were set apart. -/
theorem Found.exists_members (h : Found members c) :
    ∃ list, memberValues? depth members = some list := by
  refine (exists_memberValues?_iff depth members).mpr fun m hm => ?_
  obtain ⟨rest, hrest, -⟩ := h.other
  cases hnamed : isNamed m.1 with
  | false =>
      have hkept : m ∈ members.filter fun m => !isNamed m.1 :=
        List.mem_filter.mpr ⟨hm, by simp [hnamed]⟩
      exact (exists_memberValues?_iff depth _).mp ⟨rest, hrest⟩ m hkept
  | true =>
      have hname : ∃ name, m.1 = some name ∧ name ∈ named := by
        simpa [isNamed, eq_comm, and_comm] using hnamed
      obtain ⟨name, hname, hmem⟩ := hname
      suffices hvalue : ∃ v, value? depth m.2 = some v by
        obtain ⟨v, hv⟩ := hvalue
        exact ⟨(name, v), hname, hv⟩
      -- The member is the only one of its name, so it is what was found under it.
      have htext : ∀ {text : Option String},
          (∃ found, once? name members = some found ∧ optional? Node.text? found = some text) →
            ∃ v, value? depth m.2 = some v := by
        intro text hfound
        obtain ⟨found, honce, hread⟩ := hfound
        exact (claimText?_of_optional hread).1 m.2 (eq_of_once? honce hm hname)
      simp only [named, List.mem_cons, List.not_mem_nil, or_false] at hmem
      rcases hmem with rfl | rfl | rfl | rfl
      · have hexpiry := eq_of_once? h.expiry.1 hm hname
        rw [← Option.some.inj hexpiry]
        exact ⟨.num (.int c.expiry), rfl⟩
      · exact htext h.subject
      · exact htext h.issuer
      · exact htext h.username

/-- The expiry is the member of its name. -/
theorem Found.member?_exp (h : Found members c) (hlist : memberValues? depth members = some list) :
    member? "exp" (gather list) = some (.num (.int c.expiry)) :=
  member?_of_once? hlist h.expiry.1

/-- The unchecked reader finds the same expiry. -/
theorem Found.expiry?_eq (h : Found members c) (hlist : memberValues? depth members = some list) :
    (Claims.mk (gather list)).expiry? = some c.expiry := by
  have hsmall : ¬0x8000000000000000 ≤ c.expiry := by
    have := h.expiry.2
    omega
  simp only [Claims.expiry?, h.member?_exp hlist, Claims.clamp, if_neg hsmall]

/-- The text of a whole number is its digits. -/
theorem claimText?_int (i : Int) : claimText? (.num (.int i)) = some (toString i) := by
  simp [claimText?, compact, compactChars, Number.write]

/-- **The two readers give the same text of every claim**, if one takes an empty one as absent. -/
theorem Found.text?_eq (h : Found members c) (hlist : memberValues? depth members = some list)
    (name : String) :
    c.text? name = ((Claims.mk (gather list)).text? name).filter fun s => ¬s.isEmpty := by
  have htext : ∀ {k : String} {text : Option String},
      (∃ found, once? k members = some found ∧ optional? Node.text? found = some text) →
        (member? k (gather list)).bind claimText? = text := by
    intro k text hfound
    obtain ⟨found, honce, hread⟩ := hfound
    rw [member?_of_once? hlist honce]
    exact (claimText?_of_optional hread).2
  unfold Verified.text? Claims.text?
  refine congrArg (Option.filter _) ?_
  simp only [bind]
  by_cases hsub : name = "sub"
  · subst hsub
    rw [if_pos rfl, htext h.subject]
  rw [if_neg hsub]
  by_cases hiss : name = "iss"
  · subst hiss
    rw [if_pos rfl, htext h.issuer]
  rw [if_neg hiss]
  by_cases husername : name = "preferred_username"
  · subst husername
    rw [if_pos rfl, htext h.username]
  rw [if_neg husername]
  by_cases hexp : name = "exp"
  · subst hexp
    rw [if_pos rfl, h.member?_exp hlist, Option.bind_some, claimText?_int]
  rw [if_neg hexp]
  obtain ⟨rest, hrest, hother⟩ := h.other
  have hfree : (!isNamed (some name)) = true := by
    simp [isNamed, named, hsub, hiss, husername, hexp]
  have hfilter := memberValues?_filter hlist fun k => !isNamed k
  rw [hrest, Option.some.injEq] at hfilter
  have hmember := member?_gather_filter (fun k => !isNamed (some k)) hfree list
  rw [hother, hfilter, hmember]

end Verified

namespace Claims

/-- **A payload that states claims to the reader of checked tokens states them to the other.** -/
theorem ofToken?_of_states {jwt header payload signature : String}
    (hjwt : Token.segments jwt = [header, payload, signature]) {c : Verified}
    (h : Token.States payload c) :
    ∃ stated, ofToken? jwt = some stated ∧ stated.expiry? = some c.expiry ∧
      ∀ name, c.text? name = (stated.text? name).filter fun s => ¬s.isEmpty := by
  obtain ⟨node, ⟨bytes, hbytes, hnode⟩, hclaims, -⟩ := h
  obtain ⟨members, rfl, hfound⟩ := Verified.found_of_ofNode? hclaims
  obtain ⟨list, hlist⟩ := hfound.exists_members
  have hbare : Text.dropEnd '=' payload = payload :=
    Text.dropEnd_of_not_mem (Base64.not_mem_of_decodeUrl? hbytes (by decide))
  have hvalue : Json.ofBytes? bytes = some (.obj (Json.gather list)) := by
    have hdepth : ¬Json.Node.depthLimit = 0 := by decide
    have hlist' : Json.Node.memberValues? (Json.Node.depthLimit - 1) members = some list := hlist
    simp [Json.ofBytes?, hnode, Json.Node.value?, hdepth, hlist', Json.ofMembers_eq]
  refine ⟨⟨Json.gather list⟩, ?_, hfound.expiry?_eq hlist, hfound.text?_eq hlist⟩
  simp [ofToken?, hjwt, hbare, hbytes, hvalue]

end Claims

end SignOn
