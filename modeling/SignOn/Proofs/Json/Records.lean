import SignOn.Json.Reader
import SignOn.Proofs.Steps
/-!
# The shape of a record

`Node.Record` says what the parts of a record are, without reference to the reader: it is an object
whose names are all texts and of which no field is written twice, or an array of the fields in order
of which the last may be missing.  The reader finds the parts of what has this shape and refuses all
else (`record?_eq_some_iff`).
-/

namespace SignOn

namespace Json.Node

/-- What an object has under a name that it writes once at most. -/
inductive Field (members : List (Option String × Node)) (name : String) : Option Node → Prop
  | missing (absent : ∀ m ∈ members, m.1 ≠ some name) : Field members name none
  | written {front back : List (Option String × Node)} {node : Node}
      (stands : members = front ++ (some name, node) :: back)
      (once : ∀ m ∈ front ++ back, m.1 ≠ some name) : Field members name (some node)

/-- A node is a record with fields of these names, and has these parts. -/
inductive Record (names : List String) : Node → List (Option Node) → Prop
  | object {members : List (Option String × Node)} {parts : List (Option Node)}
      (named : ∀ m ∈ members, m.1 ≠ none) (fields : List.Forall₂ (Field members) names parts) :
      Record names (.obj members) parts
  | array {items : List Node} {missing : Nat} (full : items.length + missing = names.length) :
      Record names (.arr items) (items.map some ++ List.replicate missing none)

/-- A part that is a text, or is missing or `null`. -/
inductive OptionalText : Option Node → Option String → Prop
  | missing : OptionalText none none
  | null : OptionalText (some .null) none
  | text (s : String) : OptionalText (some (.str (some s))) (some s)

theorem once?_eq_some_iff {members : List (Option String × Node)} {name : String}
    {part : Option Node} : once? name members = some part ↔ Field members name part := by
  have hnone (list : List (Option String × Node)) :
      list.filter (fun m => m.1 == some name) = [] ↔ ∀ m ∈ list, m.1 ≠ some name := by
    simp
  unfold once?
  constructor
  · intro h
    split at h
    · next hfilter =>
      obtain rfl := Option.some.inj h
      exact .missing ((hnone members).mp hfilter)
    · next m hfilter =>
      obtain rfl := Option.some.inj h
      obtain ⟨front, back, rfl, hfront, hm, hback⟩ := List.filter_eq_cons_iff.mp hfilter
      obtain ⟨found, node⟩ := m
      obtain rfl : found = some name := by simpa using hm
      refine .written rfl fun m hmem => ?_
      rcases List.mem_append.mp hmem with hmem | hmem
      · simpa using hfront m hmem
      · exact (hnone back).mp hback m hmem
    · cases h
  · rintro (habsent | ⟨rfl, honce⟩)
    · rw [(hnone members).mpr habsent]
    · next front back node =>
      have hfront := (hnone front).mpr fun m hm => honce m (List.mem_append_left _ hm)
      have hback := (hnone back).mpr fun m hm => honce m (List.mem_append_right _ hm)
      rw [List.filter_append, hfront, List.filter_cons_of_pos (by simp), hback]
      rfl

/-- **A record is read exactly if it has the shape of one.** -/
theorem record?_eq_some_iff {names : List String} {node : Node} {parts : List (Option Node)} :
    node.record? names = some parts ↔ Record names node parts := by
  cases node with
  | obj members =>
      have hfields : names.mapM (fun name => once? name members) = some parts ↔
          List.Forall₂ (Field members) names parts := by
        simp only [mapM_eq_some_iff_forall₂, once?_eq_some_iff]
      have hnamed : members.all (fun m => m.1.isSome) = true ↔ ∀ m ∈ members, m.1 ≠ none := by
        simp [Option.isSome_iff_ne_none]
      simp only [record?, Option.ite_none_right_eq_some, hfields, hnamed]
      constructor
      · rintro ⟨hall, hparts⟩
        exact .object hall hparts
      · rintro ⟨hall, hparts⟩
        exact ⟨hall, hparts⟩
  | arr items =>
      simp only [record?, Option.ite_none_right_eq_some, Option.some.injEq]
      constructor
      · rintro ⟨hle, rfl⟩
        exact .array (Nat.add_sub_cancel' hle)
      · intro h
        cases h with
        | @array _ missing hfull =>
            have hmissing : names.length - items.length = missing := by omega
            exact ⟨by omega, by rw [hmissing]⟩
  | null => constructor <;> intro h <;> cases h
  | bool b => constructor <;> intro h <;> cases h
  | num n => constructor <;> intro h <;> cases h
  | str s => constructor <;> intro h <;> cases h

theorem text?_eq_some_iff {node : Node} {s : String} :
    node.text? = some s ↔ node = .str (some s) := by
  cases node <;> simp [text?]

theorem optional?_text?_eq_some_iff {part : Option Node} {text : Option String} :
    optional? text? part = some text ↔ OptionalText part text := by
  constructor
  · intro h
    cases part with
    | none =>
        cases h
        exact .missing
    | some node =>
        cases node with
        | null =>
            cases h
            exact .null
        | str s =>
            obtain ⟨_, rfl, rfl⟩ := Option.map_eq_some_iff.mp h
            exact .text _
        | bool b => cases h
        | num n => cases h
        | arr items => cases h
        | obj members => cases h
  · rintro (_ | _ | _) <;> rfl

end Json.Node

end SignOn
