import SignOn.Proofs.Settings.Records
/-!
# The tables of a document

The pairs of a YAML mapping are put in their places one after another, and an alias stands for a
value that was read before.  So all tables of a document have their members in order, whatever the
order in which they are written (`areOrdered_of_settings?`).
-/

namespace SignOn

/-- Members that are in order, each with a value whose own members are. -/
structure Json.AreOrdered (members : List (String × Json)) : Prop where
  sorted : KeyMap.Sorted members
  values : ∀ m ∈ members, m.2.IsOrdered

theorem Json.AreOrdered.nil : AreOrdered [] := ⟨.nil, by simp⟩

theorem Json.AreOrdered.insertMember {members : List (String × Json)} (h : AreOrdered members)
    (name : String) {v : Json} (hv : v.IsOrdered) :
    AreOrdered (Json.insertMember name v members) where
  sorted := sorted_insertMember h.sorted
  values := by
    intro m hm
    rcases mem_insertMember hm with rfl | hm
    · exact hv
    · exact h.values m hm

namespace Yaml

open Json

/-- The anchors stand for values whose members are in order. -/
def Anchors.IsOrdered (anchors : Anchors) : Prop :=
  ∀ name v, anchors.lookup name = some (some v) → v.IsOrdered

theorem Anchors.IsOrdered.note {anchors : Anchors} (h : anchors.IsOrdered) (name : Option String)
    {v : Option Json} (hv : ∀ w, v = some w → w.IsOrdered) : (anchors.note name v).IsOrdered := by
  cases name with
  | none => exact h
  | some name =>
      intro other w hw
      simp only [Anchors.note, List.lookup_cons] at hw
      split at hw
      · exact hv w (Option.some.inj hw)
      · exact h other w hw

theorem Anchors.IsOrdered.opening {anchors : Anchors} (h : anchors.IsOrdered)
    (name : Option String) : (anchors.note name none).IsOrdered := h.note name (by simp)

/-- A scalar is no table. -/
theorem scalarValue?_ne_obj (tag : Option String) (s : String) (isPlain : Bool)
    (members : List (String × Json)) : scalarValue? tag s isPlain ≠ some (.obj members) := by
  cases tag with
  | none =>
      cases isPlain with
      | false => simp [scalarValue?]
      | true =>
          simp only [scalarValue?, plainValue, if_true, ne_eq, Option.some.injEq]
          split_ifs
          · simp
          · split <;> simp
  | some tag =>
      simp only [scalarValue?, ne_eq]
      split_ifs <;> simp

namespace Node

/-- Reading a node gives a value whose members are in order. -/
def ValueOrdered (depth : Nat) (node : Node) (anchors : Anchors) : Prop :=
  anchors.IsOrdered → ∀ v after, value? depth node anchors = some (v, after) →
    v.IsOrdered ∧ after.IsOrdered

/-- Reading pairs puts their values in order to members that are. -/
def MembersOrdered (depth : Nat) (pairs : List (Node × Node)) (members : List (String × Json))
    (anchors : Anchors) : Prop :=
  anchors.IsOrdered → AreOrdered members → ∀ result after,
    members? depth pairs members anchors = some (result, after) →
      AreOrdered result ∧ after.IsOrdered

/-- Reading items leaves anchors that stand for values whose members are in order. -/
def ItemsOrdered (depth : Nat) (items : List Node) (anchors : Anchors) : Prop :=
  anchors.IsOrdered → ∀ result after, items? depth items anchors = some (result, after) →
    after.IsOrdered

theorem anchors_of_name? {key : Node} {anchors after : Anchors} {name : String}
    (h : key.name? anchors = some (name, after)) (hanchors : anchors.IsOrdered) :
    after.IsOrdered := by
  cases key with
  | scalar p text isPlain =>
      cases h
      exact hanchors.note p.anchor (by simp [IsOrdered])
  | reference other =>
      simp only [name?, Option.bind_eq_bind, Option.pure_def, Option.bind_eq_some_iff,
        Option.some.injEq, Prod.mk.injEq] at h
      obtain ⟨-, -, -, -, -, -, -, rfl⟩ := h
      exact hanchors
  | sequence p items => cases h
  | mapping p pairs => cases h

/-- Whatever is read is in order, the way it is read. -/
theorem ordered_read :
    (∀ depth node anchors, ValueOrdered depth node anchors) ∧
    (∀ depth pairs members anchors, MembersOrdered depth pairs members anchors) ∧
    (∀ depth items anchors, ItemsOrdered depth items anchors) := by
  refine value?.mutual_induct ValueOrdered MembersOrdered ItemsOrdered ?reference ?scalar ?tooDeep
    ?sequenceTagged ?sequence ?mappingTagged ?mapping ?noItems ?items ?noPairs ?pairs
  case reference =>
    intro depth name anchors hanchors v after h
    simp only [value?, Option.bind_eq_bind, Option.pure_def, Option.bind_eq_some_iff,
      Option.some.injEq, Prod.mk.injEq] at h
    obtain ⟨_, hfound, _, rfl, rfl, rfl⟩ := h
    exact ⟨hanchors _ _ hfound, hanchors⟩
  case scalar =>
    intro depth p text isPlain anchors hanchors v after h
    simp only [value?, Option.bind_eq_bind, Option.pure_def, Option.bind_eq_some_iff,
      Option.some.injEq, Prod.mk.injEq] at h
    obtain ⟨w, hw, rfl, rfl⟩ := h
    have hordered : w.IsOrdered := fun members heq =>
      absurd (heq ▸ hw) (scalarValue?_ne_obj p.tag text isPlain members)
    exact ⟨hordered, hanchors.note p.anchor (by rintro _ ⟨⟩; exact hordered)⟩
  case tooDeep =>
    intro node anchors hreference hscalar hanchors v after h
    cases node with
    | reference name => exact (hreference name rfl).elim
    | scalar p text isPlain => exact (hscalar p text isPlain rfl).elim
    | sequence p items => cases h
    | mapping p pairs => cases h
  case sequenceTagged =>
    intro depth p items anchors htag _ hanchors v after h
    simp [value?, htag] at h
  case sequence =>
    intro depth p items anchors htag ih hanchors v after h
    simp only [value?, htag, if_false, Option.bind_eq_bind, Option.pure_def,
      Option.bind_eq_some_iff, Option.some.injEq, Prod.mk.injEq, Prod.exists] at h
    obtain ⟨vs, inner, hitems, rfl, rfl⟩ := h
    have hordered : (Json.arr vs).IsOrdered := by simp [IsOrdered]
    have hinner := ih (hanchors.opening p.anchor) vs inner hitems
    exact ⟨hordered, hinner.note p.anchor (by rintro _ ⟨⟩; exact hordered)⟩
  case mappingTagged =>
    intro depth p pairs anchors htag _ hanchors v after h
    simp [value?, htag] at h
  case mapping =>
    intro depth p pairs anchors htag ih hanchors v after h
    simp only [value?, htag, if_false, Option.bind_eq_bind, Option.pure_def,
      Option.bind_eq_some_iff, Option.some.injEq, Prod.mk.injEq, Prod.exists] at h
    obtain ⟨members, inner, hmembers, rfl, rfl⟩ := h
    obtain ⟨hread, hinner⟩ := ih (hanchors.opening p.anchor) .nil members inner hmembers
    have hordered : (Json.obj members).IsOrdered := by
      rintro _ ⟨⟩
      exact hread.sorted
    exact ⟨hordered, hinner.note p.anchor (by rintro _ ⟨⟩; exact hordered)⟩
  case noItems =>
    intro depth anchors hanchors result after h
    cases h
    exact hanchors
  case items =>
    intro depth node rest anchors ihNode ihRest hanchors result after h
    simp only [items?, Option.bind_eq_bind, Option.pure_def, Option.bind_eq_some_iff,
      Option.some.injEq, Prod.mk.injEq, Prod.exists] at h
    obtain ⟨v, next, hv, vs, last, hrest, rfl, rfl⟩ := h
    exact ihRest next (ihNode hanchors v next hv).2 vs last hrest
  case noPairs =>
    intro depth members anchors hanchors hmembers result after h
    cases h
    exact ⟨hmembers, hanchors⟩
  case pairs =>
    intro depth key node rest members anchors ihNode ihRest hanchors hmembers result after h
    simp only [members?, Option.bind_eq_bind, Option.bind_eq_some_iff, Prod.exists] at h
    obtain ⟨name, named, hname, v, next, hv, hrest⟩ := h
    obtain ⟨hordered, hnext⟩ := ihNode named (anchors_of_name? hname hanchors) v next hv
    exact ihRest name v next hnext (hmembers.insertMember name hordered) result after hrest

end Node

/-- **The settings of a document are in order**, and so are the members of each of them. -/
theorem areOrdered_of_settings? {text : String} {members : List (String × Json)}
    (h : settings? text = some members) : AreOrdered members := by
  simp only [settings?, Option.bind_eq_bind, Option.pure_def, Option.bind_eq_some_iff] at h
  obtain ⟨document, -, h⟩ := h
  split at h
  · cases h
    exact .nil
  · cases h
    exact .nil
  · next p pairs =>
    simp only [Option.bind_eq_some_iff, Option.some.injEq, Prod.exists] at h
    obtain ⟨_, after, hread, rfl⟩ := h
    have hnone : Anchors.IsOrdered [] := by simp [Anchors.IsOrdered]
    exact (Node.ordered_read.2.1 _ _ _ _ (hnone.opening p.anchor) .nil _ after hread).1
  · cases h

end Yaml

end SignOn
