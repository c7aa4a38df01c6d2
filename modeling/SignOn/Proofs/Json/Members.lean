import Mathlib.Data.List.Forall2
import SignOn.Json.Reader
import SignOn.KeyMap
/-!
# The members of an object

An object is built by putting its members in their places one after another, so a name has what is
written last under it (`member?_gather`).  Members are read one by one: what they are read as has
the same names in the same order (`memberValues?_eq_some_iff`), and leaving out members by their
names before they are read or after comes to the same (`memberValues?_filter`).

So a member that is written once is the one that its name has (`member?_of_once?`).

Members that are put in their places are in order (`sorted_insertMember`).  Of members in order,
the one that a name has can be put in again without a change (`insertMember_self`).
-/

namespace SignOn.Json

theorem insertMember_eq (name : String) (value : Json) (members : List (String × Json)) :
    insertMember name value members = KeyMap.insertEntry name value members := by
  induction members with
  | nil => rfl
  | cons head rest ih =>
      obtain ⟨k, old⟩ := head
      simp only [insertMember, KeyMap.insertEntry, ih]

theorem member?_eq (name : String) (members : List (String × Json)) :
    member? name members = KeyMap.lookup name members := by
  induction members with
  | nil => rfl
  | cons head rest ih =>
      obtain ⟨k, value⟩ := head
      simp only [member?, KeyMap.lookup, ih]

/-- What the names have after a member was put in its place. -/
theorem member?_insertMember (name other : String) (value : Json)
    (members : List (String × Json)) :
    member? other (insertMember name value members) =
      if other = name then some value else member? other members := by
  rw [insertMember_eq, member?_eq, member?_eq, KeyMap.lookup_insertEntry]

theorem sorted_insertMember {name : String} {value : Json} {members : List (String × Json)}
    (h : KeyMap.Sorted members) : KeyMap.Sorted (insertMember name value members) :=
  insertMember_eq name value members ▸ KeyMap.sorted_insertEntry h

theorem mem_insertMember {name : String} {value : Json} {members : List (String × Json)}
    {m : String × Json} (h : m ∈ insertMember name value members) :
    m = (name, value) ∨ m ∈ members :=
  KeyMap.mem_insertEntry (insertMember_eq name value members ▸ h)

theorem mem_of_member? {name : String} {v : Json} {members : List (String × Json)}
    (h : member? name members = some v) : (name, v) ∈ members := by
  induction members with
  | nil => cases h
  | cons head rest ih =>
      obtain ⟨k, old⟩ := head
      simp only [member?] at h
      split at h
      · next heq =>
        cases h
        exact heq ▸ List.mem_cons_self
      · exact List.mem_cons_of_mem _ (ih h)

theorem ne_of_member?_eq_none {name : String} {members : List (String × Json)}
    (h : member? name members = none) : ∀ m ∈ members, m.1 ≠ name := by
  induction members with
  | nil => simp
  | cons head rest ih =>
      obtain ⟨k, old⟩ := head
      simp only [member?] at h
      split at h
      · cases h
      · next hne =>
        rw [List.forall_mem_cons]
        exact ⟨Ne.symm hne, ih h⟩

/-- Putting in what is there already changes nothing. -/
theorem insertMember_self {name : String} {v : Json} {members : List (String × Json)}
    (sorted : KeyMap.Sorted members) (h : member? name members = some v) :
    insertMember name v members = members := by
  induction members with
  | nil => cases h
  | cons head rest ih =>
      obtain ⟨k, old⟩ := head
      obtain ⟨hk, hrest⟩ := List.pairwise_cons.mp sorted
      simp only [member?] at h
      split at h
      · next heq =>
        cases h
        simp [insertMember, heq]
      · next hne =>
        have hlt : k < name := hk _ (mem_of_member? h)
        simp [insertMember, String.lt_asymm hlt, hne, ih hrest h]

/-- A table has its members in order; all else has no members. -/
def IsOrdered (v : Json) : Prop := ∀ members, v = .obj members → KeyMap.Sorted members

/-- Members in their places, the last of equal names counting. -/
def gather (list : List (String × Json)) : List (String × Json) :=
  list.foldl (fun acc (name, value) => insertMember name value acc) []

theorem ofMembers_eq (list : List (String × Json)) : ofMembers list = .obj (gather list) := rfl

/-- What a name has is written last under it, or it was there before. -/
theorem member?_foldl (name : String) (list : List (String × Json)) :
    ∀ acc : List (String × Json),
      member? name (list.foldl (fun acc (k, value) => insertMember k value acc) acc) =
        ((list.filter fun e => e.1 == name).getLast?.map Prod.snd).or (member? name acc) := by
  induction list with
  | nil =>
      intro acc
      rfl
  | cons e list ih =>
      intro acc
      obtain ⟨k, value⟩ := e
      rw [List.foldl_cons, ih, member?_insertMember]
      by_cases hk : k = name
      · subst hk
        simp only [List.filter_cons, beq_self_eq_true, if_true, List.getLast?_cons]
        cases (list.filter fun e => e.1 == k).getLast? <;> rfl
      · simp [hk, Ne.symm hk]

/-- **A name has what is written last under it.** -/
theorem member?_gather (name : String) (list : List (String × Json)) :
    member? name (gather list) = (list.filter fun e => e.1 == name).getLast?.map Prod.snd := by
  rw [gather, member?_foldl]
  simp [member?]

/-- Members of other names do not matter to a name. -/
theorem member?_gather_filter (keeps : String → Bool) {name : String} (hname : keeps name = true)
    (list : List (String × Json)) :
    member? name (gather (list.filter fun e => keeps e.1)) = member? name (gather list) := by
  have hsame : (list.filter fun e => keeps e.1).filter (fun e => e.1 == name) =
      list.filter fun e => e.1 == name := by
    rw [List.filter_filter]
    refine List.filter_congr fun e _ => ?_
    by_cases he : e.1 = name
    · simp [he, hname]
    · simp [he]
  rw [member?_gather, member?_gather, hsame]

namespace Node

/-- A member is read as one of a value. -/
def Gives (depth : Nat) (m : Option String × Node) (e : String × Json) : Prop :=
  m.1 = some e.1 ∧ value? depth m.2 = some e.2

/-- Members are read one by one. -/
theorem memberValues?_eq_some_iff (depth : Nat) (members : List (Option String × Node)) :
    ∀ list : List (String × Json),
      memberValues? depth members = some list ↔ List.Forall₂ (Gives depth) members list := by
  induction members with
  | nil =>
      intro list
      cases list <;> simp [memberValues?]
  | cons m members ih =>
      intro list
      obtain ⟨name, node⟩ := m
      cases list with
      | nil => simp [memberValues?, Option.bind_eq_some_iff]
      | cons e list =>
          obtain ⟨k, value⟩ := e
          rw [List.forall₂_cons, ← ih]
          simp only [memberValues?, Gives, bind, Option.bind_eq_some_iff, pure, Option.some.injEq,
            List.cons.injEq, Prod.mk.injEq]
          constructor
          · intro hread
            obtain ⟨_, rfl, _, hvalue, _, hrest, ⟨rfl, rfl⟩, rfl⟩ := hread
            exact ⟨⟨rfl, hvalue⟩, hrest⟩
          · intro hread
            obtain ⟨⟨rfl, hvalue⟩, hrest⟩ := hread
            exact ⟨k, rfl, value, hvalue, list, hrest, ⟨rfl, rfl⟩, rfl⟩

/-- Members are read if each of them is. -/
theorem exists_memberValues?_iff (depth : Nat) (members : List (Option String × Node)) :
    (∃ list, memberValues? depth members = some list) ↔ ∀ m ∈ members, ∃ e, Gives depth m e := by
  induction members with
  | nil => simp [memberValues?]
  | cons m members ih =>
      rw [List.forall_mem_cons, ← ih]
      simp only [memberValues?_eq_some_iff]
      constructor
      · intro hread
        obtain ⟨_, hread⟩ := hread
        obtain ⟨e, list, he, hlist, -⟩ := List.forall₂_cons_left_iff.mp hread
        exact ⟨⟨e, he⟩, list, hlist⟩
      · intro hread
        obtain ⟨⟨e, he⟩, list, hlist⟩ := hread
        exact ⟨e :: list, .cons he hlist⟩

/-- **Members may be left out before they are read or after**, if that goes by their names. -/
theorem memberValues?_filter {depth : Nat} {members : List (Option String × Node)}
    {list : List (String × Json)} (h : memberValues? depth members = some list)
    (keeps : Option String → Bool) :
    memberValues? depth (members.filter fun m => keeps m.1) =
      some (list.filter fun e => keeps (some e.1)) := by
  rw [memberValues?_eq_some_iff] at h ⊢
  refine List.rel_filter ?_ h
  intro m e hgives
  simp only [hgives.1]

/-- **A member that is written once at most is what its name has.** -/
theorem member?_of_once? {depth : Nat} {members : List (Option String × Node)}
    {list : List (String × Json)} (h : memberValues? depth members = some list) {name : String}
    {found : Option Node} (honce : once? name members = some found) :
    member? name (gather list) = found.bind (value? depth) := by
  have hread := (memberValues?_eq_some_iff depth _ _).mp
    (memberValues?_filter h fun k => k == some name)
  have hfilter : (list.filter fun e => some e.1 == some name) =
      list.filter fun e => e.1 == name := by
    refine List.filter_congr fun e _ => ?_
    by_cases he : e.1 = name <;> simp [he]
  rw [hfilter] at hread
  rw [member?_gather]
  unfold once? at honce
  split at honce
  · next hnone =>
    rw [hnone, List.forall₂_nil_left_iff] at hread
    cases honce
    rw [hread]
    rfl
  · next m hone =>
    rw [hone, List.forall₂_cons_left_iff] at hread
    obtain ⟨e, rest, hgives, hrest, heq⟩ := hread
    rw [List.forall₂_nil_left_iff] at hrest
    cases honce
    simp [heq, hrest, hgives.2]
  · cases honce

/-- A member under a name that is written once at most is the one that is found. -/
theorem eq_of_once? {members : List (Option String × Node)} {name : String} {found : Option Node}
    (honce : once? name members = some found) {m : Option String × Node} (hm : m ∈ members)
    (hname : m.1 = some name) : found = some m.2 := by
  have hmem : m ∈ members.filter fun m => m.1 == some name :=
    List.mem_filter.mpr ⟨hm, by simp [hname]⟩
  unfold once? at honce
  split at honce
  · next hnone =>
    rw [hnone] at hmem
    cases hmem
  · next only hone =>
    rw [hone, List.mem_singleton] at hmem
    cases honce
    rw [hmem]
  · cases honce

end Node

end SignOn.Json
