import SignOn.Proofs.Json.Members
import SignOn.Settings.Complaint
import SignOn.Settings.Variable
/-!
# One member of a record

A record of settings is read member by member, each over what those before it have made.  For a
field that keeps to itself (`IsField`) the place of its member among the others does not matter, so
a record that is read stays so when one member is put into it: the result is the record with the
new value, or the complaint of the field (`foldlM_insertMember`).

A variable lays a table of one member over a part of the settings.  If that part is a table, this
puts the member into it; if it is a list of fields, the list is gone and the other fields have their
defaults (`record_merge`).
-/

namespace SignOn

namespace Settings

open Json

variable {α ρ : Type}

/-- A field neither looks at what a change makes nor undoes it. -/
def FieldReader.Ignores (f : FieldReader ρ) (change : ρ → ρ) : Prop :=
  ∀ v r, f.set v (change r) = (f.set v r).map change

@[simp] theorem name_field (name : String) (read : Json → Except Complaint α) (put : α → ρ → ρ) :
    (field name read put).name = name := rfl

@[simp] theorem ignores_field (name : String) (read : Json → Except Complaint α) {put : α → ρ → ρ}
    {change : ρ → ρ} (h : ∀ a r, put a (change r) = change (put a r)) :
    (field name read put).Ignores change := by
  intro v r
  simp only [field]
  cases read v with
  | error c => rfl
  | ok a => exact congrArg Except.ok (h a r)

/-- A field of a record keeps to itself: its reader stands under its name, the other fields ignore
what it puts in, and what it puts in last counts. -/
structure IsField (fields : List (FieldReader ρ)) (name : String)
    (read : Json → Except Complaint α) (put : α → ρ → ρ) : Prop where
  found : fields.find? (fun f => f.name = name) = some (field name read put)
  apart : ∀ f ∈ fields, f.name ≠ name → ∀ a, f.Ignores (put a)
  again : ∀ (a b : α) (r : ρ), put b (put a r) = put b r

namespace IsField

variable {fields : List (FieldReader ρ)} {name : String} {read : Json → Except Complaint α}
  {put : α → ρ → ρ}

theorem takeMember_self (h : IsField fields name read put) (r : ρ) (v : Json) :
    takeMember fields r (name, v) = (inPart name (read v)).map (put · r) := by
  simp only [takeMember, h.found, field, inPart]
  cases read v <;> rfl

theorem takeMember_apart (h : IsField fields name read put) {m : String × Json} (hm : m.1 ≠ name)
    (a : α) (r : ρ) :
    takeMember fields (put a r) m = (takeMember fields r m).map (put a) := by
  unfold takeMember
  split
  · next f hfound =>
    have hname : f.name = m.1 := by simpa using List.find?_some hfound
    rw [h.apart f (List.mem_of_find?_eq_some hfound) (hname ▸ hm) a, inPart, inPart]
    cases f.set m.2 r <;> rfl
  · rfl

/-- Members of other names leave alone what the field has put in. -/
theorem foldlM_apart (h : IsField fields name read put) {members : List (String × Json)}
    (hne : ∀ m ∈ members, m.1 ≠ name) (a : α) (r : ρ) :
    members.foldlM (takeMember fields) (put a r) =
      (members.foldlM (takeMember fields) r).map (put a) := by
  induction members generalizing r with
  | nil => rfl
  | cons m members ih =>
      rw [List.forall_mem_cons] at hne
      rw [List.foldlM_cons, List.foldlM_cons, h.takeMember_apart hne.1]
      cases takeMember fields r m with
      | error c => rfl
      | ok r' => exact ih hne.2 r'

/-- **One member of a record is put in or replaced**, and the record is read as before with what
the field makes of the new value. -/
theorem foldlM_insertMember (h : IsField fields name read put) {members : List (String × Json)}
    (sorted : KeyMap.Sorted members) {start r : ρ}
    (loads : members.foldlM (takeMember fields) start = .ok r) (v : Json) :
    (insertMember name v members).foldlM (takeMember fields) start =
      (inPart name (read v)).map (put · r) := by
  induction members generalizing start with
  | nil =>
      cases loads
      rw [insertMember, List.foldlM_cons, h.takeMember_self]
      cases inPart name (read v) <;> rfl
  | cons head rest ih =>
      obtain ⟨k, old⟩ := head
      obtain ⟨hk, hrest⟩ := List.pairwise_cons.mp sorted
      rw [insertMember]
      split
      · next hlt =>
        have hne : ∀ m ∈ (k, old) :: rest, m.1 ≠ name := by
          rw [List.forall_mem_cons]
          exact ⟨(String.ne_of_lt hlt).symm,
            fun m hm => (String.ne_of_lt (String.lt_trans hlt (hk m hm))).symm⟩
        rw [List.foldlM_cons, h.takeMember_self]
        cases inPart name (read v) with
        | error c => rfl
        | ok a => exact (h.foldlM_apart hne a start).trans (by rw [loads]; rfl)
      · split
        · next heq =>
          subst heq
          have hne : ∀ m ∈ rest, m.1 ≠ name := fun m hm => (String.ne_of_lt (hk m hm)).symm
          rw [List.foldlM_cons, h.takeMember_self] at loads
          rw [List.foldlM_cons, h.takeMember_self]
          cases hold : inPart name (read old) with
          | error c =>
              rw [hold] at loads
              cases loads
          | ok b =>
              rw [hold] at loads
              replace loads : rest.foldlM (takeMember fields) (put b start) = .ok r := loads
              cases inPart name (read v) with
              | error c => rfl
              | ok a =>
                  calc rest.foldlM (takeMember fields) (put a start)
                      = rest.foldlM (takeMember fields) (put a (put b start)) := by rw [h.again]
                    _ = .ok (put a r) := by rw [h.foldlM_apart hne, loads]; rfl
        · rw [List.foldlM_cons] at loads ⊢
          cases htake : takeMember fields start (k, old) with
          | error c =>
              rw [htake] at loads
              cases loads
          | ok next =>
              rw [htake] at loads
              exact ih hrest loads

/-- In a record that is read, the member of a field is read, and the record has what it says. -/
theorem exists_read_member (h : IsField fields name read put) {members : List (String × Json)}
    (sorted : KeyMap.Sorted members) {start r : ρ}
    (loads : members.foldlM (takeMember fields) start = .ok r) {v : Json}
    (hv : member? name members = some v) : ∃ a, read v = .ok a ∧ put a r = r := by
  have hread := h.foldlM_insertMember sorted loads v
  rw [insertMember_self sorted hv, loads] at hread
  cases hold : read v with
  | error c =>
      rw [hold] at hread
      cases hread
  | ok a =>
      rw [hold] at hread
      exact ⟨a, rfl, (Except.ok.inj hread).symm⟩

/-- A record that is read without a member of the field has for it what it had to begin with. -/
theorem put_of_member?_eq_none (h : IsField fields name read put) {members : List (String × Json)}
    {start r : ρ} (loads : members.foldlM (takeMember fields) start = .ok r) {a : α}
    (hstart : put a start = start) (hnone : member? name members = none) : put a r = r := by
  have hread := h.foldlM_apart (ne_of_member?_eq_none hnone) a start
  rw [hstart, loads] at hread
  exact (Except.ok.inj hread).symm

end IsField

/-- A list. -/
def isList : Json → Bool
  | .arr _ => true
  | _ => false

/-- Only tables are joined. -/
theorem merge_of_not_table {lower : Json} (h : ∀ members, lower ≠ .obj members) (upper : Json) :
    merge lower upper = upper := by
  cases upper with
  | obj members => exact merge.eq_2 lower members h
  | _ => rw [merge]; simp

theorem merge_nil (members : List (String × Json)) :
    merge (.obj members) (.obj []) = .obj members := by
  simp only [merge, mergeMembers]

/-- A table of one member is joined with what the other table has under its name. -/
theorem merge_member (members : List (String × Json)) (name : String) (v : Json) :
    merge (.obj members) (.obj [(name, v)]) =
      .obj (insertMember name ((member? name members).elim v (merge · v)) members) := by
  simp only [merge, mergeMembers]
  cases member? name members <;> rfl

/-- **A table of one member over a record.**  A record in a table keeps its other fields; one in a
list loses them. -/
theorem record_merge {fields : List (FieldReader ρ)} {name : String}
    {read : Json → Except Complaint α} {put : α → ρ → ρ} (h : IsField fields name read put)
    (noTable : ∀ members a, read (.obj members) ≠ .ok a) {what : String} {start r : ρ}
    {lower : Json} (ordered : lower.IsOrdered) (loads : record what fields start lower = .ok r)
    (v : Json) :
    record what fields start (merge lower (.obj [(name, v)])) =
      (inPart name (read v)).map (put · (if isList lower then start else r)) := by
  cases lower with
  | obj members =>
      -- The old value of the field was read, so it is no table and gives way.
      have hvalue : (member? name members).elim v (merge · v) = v := by
        cases hold : member? name members with
        | none => rfl
        | some old =>
            refine merge_of_not_table (fun inner hinner => ?_) v
            subst hinner
            obtain ⟨a, hread, -⟩ := h.exists_read_member (ordered members rfl) loads hold
            exact noTable inner a hread
      rw [merge_member, hvalue]
      exact h.foldlM_insertMember (ordered members rfl) loads v
  | arr items =>
      rw [merge_of_not_table (by simp)]
      exact h.foldlM_insertMember .nil rfl v
  | null => cases loads
  | bool b => cases loads
  | num n => cases loads
  | str s => cases loads

end Settings

end SignOn
