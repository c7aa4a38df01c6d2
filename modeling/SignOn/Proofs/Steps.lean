import Mathlib.Data.List.Forall2
/-!
# Steps that may fail

Readers and checks are put together from steps that may fail, and the whole succeeds when each of
its steps does.  For two steps in a row this is `bind_eq_ok_iff`, for a step whose result or
complaint only changes its form `map_eq_ok_iff`, `mapError_eq_ok_iff` and `toOption_eq_some_iff`,
and for the same step at every place of a list `mapM_eq_some_iff`.
-/

namespace SignOn

section

variable {ε ε' α β : Type}

/-- Two steps that may fail succeed when both do. -/
theorem bind_eq_ok_iff {first : Except ε α} {next : α → Except ε β} {b : β} :
    first >>= next = .ok b ↔ ∃ a, first = .ok a ∧ next a = .ok b := by
  cases first <;> simp [bind, Except.bind]

/-- A step succeeds in another form when it does. -/
theorem map_eq_ok_iff {step : Except ε α} {form : α → β} {b : β} :
    step.map form = .ok b ↔ ∃ a, step = .ok a ∧ form a = b := by
  cases step <;> simp [Except.map]

/-- A step with another complaint succeeds as it did. -/
theorem mapError_eq_ok_iff {step : Except ε α} {complaint : ε → ε'} {a : α} :
    step.mapError complaint = .ok a ↔ step = .ok a := by
  cases step <;> simp [Except.mapError]

/-- A step whose complaint is dropped succeeds as it did. -/
theorem toOption_eq_some_iff {step : Except ε α} {a : α} :
    step.toOption = some a ↔ step = .ok a := by
  cases step <;> simp [Except.toOption]

end

section

variable {α β : Type} {read : α → Option β} {l : List α} {r : List β}

/-- A list is read if all that is in it is read. -/
theorem mapM_eq_some_iff : l.mapM read = some r ↔ l.map read = r.map some := by
  induction l generalizing r with
  | nil => cases r <;> simp
  | cons a l ih =>
      cases r with
      | nil => cases h : read a <;> cases hl : l.mapM read <;> simp [List.mapM_cons, h, hl]
      | cons b r =>
          simp only [List.mapM_cons, List.map_cons, List.cons.injEq, ← ih]
          cases read a <;> cases l.mapM read <;> simp

/-- A list is read when each place of it is. -/
theorem mapM_eq_some_iff_forall₂ :
    l.mapM read = some r ↔ List.Forall₂ (fun a b => read a = some b) l r := by
  rw [mapM_eq_some_iff, ← List.forall₂_eq_eq_eq, List.forall₂_map_left_iff,
    List.forall₂_map_right_iff]

/-- A list in which nothing is missing is read as what is in it. -/
theorem mapM_id_some (l : List α) : (l.map some).mapM id = some l :=
  mapM_eq_some_iff.mpr (List.map_id _)

/-- What is in a list that is read is read. -/
theorem exists_of_mem_of_mapM (h : l.mapM read = some r) {a : α} (ha : a ∈ l) :
    ∃ b ∈ r, read a = some b := by
  have hread : read a ∈ r.map some := mapM_eq_some_iff.mp h ▸ List.mem_map.mpr ⟨a, ha, rfl⟩
  obtain ⟨b, hb, heq⟩ := List.mem_map.mp hread
  exact ⟨b, hb, heq.symm⟩

end

end SignOn
