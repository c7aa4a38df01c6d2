import SignOn.Proofs.Store.Durability
/-!
# Which writes of a store fail

Whether a change is made depends on nothing but its write: `Store.Fails n` says that the write after
the next `n` fails, and a change of a store takes the first of these writes and moves all others up
(`apply_outcome`, `fails_apply`).

Some operations make two changes, the second once the first is made.  Each has a write of its own,
so between all and nothing there is a third outcome: `applyTwo_outcome` says that it comes exactly
when the first write succeeds and the second fails, and that the first change then stays.
-/

namespace SignOn.Store

/-- The write after the next `n` fails. -/
def Fails (n : Nat) (s : Store) : Prop :=
  ∃ f, s.file = some f ∧ f.obstacles n ≠ none

/-- The next writes end alike: they are all made, or they all fail. -/
def Uniform (written : Bool) (writes : Nat) (s : Store) : Prop :=
  ∀ n < writes, s.Fails n ↔ written = false

/-- A change is reported as made unless its write fails. -/
theorem apply_eq_ok_iff (s : Store) (c : Change) : (s.apply c).1 = .ok () ↔ ¬s.Fails 0 := by
  rw [apply_eq_commit]
  cases hf : s.file with
  | none => simp [commit, hf, Fails]
  | some f =>
      have hfails : s.Fails 0 ↔ f.obstacles 0 ≠ none := by simp [Fails, hf]
      rw [hfails]
      cases hobstacle : f.obstacles 0 with
      | none => simp [commit, hf, StateFile.replace, hobstacle]
      | some obstacle => cases obstacle <;> simp [commit, hf, StateFile.replace, hobstacle]

/-- **A change is made, or its write fails** and it spares everything. -/
theorem apply_outcome (s : Store) (c : Change) :
    (¬s.Fails 0 ∧ (s.apply c).1 = .ok () ∧ (s.apply c).2.contents = c.next s.contents ∧
        (s.apply c).2.events = s.events ++ c.told s.contents) ∨
      (s.Fails 0 ∧ ∃ cause, (s.apply c).1 = .error (.storage cause) ∧ s.Spared (s.apply c).2) := by
  have hiff := s.apply_eq_ok_iff c
  rcases s.apply_cases c with ⟨hok, hmade⟩ | ⟨cause, herror, hspared⟩
  · exact .inl ⟨hiff.mp hok, hok, hmade⟩
  · refine .inr ⟨Classical.byContradiction fun hwrites => ?_, cause, herror, hspared⟩
    rw [hiff.mpr hwrites] at herror
    cases herror

/-- A change takes the next write, whatever becomes of it. -/
theorem fails_apply (s : Store) (c : Change) (n : Nat) :
    (s.apply c).2.Fails n ↔ s.Fails (n + 1) := by
  rw [apply_eq_commit]
  cases hf : s.file with
  | none => simp [commit, hf, Fails]
  | some f =>
      cases hobstacle : f.obstacles 0 with
      | none => simp [commit, hf, StateFile.replace, hobstacle, Fails]
      | some obstacle => cases obstacle <;> simp [commit, hf, StateFile.replace, hobstacle, Fails]

/-- Fewer writes end alike if more do. -/
theorem Uniform.mono {written : Bool} {fewer more : Nat} {s : Store} (h : s.Uniform written more)
    (hle : fewer ≤ more) : s.Uniform written fewer :=
  fun n hn => h n (Nat.lt_of_lt_of_le hn hle)

/-- **A change among writes that end alike** is made if they are made, and is spared if not. -/
theorem Uniform.apply {written : Bool} {writes : Nat} {s : Store}
    (h : s.Uniform written (writes + 1)) (c : Change) :
    (s.apply c).2.Uniform written writes ∧
      ((written = true ∧ (s.apply c).1 = .ok () ∧ (s.apply c).2.contents = c.next s.contents) ∨
        (written = false ∧ ∃ cause, (s.apply c).1 = .error (.storage cause) ∧
          (s.apply c).2.contents = s.contents)) := by
  have hfirst := h 0 (Nat.succ_pos writes)
  refine ⟨?_, ?_⟩
  · intro n hn
    rw [fails_apply]
    exact h (n + 1) (Nat.succ_lt_succ hn)
  · rcases s.apply_outcome c with ⟨hwrites, hok, hcontents, -⟩ | ⟨hfails, cause, herror, hspared⟩
    · exact .inl ⟨Bool.of_not_eq_false fun hfalse => hwrites (hfirst.mpr hfalse), hok, hcontents⟩
    · exact .inr ⟨hfirst.mp hfails, cause, herror, hspared.contents⟩

/-- Changes use up writes; those after them still end alike. -/
theorem Uniform.run {written : Bool} (changes : List Change) : ∀ {writes : Nat} {s : Store},
    s.Uniform written (writes + changes.length) → (s.run changes).Uniform written writes := by
  induction changes with
  | nil => exact fun h => h
  | cons c changes ih => exact fun h => ih (h.apply c).1

/-- Make a change, and another one once the first is made. -/
def applyTwo (s : Store) (first second : Change) : Except Fault Unit × Store :=
  match s.apply first with
  | (.error fault, s) => (.error fault, s)
  | (.ok (), s) => s.apply second

/-- Of two changes the first one is tried, or both are. -/
theorem applyTwo_run (s : Store) (first second : Change) :
    (s.applyTwo first second).2 = s.run [first] ∨
      (s.applyTwo first second).2 = s.run [first, second] := by
  unfold applyTwo
  cases hcall : s.apply first with
  | mk result after =>
      have hafter : after = (s.apply first).2 := by rw [hcall]
      cases result with
      | error fault => exact .inl hafter
      | ok done => exact .inr (congrArg (fun t => (Store.apply t second).2) hafter)

/-- **Two changes have three outcomes**, which the two writes decide: everything is spared, only the
first change is made, or both are. -/
theorem applyTwo_outcome (s : Store) (first second : Change) :
    let out := s.applyTwo first second
    (s.Fails 0 ∧ (∃ cause, out.1 = .error (.storage cause)) ∧ s.Spared out.2) ∨
      (¬s.Fails 0 ∧ s.Fails 1 ∧ (∃ cause, out.1 = .error (.storage cause)) ∧
        out.2.contents = first.next s.contents ∧
        out.2.events = s.events ++ first.told s.contents) ∨
      (¬s.Fails 0 ∧ ¬s.Fails 1 ∧ out.1 = .ok () ∧
        out.2.contents = second.next (first.next s.contents)) := by
  have hfirst := s.apply_outcome first
  have hsecond := s.fails_apply first 0
  unfold applyTwo
  cases hcall : s.apply first with
  | mk result after =>
      rw [hcall] at hfirst hsecond
      rcases hfirst with
        ⟨hwrites, rfl, hcontents, hevents⟩ | ⟨hfails, cause, rfl, hspared⟩
      · rcases after.apply_outcome second with
          ⟨hwrites', hok, hcontents', -⟩ | ⟨hfails, cause, herror, hspared⟩
        · refine .inr (.inr ⟨hwrites, fun h => hwrites' (hsecond.mpr h), hok, ?_⟩)
          rw [hcontents', show after.contents = _ from hcontents]
        · exact .inr (.inl ⟨hwrites, hsecond.mp hfails, ⟨cause, herror⟩,
            hspared.contents.trans hcontents, hspared.events.trans hevents⟩)
      · exact .inl ⟨hfails, ⟨cause, rfl⟩, hspared⟩

end SignOn.Store
