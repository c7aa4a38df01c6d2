/-!
# Finite maps with text keys

A `KeyMap` is a list of keys and values in increasing order of the keys, so that equal maps are
equal as values, and listing a map lists its keys in order.  The main statements give what `get?`
sees after each operation.
-/

namespace SignOn

/-- Entries in increasing order of their keys. -/
def KeyMap.Sorted {α : Type} (entries : List (String × α)) : Prop :=
  entries.Pairwise fun a b => a.1 < b.1

/-- A finite map with text keys. -/
structure KeyMap (α : Type) where
  toList : List (String × α)
  sorted : KeyMap.Sorted toList

namespace KeyMap

variable {α β : Type}

instance [DecidableEq α] : DecidableEq (KeyMap α) := fun a b =>
  match decEq a.toList b.toList with
  | isTrue h => isTrue (by cases a; cases b; simp_all)
  | isFalse h => isFalse (fun e => h (by rw [e]))

theorem ext {a b : KeyMap α} (h : a.toList = b.toList) : a = b := by
  cases a; cases b; simp_all

/-- The map without entries. -/
def empty : KeyMap α := ⟨[], List.Pairwise.nil⟩

instance : Inhabited (KeyMap α) := ⟨empty⟩

/-- The value of a key in a list of entries. -/
def lookup (key : String) : List (String × α) → Option α
  | [] => none
  | (k, v) :: rest => if key = k then some v else lookup key rest

/-- The value of a key. -/
def get? (m : KeyMap α) (key : String) : Option α :=
  lookup key m.toList

/-- Put an entry in its place. -/
def insertEntry (key : String) (value : α) : List (String × α) → List (String × α)
  | [] => [(key, value)]
  | (k, v) :: rest =>
    if key < k then (key, value) :: (k, v) :: rest
    else if key = k then (key, value) :: rest
    else (k, v) :: insertEntry key value rest

theorem mem_insertEntry {key : String} {value : α} {e : String × α} {l : List (String × α)}
    (h : e ∈ insertEntry key value l) : e = (key, value) ∨ e ∈ l := by
  induction l with
  | nil => simpa [insertEntry] using h
  | cons head rest ih =>
    obtain ⟨k, v⟩ := head
    simp only [insertEntry] at h
    split at h
    · simpa using h
    · split at h
      · rcases List.mem_cons.1 h with h | h
        · exact .inl h
        · exact .inr (List.mem_cons_of_mem _ h)
      · rcases List.mem_cons.1 h with h | h
        · exact .inr (h ▸ List.mem_cons_self)
        · exact (ih h).imp id (List.mem_cons_of_mem _)

/-- Of two different keys that are not in order the other order holds. -/
theorem lt_of_not_lt {a b : String} (h : ¬a < b) (hne : a ≠ b) : b < a :=
  String.not_le.1 fun hle => hne (String.le_antisymm hle (String.not_lt.1 h))

theorem sorted_insertEntry {key : String} {value : α} {l : List (String × α)} (h : Sorted l) :
    Sorted (insertEntry key value l) := by
  induction l with
  | nil => simp [insertEntry, Sorted]
  | cons head rest ih =>
    obtain ⟨k, v⟩ := head
    obtain ⟨hk, hrest⟩ := List.pairwise_cons.1 h
    simp only [insertEntry]
    split
    · next hlt =>
      refine List.pairwise_cons.2 ⟨fun e he => ?_, h⟩
      rcases List.mem_cons.1 he with rfl | he
      · exact hlt
      · exact String.lt_trans hlt (hk e he)
    · next hnlt =>
      split
      · next heq => exact List.pairwise_cons.2 ⟨fun e he => heq ▸ hk e he, hrest⟩
      · next hne =>
        refine List.pairwise_cons.2 ⟨fun e he => ?_, ih hrest⟩
        rcases mem_insertEntry he with rfl | he
        · exact lt_of_not_lt hnlt hne
        · exact hk e he

/-- Give a key a value, in place of the one it has. -/
def insert (m : KeyMap α) (key : String) (value : α) : KeyMap α :=
  ⟨insertEntry key value m.toList, sorted_insertEntry m.sorted⟩

/-- The entries that `p` keeps. -/
def filter (m : KeyMap α) (p : String → Bool) : KeyMap α :=
  ⟨m.toList.filter fun e => p e.1, List.Pairwise.filter _ m.sorted⟩

/-- Remove a key. -/
def erase (m : KeyMap α) (key : String) : KeyMap α :=
  m.filter (· ≠ key)

/-- Whether a key has a value. -/
def contains (m : KeyMap α) (key : String) : Bool :=
  (m.get? key).isSome

/-- Whether there are no entries. -/
def isEmpty (m : KeyMap α) : Bool :=
  m.toList.isEmpty

/-- The map of a list of entries, the last of equal keys counting. -/
def ofList (entries : List (String × α)) : KeyMap α :=
  entries.foldl (fun m e => m.insert e.1 e.2) empty

/-- The values in the order of their keys. -/
def values (m : KeyMap α) : List α :=
  m.toList.map Prod.snd

/-- The keys in order. -/
def keys (m : KeyMap α) : List String :=
  m.toList.map Prod.fst

theorem lookup_insertEntry (key other : String) (value : α) (l : List (String × α)) :
    lookup other (insertEntry key value l) =
      if other = key then some value else lookup other l := by
  induction l with
  | nil => simp [insertEntry, lookup]
  | cons head rest ih =>
    obtain ⟨k, v⟩ := head
    simp only [insertEntry]
    split
    · simp [lookup]
    · split
      · next h => subst h; by_cases ho : other = key <;> simp [lookup, ho]
      · next hne =>
        simp only [lookup, ih]
        by_cases ho : other = k <;> by_cases hk : other = key <;> simp_all

theorem get?_insert (m : KeyMap α) (key other : String) (value : α) :
    (m.insert key value).get? other = if other = key then some value else m.get? other :=
  lookup_insertEntry key other value m.toList

theorem lookup_filter (p : String → Bool) (key : String) (l : List (String × α)) :
    lookup key (l.filter fun e => p e.1) = if p key then lookup key l else none := by
  induction l with
  | nil => simp [lookup]
  | cons head rest ih =>
    obtain ⟨k, v⟩ := head
    by_cases hk : key = k <;> by_cases hp : p k <;> simp_all [lookup]

theorem get?_filter (m : KeyMap α) (p : String → Bool) (key : String) :
    (m.filter p).get? key = if p key then m.get? key else none :=
  lookup_filter p key m.toList

theorem get?_erase (m : KeyMap α) (key other : String) :
    (m.erase key).get? other = if other = key then none else m.get? other := by
  rw [erase, get?_filter]
  by_cases h : other = key <;> simp [h]

theorem get?_empty (key : String) : (empty : KeyMap α).get? key = none := rfl

end KeyMap

end SignOn
