import SignOn.Proofs.Text.Cutting
import SignOn.Store.Contents
/-!
# Four kinds of keys in one map

The second map of a store's contents has the two token keys, the marker keys of all scopes, and any
other text among its keys.  Nothing but the spelling tells the kinds apart.  A `Slot` is a key
together with its kind, and the two readings `Slot.key` and `Slot.ofKey` undo each other for every
text: no scope id, however it is spelt, gives a key of another kind or the key of another scope.

So a map that differs from another one under a single key differs from it in a single slot, and what
a slot holds can be followed through every operation on the map (`value?_setValue` and its
siblings).
-/

namespace SignOn

/-- A text starts with `lead` if something can be cut off. -/
theorem Text.startsWith_eq (lead s : String) :
    Text.startsWith lead s = (Text.dropPrefix? lead s).isSome := by
  rw [Text.startsWith, Text.dropPrefix?, Option.isSome_map]

namespace Contents

/-- The keys of markers are apart from the token keys. -/
theorem modeKey_ne (id : String) : modeKey id ≠ accessKey ∧ modeKey id ≠ idKey := by
  have hlead : (modeKey id).toList.head? = some 'a' := by simp [modeKey, modeLead]
  constructor <;> intro h <;> rw [h] at hlead <;> simp [accessKey, idKey] at hlead

/-- Markers of different scopes are kept under different keys. -/
theorem modeKey_inj {id other : String} : modeKey id = modeKey other ↔ id = other :=
  String.append_right_inj modeLead

/-- A key is free if it is neither a token key nor the key of a marker. -/
def IsFree (key : String) : Prop :=
  key ≠ accessKey ∧ key ≠ idKey ∧ Text.dropPrefix? modeLead key = none

/-- A key of the second map with its kind. -/
inductive Slot
  | access
  | idToken
  | marker (id : String)
  | free (key : Subtype IsFree)
  deriving DecidableEq

namespace Slot

/-- The key of a slot. -/
def key : Slot → String
  | access => accessKey
  | idToken => idKey
  | marker id => modeKey id
  | free key => key

/-- The slot of a key. -/
def ofKey (key : String) : Slot :=
  if haccess : key = accessKey then access
  else if hid : key = idKey then idToken
  else
    match hlead : Text.dropPrefix? modeLead key with
    | some id => marker id
    | none => free ⟨key, haccess, hid, hlead⟩

/-- What follows the lead of a marker key is the id. -/
theorem dropPrefix?_modeKey (id : String) : Text.dropPrefix? modeLead (modeKey id) = some id :=
  (Text.dropPrefix?_eq_some_iff modeLead (modeKey id) id).mpr rfl

/-- **Every slot is found again from its key.** -/
theorem ofKey_key (slot : Slot) : ofKey slot.key = slot := by
  cases slot with
  | access => rfl
  | idToken => rfl
  | marker id =>
      obtain ⟨haccess, hid⟩ := modeKey_ne id
      rw [key, ofKey, dif_neg haccess, dif_neg hid]
      split
      · next other hother =>
        rw [dropPrefix?_modeKey, Option.some.injEq] at hother
        rw [hother]
      · next hnone =>
        rw [dropPrefix?_modeKey] at hnone
        cases hnone
  | free key =>
      obtain ⟨key, haccess, hid, hlead⟩ := key
      rw [Slot.key, ofKey, dif_neg haccess, dif_neg hid]
      split
      · next id hsome =>
        rw [hlead] at hsome
        cases hsome
      · rfl

-- Not even a scope that is named like a token key has a token key.
example : ofKey "auth_mode:jwt_token" = marker "jwt_token" ∧ ofKey "jwt_token" = access := by
  decide

/-- **Every key is the key of its slot.** -/
theorem key_ofKey (key : String) : (ofKey key).key = key := by
  unfold ofKey
  split
  · next haccess => exact haccess.symm
  · split
    · next hid => exact hid.symm
    · split
      · next id hlead => exact ((Text.dropPrefix?_eq_some_iff modeLead key id).mp hlead).symm
      · rfl

/-- Different slots have different keys. -/
theorem key_inj {slot other : Slot} : slot.key = other.key ↔ slot = other := by
  constructor
  · intro h
    rw [← ofKey_key slot, h, ofKey_key]
  · intro h
    rw [h]

/-- Whether a slot is the marker of a scope. -/
def isMarker : Slot → Bool
  | marker _ => true
  | _ => false

/-- The keys that start like those of markers are those of markers. -/
theorem startsWith_key (slot : Slot) : Text.startsWith modeLead slot.key = slot.isMarker := by
  rw [Text.startsWith_eq]
  cases slot with
  | access => rfl
  | idToken => rfl
  | marker id => rw [key, dropPrefix?_modeKey]; rfl
  | free key => rw [Slot.key, key.property.2.2]; rfl

end Slot

/-- What is kept in a slot. -/
def value? (c : Contents) (slot : Slot) : Option String :=
  c.values.get? slot.key

theorem value?_setValue (c : Contents) (slot other : Slot) (value : String) :
    (c.setValue slot.key value).value? other =
      if other = slot then some value else c.value? other := by
  simp only [value?, setValue, KeyMap.get?_insert, Slot.key_inj]

theorem value?_eraseValue (c : Contents) (slot other : Slot) :
    (c.eraseValue slot.key).value? other = if other = slot then none else c.value? other := by
  simp only [value?, eraseValue, KeyMap.get?_erase, Slot.key_inj]

/-- Clearing all scopes empties the slots of the markers and no others. -/
theorem value?_eraseAll (c : Contents) (slot : Slot) :
    c.eraseAll.value? slot = if slot.isMarker then none else c.value? slot := by
  simp only [value?, eraseAll, KeyMap.get?_filter, Slot.startsWith_key]
  cases slot.isMarker <;> rfl

end Contents

end SignOn
