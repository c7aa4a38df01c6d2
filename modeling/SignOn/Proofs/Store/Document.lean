import SignOn.Proofs.Json.ReadBack
import SignOn.Store.Contents
/-!
# The document of a credential store

The contents of a store are kept as a document of two maps.  Since a map lists its entries in the
order of their keys, reading its members one after another builds the same list again
(`KeyMap.ofList_toList`).  With the reading of written documents this gives the main statement,
`Contents.ofText?_text`: every contents are read back from their text, whatever characters the keys,
names and secrets in them hold.
-/

namespace SignOn

namespace KeyMap

variable {α β : Type}

/-- An entry whose key comes after all others is put at the end. -/
theorem insertEntry_last {key : String} (value : α) :
    ∀ {l : List (String × α)}, (∀ e ∈ l, e.1 < key) → insertEntry key value l = l ++ [(key, value)]
  | [], _ => rfl
  | (k, v) :: rest, h => by
      have hk : k < key := h (k, v) List.mem_cons_self
      have hnlt : ¬key < k := fun hlt => String.lt_irrefl key (String.lt_trans hlt hk)
      have hne : key ≠ k := fun heq => String.lt_irrefl key (heq ▸ hk)
      rw [insertEntry, if_neg hnlt, if_neg hne,
        insertEntry_last value fun e he => h e (List.mem_cons_of_mem _ he), List.cons_append]

/-- Entries in increasing order are appended one by one. -/
theorem toList_foldl_insert (entries : List (String × α)) :
    ∀ m : KeyMap α, Sorted (m.toList ++ entries) →
      (entries.foldl (fun m e => m.insert e.1 e.2) m).toList = m.toList ++ entries := by
  induction entries with
  | nil =>
      intro m _
      exact (List.append_nil _).symm
  | cons e entries ih =>
      intro m hsorted
      have hbefore : ∀ d ∈ m.toList, d.1 < e.1 := fun d hd =>
        (List.pairwise_append.mp hsorted).2.2 d hd e List.mem_cons_self
      have hinsert : (m.insert e.1 e.2).toList = m.toList ++ [e] := insertEntry_last e.2 hbefore
      have hassoc : m.toList ++ [e] ++ entries = m.toList ++ e :: entries := by simp
      rw [List.foldl_cons, ih (m.insert e.1 e.2) (by rw [hinsert, hassoc]; exact hsorted), hinsert,
        hassoc]

/-- **A map is the map of its entries.** -/
theorem ofList_toList (m : KeyMap α) : ofList m.toList = m :=
  ext (toList_foldl_insert m.toList empty m.sorted)

end KeyMap

namespace Json

/-- A value that holds texts and nothing but texts needs no arithmetic to be read. -/
theorem legibleMembers_map {α : Type} (value : α → Json) (hvalue : ∀ a, (value a).Legible)
    (entries : List (String × α)) :
    LegibleMembers (entries.map fun e => (e.1, value e.2)) := by
  induction entries with
  | nil => trivial
  | cons e entries ih => exact ⟨hvalue e.2, ih⟩

theorem legible_ofOption (o : Option String) : (ofOption .str o).Legible := by
  cases o <;> trivial

/-- A text that may be missing is read back. -/
theorem Node.optional?_ofOption (o : Option String) :
    Node.optional? Node.text? (some (Node.ofJson (ofOption .str o))) = some o := by
  cases o <;> rfl

end Json

namespace Contents

/-- An entry is read back. -/
theorem scopeOfNode?_scopeJson (s : StoredScope) :
    scopeOfNode? (Json.Node.ofJson (scopeJson s)) = some s := by
  have hrecord : (Json.Node.ofJson (scopeJson s)).record? ["display_name", "username", "password"] =
      some [some (Json.Node.ofJson (.str s.displayName)),
        some (Json.Node.ofJson (Json.ofOption .str s.username)),
        some (Json.Node.ofJson (Json.ofOption .str s.password))] := by
    simp [scopeJson, Json.Node.ofJson, Json.Node.ofMembers, Json.Node.record?, Json.Node.once?]
  have hname : (Json.Node.ofJson (.str s.displayName)).text? = some s.displayName := rfl
  simp [scopeOfNode?, hrecord, hname, Json.Node.optional?_ofOption]

/-- Members are read back if their values are. -/
theorem mapM_members {α : Type} (value : α → Json) (read : Json.Node → Option α)
    (hread : ∀ a, read (Json.Node.ofJson (value a)) = some a) (entries : List (String × α)) :
    (Json.Node.ofMembers (entries.map fun e => (e.1, value e.2))).mapM
      (fun (name, node) => do return (← name, ← read node)) = some entries := by
  induction entries with
  | nil => rfl
  | cons e entries ih =>
      rw [List.map_cons, Json.Node.ofMembers, List.mapM_cons, ih]
      simp [hread]

/-- A map is read back if its values are. -/
theorem mapOfNode?_members {α : Type} (value : α → Json) (read : Json.Node → Option α)
    (hread : ∀ a, read (Json.Node.ofJson (value a)) = some a) (m : KeyMap α) :
    mapOfNode? read (some (Json.Node.ofJson (.obj (m.toList.map fun e => (e.1, value e.2)))))
      = some m := by
  rw [Json.Node.ofJson, mapOfNode?, mapM_members value read hread]
  exact congrArg some m.ofList_toList

theorem legible_scopeJson (s : StoredScope) : (scopeJson s).Legible :=
  ⟨trivial, Json.legible_ofOption s.username, Json.legible_ofOption s.password, trivial⟩

theorem legible_toJson (c : Contents) : c.toJson.Legible :=
  ⟨Json.legibleMembers_map scopeJson legible_scopeJson c.scopes.toList,
    Json.legibleMembers_map Json.str (fun _ => trivial) c.values.toList, trivial⟩

/-- The node of the contents gives them back. -/
theorem ofNode?_toJson (c : Contents) : ofNode? (Json.Node.ofJson c.toJson) = some c := by
  have hscopes := mapOfNode?_members scopeJson scopeOfNode? scopeOfNode?_scopeJson c.scopes
  have hvalues := mapOfNode?_members Json.str Json.Node.text? (fun _ => rfl) c.values
  have hrecord : (Json.Node.ofJson c.toJson).record? ["scopes", "values"] =
      some [some (Json.Node.ofJson (.obj (c.scopes.toList.map fun e => (e.1, scopeJson e.2)))),
        some (Json.Node.ofJson (.obj (c.values.toList.map fun e => (e.1, .str e.2))))] := by
    simp [toJson, Json.Node.ofJson, Json.Node.ofMembers, Json.Node.record?, Json.Node.once?]
  simp [ofNode?, hrecord, hscopes, hvalues]

/-- **Contents are read back from their text.** -/
theorem ofText?_text (c : Contents) : ofText? c.text = some c := by
  rw [ofText?, text, Json.nodeOfText?_pretty c.toJson c.legible_toJson]
  exact c.ofNode?_toJson

end Contents

end SignOn
