import SignOn.Pinning.Pin
import SignOn.Proofs.Store.Document
import SignOn.Proofs.Text.Base64
import SignOn.Proofs.Time.WrittenTimestamps
/-!
# Written pins are read back

The file of a trust store lists the pins in the order of their names and forgets under which name
each of them was kept: on reading, a pin is kept under the name that it has itself.  So the pins are
read back if each is kept under its own name (`Pins.Named`), which is so for all pins that are read
from a file or captured from a host.

A pin is read back because its certificate and its time are (`Base64.decode?_encode`,
`Timestamp.parse?_text`); the digest is that of the pins because these are the same.  The main
statement is `Pins.ofText_text`.
-/

namespace SignOn

namespace Json

/-- A list of values that are read without arithmetic is read without arithmetic. -/
theorem legibleItems_map {α : Type} (value : α → Json) (hvalue : ∀ a, (value a).Legible)
    (list : List α) : LegibleItems (list.map value) := by
  induction list with
  | nil => trivial
  | cons a list ih => exact ⟨hvalue a, ih⟩

/-- Items are read back if each of them is. -/
theorem Node.mapM_ofItems {α : Type} (value : α → Json) (read : Node → Option α)
    (hread : ∀ a, read (ofJson (value a)) = some a) (list : List α) :
    (ofItems (list.map value)).mapM read = some list := by
  induction list with
  | nil => rfl
  | cons a list ih =>
      rw [List.map_cons, ofItems, List.mapM_cons, hread, ih]
      rfl

end Json

namespace Pin

/-- A pin is read back. -/
theorem ofNode?_toJson (p : Pin) : ofNode? (Json.Node.ofJson p.toJson) = some p := by
  have hrecord : (Json.Node.ofJson p.toJson).record? ["alias", "certificate", "acquired_at"] =
      some [some (.str (some p.name)), some (.str (some (Base64.encode p.certificate))),
        some (.str (some p.acquiredAt.text))] := by
    simp [toJson, Json.Node.ofJson, Json.Node.ofMembers, Json.Node.record?, Json.Node.once?]
  have htext (s : String) : (Json.Node.str (some s)).text? = some s := rfl
  simp [ofNode?, hrecord, htext, Base64.decode?_encode, Timestamp.parse?_text]

theorem legible_toJson (p : Pin) : p.toJson.Legible :=
  ⟨trivial, trivial, trivial, trivial⟩

end Pin

namespace Pins

/-- Every pin is kept under its own name. -/
def Named (pins : Pins) : Prop :=
  ∀ e ∈ pins.toList, e.2.name = e.1

theorem named_empty : Named .empty := by
  intro e he
  cases he

theorem Named.insert {pins : Pins} (h : Named pins) (p : Pin) :
    Named (KeyMap.insert pins p.name p) := by
  intro e he
  rcases KeyMap.mem_insertEntry he with rfl | he
  · rfl
  · exact h e he

theorem Named.insertAll (list : List Pin) : ∀ {pins : Pins}, Named pins →
    Named (pins.insertAll list) := by
  induction list with
  | nil =>
      intro pins h
      exact h
  | cons p list ih =>
      intro pins h
      exact ih (h.insert p)

/-- The pins of a list are kept under their own names. -/
theorem named_ofList (list : List Pin) : Named (ofList list) :=
  named_empty.insertAll list

/-- **A captured chain is kept under its own names**, and the pins beside it stay where they are. -/
theorem Named.repin {pins : Pins} (h : Named pins) (host : String) (now : Timestamp)
    (chain : List Bytes) : Named (pins.repin host now chain) := by
  refine Named.insertAll _ ?_
  intro e he
  exact h e (List.mem_filter.mp he).1

/-- **Pins that are read from a file are kept under their own names**, whatever the file holds. -/
theorem named_of_ofText {text : String} {pins : Pins} (h : ofText text = .ok pins) :
    Named pins := by
  unfold ofText at h
  split at h
  · cases h
  · split at h
    · cases h
    · split at h
      · cases h
      · cases h
        exact named_ofList _

/-- Putting pins under their own names one after another is putting their entries. -/
theorem insertAll_values (entries : List (String × Pin)) (hnamed : ∀ e ∈ entries, e.2.name = e.1) :
    ∀ pins : Pins, pins.insertAll (entries.map Prod.snd) =
      entries.foldl (fun m e => KeyMap.insert m e.1 e.2) pins := by
  induction entries with
  | nil =>
      intro pins
      rfl
  | cons e entries ih =>
      intro pins
      have hname : e.2.name = e.1 := hnamed e List.mem_cons_self
      have hrest := ih fun d hd => hnamed d (List.mem_cons_of_mem e hd)
      rw [List.map_cons, List.foldl_cons, ← hrest, ← hname]
      rfl

/-- **Pins are the pins of the list in which they are written**, if each has its own name. -/
theorem ofList_values {pins : Pins} (h : Named pins) : ofList pins.values = pins :=
  (insertAll_values pins.toList h .empty).trans pins.ofList_toList

/-- The version of the file is a word of one digit. -/
theorem legible_version : (Json.Number.int version).Legible := by
  have hwrite : (Json.Number.int version).write.toList = ['1'] := by decide
  constructor
  · simp [hwrite]
  · simp [hwrite, Json.Token.IsBare, Json.Token.isSpace, Json.Token.mark?]
  · rw [hwrite]
    rfl

/-- The document of a file: the version that is written, pins, and a digest, which may be any. -/
def fileJson (list : List Pin) (mac : String) : Json :=
  .obj [("version", .ofNat version), ("entries", .arr (list.map Pin.toJson)), ("mac", .str mac)]

theorem legible_fileJson (list : List Pin) (mac : String) : (fileJson list mac).Legible :=
  ⟨legible_version, Json.legibleItems_map Pin.toJson Pin.legible_toJson list, trivial, trivial⟩

/-- The document of a file gives back what was written into it. -/
theorem documentOfNode?_fileJson (list : List Pin) (mac : String) :
    documentOfNode? (Json.Node.ofJson (fileJson list mac)) = some ⟨version, list, mac⟩ := by
  have hrecord : (Json.Node.ofJson (fileJson list mac)).record? ["version", "entries", "mac"] =
      some [some (.num (some (.int version))),
        some (.arr (Json.Node.ofItems (list.map Pin.toJson))), some (.str (some mac))] := by
    simp [fileJson, Json.ofNat, Json.Node.ofJson, Json.Node.ofMembers, Json.Node.record?,
      Json.Node.once?]
  have hversion : versionOfNode? (.num (some (.int version))) = some version := by decide
  have hitems := Json.Node.mapM_ofItems Pin.toJson Pin.ofNode? Pin.ofNode?_toJson list
  have htext (s : String) : (Json.Node.str (some s)).text? = some s := rfl
  simp [documentOfNode?, hrecord, hversion, hitems, htext]

/-- A written document is read back from its text. -/
theorem documentOfText_fileJson (list : List Pin) (mac : String) :
    (Json.nodeOfText? (fileJson list mac).pretty).bind documentOfNode? =
      some ⟨version, list, mac⟩ := by
  rw [Json.nodeOfText?_pretty _ (legible_fileJson list mac), Option.bind_some,
    documentOfNode?_fileJson]

/-- **Pins are read back from the text of their file.** -/
theorem ofText_text {pins : Pins} (h : Named pins) : ofText pins.text = .ok pins := by
  have htext : pins.text = (fileJson pins.values (digest pins.values)).pretty := rfl
  rw [ofText, htext, documentOfText_fileJson]
  simp [ofList_values h]

end Pins

end SignOn
