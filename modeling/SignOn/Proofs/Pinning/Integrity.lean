import SignOn.Proofs.Json.Compact
import SignOn.Proofs.Pinning.Consistency
/-!
# The file of a trust store is whole or refused

The digest in the file of a trust store is not over the text of the file but over the pins that are
read from it, written once more in compact form.  Two things have to hold for this to work.  What
was written must be read as the same pins, or a whole file would be refused (`Pins.ofText_text`).
And different pins must be written differently, or a change could pass unnoticed: since the compact
form is read back as well, it tells lists of pins apart (`Pins.covered_injective`).

A file is then refused as soon as its pins are changed under the same digest, unless the keyed
digest itself is the same for two different messages (`Pins.eq_or_collide`).  Nothing is assumed
about the digest.  The main statement is `written_or_refused`.
-/

namespace SignOn

/-- Two different messages have the same digest under a key. -/
def Hmac.Collide (key a b : Bytes) : Prop :=
  a ≠ b ∧ Hmac.sha256 key a = Hmac.sha256 key b

namespace Pins

/-- The message of which the digest is taken. -/
def message (list : List Pin) : Bytes :=
  Utf8.encode (covered list)

/-- The pins in the compact form. -/
def ofCovered? (text : String) : Option (List Pin) := do
  match ← Json.nodeOfText? text with
  | .arr items => items.mapM Pin.ofNode?
  | _ => none

/-- The compact form is read back. -/
theorem ofCovered?_covered (list : List Pin) : ofCovered? (covered list) = some list := by
  have hlegible : (Json.arr (list.map Pin.toJson)).Legible :=
    Json.legibleItems_map Pin.toJson Pin.legible_toJson list
  have hitems := Json.Node.mapM_ofItems Pin.toJson Pin.ofNode? Pin.ofNode?_toJson list
  rw [ofCovered?, covered, Json.nodeOfText?_compact _ hlegible]
  exact hitems

/-- **Different lists of pins are written differently.** -/
theorem covered_injective : Function.Injective covered := by
  intro list other h
  have hread := congrArg ofCovered? h
  rw [ofCovered?_covered, ofCovered?_covered] at hread
  exact Option.some.inj hread

theorem message_injective : Function.Injective message :=
  Utf8.encode_injective.comp covered_injective

/-- **Pins with the same digest are the same**, or the keyed digest collides. -/
theorem eq_or_collide {list other : List Pin} (h : digest list = digest other) :
    list = other ∨ Hmac.Collide digestKey (message list) (message other) := by
  have hbytes : Hmac.sha256 digestKey (message list) = Hmac.sha256 digestKey (message other) :=
    Hex.encode_injective h
  by_cases hsame : message list = message other
  · exact .inl (message_injective hsame)
  · exact .inr ⟨hsame, hbytes⟩

/-- A document is whole: it has the version that is written, and its digest is that of the message
that its own pins make. -/
structure Document.Whole (d : Document) : Prop where
  version : d.version = Pins.version
  digest : d.digest = Hex.encode (Hmac.sha256 digestKey (message d.pins))

/-- A text is accepted exactly if it holds a whole document. -/
theorem ofText_eq_ok_iff (text : String) (pins : Pins) :
    ofText text = .ok pins ↔
      ∃ d, (Json.nodeOfText? text).bind documentOfNode? = some d ∧ d.Whole ∧
        pins = ofList d.pins := by
  unfold ofText
  cases hdocument : (Json.nodeOfText? text).bind documentOfNode? with
  | none => simp
  | some d =>
      by_cases hversion : d.version = version
      · by_cases hdigest : digest d.pins = d.digest
        · have hwhole : d.Whole := ⟨hversion, hdigest.symm⟩
          simp [hversion, hdigest, hwhole, eq_comm]
        · have hbroken : ¬d.Whole := fun hwhole => hdigest hwhole.digest.symm
          simp [hversion, hdigest, hbroken]
      · have hbroken : ¬d.Whole := fun hwhole => hversion hwhole.version
        simp [hversion, hbroken]

end Pins

namespace PinStore

/-- A file holds a document, whole or not. -/
def Holds (f : StateFile) (d : Pins.Document) : Prop :=
  ∃ text, f.text = .ok text ∧ (Json.nodeOfText? text).bind Pins.documentOfNode? = some d

theorem Holds.unique {f : StateFile} {d e : Pins.Document} (hd : Holds f d) (he : Holds f e) :
    d = e := by
  obtain ⟨text, htext, hread⟩ := hd
  obtain ⟨text', htext', hread'⟩ := he
  rw [htext] at htext'
  cases htext'
  exact Option.some.inj (hread.symm.trans hread')

/-- **A file is accepted exactly if it holds a whole document**, and its pins are those of the
document. -/
theorem read_eq_ok_iff (f : StateFile) (pins : Pins) :
    read f = .ok pins ↔ ∃ d, Holds f d ∧ d.Whole ∧ pins = .ofList d.pins := by
  unfold read Holds
  cases htext : f.text with
  | error cause => simp
  | ok text => simp [mapError_eq_ok_iff, Pins.ofText_eq_ok_iff]

/-- A file with a document that is not whole is refused, and a store opened in it starts empty. -/
theorem refused_of_not_whole {f : StateFile} {d : Pins.Document} (hholds : Holds f d)
    (hbroken : ¬d.Whole) :
    ∃ cause, read f = .error cause ∧ load f = (.empty, [.unusable cause]) := by
  have hpresent : f.isPresent = true := by
    obtain ⟨text, htext, -⟩ := hholds
    unfold StateFile.text at htext
    unfold StateFile.isPresent
    cases hcontent : f.content with
    | missing => simp [hcontent] at htext
    | directory => simp
    | file bytes => simp
  cases hread : read f with
  | error cause => exact ⟨cause, rfl, by simp [load, hpresent, hread]⟩
  | ok pins =>
      obtain ⟨e, hholds', hwhole, -⟩ := (read_eq_ok_iff f pins).mp hread
      rw [hholds.unique hholds'] at hbroken
      exact (hbroken hwhole).elim

/-- A replacement that nothing stands in the way of leaves the text in the file. -/
theorem replace_of_clear {f : StateFile} (hclear : f.obstacles 0 = none) (restrict : Bool)
    (text : String) : ∃ g, f.replace restrict text = (.ok (), g) := by
  simp [StateFile.replace, hclear]

/-- **A trust store file is whole or refused.**  Pins that are written are read back, whatever their
names, certificates and times.  A file is accepted exactly if it holds a document that has the right
version and whose digest is the keyed digest of its own pins in compact form, which tells lists of
pins apart.  Two accepted files with the same digest hold the same pins, or the keyed digest
collides; so a file whose pins were changed under the digest of an accepted one is refused, and a
store that is opened in it starts empty. -/
theorem written_or_refused :
    (∀ (f : StateFile) (pins : Pins), pins.Named → f.obstacles 0 = none →
      ∃ g, f.replace false pins.text = (.ok (), g) ∧ read g = .ok pins ∧ load g = (pins, [])) ∧
    (∀ (f : StateFile) (pins : Pins), read f = .ok pins ↔
      ∃ d, Holds f d ∧ d.version = 1 ∧
        d.digest = Hex.encode (Hmac.sha256 Pins.digestKey (Utf8.encode (Pins.covered d.pins))) ∧
        pins = .ofList d.pins) ∧
    Function.Injective Pins.covered ∧
    ∀ (f g : StateFile) (d e : Pins.Document) (pins : Pins), Holds f d → Holds g e →
      read f = .ok pins → e.digest = d.digest →
      ((∃ pins', read g = .ok pins') →
        e.pins = d.pins ∨ Hmac.Collide Pins.digestKey (Pins.message e.pins) (Pins.message d.pins)) ∧
      (e.pins ≠ d.pins →
        ¬Hmac.Collide Pins.digestKey (Pins.message e.pins) (Pins.message d.pins) →
        ∃ cause, read g = .error cause ∧ load g = (.empty, [.unusable cause])) := by
  refine ⟨?_, ?_, Pins.covered_injective, ?_⟩
  · intro f pins hnamed hclear
    obtain ⟨g, hreplace⟩ := replace_of_clear hclear false pins.text
    obtain ⟨hpresent, htext⟩ := Store.text_replace hreplace
    have hread : read g = .ok pins := by
      simp [read, htext, Pins.ofText_text hnamed, Except.mapError]
    exact ⟨g, hreplace, hread, load_of_text hnamed hpresent htext⟩
  · intro f pins
    rw [read_eq_ok_iff]
    constructor
    · intro haccepted
      obtain ⟨d, hholds, hwhole, hpins⟩ := haccepted
      exact ⟨d, hholds, hwhole.version, hwhole.digest, hpins⟩
    · intro haccepted
      obtain ⟨d, hholds, hversion, hdigest, hpins⟩ := haccepted
      exact ⟨d, hholds, ⟨hversion, hdigest⟩, hpins⟩
  · intro f g d e pins hd he hread hdigest
    obtain ⟨d', hd', hwhole, -⟩ := (read_eq_ok_iff f pins).mp hread
    rw [← hd.unique hd'] at hwhole
    have hsame : e.Whole →
        e.pins = d.pins ∨
          Hmac.Collide Pins.digestKey (Pins.message e.pins) (Pins.message d.pins) := by
      intro hwhole'
      have heq : Pins.digest e.pins = Pins.digest d.pins :=
        hwhole'.digest.symm.trans (hdigest.trans hwhole.digest)
      exact Pins.eq_or_collide heq
    constructor
    · intro haccepted
      obtain ⟨pins', hread'⟩ := haccepted
      obtain ⟨e', he', hwhole', -⟩ := (read_eq_ok_iff g pins').mp hread'
      rw [← he.unique he'] at hwhole'
      exact hsame hwhole'
    · intro hchanged hfree
      refine refused_of_not_whole he fun hwhole' => ?_
      rcases hsame hwhole' with heq | hcollide
      · exact hchanged heq
      · exact hfree hcollide

/-- A pin of the host `a`. -/
def samplePin : Pin := ⟨"a_0", [0x30, 0x00], .ofUnix 1750000000⟩

/-- The same pin under the name of another host. -/
def renamedPin : Pin := { samplePin with name := "z_0" }

/-- A file with the given pin and the digest of the pin of `a`. -/
def fileWith (p : Pin) : StateFile :=
  .new "pins.json"
    (.file (Utf8.encode (Pins.fileJson [p] (Pins.digest [samplePin])).pretty))

theorem holds_fileWith (p : Pin) : Holds (fileWith p) ⟨1, [p], Pins.digest [samplePin]⟩ := by
  refine ⟨_, ?_, Pins.documentOfText_fileJson [p] (Pins.digest [samplePin])⟩
  simp [fileWith, StateFile.new, StateFile.text, Utf8.decode?_encode]

/-- A pin is written and read back; under the name of another host the file is refused. -/
theorem written_or_refused_sample :
    (∃ g, (StateFile.new "pins.json" .missing).replace false (Pins.ofList [samplePin]).text =
        (.ok (), g) ∧ read g = .ok (.ofList [samplePin])) ∧
      ∃ cause, read (fileWith renamedPin) = .error cause ∧
        load (fileWith renamedPin) = (.empty, [.unusable cause]) := by
  obtain ⟨hwritten, haccepted, -, hchanged⟩ := written_or_refused
  constructor
  · obtain ⟨g, hreplace, hread, -⟩ := hwritten (.new "pins.json" .missing) (.ofList [samplePin])
      (Pins.named_ofList _) rfl
    exact ⟨g, hreplace, hread⟩
  · have hread : read (fileWith samplePin) = .ok (.ofList [samplePin]) :=
      (haccepted _ _).mpr ⟨_, holds_fileWith samplePin, rfl, rfl, rfl⟩
    have hdiffer : Hmac.sha256 Pins.digestKey (Pins.message [renamedPin]) ≠
        Hmac.sha256 Pins.digestKey (Pins.message [samplePin]) := by decide +kernel
    obtain ⟨-, hrefused⟩ := hchanged (fileWith samplePin) (fileWith renamedPin) _ _ _
      (holds_fileWith samplePin) (holds_fileWith renamedPin) hread rfl
    exact hrefused (by decide) fun hcollide => hdiffer hcollide.2

end PinStore

end SignOn
