import SignOn.Certificate.Summary
import SignOn.Digest.Hmac
import SignOn.Json.Reader
import SignOn.Json.Writer
import SignOn.KeyMap
import SignOn.Fault
import SignOn.Text.Base64
import SignOn.Timestamp
/-!
# Pinned certificates and their file

A pin is a certificate under a name, `<host>_<index>`, with the time of its capture.  The file of
the pins carries a keyed digest over them, so that a damaged file is told from a whole one.
-/

namespace SignOn

/-- A pinned certificate. -/
structure Pin where
  name : String
  certificate : Bytes
  acquiredAt : Timestamp
  deriving DecidableEq

namespace Pin

/-- The name of a certificate in the chain of a host, the leaf being number 0. -/
def nameOf (host : String) (index : Nat) : String :=
  host ++ "_" ++ toString index

/-- Whether a name belongs to a host: the host, an underscore, and digits. -/
def isNameOf (host name : String) : Bool :=
  match Text.dropPrefix? (host ++ "_") name with
  | some index => !index.isEmpty && index.toList.all Char.isDigit
  | none => false

/-- The pins of a captured chain. -/
def ofChain (host : String) (now : Timestamp) (chain : List Bytes) : List Pin :=
  chain.mapIdx fun i certificate => ⟨nameOf host i, certificate, now⟩

/-- One line about a pin. -/
def summary (p : Pin) : String :=
  Certificate.describe p.certificate

/-- The document of a pin. -/
def toJson (p : Pin) : Json :=
  .obj [("alias", .str p.name), ("certificate", .str (Base64.encode p.certificate)),
    ("acquired_at", .str p.acquiredAt.text)]

/-- Read a pin. -/
def ofNode? (node : Json.Node) : Option Pin := do
  match ← node.record? ["alias", "certificate", "acquired_at"] with
  | [some name, some certificate, some time] =>
    return ⟨← name.text?, ← Base64.decode? (← certificate.text?),
      ← Timestamp.parse? (← time.text?)⟩
  | _ => none

end Pin

/-- Pins under their names. -/
abbrev Pins := KeyMap Pin

namespace Pins

/-- Put pins in the place of those with the same name. -/
def insertAll (pins : Pins) (list : List Pin) : Pins :=
  list.foldl (fun pins p => KeyMap.insert pins p.name p) pins

/-- The pins of a list, the last of equal names counting. -/
def ofList (list : List Pin) : Pins :=
  insertAll .empty list

/-- Pin the chain of a host in the place of the one pinned before. -/
def repin (pins : Pins) (host : String) (now : Timestamp) (chain : List Bytes) : Pins :=
  insertAll (pins.filter fun name => !Pin.isNameOf host name) (Pin.ofChain host now chain)

/-- The key of the digest. -/
def digestKey : Bytes :=
  Utf8.encode "changeit"

/-- What the digest covers: the compact document of the pins. -/
def covered (list : List Pin) : String :=
  (Json.arr (list.map Pin.toJson)).compact

/-- The digest over pins. -/
def digest (list : List Pin) : String :=
  Hex.encode (Hmac.sha256 digestKey (Utf8.encode (covered list)))

/-- The version of the file. -/
def version : Nat := 1

/-- The text of the file. -/
def text (pins : Pins) : String :=
  (Json.obj [("version", .ofNat version), ("entries", .arr (pins.values.map Pin.toJson)),
    ("mac", .str (digest pins.values))]).pretty

/-- A file that is read but not yet checked. -/
structure Document where
  version : Nat
  pins : List Pin
  digest : String

/-- Read a version, a number of 32 bits. -/
def versionOfNode? (node : Json.Node) : Option Nat := do
  let n ← node.nat64?
  if n < 0x100000000 then some n else none

/-- Read a file. -/
def documentOfNode? (node : Json.Node) : Option Document := do
  match ← node.record? ["version", "entries", "mac"] with
  | [some version, some (.arr items), some mac] =>
    return ⟨← versionOfNode? version, ← items.mapM Pin.ofNode?, ← mac.text?⟩
  | _ => none

/-- Read the text of a file: the pins, if version and digest are right. -/
def ofText (text : String) : Except StorageFault Pins :=
  match (Json.nodeOfText? text).bind documentOfNode? with
  | none => .error .corrupt
  | some d =>
    if d.version ≠ version then .error (.version d.version)
    else if digest d.pins ≠ d.digest then .error .integrity
    else .ok (ofList d.pins)

end Pins

end SignOn
