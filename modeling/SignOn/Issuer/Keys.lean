import SignOn.Issuer
import SignOn.Network
import SignOn.Json.Reader
import SignOn.Text.Base64
/-!
# The identity provider's key

The key is found in two steps: the discovery document names the address of the key set, and the
first RSA entry of the key set is the key.  Every failure on the way is a `KeyFault`.
-/

namespace SignOn

/-- An RSA public key: big-endian modulus and exponent. -/
structure PublicKey where
  id : Option String
  modulus : Bytes
  exponent : Bytes
  deriving DecidableEq, Repr

/-- An entry of a key set. -/
structure KeyEntry where
  kind : String
  id : Option String
  modulus : Option String
  exponent : Option String
  deriving DecidableEq, Repr

namespace KeyEntry

/-- Read an entry; its kind is empty when not written. -/
def ofNode? (node : Json.Node) : Option KeyEntry := do
  match ← node.record? ["kty", "kid", "n", "e"] with
  | [kind, id, modulus, exponent] =>
    let kind ← match kind with
      | none => some ""
      | some node => node.text?
    return ⟨kind, ← Json.Node.optional? Json.Node.text? id,
      ← Json.Node.optional? Json.Node.text? modulus, ← Json.Node.optional? Json.Node.text? exponent⟩
  | _ => none

/-- Read a key set, which has no entries when it names none. -/
def listOfNode? (node : Json.Node) : Option (List KeyEntry) := do
  match ← node.record? ["keys"] with
  | [some (.arr items)] => items.mapM ofNode?
  | [none] => some []
  | _ => none

/-- Read one number of a key: nonempty base64url, with padding or without. -/
def decodePart (part : KeyPart) : Option String → Except KeyFault Bytes
  | none => .error (.missingPart part)
  | some text =>
    match Base64.decodeUrl (Text.dropEnd '=' text) with
    | .error fault => .error (.undecodablePart part fault.message)
    | .ok [] => .error (.emptyPart part)
    | .ok (b :: bytes) => .ok (b :: bytes)

/-- The key of an entry.  Both numbers have to be there before either is read. -/
def publicKey (entry : KeyEntry) : Except KeyFault PublicKey :=
  match entry.modulus, entry.exponent with
  | none, _ => .error (.missingPart .modulus)
  | _, none => .error (.missingPart .exponent)
  | some n, some e => do
    return ⟨entry.id, ← decodePart .modulus n, ← decodePart .exponent e⟩

/-- The key of the first RSA entry. -/
def firstRsa (entries : List KeyEntry) : Except KeyFault PublicKey :=
  match entries.find? (·.kind == "RSA") with
  | none => .error .noRsaKey
  | some entry => entry.publicKey

end KeyEntry

namespace PublicKey

/-- The body of a reply as a document, read by `read`. -/
def document {α : Type} (url : String) (read : Json.Node → Option α)
    (reply : Http.Reply) (sent : Except Http.Failure Http.Request) : Except KeyFault α :=
  if ¬Http.isSuccess reply.status then .error (.status url reply.status)
  else
    match if reply.complete then (Json.nodeOfBytes? reply.body).bind read else none with
    | some a => .ok a
    | none =>
      let shown := match sent with
        | .ok r => r.url.write
        | .error _ => url
      .error (.unparsable url (.unreadable shown))

/-- Get a document. -/
def getDocument {α : Type} (url : String) (read : Json.Node → Option α) (net : Network) :
    Except KeyFault α × Network :=
  let request := Http.buildText .get none url
  match net.fetch request with
  | (.error failure, net) => (.error (.noAnswer url failure), net)
  | (.ok reply, net) => (document url read reply request, net)

/-- The address of the key set in a discovery document, if it names one. -/
def keysUrl? (node : Json.Node) : Option (Option String) := do
  match ← node.record? ["jwks_uri"] with
  | [field] => Json.Node.optional? Json.Node.text? field
  | _ => none

/-- The discovery URL of an issuer's text; slashes at its end do not count. -/
def discoveryUrlOf (issuer : String) : String :=
  Text.dropEnd '/' issuer ++ Issuer.discoveryPath

/-- Find the key of an issuer. -/
def resolve (issuer : String) (net : Network) : Except KeyFault PublicKey × Network :=
  match getDocument (discoveryUrlOf issuer) keysUrl? net with
  | (.error fault, net) => (.error fault, net)
  | (.ok none, net) => (.error (.noKeysUrl issuer), net)
  | (.ok (some url), net) =>
    if url.isEmpty then (.error (.noKeysUrl issuer), net)
    else
      match getDocument url KeyEntry.listOfNode? net with
      | (.error fault, net) => (.error fault, net)
      | (.ok entries, net) => (KeyEntry.firstRsa entries, net)

end PublicKey

end SignOn
