import SignOn.Token.Claims
import SignOn.Issuer.Keys
import SignOn.Digest.Rsa
/-!
# Checking one token against one key

The header must say RS256 before the signature is looked at, and the signature must verify before
the claims are.  The faults come in that order.
-/

namespace SignOn.Token

/-- The algorithms that a header may name. -/
def algorithms : List String :=
  ["HS256", "HS384", "HS512", "ES256", "ES384", "RS256", "RS384", "RS512", "PS256", "PS384",
   "PS512", "EdDSA"]

/-- Header fields with a text, or nothing. -/
def textFields : List String :=
  ["typ", "cty", "jku", "kid", "x5u", "x5t", "x5t#S256", "url", "nonce", "enc", "zip"]

/-- Header fields with a list of texts, or nothing. -/
def listFields : List String :=
  ["x5c", "crit"]

/-- Header fields with an object, or nothing. -/
def objectFields : List String :=
  ["jwk"]

/-- A list of texts. -/
def texts? : Json.Node → Option (List String)
  | .arr items => items.mapM Json.Node.text?
  | _ => none

/-- The members of an object. -/
def members? : Json.Node → Option (List (Option String × Json.Node))
  | .obj members => some members
  | _ => none

/-- Whether a header field has the shape it must have; the algorithm, like a field of no meaning, is
a text. -/
def isHeaderField (name : String) (value : Json.Node) : Bool :=
  if textFields.contains name then (Json.Node.nullable? Json.Node.text? value).isSome
  else if listFields.contains name then (Json.Node.nullable? texts? value).isSome
  else if objectFields.contains name then (Json.Node.nullable? members? value).isSome
  else value.text?.isSome

/-- The algorithm of a header document. -/
def algorithm? : Json.Node → Option String
  | .obj members =>
    let named := (Json.Node.obj members).record? ("alg" :: textFields ++ listFields ++ objectFields)
    if named.isSome ∧ members.all (fun (name, value) => name.any (isHeaderField · value)) then do
      let alg ← (← Json.Node.once? "alg" members).bind Json.Node.text?
      if algorithms.contains alg then some alg else none
    else none
  | _ => none

/-- The document of a segment. -/
def segmentNode (segment : String) : Except TokenFault Json.Node :=
  match Base64.decodeUrl? segment with
  | none => .error .malformedBase64
  | some bytes =>
    match Json.nodeOfBytes? bytes with
    | none => .error .malformedJson
    | some node => .ok node

/-- What the expiry check reads from a claim: a point in time, nothing, or something else. -/
inductive Claimed
  | absent
  | time (seconds : Nat)
  | unusable
  deriving DecidableEq

/-- The expiry as the expiry check reads it. -/
def Claimed.ofExpiry (expiry : Int) : Claimed :=
  if expiry < 0 then .unusable else .time expiry.toNat

/-- Check the expiry against the clock. -/
def checkExpiry (now : Int) : Claimed → Except TokenFault Unit
  | .time seconds => if (seconds : Int) < now then .error .expired else .ok ()
  | _ => .error .missingExpiry

/-- A not-before claim that stops the reader: an array or object with something in it. -/
def isBlocking : Option Json.Node → Bool
  | some (.arr (_ :: _)) | some (.obj (_ :: _)) => true
  | _ => false

/-- Whether the claims that only the checks look at are written once at most and can be passed. -/
def passesClaims : Json.Node → Bool
  | .obj members =>
    match Json.Node.once? "nbf" members, Json.Node.once? "aud" members with
    | some notBefore, some _ => !isBlocking notBefore
    | _, _ => false
  | _ => false

/-- The claims of a payload whose signature has been checked. -/
def readClaims (now : Int) (payload : String) : Except TokenFault Verified := do
  let node ← segmentNode payload
  match Verified.ofNode? node with
  | none => throw .malformedJson
  | some claims =>
    if ¬passesClaims node then throw .malformedJson
    checkExpiry now (.ofExpiry claims.expiry)
    return claims

/-- Check a token of three segments against a key. -/
def check (now : Int) (key : PublicKey) (header payload signature : String) :
    Except TokenFault Verified := do
  let node ← segmentNode header
  match algorithm? node with
  | none => throw .malformedJson
  | some alg =>
    if alg ≠ "RS256" then throw .invalidAlgorithm
    match Base64.decodeUrl? signature with
    | none => throw .malformedBase64
    | some bytes =>
      let signed := Utf8.encode (header ++ "." ++ payload)
      if Rsa.verifies key.modulus key.exponent signed bytes then readClaims now payload
      else throw .signatureMismatch

end SignOn.Token
