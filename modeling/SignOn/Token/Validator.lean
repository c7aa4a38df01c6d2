import SignOn.Token.Signature
/-!
# The token validator

A validator trusts the key of one issuer.  It keeps the key for a while; when a token does not
verify under a kept key, the key is fetched again and the token gets a second try, so that a
rotated key is picked up.  A lifetime of zero keeps no key.
-/

namespace SignOn

/-- A point in time: seconds of the calendar clock, and nanoseconds of a clock that never steps. -/
structure Moment where
  unix : Int
  ticks : Nat
  deriving DecidableEq, Repr

/-- A key and when it was fetched. -/
structure KeptKey where
  key : PublicKey
  fetchedAt : Nat
  deriving DecidableEq, Repr

/-- A validator.  The lifetime of a kept key is in nanoseconds. -/
structure Validator where
  issuer : String
  lifetime : Nat
  usernameClaim : String
  kept : Option KeptKey
  deriving DecidableEq, Repr

namespace Validator

/-- A validator that keeps no key yet. -/
def new (issuer : String) (lifetime : Nat) (usernameClaim : String) : Validator :=
  ⟨issuer, lifetime, usernameClaim, none⟩

/-- The kept key, while it may be used. -/
def kept? (v : Validator) (now : Moment) : Option PublicKey :=
  match v.kept with
  | some k =>
    if v.lifetime ≠ 0 ∧ now.ticks - k.fetchedAt < v.lifetime then some k.key else none
  | none => none

/-- Keep a key, unless keys are not kept. -/
def keep (v : Validator) (now : Moment) (key : PublicKey) : Validator :=
  if v.lifetime = 0 then v else { v with kept := some ⟨key, now.ticks⟩ }

/-- Forget the kept key. -/
def forgetKey (v : Validator) : Validator :=
  { v with kept := none }

/-- Fetch the key and keep it. -/
def fetchKey (v : Validator) (now : Moment) (net : Network) :
    Except KeyFault PublicKey × Validator × Network :=
  match PublicKey.resolve v.issuer net with
  | (.error fault, net) => (.error fault, v, net)
  | (.ok key, net) => (.ok key, v.keep now key, net)

/-- The result of a check as callers see it: a token that has just expired is refused too. -/
def accept (now : Moment) : Except TokenFault Verified → Except Fault Verified
  | .error fault => .error (.token fault)
  | .ok claims =>
    if claims.expiry ≤ now.unix then .error (.token (.expiredAt claims.expiry)) else .ok claims

/-- Check a token of three segments with a fetched key. -/
def validateFresh (v : Validator) (now : Moment) (header payload signature : String)
    (net : Network) : Except Fault Verified × Validator × Network :=
  match v.fetchKey now net with
  | (.error fault, v, net) => (.error (.key fault), v, net)
  | (.ok key, v, net) => (accept now (Token.check now.unix key header payload signature), v, net)

/-- Check a token: its claims, if it is well formed, correctly signed and not expired. -/
def validate (v : Validator) (now : Moment) (jwt : String) (net : Network) :
    Except Fault Verified × Validator × Network :=
  match Token.segments jwt with
  | [header, payload, signature] =>
    match v.kept? now with
    | none => v.validateFresh now header payload signature net
    | some key =>
      match Token.check now.unix key header payload signature with
      | .error .signatureMismatch => v.validateFresh now header payload signature net
      | checked => (accept now checked, v, net)
  | _ => (.error (.token .notThreeSegments), v, net)

/-- Whether a token is well formed, correctly signed and not expired. -/
def isValid (v : Validator) (now : Moment) (jwt : String) (net : Network) :
    Bool × Validator × Network :=
  match v.validate now jwt net with
  | (.ok _, v, net) => (true, v, net)
  | (.error _, v, net) => (false, v, net)

/-- The token of an `Authorization` header, if it is a bearer token of three segments. -/
def headerToken? (header : String) : Option String := do
  let jwt := Text.trim (← Text.dropPrefix? "Bearer " header)
  if (Token.segments jwt).length = 3 then some jwt else none

/-- Authenticate an `Authorization` header: nobody when it carries no token, else the user that
the checked token names. -/
def authenticateHeader (v : Validator) (now : Moment) (header : String) (net : Network) :
    Except Fault (Option String) × Validator × Network :=
  match headerToken? header with
  | none => (.ok none, v, net)
  | some jwt =>
    match v.validate now jwt net with
    | (.error fault, v, net) => (.error fault, v, net)
    | (.ok claims, v, net) =>
      match claims.text? v.usernameClaim with
      | some user => (.ok (some user), v, net)
      | none => (.error (.token (.missingUser v.usernameClaim)), v, net)

end Validator

end SignOn
