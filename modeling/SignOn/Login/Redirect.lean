import SignOn.Text.Form
/-!
# The redirect of a login

After the operator has logged in, the browser is sent back with a code or with an error in the
query of the URL.  What the browser is shown is a `Page`.
-/

namespace SignOn

/-- A page that a browser is shown. -/
structure Page where
  status : Nat
  body : String
  deriving DecidableEq, Repr

/-- The query of a redirect. -/
structure Redirect where
  code : Option String
  error : Option String
  description : Option String
  deriving DecidableEq, Repr

namespace Redirect

/-- A redirect whose query says nothing. -/
def blank : Redirect := ⟨none, none, none⟩

/-- Take in one pair of a query; the name comes back when it was there before. -/
def addPair (r : Redirect) (pair : String × String) : Except String Redirect :=
  let once (old : Option String) (new : Redirect) : Except String Redirect :=
    if old.isSome then .error pair.1 else .ok new
  if pair.1 = "code" then once r.code { r with code := some pair.2 }
  else if pair.1 = "error" then once r.error { r with error := some pair.2 }
  else if pair.1 = "error_description" then once r.description { r with description := some pair.2 }
  else .ok r

/-- Read a query; the name of a field that is there twice is an error. -/
def ofQuery (query : String) : Except String Redirect :=
  (Form.decode query).foldlM addPair blank

/-- What a redirect tells. -/
inductive Message
  | refused (error description : String)
  | noCode
  | code (code : String)
  deriving DecidableEq, Repr

/-- An error counts before a code, and an empty code is none. -/
def message (r : Redirect) : Message :=
  match r.error, r.code.filter fun c => !c.isEmpty with
  | some error, _ => .refused error (r.description.getD "no description")
  | none, none => .noCode
  | none, some code => .code code

end Redirect

end SignOn
