/-!
# Scopes

A scope is the credential namespace of one backend service.  Scopes are the same when their ids
are; the display name is for people only.
-/

namespace SignOn

/-- A credential namespace. -/
structure Scope where
  id : String
  displayName : String
  deriving DecidableEq, Repr

namespace Scope

/-- Two scopes are the same namespace. -/
def same (a b : Scope) : Bool :=
  a.id == b.id

/-- How many namespaces a list of scopes names. -/
def distinct : List Scope → Nat
  | [] => 0
  | s :: rest => if rest.any s.same then distinct rest else distinct rest + 1

end Scope

end SignOn
