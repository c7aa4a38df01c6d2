import SignOn.KeyMap
import SignOn.Credential
import SignOn.Json.Reader
import SignOn.Json.Writer
/-!
# What a credential store holds

Two maps: the credentials of each scope, and texts under well-known keys.  The keys of the second
map fall into three kinds: the two token keys, the auth-mode markers of the scopes, and all others.
-/

namespace SignOn

/-- What is kept for one scope. -/
structure StoredScope where
  displayName : String
  username : Option String
  password : Option String
  deriving DecidableEq

/-- What a credential store holds. -/
structure Contents where
  scopes : KeyMap StoredScope
  values : KeyMap String
  deriving DecidableEq

namespace Contents

/-- Nothing. -/
def empty : Contents := ⟨.empty, .empty⟩

/-- The key of the access token. -/
def accessKey : String := "jwt_token"

/-- The key of the id token. -/
def idKey : String := "jwt_id_token"

/-- What the keys of auth-mode markers start with. -/
def modeLead : String := "auth_mode:"

/-- The key of a scope's auth-mode marker. -/
def modeKey (id : String) : String := modeLead ++ id

/-- The token of an entry. -/
def tokenOf (id : String) (s : StoredScope) : ScopedToken :=
  ⟨⟨id, s.displayName⟩, s.username, s.password⟩

/-- The token of a scope. -/
def token? (c : Contents) (id : String) : Option ScopedToken :=
  (c.scopes.get? id).map (tokenOf id)

/-- All tokens in the order of their scopes. -/
def tokens (c : Contents) : List ScopedToken :=
  c.scopes.toList.map fun (id, s) => tokenOf id s

/-- How a scope was last authenticated. -/
def authMode? (c : Contents) (id : String) : Option AuthMode :=
  (c.values.get? (modeKey id)).bind AuthMode.ofMarker?

/-- The bearer token, if there is an access token. -/
def bearer? (c : Contents) : Option BearerToken :=
  (c.values.get? accessKey).map fun access => ⟨access, c.values.get? idKey⟩

/-- The credential that a client of a scope sends: its user name and password if both are there,
else the bearer token if the scope was last authenticated with it. -/
def credential? (c : Contents) (id : String) : Option Credential :=
  match c.scopes.get? id with
  | some ⟨_, some username, some password⟩ => some (.basic username password)
  | _ =>
    if c.authMode? id = some .oauth2 then c.bearer?.map fun b => .bearer b.accessToken else none

/-- Keep a token. -/
def setToken (c : Contents) (t : ScopedToken) : Contents :=
  { c with scopes := c.scopes.insert t.scope.id ⟨t.scope.displayName, t.username, t.password⟩ }

/-- Remove the token of a scope. -/
def eraseToken (c : Contents) (id : String) : Contents :=
  { c with scopes := c.scopes.erase id }

/-- Remove all tokens and all auth-mode markers. -/
def eraseAll (c : Contents) : Contents :=
  ⟨.empty, c.values.filter fun key => ¬Text.startsWith modeLead key⟩

/-- Keep a value under a key. -/
def setValue (c : Contents) (key value : String) : Contents :=
  { c with values := c.values.insert key value }

/-- Remove a key. -/
def eraseValue (c : Contents) (key : String) : Contents :=
  { c with values := c.values.erase key }

/-- Keep both tokens of a login; a missing id token removes the one of an earlier login. -/
def setBearer (c : Contents) (t : BearerToken) : Contents :=
  let values := c.values.insert accessKey t.accessToken
  { c with values := match t.idToken with
      | some id => values.insert idKey id
      | none => values.erase idKey }

/-- Remove both tokens. -/
def eraseBearer (c : Contents) : Contents :=
  { c with values := (c.values.erase accessKey).erase idKey }

/-- The document of an entry. -/
def scopeJson (s : StoredScope) : Json :=
  .obj [("display_name", .str s.displayName), ("username", Json.ofOption .str s.username),
    ("password", Json.ofOption .str s.password)]

/-- The document of the contents. -/
def toJson (c : Contents) : Json :=
  .obj [("scopes", .obj (c.scopes.toList.map fun (id, s) => (id, scopeJson s))),
    ("values", .obj (c.values.toList.map fun (key, value) => (key, .str value)))]

/-- The text in which the contents are kept. -/
def text (c : Contents) : String := c.toJson.pretty

/-- Read an entry; user name and password may be missing. -/
def scopeOfNode? (node : Json.Node) : Option StoredScope := do
  match ← node.record? ["display_name", "username", "password"] with
  | [some name, username, password] =>
    return ⟨← name.text?, ← Json.Node.optional? Json.Node.text? username,
      ← Json.Node.optional? Json.Node.text? password⟩
  | _ => none

/-- Read a map whose values are read by `read`; a missing one is empty. -/
def mapOfNode? {α : Type} (read : Json.Node → Option α) : Option Json.Node → Option (KeyMap α)
  | none => some .empty
  | some (.obj members) => do
    let entries ← members.mapM fun (name, node) => do return (← name, ← read node)
    return .ofList entries
  | some _ => none

/-- Read contents; either map may be missing. -/
def ofNode? (node : Json.Node) : Option Contents := do
  match ← node.record? ["scopes", "values"] with
  | [scopes, values] =>
    return ⟨← mapOfNode? scopeOfNode? scopes, ← mapOfNode? Json.Node.text? values⟩
  | _ => none

/-- Read contents from their text. -/
def ofText? (s : String) : Option Contents := do
  ofNode? (← Json.nodeOfText? s)

end Contents

end SignOn
