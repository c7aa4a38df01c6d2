import SignOn.Credential
import SignOn.Duration
import SignOn.Fault
import SignOn.KeyMap
import SignOn.Settings.Complaint
import SignOn.Settings.Variable
import SignOn.StateFile
/-!
# The configuration

The configuration is read from a YAML file and from environment variables, which lie over it.
Every setting but the URL of a service has a default.
-/

namespace SignOn

/-- The identity provider.  The connect timeout is in milliseconds. -/
structure ProviderConfig where
  enabled : Bool
  baseUrl : Option String
  realm : String
  clientId : String
  callbackPort : Nat
  callbackPath : String
  connectTimeout : Int
  deriving DecidableEq

/-- Where the trust store is, and the proxy through which certificates are captured. -/
structure TrustConfig where
  path : Option String
  proxy : Option String
  deriving DecidableEq

/-- How tokens are checked.  The lifetime of a kept key is in nanoseconds. -/
structure TokenConfig where
  keyLifetime : Nat
  usernameClaim : String
  deriving DecidableEq

/-- Where the credential store is. -/
structure CredentialsConfig where
  path : Option String
  deriving DecidableEq

/-- A service and how its users are authenticated. -/
structure ServiceConfig where
  displayName : Option String
  url : String
  mode : AuthMode
  deriving DecidableEq

/-- A configuration; the services stand under the identifiers of their scopes. -/
structure Config where
  provider : ProviderConfig
  trust : TrustConfig
  token : TokenConfig
  credentials : CredentialsConfig
  services : KeyMap ServiceConfig
  deriving DecidableEq

namespace Config

open Settings

/-- The configuration that nothing was said about. -/
def default : Config where
  provider := ⟨false, none, "", "controlroom", 8080, "/oauth2Callback", 0⟩
  trust := ⟨none, none⟩
  token := ⟨3600 * Duration.perSecond, "name"⟩
  credentials := ⟨none⟩
  services := .empty

/-- Read a duration in words. -/
def duration : Json → Except Complaint Nat
  | .str s =>
    match Duration.parse? s with
    | some n => .ok n
    | none => complain (.value (.str s) "a duration")
  | v => complain (.type v "a duration")

/-- Read the name of a mode. -/
def modeOfName (name : String) : Except Complaint AuthMode :=
  match AuthMode.ofMarker? name with
  | some mode => .ok mode
  | none => complain (.variant name ["basic", "oauth2"])

/-- Read a mode: its name, or a table that holds nothing under its name. -/
def mode : Json → Except Complaint AuthMode
  | .str name => modeOfName name
  | .obj [] => complain (.type (.obj []) "enum")
  | .obj ((name, v) :: _) => do
    let mode ← modeOfName name
    match v with
    | .null => return mode
    | v => inPart name (complain (.type v "unit"))
  | v => complain (.type v "enum ServiceAuthMode")

/-- The settings of the identity provider. -/
def providerFields : List (FieldReader ProviderConfig) :=
  [field "enabled" bool fun b c => { c with enabled := b },
   field "base_url" optionalText fun s c => { c with baseUrl := s },
   field "realm" text fun s c => { c with realm := s },
   field "client_id" text fun s c => { c with clientId := s },
   field "callback_port" (int "u16" 0 65535) fun i c => { c with callbackPort := i.toNat },
   field "callback_path" text fun s c => { c with callbackPath := s },
   field "connect_timeout_ms" (int "i64" (-0x8000000000000000) 0x7fffffffffffffff)
     fun i c => { c with connectTimeout := i }]

/-- Read the settings of the identity provider. -/
def providerOfJson : Json → Except Complaint ProviderConfig :=
  record "IdentityProviderConfig" providerFields default.provider

/-- The settings of the trust store. -/
def trustFields : List (FieldReader TrustConfig) :=
  [field "path" optionalText fun s c => { c with path := s },
   field "proxy" optionalText fun s c => { c with proxy := s }]

/-- Read the settings of the trust store. -/
def trustOfJson : Json → Except Complaint TrustConfig :=
  record "TrustConfig" trustFields default.trust

/-- The settings of the token checks. -/
def tokenFields : List (FieldReader TokenConfig) :=
  [field "jwks_cache_ttl" duration fun n c => { c with keyLifetime := n },
   field "username_claim" text fun s c => { c with usernameClaim := s }]

/-- Read the settings of the token checks. -/
def tokenOfJson : Json → Except Complaint TokenConfig :=
  record "OidcConfig" tokenFields default.token

/-- The settings of the credential store. -/
def credentialsFields : List (FieldReader CredentialsConfig) :=
  [field "path" optionalText fun s _ => ⟨s⟩]

/-- Read the settings of the credential store. -/
def credentialsOfJson : Json → Except Complaint CredentialsConfig :=
  record "CredentialsConfig" credentialsFields default.credentials

/-- The fields of a service; its URL is not there until it is read. -/
def serviceFields : List (FieldReader (Option String × ServiceConfig)) :=
  [field "display_name" optionalText fun s c => (c.1, { c.2 with displayName := s }),
   field "url" text fun s c => (some s, { c.2 with url := s }),
   field "mode" mode fun m c => (c.1, { c.2 with mode := m })]

/-- Read a service, which needs a URL. -/
def serviceOfJson (v : Json) : Except Complaint ServiceConfig := do
  let (url, service) ← record "ServiceConfig" serviceFields (none, ⟨none, "", .basic⟩) v
  match url, v with
  | some _, _ => return service
  | none, .arr _ => complain (.length 1 "struct ServiceConfig with 3 elements")
  | none, _ => complain (.missing "url")

/-- Read the services. -/
def servicesOfJson : Json → Except Complaint (KeyMap ServiceConfig)
  | .obj members => do
    let services ← members.mapM fun (id, v) => do return (id, ← inPart id (serviceOfJson v))
    return .ofList services
  | v => complain (.type v "a map")

/-- The parts of a configuration. -/
def parts : List (FieldReader Config) :=
  [field "idp" providerOfJson fun p c => { c with provider := p },
   field "trust" trustOfJson fun t c => { c with trust := t },
   field "oidc" tokenOfJson fun t c => { c with token := t },
   field "credentials" credentialsOfJson fun p c => { c with credentials := p },
   field "services" servicesOfJson fun s c => { c with services := s }]

/-- Read a configuration. -/
def ofJson : Json → Except Complaint Config :=
  record "Config" parts default

/-- Whether there is a value at a path. -/
def reaches : Json → List String → Bool
  | _, [] => true
  | .obj members, name :: rest =>
    match Json.member? name members with
    | some v => reaches v rest
    | none => false
  | .arr items, place :: rest =>
    match place.toNat?.bind (items[·]?) with
    | some v => reaches v rest
    | none => false
  | _, _ :: _ => false

/-- The text of a complaint: the key is named the way its source writes it. -/
def complaintText (file : String) (upper : Json) (c : Complaint) : String :=
  let ofVariables := reaches upper c.path && !c.path.isEmpty
  let key :=
    if ofVariables then ".".intercalate (c.path.map Text.upperAscii)
    else ".".intercalate ("default" :: c.path)
  let source :=
    if ofVariables then "\x60" ++ lead ++ "\x60 environment variable(s)" else file ++ " YAML file"
  c.problem.message ++ (if c.path.isEmpty then "" else " for key " ++ Text.quoted key) ++
    " in " ++ source

/-- The settings of a file: a mapping in YAML.  A directory holds none. -/
def fileSettings? : StateFile.Content → Option Json
  | .file bytes => do return .obj (← Yaml.settings? (← Utf8.decode? bytes))
  | .directory => some (.obj [])
  | .missing => none

/-- The text of a file that holds no settings. -/
def notSettings (path : String) : String := path ++ " holds no mapping in YAML"

/-- The parts of a path that say where to go. -/
def pathParts (path : String) : List (List Char) :=
  (Text.splitWhere (· == '/') path.toList).filter fun part => part ≠ [] ∧ part ≠ ['.']

/-- How the path of a file is shown in `directory`: from there on if the file is in it. -/
def shownPath (directory path : String) : String :=
  let inside := if Text.startsWith "/" path then
      Text.afterPrefix? (pathParts directory) (pathParts path)
    else some (pathParts path)
  match inside with
  | some (part :: parts) => "/".intercalate ((part :: parts).map String.ofList)
  | _ => path

/-- Read the configuration from a file, if one is named, and from environment variables.  Complaints
name the file as seen from `directory`. -/
def load (directory : String) (file : Option (String × StateFile.Content))
    (environment : List (String × String)) : Except Fault Config := do
  let (shown, settings) ← match file with
    | none => pure ("", Json.obj [])
    | some (path, .missing) => throw (.config (.fileNotFound path))
    | some (path, content) =>
      let shown := shownPath directory path
      match fileSettings? content with
      | some settings => pure (shown, settings)
      | none => throw (.config (.unreadable (notSettings shown)))
  let upper := Settings.ofVariables environment
  (ofJson (merge settings upper)).mapError fun c =>
    .config (.unreadable (complaintText shown upper c))

end Config

/-- The timeout of a connection in milliseconds; none unless it is positive. -/
def ProviderConfig.connectTimeout? (c : ProviderConfig) : Option Nat :=
  if 0 < c.connectTimeout then some c.connectTimeout.toNat else none

namespace StatePath

/-- The directory for state files in the home directory. -/
def directory : String := ".controlroom"

/-- Go from a directory to a place in it. -/
def join (dir rest : String) : String :=
  if dir.isEmpty ∨ Text.endsWith "/" dir then dir ++ rest else dir ++ "/" ++ rest

/-- Replace a tilde at the start by the home directory. -/
def expand (home : Option String) (path : String) : String :=
  match Text.dropPrefix? "~" path, home with
  | some rest, some home => join home (Text.dropStart '/' rest)
  | _, _ => path

/-- The path of a state file: the configured one, else that in the home directory. -/
def resolve (home configured : Option String) (name : String) : Except Fault String :=
  match configured, home with
  | some path, _ => .ok (expand home path)
  | none, some home => .ok (join (join home directory) name)
  | none, none => .error (.config .noHome)

end StatePath

/-- The path of the trust store. -/
def TrustConfig.resolvedPath (c : TrustConfig) (home : Option String) : Except Fault String :=
  StatePath.resolve home c.path "oidc_truststore.json"

/-- The path of the credential store. -/
def CredentialsConfig.resolvedPath (c : CredentialsConfig) (home : Option String) :
    Except Fault String :=
  StatePath.resolve home c.path "credentials.json"

end SignOn
