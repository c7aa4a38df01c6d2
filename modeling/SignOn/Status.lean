import SignOn.Json.Basic
/-!
# Authentication status

The outcome of a login attempt or of a look at the stored credentials.  `authenticated` was
confirmed by the live service, `cached` only found in the store; both let clients proceed.
-/

namespace SignOn

/-- Outcome of a login attempt or of a look at the store. -/
inductive Status
  | undetermined
  | authenticated
  | cached
  | badCredentials
  | serviceOffline
  | unknownError
  deriving DecidableEq, Repr

namespace Status

/-- All statuses. -/
def all : List Status :=
  [undetermined, authenticated, cached, badCredentials, serviceOffline, unknownError]

/-- Clients may proceed. -/
def isUsable : Status → Bool
  | authenticated | cached => true
  | _ => false

/-- The words for a status. -/
def display : Status → String
  | undetermined => "undetermined"
  | authenticated => "authenticated"
  | cached => "cached"
  | badCredentials => "bad credentials"
  | serviceOffline => "service offline"
  | unknownError => "unknown error"

/-- The name of a status in documents. -/
def marker : Status → String
  | undetermined => "UNDETERMINED"
  | authenticated => "AUTHENTICATED"
  | cached => "CACHED"
  | badCredentials => "BAD_CREDENTIALS"
  | serviceOffline => "SERVICE_OFFLINE"
  | unknownError => "UNKNOWN_ERROR"

/-- The name of a status in diagnostics. -/
def name : Status → String
  | undetermined => "Undetermined"
  | authenticated => "Authenticated"
  | cached => "Cached"
  | badCredentials => "BadCredentials"
  | serviceOffline => "ServiceOffline"
  | unknownError => "UnknownError"

/-- The status of a marker. -/
def ofMarker? (s : String) : Option Status :=
  all.find? fun status => status.marker == s

/-- The status that a document holds: its marker, or an object whose one member is the marker with
the value `null`. -/
def ofJson? : Json → Option Status
  | .str s => ofMarker? s
  | .obj [(s, .null)] => ofMarker? s
  | _ => none

end Status

end SignOn
