import SignOn.Http
import SignOn.Status
/-!
# Faults

The causes for which an operation fails, grouped by what they mean to the caller, and their texts.
A cause that comes from outside (the operating system, a caller) is carried as `stated` text.
-/

namespace SignOn

/-- The configuration does not allow the operation. -/
inductive ConfigFault
  | fileNotFound (path : String)
  | unreadable (text : String)
  | noHome
  | noBaseUrl
  | invalidBaseUrl (text : String) (cause : Url.ParseError)
  | invalidEndpoint (text : String) (cause : Url.ParseError)
  | invalidUrl (text : String) (cause : Url.ParseError)
  | noHost (text : String)
  | providerDisabled
  | stated (text : String)
  deriving DecidableEq, Repr

/-- The text of a configuration fault. -/
def ConfigFault.message : ConfigFault → String
  | fileNotFound path => "Config file not found: " ++ path
  | unreadable text => text
  | noHome => "Cannot determine home directory"
  | noBaseUrl => "idp.base_url is not configured"
  | invalidBaseUrl text cause => "Invalid idp.base_url '" ++ text ++ "': " ++ cause.message
  | invalidEndpoint text cause => "Invalid endpoint URL '" ++ text ++ "': " ++ cause.message
  | invalidUrl text cause => "Invalid URL '" ++ text ++ "': " ++ cause.message
  | noHost text => "URL '" ++ text ++ "' has no host"
  | providerDisabled => "OAuth2 is not enabled (idp.enabled)"
  | stated text => text

/-- A host with a port. -/
structure Endpoint where
  host : String
  port : Nat
  deriving DecidableEq, Repr

/-- Host and port with a colon between them. -/
def Endpoint.text (e : Endpoint) : String :=
  e.host ++ ":" ++ toString e.port

/-- A name could not be resolved or a connection, a handshake or a tunnel could not be made. -/
inductive TransportFault
  | bind (port : Nat) (cause : String)
  | tokenRequest (cause : Http.Failure)
  | logoutRequest (cause : Http.Failure)
  | loginRequest (url : String) (cause : Http.Failure)
  | connect (target : Endpoint) (cause : String)
  | headTooLarge
  | proxyClosed (cause : String)
  | proxyRefused (target : Endpoint) (statusLine : String)
  | invalidServerName (host : String)
  | handshake (target : Endpoint) (cause : String)
  | noCertificates (target : Endpoint)
  | stated (text : String)
  deriving DecidableEq, Repr

/-- The text of a transport fault. -/
def TransportFault.message : TransportFault → String
  | bind port cause =>
    "Failed to bind callback listener on port " ++ toString port ++ ": " ++ cause
  | tokenRequest cause => "Token request failed: " ++ cause.message
  | logoutRequest cause => "Logout request failed: " ++ cause.message
  | loginRequest url cause => url ++ ": " ++ cause.message
  | connect target cause => "Connection to " ++ target.text ++ " failed: " ++ cause
  | headTooLarge => "Proxy response head too large"
  | proxyClosed cause => "Proxy closed the connection: " ++ cause
  | proxyRefused target statusLine =>
    "Proxy refused CONNECT to " ++ target.text ++ ": " ++ statusLine
  | invalidServerName host => "Invalid server name '" ++ host ++ "': invalid dns name"
  | handshake target cause => "TLS handshake with " ++ target.text ++ " failed: " ++ cause
  | noCertificates target => target.text ++ " presented no certificates"
  | stated text => text

/-- A peer answered with something unexpected. -/
inductive ProtocolFault
  | tokenResponse (cause : Http.Failure)
  | logoutStatus (status : Nat)
  | loginStatus (status : Nat)
  | stated (text : String)
  deriving DecidableEq, Repr

/-- The text of a protocol fault. -/
def ProtocolFault.message : ProtocolFault → String
  | tokenResponse cause => "Failed to parse token response: " ++ cause.message
  | logoutStatus status => "Logout returned HTTP " ++ Http.statusText status
  | loginStatus status => "unexpected login response " ++ toString status
  | stated text => text

/-- A token is malformed, badly signed, expired, or does not name its user. -/
inductive TokenFault
  | notThreeSegments
  | malformedJson
  | malformedBase64
  | invalidAlgorithm
  | signatureMismatch
  | missingExpiry
  | expired
  | expiredAt (time : Int)
  | missingUser (claim : String)
  | stated (text : String)
  deriving DecidableEq, Repr

/-- The text of a token fault. -/
def TokenFault.message : TokenFault → String
  | notThreeSegments => "Token is not a three-segment JWT"
  | malformedJson => "JSON error"
  | malformedBase64 => "Base64 error"
  | invalidAlgorithm => "InvalidAlgorithm"
  | signatureMismatch => "signature mismatch"
  | missingExpiry => "Missing required claim: exp"
  | expired => "Token expired"
  | expiredAt time => "Token expired at " ++ toString time
  | missingUser claim => "Token has no '" ++ claim ++ "' claim"
  | stated text => text

/-- The two numbers of a public key. -/
inductive KeyPart
  | modulus
  | exponent
  deriving DecidableEq, Repr

/-- The name of a key part. -/
def KeyPart.name : KeyPart → String
  | modulus => "modulus"
  | exponent => "exponent"

/-- The provider's documents did not yield a key. -/
inductive KeyFault
  | noAnswer (url : String) (cause : Http.Failure)
  | status (url : String) (status : Nat)
  | unparsable (url : String) (cause : Http.Failure)
  | noKeysUrl (issuer : String)
  | noRsaKey
  | missingPart (part : KeyPart)
  | undecodablePart (part : KeyPart) (cause : String)
  | emptyPart (part : KeyPart)
  | stated (text : String)
  deriving DecidableEq, Repr

/-- The text of a key fault. -/
def KeyFault.message : KeyFault → String
  | noAnswer url cause => "GET " ++ url ++ " failed: " ++ cause.message
  | status url code => "GET " ++ url ++ " returned HTTP " ++ Http.statusText code
  | unparsable url cause => "Unparsable response from " ++ url ++ ": " ++ cause.message
  | noKeysUrl issuer => "No jwks_uri in discovery document of " ++ issuer
  | noRsaKey => "JWKS contains no RSA key"
  | missingPart part => "RSA key has no " ++ part.name
  | undecodablePart part cause => "Undecodable " ++ part.name ++ ": " ++ cause
  | emptyPart part => "Empty " ++ part.name
  | stated text => text

/-- A state file cannot be read or written, or does not hold what it should. -/
inductive StorageFault
  | createDir (path cause : String)
  | write (path cause : String)
  | replace (path cause : String)
  | read (path cause : String)
  | corrupt
  | version (n : Nat)
  | integrity
  | stated (text : String)
  deriving DecidableEq, Repr

/-- The text of a storage fault. -/
def StorageFault.message : StorageFault → String
  | createDir path cause => "Failed to create " ++ path ++ ": " ++ cause
  | write path cause => "Failed to write " ++ path ++ ": " ++ cause
  | replace path cause => "Failed to replace " ++ path ++ ": " ++ cause
  | read path cause => "Failed to read " ++ path ++ ": " ++ cause
  | corrupt => "Corrupt trust store"
  | version n => "Unsupported trust store version " ++ toString n
  | integrity => "Trust store integrity check failed"
  | stated text => text

/-- Why an operation failed. -/
inductive Fault
  | config (cause : ConfigFault)
  | transport (cause : TransportFault)
  | protocol (cause : ProtocolFault)
  | badCredentials (user : String)
  | token (cause : TokenFault)
  | key (cause : KeyFault)
  | exchange (status : Nat) (body : String)
  | storage (cause : StorageFault)
  | alreadyRunning (address : String)
  | io (text : String)
  | json
  | http (cause : Http.Failure)
  | internal (text : String)
  deriving DecidableEq, Repr

namespace Fault

/-- The text of a fault. -/
def message : Fault → String
  | config cause => "Configuration error: " ++ cause.message
  | transport cause => "Transport error: " ++ cause.message
  | protocol cause => "Protocol error: " ++ cause.message
  | badCredentials user => "Bad credentials for " ++ user
  | token cause => "Token validation failed: " ++ cause.message
  | key cause => "Key resolution failed: " ++ cause.message
  | exchange status _ => "Token exchange failed: HTTP " ++ toString status
  | storage cause => "Persistence error: " ++ cause.message
  | alreadyRunning address => "Callback listener already running on " ++ address
  | io text => "IO error: " ++ text
  | json => "JSON error"
  | http cause => "HTTP error: " ++ cause.message
  | internal text => "Internal error: " ++ text

/-- The status that a caller outside sees. -/
def status : Fault → Status
  | transport _ | key _ => .serviceOffline
  | http (.unanswered _ false) => .serviceOffline
  | badCredentials _ => .badCredentials
  | _ => .unknownError

/-- The HTTP status that a fault carries. -/
def httpStatus? : Fault → Option Nat
  | exchange status _ => some status
  | http (.refused _ status) => some status
  | _ => none

end Fault

end SignOn
