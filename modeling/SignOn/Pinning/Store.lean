import SignOn.Pinning.Capture
import SignOn.Pinning.Pin
import SignOn.StateFile
/-!
# The trust store

The pinned certificates of the identity provider, kept in a file between runs.  A chain that was
captured is written before it counts; what cannot be written changes nothing.  The store keeps the
trust that was last put together from its pins, and what it has noticed on the way.
-/

namespace SignOn

/-- The roots that connections trust besides those of the system. -/
structure Trust where
  anchors : List Bytes
  deriving DecidableEq

namespace Trust

/-- The trust in those of the given certificates that can be roots. -/
def ofCertificates (certificates : List Bytes) : Trust :=
  ⟨certificates.filter fun der => (Certificate.checkAnchor der).isOk⟩

/-- The trust in pins. -/
def ofPins (pins : Pins) : Trust :=
  ofCertificates (pins.values.map Pin.certificate)

/-- How many pinned certificates are trusted. -/
def pinned (t : Trust) : Nat := t.anchors.length

/-- The diagnostic text. -/
def diagnostic (t : Trust) : String :=
  "TlsContext \x7b pinned: " ++ toString t.pinned ++ ", .. \x7d"

end Trust

/-- What a trust store notices. -/
inductive PinStore.Notice
  | unusable (cause : Fault)
  | notAcquired (cause : Fault)
  | skipped (cause : Certificate.Defect)
  deriving DecidableEq

/-- A trust store.  `providerUrl` is where the provider's chain is captured when nobody names a
URL, `proxy` the configured proxy, `environment` the variables that may name another one. -/
structure PinStore where
  file : StateFile
  providerUrl : Option String
  proxy : Option String
  environment : String → Option String
  pins : Pins
  trust : Option Trust
  lastError : Option String
  notices : List PinStore.Notice

namespace PinStore

/-- Read the pins of a file. -/
def read (f : StateFile) : Except Fault Pins :=
  match f.text with
  | .error cause => .error (.storage (.read f.path cause))
  | .ok text => (Pins.ofText text).mapError .storage

/-- The pins of a file and what is noticed on the way; an unusable file holds none. -/
def load (f : StateFile) : Pins × List Notice :=
  if f.isPresent then
    match read f with
    | .ok pins => (pins, [])
    | .error cause => (.empty, [.unusable cause])
  else (.empty, [])

/-- Open the store in a file. -/
def openFile (f : StateFile) (providerUrl proxy : Option String)
    (environment : String → Option String) : PinStore :=
  let (pins, notices) := load f
  ⟨f, providerUrl.filter fun url => !url.isEmpty, proxy, environment, pins, none, none, notices⟩

/-- What is noticed when the trust in pins is put together. -/
def skipped (pins : Pins) : List Notice :=
  pins.values.filterMap fun p =>
    match Certificate.checkAnchor p.certificate with
    | .ok () => none
    | .error defect => some (.skipped defect)

/-- Write pins and then make them those of the store. -/
def commit (s : PinStore) (pins : Pins) : Except Fault Unit × PinStore :=
  match s.file.replace false pins.text with
  | (.error fault, file) => (.error fault, { s with file })
  | (.ok (), file) =>
    (.ok (), { s with
      file, pins, trust := some (.ofPins pins), notices := s.notices ++ skipped pins })

/-- Capture the chain behind a URL and pin it. -/
def tryAcquire (s : PinStore) (now : Timestamp) (url : String) (net : Network) :
    Except Fault Unit × PinStore × Network :=
  match Capture.targetOf url with
  | .error fault => (.error fault, s, net)
  | .ok target =>
    let proxy := Proxy.resolve s.proxy s.environment target.host
    match Capture.chain target proxy net with
    | (.error fault, net) => (.error fault, s, net)
    | (.ok chain, net) =>
      let (result, s) := s.commit (s.pins.repin target.host now chain)
      (result, s, net)

/-- Capture the chain behind a URL and pin it; whether that was done.  Why not is kept as the last
error. -/
def acquire (s : PinStore) (now : Timestamp) (url : String) (net : Network) :
    Bool × PinStore × Network :=
  match s.tryAcquire now url net with
  | (.ok (), s, net) => (true, { s with lastError := none }, net)
  | (.error fault, s, net) =>
    (false, { s with
      lastError := some fault.message, notices := s.notices ++ [.notAcquired fault] }, net)

/-- The last error of a refresh that has no URL. -/
def noProviderUrl : String := "No identity provider URL configured"

/-- Capture the provider's chain again. -/
def refresh (s : PinStore) (now : Timestamp) (net : Network) : Bool × PinStore × Network :=
  match s.providerUrl with
  | none => (false, { s with lastError := some noProviderUrl }, net)
  | some url => s.acquire now url net

/-- The trust in what is pinned; it is put together once. -/
def pinnedTrust (s : PinStore) : Trust × PinStore :=
  match s.trust with
  | some trust => (trust, s)
  | none =>
    let trust := Trust.ofPins s.pins
    (trust, { s with trust := some trust, notices := s.notices ++ skipped s.pins })

/-- The trust for talking to the provider.  A store without pins first tries to capture the
provider's chain. -/
def providerTrust (s : PinStore) (now : Timestamp) (net : Network) : Trust × PinStore × Network :=
  if s.trust.isSome then
    let (trust, s) := s.pinnedTrust
    (trust, s, net)
  else
    let (s, net) :=
      match s.pins.isEmpty, s.providerUrl with
      | true, some url => (s.acquire now url net).2
      | _, _ => (s, net)
    let (trust, s) := s.pinnedTrust
    (trust, s, net)

end PinStore

end SignOn
