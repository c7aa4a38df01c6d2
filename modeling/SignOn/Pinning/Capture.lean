import SignOn.Certificate.Anchor
import SignOn.Network
import SignOn.Pinning.Proxy
import SignOn.Pinning.Tunnel
/-!
# Capturing a certificate chain

A chain is captured by one handshake that accepts whatever the server presents, directly or through
a proxy's tunnel.  Nothing is ever sent over such a connection.
-/

namespace SignOn.Capture

/-- A label of a domain name: letters, digits, underscores, and hyphens that do not stand at its
ends. -/
def isLabel (label : List Char) : Bool :=
  1 ≤ label.length && label.length ≤ 63 &&
    label.all (fun c => c.isAlphanum || c == '-' || c == '_') &&
    label.head? != some '-' && label.getLast? != some '-'

/-- A domain name that a server can be asked for: labels of which the last is no number.  A dot at
the end is allowed. -/
def isDomainName (host : String) : Bool :=
  let labels := Text.splitWhere (· == '.') host.toList
  let labels := if labels.getLast? = some [] then labels.dropLast else labels
  labels ≠ [] && host.length ≤ 253 && labels.all isLabel &&
    !(labels.getLastD []).all Char.isDigit

/-- A name that a server can be asked for: a domain name or an address. -/
def isServerName (host : String) : Bool :=
  isDomainName host || (Proxy.ipv4Octets? host.toList).isSome ||
    (Url.Host.ipv6? host.toList).isSome

/-- Reach a target: the connection is made to the proxy, if there is one, which is then asked for a
tunnel. -/
def reach (target : Endpoint) (proxy : Option Endpoint) (net : Network) :
    Except Fault Unit × Network :=
  match net.outage with
  | some cause => (.error (.transport (.connect (proxy.getD target) cause)), net)
  | none =>
    match proxy with
    | none => (.ok (), net)
    | some _ =>
      ((Tunnel.accept target (net.tunnel net.seen target)).map fun _ => (),
        { net with seen := net.seen ++ [.connect (Tunnel.request target)] })

/-- What a handshake with a target gives: its chain, of which the first certificate has to be
readable. -/
def chainOf (target : Endpoint) : Handshake → Except Fault (List Bytes)
  | .fails cause => .error (.transport (.handshake target cause))
  | .presents [] => .error (.transport (.noCertificates target))
  | .presents (leaf :: chain) =>
    match Certificate.checkCurrent leaf with
    | .ok () => .ok (leaf :: chain)
    | .error defect => .error (.transport (.handshake target defect.message))

/-- Capture the chain of a target. -/
def chain (target : Endpoint) (proxy : Option Endpoint) (net : Network) :
    Except Fault (List Bytes) × Network :=
  match reach target proxy net with
  | (.error fault, net) => (.error fault, net)
  | (.ok (), net) =>
    if isServerName target.host then (chainOf target (net.handshake net.seen target), net)
    else (.error (.transport (.invalidServerName target.host)), net)

/-- The target of a URL: its host without brackets and the port it writes, or 443. -/
def targetOf (text : String) : Except Fault Endpoint :=
  match Url.parse text with
  | .error cause => .error (.config (.invalidUrl text cause))
  | .ok url =>
    match url.hostText? with
    | none => .error (.config (.noHost text))
    | some host => .ok ⟨Text.dropStart '[' (Text.dropEnd ']' host), url.port.getD 443⟩

end SignOn.Capture
