import SignOn.Fault
/-!
# The network

Everything outside answers through a `Network`: what becomes of a request may depend on all that
arrived before it, so every peer, also one that changes its mind, is a value of this type.  Each
operation that talks to a peer takes a network and returns the one after it, in which `seen` lists
what has arrived.
-/

namespace SignOn

/-- What arrives at a peer: a request, the wish for a tunnel that a request over TLS begins with, or
the text by which the program itself asks a proxy for one. -/
inductive Arrival
  | request (r : Http.Request)
  | tunnel (target : Endpoint)
  | connect (text : String)
  deriving DecidableEq, Repr

/-- How a TLS server answers: with a certificate chain, leaf first, or not at all. -/
inductive Handshake
  | presents (chain : List Bytes)
  | fails (cause : String)
  deriving DecidableEq, Repr

/-- All peers.  While there is an outage no connection is made, for the reason it gives.  `secure`
is the answer to a request over TLS. -/
structure Network where
  outage : Option String
  answer : List Arrival → Http.Request → Http.Answer
  secure : List Arrival → Http.Request → Http.Answer
  tunnel : List Arrival → Endpoint → Bytes
  handshake : List Arrival → Endpoint → Handshake
  seen : List Arrival

namespace Network

/-- Send a request.  An `https` URL asks for a tunnel first; the request arrives behind it if it is
answered at all. -/
def send (r : Http.Request) (net : Network) : Http.Answer × Network :=
  match net.outage with
  | some _ => (.silence false, net)
  | none =>
    if r.url.scheme = "https" then
      let target : Endpoint := ⟨r.url.hostText?.getD "", r.url.port.getD 443⟩
      match net.secure net.seen r with
      | .silence connected =>
        (.silence connected, { net with seen := net.seen ++ [.tunnel target] })
      | .reply reply =>
        (.reply reply, { net with seen := net.seen ++ [.tunnel target, .request r] })
    else (net.answer net.seen r, { net with seen := net.seen ++ [.request r] })

/-- Build a request and send it: a reply, or why there is none. -/
def fetch (request : Except Http.Failure Http.Request) (net : Network) :
    Except Http.Failure Http.Reply × Network :=
  match request with
  | .error failure => (.error failure, net)
  | .ok r =>
    let (answer, net) := net.send r
    match answer with
    | .reply reply => (.ok reply, net)
    | .silence connected => (.error (.unanswered r.url.write connected), net)

/-- What has arrived since an earlier standing of the network. -/
def since (before net : Network) : List Arrival :=
  net.seen.drop before.seen.length

end Network

end SignOn
