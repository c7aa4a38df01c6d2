import SignOn.Network
/-!
# Scripted peers

A script fixes every answer of the network: for each URL, its query left out, a list of responses
of which one is used for each request and the last one again and again, and for each tunnel target
the proxy's reply and the chain behind it.  A URL that the script does not name is not found.
-/

namespace SignOn

/-- One response of a script.  A dropped one closes the connection without an answer. -/
structure Script.Response where
  reply : Http.Reply
  dropped : Bool

/-- What a script says about a tunnel target. -/
structure Script.Tunnel where
  reply : Bytes
  chain : Option (List Bytes)

/-- A script.  The responses of a URL count from the number of arrivals at which they were set. -/
structure Script where
  responses : List (String × Nat × List Script.Response)
  tunnels : List (String × Script.Tunnel)

namespace Script

/-- The name under which a script knows a request. -/
def key (r : Http.Request) : String :=
  r.url.withoutQuery.withoutFragment.write

/-- How many of the arrivals are requests known under `name`. -/
def arrivals (name : String) (seen : List Arrival) : Nat :=
  seen.countP fun
    | .request r => key r == name
    | .tunnel _ | .connect _ => false

/-- The response in a place of a list; past its end the last one. -/
def pick : Nat → List Response → Option Response
  | _, [] => none
  | _, [r] => some r
  | 0, r :: _ => some r
  | n + 1, _ :: rest => pick n rest

/-- The answer of a script. -/
def answer (s : Script) (seen : List Arrival) (r : Http.Request) : Http.Answer :=
  match s.responses.lookup (key r) with
  | none => .reply ⟨404, [], true, false⟩
  | some (start, list) =>
    match pick (arrivals (key r) (seen.drop start)) list with
    | none => .reply ⟨404, [], true, false⟩
    | some response => if response.dropped then .silence true else .reply response.reply

/-- The answer over TLS: none, since a script speaks no HTTP behind a handshake. -/
def secure (_ : Script) (_ : List Arrival) (_ : Http.Request) : Http.Answer :=
  .silence false

/-- The reply of a proxy to the wish for a tunnel. -/
def tunnelReply (s : Script) (_ : List Arrival) (target : Endpoint) : Bytes :=
  match s.tunnels.lookup target.text with
  | some t => t.reply
  | none => Utf8.encode "HTTP/1.1 403 Forbidden\r\n\r\n"

/-- The server behind a tunnel. -/
def handshake (s : Script) (_ : List Arrival) (target : Endpoint) : Handshake :=
  match s.tunnels.lookup target.text with
  | some ⟨_, some []⟩ => .fails "peer sent no certificates"
  | some ⟨_, some chain⟩ => .presents chain
  | _ => .fails "tls handshake eof"

/-- Put responses in the place of those for the same URL; they count from `now` on. -/
def setResponses (now : Nat) (url : String) (list : List Response) (s : Script) : Script :=
  { s with responses := (url, now, list) :: s.responses }

/-- Put a tunnel in the place of that for the same target. -/
def setTunnel (target : String) (t : Tunnel) (s : Script) : Script :=
  { s with tunnels := (target, t) :: s.tunnels }

/-- A network that answers by a script. -/
def network (outage : Option String) (s : Script) (seen : List Arrival) : Network :=
  { outage, answer := s.answer, secure := s.secure, tunnel := s.tunnelReply,
    handshake := s.handshake, seen }

end Script

end SignOn
