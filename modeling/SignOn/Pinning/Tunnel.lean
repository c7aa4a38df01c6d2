import SignOn.Fault
/-!
# Opening a tunnel

The client asks the proxy with one request and reads the head of its response byte by byte, so
that no byte behind the head is taken from the stream.
-/

namespace SignOn.Tunnel

/-- The longest head that is read. -/
def headLimit : Nat := 8192

/-- The request for a tunnel. -/
def request (target : Endpoint) : String :=
  "CONNECT " ++ target.text ++ " HTTP/1.1\r\nHost: " ++ target.text ++ "\r\n\r\n"

/-- The end of a head, last byte first. -/
def endMark : Bytes := [10, 13, 10, 13]

/-- What reading a head finds: the head and the bytes left unread, or why there is none. -/
inductive Head
  | complete (head rest : Bytes)
  | tooLarge (rest : Bytes)
  | closed

/-- Read a head; `taken` are the bytes read so far, last one first, and `room` how many more may
be read. -/
def readHead : Nat → Bytes → Bytes → Head
  | 0, taken, stream =>
    if endMark.isPrefixOf taken then .complete taken.reverse stream else .tooLarge stream
  | room + 1, taken, stream =>
    if endMark.isPrefixOf taken then .complete taken.reverse stream
    else
      match stream with
      | [] => .closed
      | b :: rest => readHead room (b :: taken) rest

/-- The first line of a head, without its line break. -/
def firstLine (head : List Char) : List Char :=
  let line := head.takeWhile (· ≠ '\n')
  if line.getLast? = some '\r' then line.dropLast else line

/-- Whether a status line grants the tunnel: its second word is 200. -/
def isGranted (line : List Char) : Bool :=
  (Text.words line)[1]? == some ['2', '0', '0']

/-- Read the proxy's answer from the stream: the bytes behind its head when it grants the tunnel. -/
def accept (target : Endpoint) (stream : Bytes) : Except Fault Bytes :=
  match readHead headLimit [] stream with
  | .tooLarge _ => .error (.transport .headTooLarge)
  | .closed => .error (.transport (.proxyClosed "unexpected end of file"))
  | .complete head rest =>
    let line := firstLine (Utf8.decodeLossy head).toList
    if isGranted line then .ok rest
    else .error (.transport (.proxyRefused target (String.ofList line)))

end SignOn.Tunnel
