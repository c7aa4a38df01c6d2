import SignOn.Url.Parser
/-!
# HTTP requests

What is sent to a peer, what comes back, and the three ways in which a request gives no result:
it cannot be built, nobody answers, or the body is not what was asked for.
-/

namespace SignOn.Http

/-- The methods in use. -/
inductive Method
  | get
  | post
  deriving DecidableEq, Repr

/-- The name of a method. -/
def Method.name : Method → String
  | get => "GET"
  | post => "POST"

/-- The body of a request. -/
structure Body where
  contentType : String
  text : String
  deriving DecidableEq, Repr

/-- A form as a body. -/
def Body.form (pairs : List (String × String)) : Body :=
  ⟨"application/x-www-form-urlencoded", Form.encode pairs⟩

/-- A request that can be sent. -/
structure Request where
  method : Method
  url : Url
  body : Option Body
  deriving DecidableEq, Repr

/-- The name under which the program introduces itself. -/
def userAgent : String :=
  "controlroom-auth/0.4.0"

/-- An answer: its status, the bytes of its body, whether all announced bytes arrived, and whether
the peer keeps it back for a while. -/
structure Reply where
  status : Nat
  body : Bytes
  complete : Bool
  held : Bool
  deriving DecidableEq, Repr

/-- What becomes of a request. -/
inductive Answer
  | reply (r : Reply)
  | silence (connected : Bool)
  deriving DecidableEq, Repr

/-- Why a request gave no result. -/
inductive Failure
  | unbuildable (url : Option String)
  | unanswered (url : String) (connected : Bool)
  | unreadable (url : String)
  | refused (url : String) (status : Nat)
  deriving DecidableEq, Repr

/-- The registered words for a status. -/
def reasons : List (Nat × String) :=
  [(100, "Continue"), (101, "Switching Protocols"), (102, "Processing"), (103, "Early Hints"),
   (200, "OK"), (201, "Created"), (202, "Accepted"), (203, "Non Authoritative Information"),
   (204, "No Content"), (205, "Reset Content"), (206, "Partial Content"), (207, "Multi-Status"),
   (208, "Already Reported"), (226, "IM Used"), (300, "Multiple Choices"),
   (301, "Moved Permanently"), (302, "Found"), (303, "See Other"), (304, "Not Modified"),
   (305, "Use Proxy"), (307, "Temporary Redirect"), (308, "Permanent Redirect"),
   (400, "Bad Request"), (401, "Unauthorized"), (402, "Payment Required"), (403, "Forbidden"),
   (404, "Not Found"), (405, "Method Not Allowed"), (406, "Not Acceptable"),
   (407, "Proxy Authentication Required"), (408, "Request Timeout"), (409, "Conflict"),
   (410, "Gone"), (411, "Length Required"), (412, "Precondition Failed"),
   (413, "Payload Too Large"), (414, "URI Too Long"), (415, "Unsupported Media Type"),
   (416, "Range Not Satisfiable"), (417, "Expectation Failed"), (418, "I'm a teapot"),
   (421, "Misdirected Request"), (422, "Unprocessable Entity"), (423, "Locked"),
   (424, "Failed Dependency"), (425, "Too Early"), (426, "Upgrade Required"),
   (428, "Precondition Required"), (429, "Too Many Requests"),
   (431, "Request Header Fields Too Large"), (451, "Unavailable For Legal Reasons"),
   (500, "Internal Server Error"), (501, "Not Implemented"), (502, "Bad Gateway"),
   (503, "Service Unavailable"), (504, "Gateway Timeout"), (505, "HTTP Version Not Supported"),
   (506, "Variant Also Negotiates"), (507, "Insufficient Storage"), (508, "Loop Detected"),
   (510, "Not Extended"), (511, "Network Authentication Required")]

/-- A status with its words. -/
def statusText (status : Nat) : String :=
  toString status ++ " " ++ ((reasons.lookup status).getD "<unknown status code>")

/-- The statuses of success. -/
def isSuccess (status : Nat) : Bool :=
  200 ≤ status && status < 300

/-- The statuses that point elsewhere. -/
def isRedirection (status : Nat) : Bool :=
  300 ≤ status && status < 400

/-- The text of a failure. -/
def Failure.message : Failure → String
  | .unbuildable none => "builder error"
  | .unbuildable (some url) => "builder error for url (" ++ url ++ ")"
  | .unanswered url _ => "error sending request for url (" ++ url ++ ")"
  | .unreadable url => "error decoding response body for url (" ++ url ++ ")"
  | .refused url status =>
    "HTTP status " ++ (if status < 500 then "client" else "server") ++ " error (" ++
      statusText status ++ ") for url (" ++ url ++ ")"

/-- A character that the authority of a request may hold. -/
def isAuthorityChar (c : Char) : Bool :=
  c.isAlphanum || "!$&'()*+,-.:;=@[]_~".toList.contains c

/-- Build a request for a URL: it needs a host, and the scheme `http` or `https`.  User name and
password are taken out of the URL. -/
def build (method : Method) (body : Option Body) (url : Url) : Except Failure Request :=
  let url := url.withoutUserinfo
  if url.host.isSome ∧ (url.scheme = "http" ∨ url.scheme = "https") ∧
      url.writeHostPort.toList.all isAuthorityChar then
    .ok ⟨method, url, body⟩
  else .error (.unbuildable (some url.write))

/-- Build a request for the text of a URL. -/
def buildText (method : Method) (body : Option Body) (text : String) : Except Failure Request :=
  match Url.parse text with
  | .ok url => build method body url
  | .error _ => .error (.unbuildable none)

end SignOn.Http
