import TrafficDigest.Json

/-!
# Exchanges over HTTP

Requests, the replies to them, and a session in which they are exchanged.  A session knows the
replies that are still to come, keeps a log of what was sent, and has a clock that moves only while
someone waits.  So what a client does in a session is a function of the replies.
-/

namespace TrafficDigest.Http

/-! ## Requests -/

/-- What is to be done with a resource. -/
inductive Method where
  | get
  | post
  deriving DecidableEq, Repr

/-- The written form of a method. -/
def Method.name : Method → String
  | get => "GET"
  | post => "POST"

/-- Names with values, in order. -/
abbrev Pairs := List (String × String)

/-- A request, without its credentials. -/
structure Request where
  method : Method
  url : String
  query : Pairs := []
  headers : Pairs := []
  body : Option Json := none
  deriving Repr

/-- Who sends a request. -/
structure Credentials where
  user : String
  key : String
  deriving DecidableEq, Repr

/-! ## Replies -/

/-- A reply that arrived in full. -/
structure Response where
  status : Nat
  headers : Pairs
  body : String
  deriving DecidableEq, Repr

/-- What comes of a request. -/
inductive Reply where
  /-- The request could not be sent. -/
  | unsent (text : String)
  /-- The body of the reply could not be read. -/
  | unreadable (text : String)
  | response (r : Response)
  deriving DecidableEq, Repr

/-- The standard names of statuses. -/
def statusNames : List (Nat × String) := [
  (100, "Continue"), (101, "Switching Protocols"), (102, "Processing"), (103, "Early Hints"),
  (200, "OK"), (201, "Created"), (202, "Accepted"), (203, "Non Authoritative Information"),
  (204, "No Content"), (205, "Reset Content"), (206, "Partial Content"), (207, "Multi-Status"),
  (208, "Already Reported"), (226, "IM Used"), (300, "Multiple Choices"),
  (301, "Moved Permanently"), (302, "Found"), (303, "See Other"), (304, "Not Modified"),
  (305, "Use Proxy"), (307, "Temporary Redirect"), (308, "Permanent Redirect"),
  (400, "Bad Request"), (401, "Unauthorized"), (402, "Payment Required"), (403, "Forbidden"),
  (404, "Not Found"), (405, "Method Not Allowed"), (406, "Not Acceptable"),
  (407, "Proxy Authentication Required"), (408, "Request Timeout"), (409, "Conflict"),
  (410, "Gone"), (411, "Length Required"), (412, "Precondition Failed"),
  (413, "Payload Too Large"), (414, "URI Too Long"), (415, "Unsupported Media Type"),
  (416, "Range Not Satisfiable"), (417, "Expectation Failed"), (418, "I'm a teapot"),
  (421, "Misdirected Request"), (422, "Unprocessable Entity"), (423, "Locked"),
  (424, "Failed Dependency"), (425, "Too Early"), (426, "Upgrade Required"),
  (428, "Precondition Required"), (429, "Too Many Requests"),
  (431, "Request Header Fields Too Large"), (451, "Unavailable For Legal Reasons"),
  (500, "Internal Server Error"), (501, "Not Implemented"), (502, "Bad Gateway"),
  (503, "Service Unavailable"), (504, "Gateway Timeout"), (505, "HTTP Version Not Supported"),
  (506, "Variant Also Negotiates"), (507, "Insufficient Storage"), (508, "Loop Detected"),
  (510, "Not Extended"), (511, "Network Authentication Required")]

/-- The number of a status with its standard name. -/
def statusText (status : Nat) : String :=
  toString status ++ " " ++ (statusNames.lookup status).getD "<unknown status code>"

/-- The statuses that report success. -/
def isSuccess (status : Nat) : Bool := 200 ≤ status && status < 300

/-- A character that the text of a header may have. -/
def isHeaderChar (c : Char) : Bool := c == '\t' || (' ' ≤ c && c ≤ '~')

namespace Response

/-- The first value of a header, under its name in any case. -/
def header? (r : Response) (name : String) : Option String :=
  (r.headers.find? fun h => h.1.toLower == name.toLower).map (·.2)

/-- The same, if it can be read as text. -/
def headerText? (r : Response) (name : String) : Option String :=
  (r.header? name).filter fun value => value.toList.all isHeaderChar

end Response

/-! ## Sessions -/

/-- A request as it was sent. -/
structure Sent where
  request : Request
  credentials : Credentials
  /-- Certificates were not verified. -/
  insecure : Bool
  /-- The seconds on the clock. -/
  time : Nat
  deriving Repr

/-- An exchange of requests and replies. -/
structure Session where
  /-- The replies to come, the next one first. -/
  replies : List Reply
  /-- What was sent, in order. -/
  log : Array Sent := #[]
  /-- Seconds since the start. -/
  clock : Nat := 0

namespace Session

/-- The reply when none is left. -/
def exhausted : Reply := .unsent "no scripted reply left"

/-- **Sends a request** and takes the next reply. -/
def send (request : Request) (credentials : Credentials) (insecure : Bool) :
    StateM Session Reply := fun s =>
  let log := s.log.push ⟨request, credentials, insecure, s.clock⟩
  match s.replies with
  | [] => (exhausted, { s with log })
  | reply :: replies => (reply, { s with log, replies })

/-- Waits for some seconds. -/
def wait (seconds : Nat) : StateM Session Unit :=
  modify fun s => { s with clock := s.clock + seconds }

end Session

end TrafficDigest.Http
