import ReleasePreview.Http.Url

/-!
HTTP status codes, what a request comes to, a site that answers from a table, and how a site is
asked.
-/
namespace ReleasePreview.Http

/-- The standard reason phrases. -/
def reasons : List (Nat × String) :=
  [(100, "Continue"), (101, "Switching Protocols"), (102, "Processing"),
   (200, "OK"), (201, "Created"), (202, "Accepted"), (203, "Non Authoritative Information"),
   (204, "No Content"), (205, "Reset Content"), (206, "Partial Content"), (207, "Multi-Status"),
   (208, "Already Reported"), (226, "IM Used"),
   (300, "Multiple Choices"), (301, "Moved Permanently"), (302, "Found"), (303, "See Other"),
   (304, "Not Modified"), (305, "Use Proxy"), (307, "Temporary Redirect"),
   (308, "Permanent Redirect"),
   (400, "Bad Request"), (401, "Unauthorized"), (402, "Payment Required"), (403, "Forbidden"),
   (404, "Not Found"), (405, "Method Not Allowed"), (406, "Not Acceptable"),
   (407, "Proxy Authentication Required"), (408, "Request Timeout"), (409, "Conflict"),
   (410, "Gone"), (411, "Length Required"), (412, "Precondition Failed"),
   (413, "Payload Too Large"), (414, "URI Too Long"), (415, "Unsupported Media Type"),
   (416, "Range Not Satisfiable"), (417, "Expectation Failed"), (418, "I'm a teapot"),
   (421, "Misdirected Request"), (422, "Unprocessable Entity"), (423, "Locked"),
   (424, "Failed Dependency"), (425, "Too Early"), (426, "Upgrade Required"),
   (428, "Precondition Required"), (429, "Too Many Requests"),
   (431, "Request Header Fields Too Large"), (451, "Unavailable For Legal Reasons"),
   (500, "Internal Server Error"), (501, "Not Implemented"), (502, "Bad Gateway"),
   (503, "Service Unavailable"), (504, "Gateway Timeout"), (505, "HTTP Version Not Supported"),
   (506, "Variant Also Negotiates"), (507, "Insufficient Storage"), (508, "Loop Detected"),
   (510, "Not Extended"), (511, "Network Authentication Required")]

/-- A status with its reason phrase. -/
def statusText (status : Nat) : String :=
  toString status ++ " " ++ (reasons.lookup status).getD "<unknown status code>"

def isSuccess (status : Nat) : Bool := 200 ≤ status && status < 300

/-- Statuses that end an exchange. Other informational ones only announce another answer, and what
has not three digits is no status. -/
def isFinal (status : Nat) : Bool := status = 101 || (200 ≤ status && status < 1000)

/-- Statuses whose answers never have a body. -/
def isBodiless (status : Nat) : Bool := status < 200 || status = 204 || status = 304

inductive Reply where
  /-- No answer came, for a reason of the transport. -/
  | lost (why : String)
  /-- An answer with its body, or with the reason why the body broke off. -/
  | answer (status : Nat) (body : Except String String)

/-- How a URL is answered. -/
abbrev Site := String → Reply

/-- How the path of a site is answered. -/
inductive Route where
  | answer (status : Nat) (body : String)
  /-- The connection is closed before the body is complete. -/
  | cut (status : Nat)
  /-- The connection is closed at once. -/
  | drop
deriving Repr, DecidableEq

/-- What a transport failure is called. -/
def transport : String := "<transport>"

/-- What comes of a status with a body. -/
def reply (status : Nat) (body : Except String String) : Reply :=
  if !isFinal status then .lost transport
  else .answer status (if isBodiless status then .ok "" else body)

def Route.reply : Route → Reply
  | drop => .lost transport
  | answer status body => Http.reply status (.ok body)
  | cut status => Http.reply status (.error transport)

/-- A site with some routes. Every other path is not found. -/
def routed (routes : List (String × Route)) : Site := fun url =>
  match target? url with
  | none => .lost transport
  | some target => ((routes.lookup target).getD (.answer 404 "")).reply

/-- Requests one after the other, each in the light of the replies before it. -/
inductive Exchange (α : Type) where
  | done (a : α)
  /-- Asks for a URL and goes on with the reply. -/
  | get (url : String) (next : Reply → Exchange α)

namespace Exchange

variable {α β : Type}

def bind : Exchange α → (α → Exchange β) → Exchange β
  | done a, f => f a
  | get url next, f => get url fun reply => (next reply).bind f

instance : Monad Exchange where
  pure := done
  bind := bind

/-- What comes of an exchange with a site. -/
def run (site : Site) : Exchange α → α
  | done a => a
  | get url next => (next (site url)).run site

end Exchange

end ReleasePreview.Http
