/-! # Status codes

The reason phrases that are registered for HTTP status codes, and the line that shows a failed
answer: the code, its phrase, and the first characters of the body.
-/

namespace FriendGraph.Http

/-- A status code. -/
abbrev Status := Nat

namespace Status

/-- The registered reason phrase of a code. -/
def phrase? : Status → Option String
  | 100 => some "Continue"
  | 101 => some "Switching Protocols"
  | 102 => some "Processing"
  | 103 => some "Early Hints"
  | 200 => some "OK"
  | 201 => some "Created"
  | 202 => some "Accepted"
  | 203 => some "Non Authoritative Information"
  | 204 => some "No Content"
  | 205 => some "Reset Content"
  | 206 => some "Partial Content"
  | 207 => some "Multi-Status"
  | 208 => some "Already Reported"
  | 226 => some "IM Used"
  | 300 => some "Multiple Choices"
  | 301 => some "Moved Permanently"
  | 302 => some "Found"
  | 303 => some "See Other"
  | 304 => some "Not Modified"
  | 305 => some "Use Proxy"
  | 307 => some "Temporary Redirect"
  | 308 => some "Permanent Redirect"
  | 400 => some "Bad Request"
  | 401 => some "Unauthorized"
  | 402 => some "Payment Required"
  | 403 => some "Forbidden"
  | 404 => some "Not Found"
  | 405 => some "Method Not Allowed"
  | 406 => some "Not Acceptable"
  | 407 => some "Proxy Authentication Required"
  | 408 => some "Request Timeout"
  | 409 => some "Conflict"
  | 410 => some "Gone"
  | 411 => some "Length Required"
  | 412 => some "Precondition Failed"
  | 413 => some "Payload Too Large"
  | 414 => some "URI Too Long"
  | 415 => some "Unsupported Media Type"
  | 416 => some "Range Not Satisfiable"
  | 417 => some "Expectation Failed"
  | 418 => some "I'm a teapot"
  | 421 => some "Misdirected Request"
  | 422 => some "Unprocessable Entity"
  | 423 => some "Locked"
  | 424 => some "Failed Dependency"
  | 425 => some "Too Early"
  | 426 => some "Upgrade Required"
  | 428 => some "Precondition Required"
  | 429 => some "Too Many Requests"
  | 431 => some "Request Header Fields Too Large"
  | 451 => some "Unavailable For Legal Reasons"
  | 500 => some "Internal Server Error"
  | 501 => some "Not Implemented"
  | 502 => some "Bad Gateway"
  | 503 => some "Service Unavailable"
  | 504 => some "Gateway Timeout"
  | 505 => some "HTTP Version Not Supported"
  | 506 => some "Variant Also Negotiates"
  | 507 => some "Insufficient Storage"
  | 508 => some "Loop Detected"
  | 510 => some "Not Extended"
  | 511 => some "Network Authentication Required"
  | _ => none

/-- The code with its phrase. -/
def text (status : Status) : String :=
  toString status ++ " " ++ (phrase? status).getD "<unknown status code>"

/-- Codes from 200 to 299. -/
def isSuccess (status : Status) : Bool := 200 ≤ status && status < 300

/-- Codes from 500 to 599. -/
def isServerError (status : Status) : Bool := 500 ≤ status && status < 600

/-- Codes of three digits, the only ones that can be sent. -/
def isSendable (status : Status) : Bool := 100 ≤ status && status < 1000

/-- Codes that only announce an answer: those from 100 to 199 except 101, which changes the
protocol. -/
def isInterim (status : Status) : Bool := 100 ≤ status && status < 200 && status != 101

/-- Codes that send the client on to the location that the answer names. -/
def isRedirect (status : Status) : Bool :=
  status == 301 || status == 302 || status == 303 || status == 307 || status == 308

/-- Codes that send the client on with the request that it made. -/
def keepsRequest (status : Status) : Bool := status == 307 || status == 308

/-- Whether an answer with this code has a body at all. -/
def hasBody (status : Status) : Bool := status != 101 && status != 204 && status != 304

end Status

/-- The first two hundred characters of a body. -/
def excerpt (body : String) : String := String.ofList (body.toList.take 200)

/-- The line that shows a failed answer. -/
def failureLine (status : Status) (shown : String) : String :=
  "HTTP " ++ status.text ++ " - " ++ shown

end FriendGraph.Http
