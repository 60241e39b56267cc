/-!
# Status codes of HTTP replies

A code says how a request went; the codes of the standard have a reason in words beside the number.

* `isSuccess_iff`: the successes are the codes from 200 to 299.
-/
namespace PeerRules.Node

/-- A status code. -/
structure Status where
  code : Nat
  deriving DecidableEq, Repr

namespace Status

def reasons : List (Nat × String) := [
  (100, "Continue"), (101, "Switching Protocols"), (102, "Processing"),
  (200, "OK"), (201, "Created"), (202, "Accepted"), (203, "Non Authoritative Information"),
  (204, "No Content"), (205, "Reset Content"), (206, "Partial Content"), (207, "Multi-Status"),
  (208, "Already Reported"), (226, "IM Used"),
  (300, "Multiple Choices"), (301, "Moved Permanently"), (302, "Found"), (303, "See Other"),
  (304, "Not Modified"), (305, "Use Proxy"), (307, "Temporary Redirect"),
  (308, "Permanent Redirect"),
  (400, "Bad Request"), (401, "Unauthorized"), (402, "Payment Required"), (403, "Forbidden"),
  (404, "Not Found"), (405, "Method Not Allowed"), (406, "Not Acceptable"),
  (407, "Proxy Authentication Required"), (408, "Request Timeout"), (409, "Conflict"),
  (410, "Gone"), (411, "Length Required"), (412, "Precondition Failed"),
  (413, "Payload Too Large"), (414, "URI Too Long"), (415, "Unsupported Media Type"),
  (416, "Range Not Satisfiable"), (417, "Expectation Failed"), (418, "I'm a teapot"),
  (421, "Misdirected Request"), (422, "Unprocessable Entity"), (423, "Locked"),
  (424, "Failed Dependency"), (425, "Too Early"), (426, "Upgrade Required"),
  (428, "Precondition Required"), (429, "Too Many Requests"),
  (431, "Request Header Fields Too Large"), (451, "Unavailable For Legal Reasons"),
  (500, "Internal Server Error"), (501, "Not Implemented"), (502, "Bad Gateway"),
  (503, "Service Unavailable"), (504, "Gateway Timeout"), (505, "HTTP Version Not Supported"),
  (506, "Variant Also Negotiates"), (507, "Insufficient Storage"), (508, "Loop Detected"),
  (510, "Not Extended"), (511, "Network Authentication Required")]

def reason? (s : Status) : Option String := (reasons.find? (·.1 = s.code)).map (·.2)

def text (s : Status) : String :=
  toString s.code ++ " " ++ s.reason?.getD "<unknown status code>"

def isSuccess (s : Status) : Bool := 200 ≤ s.code && s.code ≤ 299

/-- Whether a reply of this status ends a request. Codes have three digits, and those that begin
with a one only announce a reply, but for the one that leaves the protocol. -/
def isFinal (s : Status) : Bool := s.code = 101 || (200 ≤ s.code && s.code ≤ 999)

/-- Whether a reply of this status has no body, whatever was sent behind its head. -/
def hasNoBody (s : Status) : Bool := s.code = 101 || s.code = 204 || s.code = 304

theorem isSuccess_iff (s : Status) : s.isSuccess = true ↔ 200 ≤ s.code ∧ s.code < 300 := by
  simp only [isSuccess, Bool.and_eq_true, decide_eq_true_eq]
  omega

end Status

end PeerRules.Node
