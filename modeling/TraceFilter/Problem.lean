/-
Module: TraceFilter.Problem
Purpose: The errors that an API surface can return to its client as they are: a status, a detail,
  and whether the client may read it.
Main exports: ProblemClass, Problem, Problem.make, Violation.problem, reasonPhrase
-/
import TraceFilter.Value.Display

namespace TraceFilter

/-- The classes of problems, each a special case of the one before. -/
inductive ProblemClass where
  | general
  | userFacing
  | invalidArgument
deriving DecidableEq, Repr, Inhabited

namespace ProblemClass

/-- The public name of a class. -/
def name : ProblemClass → String
  | .general => "TraceQueryError"
  | .userFacing => "UserFacingError"
  | .invalidArgument => "InvalidArgumentError"

/-- The class of a public name. -/
def ofName? (name : String) : Option ProblemClass :=
  [general, userFacing, invalidArgument].find? (·.name == name)

/-- Whether clients may read the detail. -/
def isUserFacing : ProblemClass → Bool
  | .general => false
  | .userFacing => true
  | .invalidArgument => true

/-- The public names of what a problem of a class can be handled as, in alphabetical order. -/
def handledAs : ProblemClass → List String
  | .general => ["HTTPException", "TraceQueryError"]
  | .userFacing => ["HTTPException", "TraceQueryError", "UserFacingError"]
  | .invalidArgument =>
    ["HTTPException", "InvalidArgumentError", "TraceQueryError", "UserFacingError", "ValueError"]

/-- How a problem of a class is made. User-facing problems are made as general ones are. -/
def signature : ProblemClass → Signature
  | .invalidArgument =>
    { name := "InvalidArgumentError.__init__"
      positional := [.required "self", .required "message", .required "field",
        ⟨"value", some .null⟩]
      namedOnly := []
      takesOthers := false }
  | _ =>
    { name := "TraceQueryError.__init__"
      positional := [.required "self", .required "message", ⟨"status_code", some (.int 500)⟩]
      namedOnly := []
      takesOthers := false }

end ProblemClass

/-- The phrases of the registered response statuses. -/
def reasonPhrases : List (Int × String) := [
  (100, "Continue"), (101, "Switching Protocols"),
  (102, "Processing"), (103, "Early Hints"),
  (200, "OK"), (201, "Created"),
  (202, "Accepted"), (203, "Non-Authoritative Information"),
  (204, "No Content"), (205, "Reset Content"),
  (206, "Partial Content"), (207, "Multi-Status"),
  (208, "Already Reported"), (226, "IM Used"),
  (300, "Multiple Choices"), (301, "Moved Permanently"),
  (302, "Found"), (303, "See Other"),
  (304, "Not Modified"), (305, "Use Proxy"),
  (307, "Temporary Redirect"), (308, "Permanent Redirect"),
  (400, "Bad Request"), (401, "Unauthorized"),
  (402, "Payment Required"), (403, "Forbidden"),
  (404, "Not Found"), (405, "Method Not Allowed"),
  (406, "Not Acceptable"), (407, "Proxy Authentication Required"),
  (408, "Request Timeout"), (409, "Conflict"),
  (410, "Gone"), (411, "Length Required"),
  (412, "Precondition Failed"), (413, "Request Entity Too Large"),
  (414, "Request-URI Too Long"), (415, "Unsupported Media Type"),
  (416, "Requested Range Not Satisfiable"), (417, "Expectation Failed"),
  (418, "I'm a Teapot"), (421, "Misdirected Request"),
  (422, "Unprocessable Entity"), (423, "Locked"),
  (424, "Failed Dependency"), (425, "Too Early"),
  (426, "Upgrade Required"), (428, "Precondition Required"),
  (429, "Too Many Requests"), (431, "Request Header Fields Too Large"),
  (451, "Unavailable For Legal Reasons"), (500, "Internal Server Error"),
  (501, "Not Implemented"), (502, "Bad Gateway"),
  (503, "Service Unavailable"), (504, "Gateway Timeout"),
  (505, "HTTP Version Not Supported"), (506, "Variant Also Negotiates"),
  (507, "Insufficient Storage"), (508, "Loop Detected"),
  (510, "Not Extended"), (511, "Network Authentication Required")]

/-- The phrase of a status, empty for a status that is not registered. Only a value that can be a
key can be looked up. -/
def reasonPhrase (status : Value) : Except Fault String :=
  if status.isHashable then
    match reasonPhrases.find? fun pair => (Value.int pair.1).same status with
    | some (_, phrase) => .ok phrase
    | none => .ok ""
  else .error (.unhashable status.kind)

/-- A problem: its detail and status are passed on as they were given. A problem about an argument
also names the field and may carry the offending value. -/
structure Problem where
  kind : ProblemClass
  detail : Value
  status : Value
  field : Value
  value : Value
deriving Repr, Inhabited

namespace Problem

/-- The detail of a problem; without a message it is the phrase of the status. -/
def detailOr (message status : Value) : Except Fault Value :=
  if message.isNull then (reasonPhrase status).map .text else .ok message

/-- Makes a problem of a class from the arguments of a call. The made object itself is the first
positional argument. -/
def make (kind : ProblemClass) (arguments : List Value) (named : List (String × Value)) :
    Except Fault Problem := do
  let bound ← (kind.signature.bind (.null :: arguments) named).mapError Fault.badCall
  let (status, field, value) := match kind with
    | .invalidArgument => (.int 400, bound "field", bound "value")
    | _ => (bound "status_code", .null, .null)
  let detail ← detailOr (bound "message") status
  return { kind, detail, status, field, value }

/-- The text of a problem is that of its detail. -/
def plain (problem : Problem) : Except Fault String :=
  problem.detail.plain

/-- The text of a problem with its class and its status. -/
def display (problem : Problem) : Except Fault String := do
  return problem.kind.name ++ "(status_code=" ++ (← problem.status.display) ++ ", detail="
    ++ (← problem.detail.display) ++ ")"

end Problem

/-- A violation as a problem that its client may read. -/
def Violation.problem (violation : Violation) : Problem :=
  { kind := .invalidArgument
    detail := .text violation.message
    status := .int 400
    field := .text violation.field
    value := violation.value }

end TraceFilter
