/-
Module: TraceFilter.Window.Basic
Purpose: The bounds of a search on stored spans, in microseconds.
Main exports: Window, Window.readBound, Window.ofFields, Window.ofRequest, Window.contains,
  Window.accepts, Window.plain
-/
import TraceFilter.Numeral.Ascii
import TraceFilter.Power
import TraceFilter.Request.Basic
import TraceFilter.Value.Display

namespace TraceFilter

/-- Bounds on the start and on the duration of spans, all included and all in microseconds. -/
structure Window where
  startTs : Int
  endTs : Int
  minDuration : Option Int
  maxDuration : Option Int
deriving DecidableEq, Repr, Inhabited

namespace Window

/-- How many microseconds make a millisecond. -/
def microsPerMilli : Int := 1000

/-- The name of windows in reports. -/
def title : String := "QueryWindow"

/-- The names of the fields. -/
def fieldNames : List String := ["start_ts", "end_ts", "min_duration", "max_duration"]

/-! ### Reading bounds -/

/-- Whether an integer lies strictly within what 64 bits with a sign can hold. -/
def isWithinWord (number : Int) : Bool :=
  -wordLimit < number && number < wordLimit

/-- Reads a double as a bound: it has to be finite, whole and within 64 bits. -/
def readDouble (number : Binary64) : Except FieldFault Int :=
  match number.quantity with
  | .exactly units =>
    let whole := Binary64.truncateUnits units
    if !number.isWhole then .error .fractional
    else if isWithinWord whole then .ok whole
    else .error .tooLarge
  | _ => .error .notFinite

/-- Reads a bound. -/
def readBound : Value → Except FieldFault Int
  | .int number => .ok number
  | .bool truth => .ok truth.toInt
  | .float number _ => readDouble number
  | .text characters =>
    (Numeral.readAscii characters).mapError fun
      | .malformed => .notNumeral
      | .tooManyDigits _ => .tooLarge
  | _ => .error .notInteger

/-- Reads a bound that may be left open. -/
def readOptionalBound : Value → Except FieldFault (Option Int)
  | .null => .ok none
  | value => (readBound value).map some

/-- The required bound of a name among given fields. -/
def boundOf (given : List (String × Value)) (name : String) : Except FieldFault Int :=
  match given.lookup name with
  | some value => readBound value
  | none => .error .missing

/-- The open bound of a name among given fields. -/
def optionalBoundOf (given : List (String × Value)) (name : String) :
    Except FieldFault (Option Int) :=
  match given.lookup name with
  | some value => readOptionalBound value
  | none => .ok none

/-- Makes a window from given fields. The faults of all fields are reported together. -/
def ofFields (given : List (String × Value)) : Except Fault Window :=
  let startTs := boundOf given "start_ts"
  let endTs := boundOf given "end_ts"
  let minDuration := optionalBoundOf given "min_duration"
  let maxDuration := optionalBoundOf given "max_duration"
  let unexpected := FieldReport.unexpected fieldNames given
  match startTs, endTs, minDuration, maxDuration, unexpected with
  | .ok startTs, .ok endTs, .ok minDuration, .ok maxDuration, [] =>
    .ok { startTs, endTs, minDuration, maxDuration }
  | _, _, _, _, _ =>
    .error (.invalidFields
      { title
        faults := FieldReport.faultOf "start_ts" startTs ++ FieldReport.faultOf "end_ts" endTs
          ++ FieldReport.faultOf "min_duration" minDuration
          ++ FieldReport.faultOf "max_duration" maxDuration ++ unexpected })

/-- The window of a request: its time range in microseconds, with its bounds on durations. -/
def ofRequest (request : Request) : Except Fault Window :=
  ofFields [
    ("start_ts", .int ((request.endTs - request.lookback) * microsPerMilli)),
    ("end_ts", .int (request.endTs * microsPerMilli)),
    ("min_duration", request.minDuration),
    ("max_duration", request.maxDuration)]

/-! ### Asking a window -/

/-- Whether a value lies in the time range. -/
def contains (window : Window) (timestamp : Value) : Except Incomparable Bool := do
  if ← (Value.int window.startTs).compare .atMost timestamp then
    timestamp.compare .atMost (.int window.endTs)
  else return false

/-- Whether a value stands in a relation to a bound that may be open. -/
def breaks (duration : Value) (relation : Relation) : Option Int → Except Incomparable Bool
  | none => .ok false
  | some bound => duration.compare relation (.int bound)

/-- Whether a value is a duration that the window accepts. -/
def accepts (window : Window) (duration : Value) : Except Incomparable Bool := do
  if ← breaks duration .below window.minDuration then return false
  else return !(← breaks duration .above window.maxDuration)

/-! ### Texts -/

/-- The bounds of a window by name. -/
def fields (window : Window) : List (String × Value) := [
  ("start_ts", .int window.startTs),
  ("end_ts", .int window.endTs),
  ("min_duration", .ofInt? window.minDuration),
  ("max_duration", .ofInt? window.maxDuration)]

/-- The text of a window in a message. -/
def plain (window : Window) : Except Fault String := do
  return joinFields " " (← plainFields window.fields)

/-- The text of a window with its name. -/
def display (window : Window) : Except Fault String := do
  return title ++ "(" ++ joinFields ", " (← plainFields window.fields) ++ ")"

end Window

end TraceFilter
