/-
Module: TraceFilter.FieldReport
Purpose: What is wrong with the fields of a window or of the settings, collected over all fields.
Main exports: LimitRefusal, FieldFault, FieldReport
-/
import TraceFilter.Text.Quoted

namespace TraceFilter

/-- Why a value is refused as the default limit. -/
inductive LimitRefusal where
  | malformed (text : String)
  | tooManyDigits (count : Nat)
  | notANumber
  | belowOne
deriving DecidableEq, Repr, Inhabited

/-- What is said about a refused limit. A malformed text is shown quoted and cut off after two
hundred characters. -/
def LimitRefusal.message : LimitRefusal → String
  | .malformed text =>
    "invalid literal for int() with base 10: "
      ++ String.ofList ((Text.quotedChars text.toList).take 200)
  | .tooManyDigits count =>
    "Exceeds the limit (4300 digits) for integer string conversion: value has " ++ toString count
      ++ " digits; use sys.set_int_max_str_digits() to increase the limit"
  | .notANumber => "cannot convert float NaN to integer"
  | .belowOne => "default_limit must be >= 1"

/-- What can be wrong with one field. -/
inductive FieldFault where
  | missing
  | unexpected
  | frozen
  | notFinite
  | fractional
  | tooLarge
  | notNumeral
  | notInteger
  | unknownPolicy
  | limitRefused (refusal : LimitRefusal)
deriving DecidableEq, Repr, Inhabited

/-- The code of a field fault. -/
def FieldFault.code : FieldFault → String
  | .missing => "missing"
  | .unexpected => "extra_forbidden"
  | .frozen => "frozen_instance"
  | .notFinite => "finite_number"
  | .fractional => "int_from_float"
  | .tooLarge => "int_parsing_size"
  | .notNumeral => "int_parsing"
  | .notInteger => "int_type"
  | .unknownPolicy => "enum"
  | .limitRefused _ => "value_error"

/-- What is said about a field fault. -/
def FieldFault.message : FieldFault → String
  | .missing => "Field required"
  | .unexpected => "Extra inputs are not permitted"
  | .frozen => "Instance is frozen"
  | .notFinite => "Input should be a finite number"
  | .fractional => "Input should be a valid integer, got a number with a fractional part"
  | .tooLarge => "Unable to parse input string as an integer, exceeded maximum size"
  | .notNumeral => "Input should be a valid integer, unable to parse string as an integer"
  | .notInteger => "Input should be a valid integer"
  | .unknownPolicy => "Input should be 'legacy_micros' or 'millis'"
  | .limitRefused refusal => "Value error, " ++ refusal.message

/-- The faulty fields of one thing, named by `title`, in the order in which they are reported. -/
structure FieldReport where
  title : String
  faults : List (String × FieldFault)
deriving DecidableEq, Repr, Inhabited

/-- The fault of each field that is faulty and declared. -/
def FieldReport.faultOf {α : Type} (field : String) :
    Except FieldFault α → List (String × FieldFault)
  | .ok _ => []
  | .error fault => [(field, fault)]

/-- The faults of the given fields that are not declared, in the order in which they were given. -/
def FieldReport.unexpected {β : Type} (declared : List String) (given : List (String × β)) :
    List (String × FieldFault) :=
  (given.filter fun pair => !declared.contains pair.1).map fun pair => (pair.1, .unexpected)

end TraceFilter
