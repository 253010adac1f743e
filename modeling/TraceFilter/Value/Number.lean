/-
Module: TraceFilter.Value.Number
Purpose: The values that are numbers, and what is computed with them.
Main exports: Number, Value.number?, Number.minus, Number.times
-/
import TraceFilter.Binary64.Difference
import TraceFilter.Fault

namespace TraceFilter

/-- A value as a number. The truth values count as zero and one. -/
inductive Number where
  | whole (number : Int)
  | double (number : Binary64)
deriving DecidableEq, Repr, Inhabited

/-- The number that a value is. -/
def Value.number? : Value → Option Number
  | .bool truth => some (.whole truth.toInt)
  | .int number => some (.whole number)
  | .float number _ => some (.double number)
  | _ => none

namespace Number

/-- A number as a value. The identity of a double that was computed is never asked for. -/
def value : Number → Value
  | .whole number => .int number
  | .double number => .float number 0

/-- A number as a double; an integer beyond the finite doubles has none. -/
def toDouble : Number → Except Fault Binary64
  | .whole number =>
    match Binary64.ofInt? number with
    | some nearest => .ok nearest
    | none => .error .beyondDoubles
  | .double number => .ok number

/-- The difference of two numbers: that of integers is exact, any other is one of doubles. -/
def minus : Number → Number → Except Fault Number
  | .whole left, .whole right => .ok (.whole (left - right))
  | left, right => do return .double ((← left.toDouble).minus (← right.toDouble))

/-- A number times a positive whole number. -/
def times (number : Number) (factor : Nat) : Number :=
  match number with
  | .whole number => .whole (number * factor)
  | .double number => .double (number.scaleBy factor)

end Number

end TraceFilter
