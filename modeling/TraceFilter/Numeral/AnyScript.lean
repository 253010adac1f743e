/-
Module: TraceFilter.Numeral.AnyScript
Purpose: Integers as a configuration writes them: white space around, a sign, and the decimal
  digits of any script with single underscores between them.
Main exports: Numeral.Refusal, Numeral.readAnyScript
-/
import TraceFilter.Numeral.Digits
import TraceFilter.Text.Blank
import TraceFilter.Text.DecimalDigit

namespace TraceFilter.Numeral

open Text

/-- Why a text is not read as an integer. -/
inductive Refusal where
  /-- The text does not have the form of an integer. -/
  | malformed
  /-- The digits are more than `maxDigits`. -/
  | tooManyDigits (count : Nat)
deriving DecidableEq, Repr, Inhabited

/-- A character of the body of a numeral: a digit of any script or an underscore. -/
def isBodyChar (c : Char) : Bool :=
  (digitValue? c).isSome || c == '_'

/-- Reads an integer. The number of digits is judged as soon as the body is read, so too many of
them win over anything that may follow the body. -/
def readAnyScript (text : String) : Except Refusal Int :=
  let (sign, unsigned) := splitSign (text.toList.dropWhile isWhiteSpace)
  match digits? digitValue? (unsigned.takeWhile isBodyChar) with
  | none => .error .malformed
  | some digits =>
    if maxDigits < digits.length then .error (.tooManyDigits digits.length)
    else if (unsigned.dropWhile isBodyChar).all isWhiteSpace then .ok (sign.apply (ofDigits digits))
    else .error .malformed

end TraceFilter.Numeral
