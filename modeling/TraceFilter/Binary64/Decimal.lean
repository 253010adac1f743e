/-
Module: TraceFilter.Binary64.Decimal
Purpose: Reading a double from decimal text, rounded once from the exact value that the text
  denotes.
Main exports: Binary64.ofDecimal, Binary64.read?
-/
import TraceFilter.Binary64.Basic
import TraceFilter.Numeral.AnyScript

namespace TraceFilter.Binary64

open Text

/-- The double nearest to `digits * 10 ^ exponent`. A number whose leading digit stands outside
the range of doubles is settled without computing the power. -/
def ofDecimal (negative : Bool) (digits : List Nat) (exponent : Int) : Binary64 :=
  let significant := digits.dropWhile (· == 0)
  let magnitude : Int := significant.length + exponent
  let number := Numeral.ofDigits significant
  if significant.isEmpty then zero negative
  else if magnitude < -330 then zero negative
  else if 310 < magnitude then infinity negative
  else ofUnitsRatio negative (number * unitsPerOne * powerOfTen exponent.toNat)
    (powerOfTen (-exponent).toNat)

/-- The digits of an optional part of a numeral. -/
def optionalDigits? (text : List Char) : Option (List Nat) :=
  if text.isEmpty then some [] else Numeral.digits? digitValue? text

/-- Reads the part after the exponent mark: a sign and digits. -/
def exponent? (text : List Char) : Option Int :=
  let (sign, unsigned) := Numeral.splitSign text
  (Numeral.digits? digitValue? unsigned).map fun digits => sign.apply (Numeral.ofDigits digits)

/-- Whether a character marks the exponent of a numeral. -/
def isExponentMark (c : Char) : Bool :=
  c == 'e' || c == 'E'

/-- Reads digits with a point and an exponent, each of them optional but not all digits
missing. -/
def finite? (negative : Bool) (text : List Char) : Option Binary64 := do
  let mantissa := text.takeWhile (!isExponentMark ·)
  let whole ← optionalDigits? (mantissa.takeWhile (· != '.'))
  let fraction ← optionalDigits? ((mantissa.dropWhile (· != '.')).drop 1)
  let exponent ← match text.dropWhile (!isExponentMark ·) with
    | [] => some 0
    | _ :: rest => exponent? rest
  if whole.isEmpty && fraction.isEmpty then none
  else some (ofDecimal negative (whole ++ fraction) (exponent - fraction.length))

/-- Reads a double: a decimal numeral, or the name of an infinity or of the value that is not a
number in any letter case. -/
def read? (text : String) : Option Binary64 :=
  let (sign, unsigned) := Numeral.splitSign (trim isWhiteSpace text.toList)
  let negative := sign == .minus
  match String.ofList (unsigned.map Char.toLower) with
  | "nan" => some notANumber
  | "inf" => some (infinity negative)
  | "infinity" => some (infinity negative)
  | _ => finite? negative unsigned

end TraceFilter.Binary64
