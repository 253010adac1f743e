/-
Module: TraceFilter.Numeral.Ascii
Purpose: Integers as a window reads them from text: a bare numeral, or a text that becomes one when
  the marks around and between its digits are taken out.
Main exports: Numeral.readBare, Numeral.tidy, Numeral.readAscii
-/
import TraceFilter.Numeral.AnyScript

namespace TraceFilter.Numeral

open Text

/-! ### Bare numerals -/

/-- Splits off a minus sign. -/
def splitMinus : List Char → Sign × List Char
  | '-' :: rest => (.minus, rest)
  | text => (.plus, text)

/-- Reads a bare numeral: an optional minus sign and ASCII digits, of which the first is a zero only
if there is no other. The number of digits is judged before anything that may follow them. -/
def readBare (text : List Char) : Except Refusal Int :=
  let (sign, unsigned) := splitMinus text
  let digits := (unsigned.takeWhile isAsciiDigit).filterMap asciiDigitValue?
  match digits with
  | [] => .error .malformed
  | 0 :: _ :: _ => .error .malformed
  | _ =>
    if maxDigits < digits.length then .error (.tooManyDigits digits.length)
    else if (unsigned.dropWhile isAsciiDigit).isEmpty then .ok (sign.apply (ofDigits digits))
    else .error .malformed

/-! ### Tidying a text into a bare numeral -/

/-- Whether a character can be the first of a number that is not zero. -/
def isLeadingDigit (c : Char) : Bool :=
  isAsciiDigit c && c != '0'

/-- Drops the zeros and underscores in front of a number that starts with a zero; `last` is the
character before the text. The number may bring a minus sign of its own. Of zeros and underscores
alone the last character stays, and so does the one before a point. -/
def dropZerosAfter (last : Char) : List Char → Option (List Char)
  | [] => some [last]
  | c :: rest =>
    if c = '0' ∨ c = '_' then dropZerosAfter c rest
    else if isLeadingDigit c ∨ c = '-' then some (c :: rest)
    else if c = '.' then some (last :: c :: rest)
    else none

/-- Drops the zeros in front of a number, which has to start with a digit. -/
def dropZeros : List Char → Option (List Char)
  | [] => none
  | c :: rest =>
    if c = '0' then dropZerosAfter c rest
    else if isLeadingDigit c then some (c :: rest)
    else none

/-- Whether a text is a point with one zero or more. -/
def isZeroFraction : List Char → Bool
  | '.' :: zeros => !zeros.isEmpty && zeros.all (· == '0')
  | _ => false

/-- Drops a fraction of zeros. -/
def dropZeroFraction (text : List Char) : List Char :=
  if isZeroFraction (text.dropWhile (· != '.')) then text.takeWhile (· != '.') else text

/-- Whether a text has an underscore that does not stand between two other characters;
`afterUnderscore` says whether the character before the text is one, or there is none. -/
def hasStrayUnderscore (afterUnderscore : Bool) : List Char → Bool
  | [] => afterUnderscore
  | c :: rest =>
    if c = '_' then afterUnderscore || hasStrayUnderscore true rest
    else hasStrayUnderscore false rest

/-- Takes the underscores out of a text that has no stray one. -/
def dropUnderscores (text : List Char) : List Char :=
  if hasStrayUnderscore true text then text else text.filter (· != '_')

/-- Takes out what may stand around and between the digits of a number: white space, a plus sign,
zeros in front, a fraction of zeros and single underscores. -/
def tidy (text : List Char) : Option (List Char) :=
  let (sign, unsigned) := splitSign (trim isWhiteSpace text)
  (dropZeros unsigned).map fun number =>
    let digits := dropUnderscores (dropZeroFraction number)
    if sign = .minus then '-' :: digits else digits

/-- Reads an integer. Only a bare numeral can have too many digits; a text that has to be tidied
first is then malformed. -/
def readAscii (text : String) : Except Refusal Int :=
  match readBare text.toList with
  | .error .malformed =>
    match (tidy text.toList).map readBare with
    | some (.ok number) => .ok number
    | _ => .error .malformed
  | reading => reading

end TraceFilter.Numeral
