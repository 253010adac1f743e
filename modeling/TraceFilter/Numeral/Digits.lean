/-
Module: TraceFilter.Numeral.Digits
Purpose: What the two written forms of an integer share: the sign, digits grouped by single
  underscores, the number that the digits stand for, and how many digits there may be.
Main exports: Numeral.Sign, Numeral.splitSign, Numeral.digits?, Numeral.ofDigits, Numeral.maxDigits,
  Numeral.isWritable, Numeral.isWritable_iff
-/
import TraceFilter.Power

namespace TraceFilter.Numeral

/-- The most digits that a written integer may have. -/
def maxDigits : Nat := 4300

/-- Whether an integer can be written with `maxDigits` digits or fewer. -/
@[irreducible]
def isWritable (number : Int) : Bool :=
  number.natAbs < powerOfTen maxDigits

theorem isWritable_iff {number : Int} :
    isWritable number = true ↔ number.natAbs < powerOfTen maxDigits := by
  unfold isWritable
  exact decide_eq_true_iff

theorem isWritable_zero : isWritable 0 = true :=
  isWritable_iff.2 (powerOfTen_pos maxDigits)

/-- The sign in front of a numeral; an absent one is a plus. -/
inductive Sign where
  | plus
  | minus
deriving DecidableEq, Repr, Inhabited

/-- Gives a magnitude its sign. -/
def Sign.apply : Sign → Nat → Int
  | .plus, magnitude => magnitude
  | .minus, magnitude => -(magnitude : Int)

/-- Splits off one leading sign. -/
def splitSign : List Char → Sign × List Char
  | '+' :: rest => (.plus, rest)
  | '-' :: rest => (.minus, rest)
  | text => (.plus, text)

/-- Reads a text made of digits with single underscores between them, as the values of the digits
in order. `afterDigit` says whether a digit stands right before the text; without one the text
must start with a digit, and it never ends on an underscore. -/
def digitsFrom? (digit? : Char → Option Nat) : Bool → List Char → Option (List Nat)
  | afterDigit, [] => if afterDigit then some [] else none
  | afterDigit, c :: rest =>
    match digit? c with
    | some value => (digitsFrom? digit? true rest).map (value :: ·)
    | none => if c = '_' ∧ afterDigit then digitsFrom? digit? false rest else none

/-- Reads one or more digits with single underscores between them. -/
def digits? (digit? : Char → Option Nat) (text : List Char) : Option (List Nat) :=
  digitsFrom? digit? false text

/-- The number written by decimal digits, the most significant first. -/
def ofDigits (digits : List Nat) : Nat :=
  digits.foldl (fun number digit => 10 * number + digit) 0

end TraceFilter.Numeral
