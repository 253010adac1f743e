/-
Module: TraceFilter.Binary64.Shortest
Purpose: The text of a double: the fewest decimal digits that read back as the same number, and
  of those the nearest to it.
Main exports: Binary64.RoundingInterval, Binary64.shortest, Binary64.text
-/
import TraceFilter.Binary64.Basic

namespace TraceFilter.Binary64

/-- The reals that round to one double, counted in quarters of the least positive double. The
ends belong to the interval when the significand is even. -/
structure RoundingInterval where
  low : Nat
  centre : Nat
  high : Nat
  closed : Bool
deriving DecidableEq, Repr, Inhabited

/-- How many quarters of the least positive double make one. -/
def quartersPerOne : Nat := 4 * unitsPerOne

/-- The interval around a finite number without its sign. The step below a power of two is half
the step above it. -/
def roundingInterval (x : Binary64) : RoundingInterval :=
  let below := if x.fraction.val = 0 ∧ 1 < x.exponent.val then 1 else 2
  { low := (4 * x.significand - below) * powerOfTwo x.scale
    centre := 4 * x.significand * powerOfTwo x.scale
    high := (4 * x.significand + 2) * powerOfTwo x.scale
    closed := x.significand % 2 == 0 }

/-- Whether the ratio `numerator / denominator` of quarters lies in an interval. -/
def RoundingInterval.holds (interval : RoundingInterval) (numerator denominator : Nat) : Bool :=
  if interval.closed then
    interval.low * denominator ≤ numerator && numerator ≤ interval.high * denominator
  else interval.low * denominator < numerator && numerator < interval.high * denominator

/-- A decimal number `digits * 10 ^ exponent`. -/
structure Scientific where
  digits : Nat
  exponent : Int
deriving DecidableEq, Repr, Inhabited

/-- The multiple of `10 ^ exponent` that lies in an interval and is nearest to its centre, if the
interval holds one. Only the two neighbours of the centre can be nearest; of two equally near the
even one is taken. -/
def RoundingInterval.multiple? (interval : RoundingInterval) (exponent : Int) : Option Scientific :=
  let step := quartersPerOne * powerOfTen exponent.toNat
  let stretch := powerOfTen (-exponent).toNat
  let below := interval.centre * stretch / step
  let rest := interval.centre * stretch % step
  let lower := interval.holds (below * step) stretch
  let upper := interval.holds ((below + 1) * step) stretch
  let takeLower := lower && (!upper || 2 * rest < step || (2 * rest == step && below % 2 == 0))
  if takeLower then some ⟨below, exponent⟩
  else if upper then some ⟨below + 1, exponent⟩
  else none

/-- The exponent below which every interval holds a multiple of a power of ten. -/
def finestExponent : Int := -345

/-- Looks for a multiple of ever smaller powers of ten, the first one `finestExponent + steps`. The
coarsest power with a multiple gives the fewest digits. -/
def RoundingInterval.coarsest (interval : RoundingInterval) : Nat → Scientific
  | 0 => ⟨interval.centre * powerOfTen finestExponent.natAbs / quartersPerOne, finestExponent⟩
  | steps + 1 =>
    match interval.multiple? (finestExponent + (steps + 1 : Nat)) with
    | some found => found
    | none => interval.coarsest steps

/-- The fewest digits that read back as a finite number other than zero, without its sign. -/
def shortest (x : Binary64) : Scientific :=
  x.roundingInterval.coarsest 660

/-- Zeros in a row. -/
def zeros (count : Nat) : String :=
  String.ofList (List.replicate count '0')

/-- The exponent of the scientific form: a sign and two digits or more. -/
def exponentText (exponent : Int) : String :=
  let magnitude := toString exponent.natAbs
  (if exponent < 0 then "-" else "+") ++ (if exponent.natAbs < 10 then "0" else "") ++ magnitude

/-- Writes a decimal number. The positional form is used when the leading digit stands between the
fourth place after the point and the sixteenth before it, and always shows a digit on both sides of
the point; the scientific form shows a point only between digits. -/
def Scientific.text (number : Scientific) : String :=
  let digits := toString number.digits
  let point : Int := digits.length + number.exponent
  if -4 < point ∧ point ≤ 16 then
    if 0 ≤ number.exponent then digits ++ zeros number.exponent.toNat ++ ".0"
    else if 0 < point then
      String.ofList (digits.toList.take point.toNat) ++ "."
        ++ String.ofList (digits.toList.drop point.toNat)
    else "0." ++ zeros (-point).toNat ++ digits
  else
    let fraction := String.ofList (digits.toList.drop 1)
    String.ofList (digits.toList.take 1) ++ (if fraction.isEmpty then "" else "." ++ fraction)
      ++ "e" ++ exponentText (point - 1)

/-- The text of a double. -/
def text (x : Binary64) : String :=
  let sign := if x.negative then "-" else ""
  match x.quantity with
  | .undefined => "nan"
  | .belowAll => "-inf"
  | .aboveAll => "inf"
  | .exactly _ => if x.significand = 0 then sign ++ "0.0" else sign ++ x.shortest.text

end TraceFilter.Binary64
