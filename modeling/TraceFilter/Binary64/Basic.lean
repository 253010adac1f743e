/-
Module: TraceFilter.Binary64.Basic
Purpose: Double-precision numbers by their interchange fields, with exact values and no rounding
  hidden in the host's arithmetic.
Main exports: Binary64, Binary64.units, Quantity, Binary64.quantity, Quantity.compare?,
  Binary64.ofUnitsRatio, Binary64.scaleBy
-/
import TraceFilter.Power

namespace TraceFilter

/-- How many values the fraction field takes; also the weight of the hidden bit. -/
abbrev fractionLimit : Nat := 4503599627370496

/-- A double-precision number: a sign, an exponent field and a fraction field. Every combination
of fields is a number, so equality of fields is equality of encodings. -/
structure Binary64 where
  negative : Bool
  exponent : Fin 2048
  fraction : Fin fractionLimit
deriving DecidableEq, Repr, Inhabited

/-- Where a number stands on the extended line, or that it stands nowhere. A number on the line is
given by the multiple of the least positive double that it is. -/
inductive Quantity where
  | undefined
  | belowAll
  | exactly (units : Int)
  | aboveAll
deriving DecidableEq, Repr, Inhabited

namespace Binary64

/-- How many least positive doubles make one. -/
def unitsPerOne : Nat := powerOfTwo 1074

/-- The exponent field of the infinities and of the values that are not numbers. -/
def specialExponent : Nat := 2047

/-- Whether a value is an infinity or not a number. -/
def isSpecial (x : Binary64) : Bool :=
  x.exponent.val == specialExponent

/-- The whole number that the fraction field and the hidden bit stand for. -/
def significand (x : Binary64) : Nat :=
  if x.exponent.val = 0 then x.fraction.val else fractionLimit + x.fraction.val

/-- The power of two that the significand is taken times, in least positive doubles. -/
def scale (x : Binary64) : Nat :=
  x.exponent.val - 1

/-- The value of a finite number as a multiple of the least positive double. -/
def units (x : Binary64) : Int :=
  let magnitude : Nat := x.significand * powerOfTwo x.scale
  if x.negative then -(magnitude : Int) else magnitude

/-- The place of a value on the extended line. -/
def quantity (x : Binary64) : Quantity :=
  if x.isSpecial then
    if x.fraction.val ≠ 0 then .undefined else if x.negative then .belowAll else .aboveAll
  else .exactly x.units

/-- The value that is not a number. -/
def notANumber : Binary64 := ⟨false, ⟨2047, by decide⟩, ⟨2251799813685248, by decide⟩⟩

/-- The infinity of a sign. -/
def infinity (negative : Bool) : Binary64 := ⟨negative, ⟨2047, by decide⟩, ⟨0, by decide⟩⟩

/-- The zero of a sign. -/
def zero (negative : Bool) : Binary64 := ⟨negative, ⟨0, by decide⟩, ⟨0, by decide⟩⟩

/-- The number whose exponent and fraction fields, read together as one word, are `word`; words
past the largest finite number become the infinity. -/
def ofWord (negative : Bool) (word : Nat) : Binary64 :=
  if h : word / fractionLimit < 2047 then
    ⟨negative, ⟨word / fractionLimit, by omega⟩, ⟨word % fractionLimit, Nat.mod_lt _ (by decide)⟩⟩
  else infinity negative

/-- The whole number nearest to a ratio; halves go to the even neighbour. -/
def roundHalfEven (numerator denominator : Nat) : Nat :=
  let below := numerator / denominator
  let rest := numerator % denominator
  if 2 * rest < denominator then below
  else if denominator < 2 * rest then below + 1
  else if below % 2 = 0 then below else below + 1

/-- The double nearest to a ratio counted in least positive doubles. Below twice `fractionLimit`
units every unit is a double; above, each further binary digit doubles the step. A significand that
rounds up to the next power of two carries into the exponent field by itself. -/
def ofUnitsRatio (negative : Bool) (numerator denominator : Nat) : Binary64 :=
  let scale := Nat.log2 (numerator / denominator) - 52
  ofWord negative (scale * fractionLimit + roundHalfEven numerator (denominator * powerOfTwo scale))

/-- A finite number without its fraction, as an integer. -/
def truncateUnits (units : Int) : Int :=
  units.tdiv unitsPerOne

/-- Whether a finite number has no fraction. -/
def isWhole (x : Binary64) : Bool :=
  x.units % unitsPerOne == 0

/-- A double times a whole number, rounded once. -/
def scaleBy (x : Binary64) (factor : Nat) : Binary64 :=
  if x.isSpecial then x
  else ofUnitsRatio x.negative (x.units.natAbs * factor) 1

end Binary64

/-- The place of an integer on the extended line. -/
def Quantity.ofInt (n : Int) : Quantity := .exactly (n * Binary64.unitsPerOne)

/-- The order of two places on the extended line; what is not a number is in no order with
anything, itself included. -/
def Quantity.compare? : Quantity → Quantity → Option Ordering
  | .undefined, _ => none
  | _, .undefined => none
  | .exactly left, .exactly right => some (compare left right)
  | .belowAll, .belowAll => some .eq
  | .aboveAll, .aboveAll => some .eq
  | .belowAll, _ => some .lt
  | .aboveAll, _ => some .gt
  | .exactly _, .belowAll => some .gt
  | .exactly _, .aboveAll => some .lt

end TraceFilter
