/-
Module: TraceFilter.Binary64.Difference
Purpose: The double nearest to an integer, and the difference of two doubles, rounded once.
Main exports: Binary64.ofInt?, Binary64.minus
-/
import TraceFilter.Binary64.Basic

namespace TraceFilter.Binary64

/-- The double nearest to an integer, if that is a finite one. -/
def ofInt? (number : Int) : Option Binary64 :=
  let nearest := ofUnitsRatio (number < 0) (number.natAbs * unitsPerOne) 1
  if nearest.isSpecial then none else some nearest

/-- The sign of the zero that two equal finite doubles leave: it is negative only when a positive
zero is taken from a negative one. -/
def zeroDifference (left right : Binary64) : Binary64 :=
  zero (left.units == 0 && left.negative && !right.negative)

/-- The difference of two doubles. Finite ones are subtracted exactly and rounded once; an infinity
outweighs everything but an infinity of the same sign. -/
def minus (left right : Binary64) : Binary64 :=
  match left.quantity, right.quantity with
  | .exactly first, .exactly second =>
    if first = second then zeroDifference left right
    else ofUnitsRatio (first < second) (first - second).natAbs 1
  | .exactly _, .belowAll => infinity false
  | .exactly _, .aboveAll => infinity true
  | .belowAll, .exactly _ => infinity true
  | .belowAll, .aboveAll => infinity true
  | .aboveAll, .exactly _ => infinity false
  | .aboveAll, .belowAll => infinity false
  | _, _ => notANumber

end TraceFilter.Binary64
