/-
Module: TraceFilter.Text.CodeRange
Purpose: Closed ranges of code points, the form in which character classes are written down.
Main exports: Text.CodeRange, Text.CodeRange.holds
-/

namespace TraceFilter.Text

/-- The code points from `first` to `last`, both included. -/
structure CodeRange where
  first : Nat
  last : Nat
deriving DecidableEq, Repr, Inhabited

/-- Whether a range contains a character. -/
def CodeRange.holds (c : Char) (range : CodeRange) : Bool :=
  range.first ≤ c.toNat && c.toNat ≤ range.last

theorem CodeRange.holds_iff {c : Char} {range : CodeRange} :
    range.holds c = true ↔ range.first ≤ c.toNat ∧ c.toNat ≤ range.last := by
  simp [CodeRange.holds]

end TraceFilter.Text
