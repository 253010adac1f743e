/-
Module: TraceFilter.Proofs.Clamp
Purpose: What the clamp of a lookback does to integers and to values of other types.
Main exports: Value.compare_int, Value.compare_below_int, Value.compare_atMost_int,
  Value.compare_above_int, Draft.clamp_int, Draft.le_of_clamp_eq_ok
-/
import TraceFilter.Draft.Build
import TraceFilter.Proofs.Steps

namespace TraceFilter

/-! ### The order of integers among the values -/

namespace Binary64

theorem unitsPerOne_pos : 0 < unitsPerOne := powerOfTwo_pos 1074

/-- An integer on the extended line is read back as it is. -/
theorem truncateUnits_ofInt (number : Int) : truncateUnits (number * unitsPerOne) = number := by
  have nonzero : (unitsPerOne : Int) ≠ 0 :=
    Int.natCast_ne_zero.2 (Nat.pos_iff_ne_zero.1 unitsPerOne_pos)
  exact Int.mul_tdiv_cancel number nonzero

end Binary64

/-- Integers keep their order on the extended line. -/
theorem Quantity.compare?_ofInt (left right : Int) :
    (Quantity.ofInt left).compare? (.ofInt right) = some (compare left right) := by
  have positive : (0 : Int) < Binary64.unitsPerOne := by
    exact_mod_cast Binary64.unitsPerOne_pos
  show some (compare (left * Binary64.unitsPerOne) (right * Binary64.unitsPerOne)) = _
  congr 1
  rcases Int.lt_trichotomy left right with below | rfl | above
  · rw [Int.compare_eq_lt.2 below, Int.compare_eq_lt]
    exact Int.mul_lt_mul_of_pos_right below positive
  · exact (Int.compare_eq_eq.2 rfl).trans (Int.compare_eq_eq.2 rfl).symm
  · rw [Int.compare_eq_gt.2 above, Int.compare_eq_gt]
    exact Int.mul_lt_mul_of_pos_right above positive

/-- Integers are compared by their own order. -/
theorem Value.compare_int (relation : Relation) (left right : Int) :
    (Value.int left).compare relation (.int right) =
      .ok (relation.holds (Ord.compare left right)) := by
  show relation.onQuantities (.int left) (.int right) = _
  simp [Relation.onQuantities, Value.quantity?, Quantity.compare?_ofInt]

theorem Value.compare_below_int (left right : Int) :
    (Value.int left).compare .below (.int right) = .ok (decide (left < right)) := by
  rw [Value.compare_int]
  congr 1
  rw [Bool.eq_iff_iff, decide_eq_true_iff, ← Int.compare_eq_lt]
  simp [Relation.holds]

theorem Value.compare_atMost_int (left right : Int) :
    (Value.int left).compare .atMost (.int right) = .ok (decide (left ≤ right)) := by
  rw [Value.compare_int]
  congr 1
  rw [Bool.eq_iff_iff, decide_eq_true_iff, ← Int.not_lt, ← Int.compare_eq_gt]
  simp [Relation.holds]

theorem Value.compare_above_int (left right : Int) :
    (Value.int left).compare .above (.int right) = .ok (decide (right < left)) := by
  rw [Value.compare_int]
  congr 1
  rw [Bool.eq_iff_iff, decide_eq_true_iff, ← Int.compare_eq_gt]
  simp [Relation.holds]

namespace Draft

/-! ### Clamping -/

/-- Of two integers the lesser is taken. -/
theorem clamp_int (lookback endTs : Int) :
    clamp (.int lookback) (.int endTs) = .ok (.int (min lookback endTs)) := by
  unfold clamp
  rw [Value.compare_below_int]
  by_cases below : endTs < lookback
  · rw [decide_eq_true below, Int.min_eq_right (Int.le_of_lt below)]
  · rw [decide_eq_false below, Int.min_eq_left (Int.not_lt.1 below)]

/-- Whatever is clamped, an integer that comes out does not exceed the end. -/
theorem le_of_clamp_eq_ok {value : Value} {lookback last : Int}
    (clamped : clamp value (.int last) = .ok (.int lookback)) : lookback ≤ last := by
  unfold clamp at clamped
  split at clamped
  · cases clamped
  · cases clamped
    exact Int.le_refl _
  · next notBelow =>
    cases clamped
    rw [Value.compare_below_int] at notBelow
    simpa using notBelow

end Draft

end TraceFilter
