/-
Module: TraceFilter.Proofs.ValueEquality
Purpose: Equality of values read off member by member, and that every value equals itself.
Main exports: Value.same_mapping_iff, Value.same_self, Value.sameItems_self, Value.entries_same_self
-/
import TraceFilter.Value.Equality

namespace TraceFilter

namespace Value

/-! ### Equality of mappings -/

theorem eachFound_iff {left right : Entries} : eachFound left right = true ↔
    ∀ entry ∈ left, ∃ other ∈ right,
      entry.1.same other.1 = true ∧ entry.2.same other.2 = true := by
  induction left with
  | nil => simp [eachFound]
  | cons first rest ih =>
    rw [eachFound, Bool.and_eq_true, ih, List.forall_mem_cons, List.any_eq_true]
    simp only [Bool.and_eq_true]

theorem foundIn_iff {entries : Entries} {entry : Value × Value} :
    foundIn entries entry = true ↔
      ∃ own ∈ entries, own.1.same entry.1 = true ∧ own.2.same entry.2 = true := by
  induction entries with
  | nil => simp [foundIn]
  | cons first rest ih =>
    rw [foundIn, Bool.or_eq_true, ih, Bool.and_eq_true]
    simp only [List.mem_cons, exists_eq_or_imp]

/-- Two mappings are equal when each entry of either has an equal one in the other. -/
theorem same_mapping_iff {left right : Entries} :
    (Value.mapping left).same (.mapping right) = true ↔
      (∀ entry ∈ left, ∃ other ∈ right,
        entry.1.same other.1 = true ∧ entry.2.same other.2 = true) ∧
      (∀ entry ∈ right, ∃ own ∈ left,
        own.1.same entry.1 = true ∧ own.2.same entry.2 = true) := by
  rw [same, Bool.and_eq_true, eachFound_iff, List.all_eq_true]
  simp only [foundIn_iff]

end Value

/-! ### Values that equal themselves -/

/-- Only what is not a number stands in no order with itself. -/
theorem Quantity.compare?_self {place : Quantity} (defined : place ≠ .undefined) :
    place.compare? place = some .eq := by
  cases place with
  | undefined => exact absurd rfl defined
  | belowAll => rfl
  | exactly units => exact congrArg some (Int.compare_eq_eq.2 rfl)
  | aboveAll => rfl

namespace Value

/-- Numbers at the same place are equal, unless that is no place at all. -/
theorem same_of_quantity {left right : Value} {place : Quantity} (defined : place ≠ .undefined)
    (first : left.quantity? = some place) (second : right.quantity? = some place) :
    left.same right = true := by
  have equal : place.compare? place = some .eq := Quantity.compare?_self defined
  cases left <;> cases right <;> simp_all [same, quantity?]

mutual

/-- A value equals itself: what is not a number does so by being one and the same. -/
theorem same_self : ∀ value : Value, value.same value = true
  | .null => rfl
  | .bool _ => same_of_quantity Quantity.noConfusion rfl rfl
  | .int _ => same_of_quantity Quantity.noConfusion rfl rfl
  | .float _ _ => by simp [same, isSameDouble]
  | .text characters => beq_self_eq_true characters
  | .list items => sameItems_self items
  | .mapping entries => by
    have kept := entries_same_self entries
    rw [same_mapping_iff]
    exact ⟨fun entry member => ⟨entry, member, kept entry member⟩,
      fun entry member => ⟨entry, member, kept entry member⟩⟩

theorem sameItems_self : ∀ items : List Value, sameItems items items = true
  | [] => rfl
  | item :: rest => by
    rw [sameItems, Bool.and_eq_true]
    exact ⟨same_self item, sameItems_self rest⟩

theorem entries_same_self : ∀ entries : List (Value × Value),
    ∀ entry ∈ entries, entry.1.same entry.1 = true ∧ entry.2.same entry.2 = true
  | [] => by simp
  | (key, value) :: rest => by
    rw [List.forall_mem_cons]
    exact ⟨⟨same_self key, same_self value⟩, entries_same_self rest⟩

end

end Value

end TraceFilter
