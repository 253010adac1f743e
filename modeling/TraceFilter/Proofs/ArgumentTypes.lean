/-
Module: TraceFilter.Proofs.ArgumentTypes
Purpose: How a build treats an end, a lookback and a limit of any type: exactly when it reports the
  violation that making the request from the same fields reports.
Main exports: Draft.proposal, Draft.Unordered, Draft.HidesLookback,
  Draft.build_reports_as_direct_iff
-/
import TraceFilter.Proofs.BuildOutcome

namespace TraceFilter

namespace Draft

/-- The candidate that a draft proposes by its own fields, with no default filled in. -/
def proposal (draft : Draft) : Candidate :=
  draft.candidate draft.endTs draft.lookback draft.limit

/-- The end and the lookback are in no order, so that neither can be taken for the lesser. -/
def Unordered (draft : Draft) : Prop :=
  ∃ pair, draft.endTs.compare .below draft.lookback = .error pair

/-- The lookback is a double above the end, and all else is in order: the clamp puts the end in its
place. -/
def HidesLookback (draft : Draft) : Prop :=
  (∃ number identity, draft.lookback = .float number identity) ∧
    draft.endTs.compare .below draft.lookback = .ok true ∧
    draft.proposal.MeetsLeading

end Draft

theorem Value.compare_below_bool (left : Int) (truth : Bool) :
    (Value.int left).compare .below (.bool truth) = .ok (decide (left < truth.toInt)) := by
  rw [← Value.compare_below_int]
  rfl

namespace Candidate

variable {candidate : Candidate}

/-- Where no violation occurs, the end and the lookback are integers and so are in order. -/
theorem exists_ordered (meets : candidate.MeetsLeading)
    (back : ∃ number, candidate.lookback = .int number ∧ 0 ≤ number) :
    ∃ verdict, candidate.endTs.compare .below candidate.lookback = .ok verdict := by
  obtain ⟨endTs, atEnd, _⟩ := meets.endTs
  obtain ⟨lookback, reaches, _⟩ := back
  rw [atEnd, reaches]
  exact ⟨_, Value.compare_below_int endTs lookback⟩

/-- A lookback above the positive end is an integer that is not negative, or else a double: no truth
value is above, and no other value is in order with an integer. -/
theorem integer_or_float_of_above {lookback : Value} (meets : candidate.MeetsLeading)
    (given : lookback ≠ .null) (above : candidate.endTs.compare .below lookback = .ok true) :
    (∃ number, lookback = .int number ∧ 0 ≤ number) ∨
      ∃ number identity, lookback = .float number identity := by
  obtain ⟨endTs, atEnd, positive⟩ := meets.endTs
  rw [atEnd] at above
  cases lookback with
  | null => exact absurd rfl given
  | bool truth =>
    rw [Value.compare_below_bool] at above
    have below : endTs < truth.toInt := by simpa using above
    cases truth <;> simp at below <;> omega
  | int number =>
    rw [Value.compare_below_int] at above
    have below : endTs < number := by simpa using above
    exact .inl ⟨number, rfl, by omega⟩
  | float number identity => exact .inr ⟨number, identity, rfl⟩
  | text characters => cases above
  | list items => cases above
  | mapping entries => cases above

end Candidate

namespace Draft

variable {draft : Draft}

theorem IsWritable.proposal (writable : draft.IsWritable) : draft.proposal.IsWritable :=
  writable.candidate (writable.part (.scalar .endTs)) (writable.part (.scalar .lookback))
    (writable.part (.scalar .limit))

/-- What a build of a draft with all three set gives, by the order of the end and the lookback. -/
theorem result_build_of_order (writable : draft.IsWritable) (endTsSet : draft.endTs ≠ .null)
    (lookbackSet : draft.lookback ≠ .null) (limitSet : draft.limit ≠ .null)
    (surroundings : Surroundings) :
    (draft.build surroundings).result =
      match draft.endTs.compare .below draft.lookback with
      | .error pair => .error (.incomparable pair)
      | .ok true => (draft.proposal.reaching draft.endTs).accept
      | .ok false => draft.proposal.accept := by
  rw [← Value.isNull_eq_false_iff] at lookbackSet
  rw [result_build_of_set_of_writable writable endTsSet limitSet, lookbackOr, lookbackSet]
  simp only [Bool.false_eq_true, if_false, clamp]
  cases draft.endTs.compare .below draft.lookback with
  | error pair => rfl
  | ok verdict => cases verdict <;> rfl

/-- Unless the lookback is hidden, putting the end in its place reports the same violations. -/
theorem reports_reaching_endTs (lookbackSet : draft.lookback ≠ .null)
    (above : draft.endTs.compare .below draft.lookback = .ok true)
    (shown : ¬ draft.HidesLookback) (violation : Violation) :
    (draft.proposal.reaching draft.endTs).accept = .error (.invalidArgument violation) ↔
      draft.proposal.accept = .error (.invalidArgument violation) := by
  rw [Candidate.accept_eq_invalidArgument_iff, Candidate.accept_eq_invalidArgument_iff]
  refine exists_congr fun breach => and_congr_left fun _ => ?_
  rw [Candidate.scan_reaching_iff, Candidate.scan_iff]
  refine or_congr_right ?_
  constructor
  · rintro ⟨meets, negative, _⟩
    obtain ⟨endTs, atEnd, positive⟩ := meets.endTs
    exact absurd ⟨endTs, atEnd, Int.le_of_lt positive⟩ negative
  · rintro ⟨meets, negative, _⟩
    rcases Candidate.integer_or_float_of_above meets lookbackSet above with integer | float
    · exact absurd integer negative
    · exact absurd ⟨float, above, meets⟩ shown

/-- A hidden lookback is accepted as the end in its place, though it is a violation by itself. -/
theorem accepted_of_hides (service : ∃ name?, draft.serviceName = .ofText? name?)
    (span : ∃ name?, draft.spanName = .ofText? name?) (hides : draft.HidesLookback) :
    (∃ request, (draft.proposal.reaching draft.endTs).accept = .ok request) ∧
      ∃ text, draft.lookback.plain = .ok text ∧
        draft.proposal.accept = .error (.invalidArgument
          ⟨"lookback should not be negative: was " ++ text, "lookback", draft.lookback⟩) := by
  obtain ⟨⟨number, identity, float⟩, _, meets⟩ := hides
  obtain ⟨endTs, atEnd, positive⟩ := meets.endTs
  constructor
  · refine Candidate.exists_request_iff.2 ⟨Candidate.avoidsAll_reaching_iff.2 ⟨meets, ?_⟩, ?_, span⟩
    · exact ⟨endTs, atEnd, Int.le_of_lt positive⟩
    · obtain ⟨name?, given⟩ := service
      cases name? with
      | none =>
        have absent : draft.serviceName = .null := given
        have truthy : draft.serviceName.truthy = true := meets.serviceName
        rw [absent] at truthy
        cases truthy
      | some name => exact ⟨name, given⟩
  · have written : draft.lookback.plain = .ok draft.lookback.bare := by
      rw [float]
      rfl
    refine ⟨_, written, Candidate.accept_eq_invalidArgument_iff.2
      ⟨_, Candidate.scan_iff.2 (.inr ⟨meets, ?_, rfl⟩), .lookbackNotNegative written⟩⟩
    rintro ⟨integer, same, _⟩
    cases float.symm.trans same

/-- A breach in a draft that can be written is reported. -/
theorem reported_or_avoided (writable : draft.IsWritable) :
    (∃ violation, draft.proposal.accept = .error (.invalidArgument violation)) ∨
      ∀ breach ∈ draft.proposal.possibleBreaches, draft.proposal.Avoids breach := by
  rcases draft.proposal.found_or_avoided with ⟨breach, scan⟩ | avoided
  · have written := writable.proposal.breach scan.broken_of_some.1
    exact .inl (Candidate.exists_invalidArgument_iff.2 ⟨breach, scan, written⟩)
  · exact .inr avoided

/-- Where the end and the lookback are in no order, one of them is no integer. -/
theorem violation_of_unordered (writable : draft.IsWritable) (unordered : draft.Unordered) :
    ∃ violation, draft.proposal.accept = .error (.invalidArgument violation) := by
  obtain ⟨pair, failed⟩ := unordered
  rcases reported_or_avoided writable with reported | avoided
  · exact reported
  · obtain ⟨meets, back⟩ := Candidate.avoidsAll_iff.1 avoided
    obtain ⟨verdict, ordered⟩ := Candidate.exists_ordered meets back
    cases failed.symm.trans ordered

/-- A value of another type than an integer is reported where all three have to be integers. -/
theorem violation_of_no_integer (writable : draft.IsWritable)
    (ill : ¬ ∃ endTs lookback limit, draft.endTs = .int endTs ∧
      draft.lookback = .int lookback ∧ draft.limit = .int limit) :
    ∃ violation, draft.proposal.accept = .error (.invalidArgument violation) := by
  rcases reported_or_avoided writable with reported | avoided
  · exact reported
  · obtain ⟨meets, lookback, back, _⟩ := Candidate.avoidsAll_iff.1 avoided
    obtain ⟨endTs, atEnd, _⟩ := meets.endTs
    obtain ⟨limit, most, _⟩ := meets.limit
    exact absurd ⟨endTs, lookback, limit, atEnd, back, most⟩ ill

/-- A build of a draft that can be written, with an end, a lookback and a limit of any types,
reports the violations that making the request from the same fields reports, except when the end and
the lookback are in no order and when the lookback is hidden. It fails by a fault of another kind in
the first case, and gives a request in the second. Apart from these, a type that does not fit is
always reported. -/
theorem build_reports_as_direct_iff (draft : Draft) (surroundings : Surroundings)
    (writable : draft.IsWritable) (service : ∃ name?, draft.serviceName = .ofText? name?)
    (span : ∃ name?, draft.spanName = .ofText? name?)
    (endTsSet : draft.endTs ≠ .null) (lookbackSet : draft.lookback ≠ .null)
    (limitSet : draft.limit ≠ .null) :
    let built := (draft.build surroundings).result
    let direct := Request.ofFields draft.proposal.fields
    ((∀ violation, built = .error (.invalidArgument violation) ↔
        direct = .error (.invalidArgument violation)) ↔
      ¬ draft.Unordered ∧ ¬ draft.HidesLookback) ∧
    (∀ pair, draft.endTs.compare .below draft.lookback = .error pair →
      built = .error (.incomparable pair) ∧
        ∃ violation, direct = .error (.invalidArgument violation)) ∧
    (draft.HidesLookback →
      (∃ request, built = .ok request) ∧
        ∃ text, draft.lookback.plain = .ok text ∧ direct = .error (.invalidArgument
          ⟨"lookback should not be negative: was " ++ text, "lookback", draft.lookback⟩)) ∧
    ((¬ ∃ endTs lookback limit, draft.endTs = .int endTs ∧ draft.lookback = .int lookback ∧
        draft.limit = .int limit) →
      ((∃ violation, built = .error (.invalidArgument violation)) ↔
        ¬ draft.Unordered ∧ ¬ draft.HidesLookback)) := by
  intro built direct
  have made : direct = draft.proposal.accept := Candidate.request_ofFields_fields draft.proposal
  have steps : built = _ :=
    result_build_of_order writable endTsSet lookbackSet limitSet surroundings
  rw [made]
  have unordered : ∀ pair, draft.endTs.compare .below draft.lookback = .error pair →
      built = .error (.incomparable pair) := by
    intro pair failed
    rw [steps, failed]
  have hidden : draft.HidesLookback → (∃ request, built = .ok request) ∧
      ∃ text, draft.lookback.plain = .ok text ∧ draft.proposal.accept = .error (.invalidArgument
        ⟨"lookback should not be negative: was " ++ text, "lookback", draft.lookback⟩) := by
    intro hides
    rw [steps, hides.2.1]
    exact accepted_of_hides service span hides
  have agrees : ¬ draft.Unordered ∧ ¬ draft.HidesLookback → ∀ violation,
      built = .error (.invalidArgument violation) ↔
        draft.proposal.accept = .error (.invalidArgument violation) := by
    rintro ⟨ordered, shown⟩ violation
    rw [steps]
    cases order : draft.endTs.compare .below draft.lookback with
    | error pair => exact absurd ⟨pair, order⟩ ordered
    | ok verdict =>
      cases verdict with
      | true => exact reports_reaching_endTs lookbackSet order shown violation
      | false => exact Iff.rfl
  -- In both exceptions the direct way reports a violation, and the build reports none.
  have excepted : ∀ violation, built = .error (.invalidArgument violation) →
      ¬ draft.Unordered ∧ ¬ draft.HidesLookback := by
    intro violation reports
    constructor
    · rintro ⟨pair, failed⟩
      cases (unordered pair failed).symm.trans reports
    · intro hides
      obtain ⟨⟨request, succeeded⟩, _⟩ := hidden hides
      cases succeeded.symm.trans reports
  refine ⟨⟨fun same => ⟨fun exception => ?_, fun exception => ?_⟩, agrees⟩, fun pair failed =>
    ⟨unordered pair failed, violation_of_unordered writable ⟨pair, failed⟩⟩, hidden, fun ill => ?_⟩
  · obtain ⟨violation, reports⟩ := violation_of_unordered writable exception
    exact (excepted violation ((same violation).2 reports)).1 exception
  · obtain ⟨text, _, reports⟩ := (hidden exception).2
    exact (excepted _ ((same _).2 reports)).2 exception
  · obtain ⟨violation, reports⟩ := violation_of_no_integer writable ill
    exact ⟨fun ⟨found, reported⟩ => excepted found reported,
      fun regular => ⟨violation, (agrees regular violation).2 reports⟩⟩

/-- A lookback of seven and a half behind an end of five is hidden: the build gives a request, and
the direct way reports the lookback. -/
theorem float_lookback_hidden :
    let draft : Draft :=
      { Draft.empty with
        serviceName := .text "api"
        endTs := .int 5
        lookback := .float ⟨false, ⟨1025, by decide⟩, ⟨3940649673949184, by decide⟩⟩ 0
        limit := .int 10 }
    let surroundings : Surroundings := ⟨.empty, .zero false, .warning⟩
    draft.serviceName = .ofText? (some "api") ∧ draft.spanName = .ofText? none ∧
      draft.endTs ≠ .null ∧ draft.lookback ≠ .null ∧ draft.limit ≠ .null ∧
      (∃ request, (draft.build surroundings).result = .ok request) ∧
      ∃ text, draft.lookback.plain = .ok text ∧
        Request.ofFields draft.proposal.fields = .error (.invalidArgument
          ⟨"lookback should not be negative: was " ++ text, "lookback", draft.lookback⟩) := by
  intro draft surroundings
  have above : (Quantity.ofInt 5).compare? (Binary64.quantity
      ⟨false, ⟨1025, by decide⟩, ⟨3940649673949184, by decide⟩⟩) = some .lt := by
    decide +kernel
  have hides : draft.HidesLookback := by
    refine ⟨⟨_, _, rfl⟩, ?_, ?_⟩
    · show Relation.below.onQuantities draft.endTs draft.lookback = .ok true
      simp only [Relation.onQuantities, draft, Value.quantity?, above]
      rfl
    · exact ⟨rfl, .inl rfl, ⟨5, rfl, by decide⟩, ⟨10, rfl, by decide⟩,
        fun _ member => absurd member List.not_mem_nil,
        fun _ member => absurd member List.not_mem_nil, .inl rfl⟩
  have writable : draft.IsWritable := by decide +kernel
  have endTsSet : draft.endTs ≠ .null := Value.noConfusion
  have lookbackSet : draft.lookback ≠ .null := Value.noConfusion
  have limitSet : draft.limit ≠ .null := Value.noConfusion
  have exceptions := build_reports_as_direct_iff draft surroundings writable
    ⟨some "api", rfl⟩ ⟨none, rfl⟩ endTsSet lookbackSet limitSet
  exact ⟨rfl, rfl, endTsSet, lookbackSet, limitSet, exceptions.2.2.1 hides⟩

/-- A lookback that is a text is a violation for the direct way, but no violation for a build, which
cannot tell whether it lies before an end that is an integer. -/
theorem text_lookback_unordered :
    let draft : Draft :=
      { Draft.empty with
        serviceName := .text "api", endTs := .int 5, lookback := .text "3", limit := .int 10 }
    let surroundings : Surroundings := ⟨.empty, .zero false, .warning⟩
    (draft.build surroundings).result = .error (.incomparable ⟨.below, .int, .text⟩) ∧
      Request.ofFields draft.proposal.fields =
        .error (.invalidArgument
          ⟨"lookback should not be negative: was 3", "lookback", .text "3"⟩) :=
  ⟨rfl, rfl⟩

end Draft

end TraceFilter
