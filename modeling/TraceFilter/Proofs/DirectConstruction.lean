/-
Module: TraceFilter.Proofs.DirectConstruction
Purpose: A build agrees with making the request from its fields once the defaults are filled in:
  clamping the lookback neither hides a violation nor makes one. The build alone writes the request
  out and lists the annotations, which is where it can fail.
Main exports: Candidate.accept_reaching_min, Draft.build_refines_direct,
  Draft.made_but_not_built_of_long_end, Draft.not_built_of_unlisted_annotations
-/
import TraceFilter.Draft.Opened
import TraceFilter.Proofs.BuildOutcome

namespace TraceFilter

namespace Candidate

variable {candidate : Candidate}

/-- Clamping an integer lookback changes nothing but the lookback: a candidate is refused for the
same cause with it and without it, and becomes the same request up to the lookback. -/
theorem accept_reaching_min {lookback endTs : Int} (atEnd : candidate.endTs = .int endTs) :
    (candidate.reaching (.int (min lookback endTs))).accept =
      (candidate.reaching (.int lookback)).accept.map
        fun request => { request with lookback := min lookback endTs } := by
  -- Behind a positive end, the lesser of the two is negative only if the lookback is.
  have positive (meets : candidate.MeetsLeading) : 0 < endTs := by
    simpa [atEnd] using meets.endTs
  have clampedNotNegative (meets : candidate.MeetsLeading) (notNegative : 0 ≤ lookback) :
      ∃ number, Value.int (min lookback endTs) = .int number ∧ 0 ≤ number :=
    ⟨_, rfl, Int.le_min.2 ⟨notNegative, Int.le_of_lt (positive meets)⟩⟩
  cases outcome : (candidate.reaching (.int lookback)).accept with
  | ok request =>
    obtain ⟨avoided, becomes⟩ := accept_eq_ok_iff.1 outcome
    obtain ⟨meets, _, ⟨rfl⟩, notNegative⟩ := avoidsAll_reaching_iff.1 avoided
    refine accept_eq_ok_iff.2 ⟨?_, { becomes with lookback := rfl }⟩
    exact avoidsAll_reaching_iff.2 ⟨meets, clampedNotNegative meets notNegative⟩
  | error fault =>
    refine accept_eq_error_iff.2 ?_
    rcases accept_eq_error_iff.1 outcome with ⟨breach, scan, rfl⟩ | ⟨avoided, bare⟩
    · refine .inl ⟨breach, scan_reaching_iff.2 ?_, rfl⟩
      rcases scan_reaching_iff.1 scan with found | ⟨meets, negative, rfl⟩
      · exact .inl found
      · have atEndPositive := positive meets
        have below : lookback < 0 := by simpa using negative
        have same : min lookback endTs = lookback := by omega
        rw [same]
        exact .inr ⟨meets, negative, rfl⟩
    · obtain ⟨meets, _, ⟨rfl⟩, notNegative⟩ := avoidsAll_reaching_iff.1 avoided
      exact .inr ⟨avoidsAll_reaching_iff.2 ⟨meets, clampedNotNegative meets notNegative⟩, bare⟩

/-- A clamped lookback lies between zero and the end. -/
theorem bounds_of_clamped {request : Request} {lookback endTs : Int}
    (atEnd : candidate.endTs = .int endTs)
    (gives : ((candidate.reaching (.int lookback)).accept.map
      fun request => { request with lookback := min lookback endTs }) = .ok request) :
    request.endTs = endTs ∧ 0 ≤ request.lookback ∧ request.lookback ≤ request.endTs := by
  obtain ⟨unclamped, accepted, ⟨rfl⟩⟩ := map_eq_ok_iff.1 gives
  obtain ⟨avoided, becomes⟩ := accept_eq_ok_iff.1 accepted
  obtain ⟨meets, _, ⟨rfl⟩, notNegative⟩ := avoidsAll_reaching_iff.1 avoided
  have sameEnd : endTs = unclamped.endTs := by
    have held : candidate.endTs = .int unclamped.endTs := becomes.endTs
    simpa [atEnd] using held
  have positive : 0 < endTs := by simpa [atEnd] using meets.endTs
  have within : 0 ≤ min lookback endTs ∧ min lookback endTs ≤ unclamped.endTs := by omega
  exact ⟨sameEnd.symm, within⟩

end Candidate

namespace Draft

/-- An end that is an integer or unset comes from the draft, or from the clock under the policy. -/
theorem endTsOr_of_optional {draft : Draft} {surroundings : Surroundings} {settings : Settings}
    {endTs? : Option Int} {current : Int} (endTsSet : draft.endTs = .ofInt? endTs?)
    (reads : draft.endTs = .null → surroundings.currentMillis = .ok current) :
    draft.endTsOr settings surroundings =
      .ok (.int (endTs?.getD (match settings.endTsPolicy with
        | .millis => current
        | .legacyMicros => 1000 * current))) := by
  cases endTs? with
  | some number => simp [endTsOr, endTsSet, Value.ofInt?, Value.isNull]
  | none =>
    have unset : draft.endTs = .null := endTsSet
    rw [endTsOr, if_pos (Value.isNull_iff.2 unset), reads unset]
    cases settings.endTsPolicy <;> simp [Except.map, EndTsPolicy.endTs, Int.mul_comm]

/-- A lookback that is an integer or unset comes from the draft, or reaches as far as the end. -/
theorem lookbackOr_of_optional {draft : Draft} {endTs : Int} {lookback? : Option Int}
    (lookbackSet : draft.lookback = .ofInt? lookback?) :
    draft.lookbackOr (.int endTs) = .int (lookback?.getD endTs) := by
  cases lookback? <;> simp [lookbackOr, lookbackSet, Value.ofInt?, Value.isNull]

/-- A build with an integer or no end and an integer or no lookback gives what making the request
from its fields gives, with the lookback not clamped yet, up to the clamp of the lookback. Only what
cannot be written makes a difference: the record of the build, if it is kept, and the request that
is given. -/
theorem build_refines_direct (draft : Draft) (surroundings : Surroundings)
    {endTs? lookback? : Option Int} (endTsSet : draft.endTs = .ofInt? endTs?)
    (lookbackSet : draft.lookback = .ofInt? lookback?) :
    let loaded := (Settings.load surroundings.environment surroundings.threshold).result
    let built := (draft.build surroundings).result
    (∀ fault, draft.endTs = .null ∨ draft.limit = .null → loaded = .error fault →
      built = .error fault) ∧
    ∀ settings current,
      (draft.endTs = .null ∨ draft.limit = .null → loaded = .ok settings) →
      (draft.endTs = .null → surroundings.currentMillis = .ok current) →
      let endTs := endTs?.getD (match settings.endTsPolicy with
        | .millis => current
        | .legacyMicros => 1000 * current)
      let lookback := lookback?.getD endTs
      let limit := if draft.limit.isNull then .int settings.defaultLimit else draft.limit
      let direct :=
        Request.ofFields (draft.candidate (.int endTs) (.int lookback) limit).fields
      let clamped := direct.map fun request => { request with lookback := min lookback endTs }
      (draft.IsWritable → built = clamped) ∧
      built = (do
        (draft.candidate (.int endTs) (.int (min lookback endTs)) limit).recorded
          surroundings.threshold
        clamped >>= Request.written) ∧
      ∀ request, built = .ok request →
        request.endTs = endTs ∧ 0 ≤ request.lookback ∧ request.lookback ≤ request.endTs := by
  intro loaded built
  refine ⟨fun fault needed failed => result_build_of_load_error needed failed, ?_⟩
  intro settings current loads reads endTs lookback limit direct clamped
  have ended : draft.endTsOr settings surroundings = .ok (.int endTs) :=
    endTsOr_of_optional endTsSet reads
  have reached : draft.lookbackOr (.int endTs) = .int lookback := lookbackOr_of_optional lookbackSet
  have made : direct = (draft.candidate (.int endTs) (.int lookback) limit).accept :=
    Candidate.request_ofFields_fields _
  have atEnd : (draft.candidate (.int endTs) (.int lookback) limit).endTs = .int endTs := rfl
  have refined : (draft.candidate (.int endTs) (.int (min lookback endTs)) limit).accept =
      clamped := by
    show _ = direct.map _
    rw [made]
    exact Candidate.accept_reaching_min atEnd
  have steps : built =
      (draft.candidate (.int endTs) (.int (min lookback endTs)) limit).built
        surroundings.threshold := by
    show (draft.build surroundings).result = _
    rw [result_build_under loads, ended, ok_bind, reached, clamp_int, ok_bind]
    rfl
  refine ⟨fun writable => ?_, ?_, fun request succeeded => ?_⟩
  · have ends : (Value.int endTs).isWritable = true :=
      isWritable_endTsOr (writable.part (.scalar .endTs)) ended
    have back : (Value.int lookback).isWritable = true := by
      rw [← reached]
      exact isWritable_lookbackOr (writable.part (.scalar .lookback)) ends
    have caps : limit.isWritable = true :=
      isWritable_limitOr (writable.part (.scalar .limit))
        fun unset => Settings.isWritable_defaultLimit (loads (.inr unset))
    have reaches := isWritable_clamp back ends (clamp_int lookback endTs)
    rw [steps, Candidate.built_of_writable (writable.candidate ends reaches caps), refined]
  · rw [steps, Candidate.built, refined]
  · rw [steps, Candidate.built_eq_ok_iff, refined] at succeeded
    have gives : direct.map _ = .ok request := succeeded.1
    rw [made] at gives
    exact @Candidate.bounds_of_clamped (draft.candidate (.int endTs) .null limit) request
      lookback endTs rfl gives

/-- One and a half seconds after the epoch, a lookback of more than that is clamped to it. -/
theorem build_refines_direct_at_clock :
    let draft : Draft :=
      { Draft.empty with serviceName := .text "Api", lookback := .int 99999 }
    let surroundings : Surroundings :=
      { environment := ⟨some "Millis", none⟩
        clock := ⟨false, ⟨1023, by decide⟩, ⟨2251799813685248, by decide⟩⟩
        threshold := .warning }
    let request : Request :=
      { serviceName := "api", spanName := none, annotations := [], tags := []
        minDuration := .null, maxDuration := .null, endTs := 1500, lookback := 1500, limit := 10 }
    draft.endTs = .ofInt? none ∧ draft.lookback = .ofInt? (some 99999) ∧ draft.IsWritable ∧
      (Settings.load surroundings.environment surroundings.threshold).result =
        .ok ⟨.millis, 10⟩ ∧
      surroundings.currentMillis = .ok 1500 ∧
      (draft.build surroundings).result = .ok request := by
  intro draft surroundings request
  have writable : draft.IsWritable := by decide +kernel
  have loads : (Settings.load surroundings.environment surroundings.threshold).result =
      .ok ⟨.millis, 10⟩ := Settings.result_load _ _
  have moment : (surroundings.clock.scaleBy 1000).quantity = .ofInt 1500 := by decide +kernel
  have reads : surroundings.currentMillis = .ok 1500 := by
    simp only [Surroundings.currentMillis, moment, Quantity.ofInt]
    rw [Binary64.truncateUnits_ofInt]
  have refined := @build_refines_direct draft surroundings none (some 99999) rfl rfl
  have built := (refined.2 ⟨.millis, 10⟩ 1500 (fun _ => loads) fun _ => reads).1 writable
  exact ⟨rfl, rfl, writable, loads, reads, built.trans rfl⟩

/-- A request can be made with an end of any size, but with too many digits it is not given by a
build, whatever the threshold is. -/
theorem made_but_not_built_of_long_end {number : Int} (positive : 0 < number)
    (long : Numeral.isWritable number = false) (surroundings : Surroundings) :
    let draft : Draft :=
      { Draft.empty with
        serviceName := .text "api", endTs := .int number, limit := .int 10 }
    (∃ request, Request.ofFields
        (draft.candidate (.int number) (.int number) (.int 10)).fields = .ok request) ∧
      (draft.build surroundings).result = .error .tooLong := by
  intro draft
  have meets : (draft.candidate (.int number) (.int number) (.int 10)).MeetsLeading :=
    { serviceName := rfl
      spanName := .inl rfl
      endTs := ⟨number, rfl, positive⟩
      limit := ⟨10, rfl, by decide⟩
      annotations := fun _ member => absurd member List.not_mem_nil
      tags := fun _ member => absurd member List.not_mem_nil
      maxDuration := .inl rfl }
  have back : ∃ lookback, Value.int number = .int lookback ∧ 0 ≤ lookback :=
    ⟨number, rfl, Int.le_of_lt positive⟩
  obtain ⟨request, accepted⟩ := Candidate.exists_request_iff.2
    ⟨Candidate.avoidsAll_iff.2 ⟨meets, back⟩, ⟨"api", rfl⟩, ⟨none, rfl⟩⟩
  refine ⟨⟨request, (Candidate.request_ofFields_fields _).trans accepted⟩, ?_⟩
  rw [result_build_of_set Value.noConfusion Value.noConfusion]
  show clamp (.int number) (.int number) >>= _ = _
  rw [clamp_int, Int.min_self, ok_bind]
  have ends : ("end_ts", Value.int number) ∈
      (draft.candidate (.int number) (.int number) (.int 10)).fields := by
    simp [Candidate.fields, candidate]
  exact Candidate.built_of_long_field accepted ends long surroundings.threshold

/-- A draft whose annotations were assigned and cannot be listed fails for that, when its end, its
lookback and its limit are proper and its call is not recorded. -/
theorem not_built_of_unlisted_annotations {draft : OpenedDraft} {fault : Fault} {endTs : Int}
    {lookback? : Option Int} {surroundings : Surroundings}
    (scalars : ∀ field, draft.readable (.scalar field) = .ok ())
    (unlisted : draft.readable .annotations = .error fault)
    (endTsSet : draft.shape.endTs = .int endTs)
    (lookbackSet : draft.shape.lookback = .ofInt? lookback?) (limitSet : draft.shape.limit ≠ .null)
    (quiet : surroundings.threshold ≠ .debug) :
    (draft.build surroundings).result = .error fault := by
  have ended : draft.shape.endTs.isNull = false := by rw [endTsSet]; rfl
  have unneeded : draft.shape.settings surroundings = pure .standard := by
    rw [Draft.settings, if_neg]
    simp [needsSettings, ended, Value.isNull_eq_false_iff.2 limitSet]
  have back := @lookbackOr_of_optional draft.shape endTs lookback? lookbackSet
  have unrecorded (candidate : Candidate) : candidate.recorded surroundings.threshold = .ok () :=
    if_neg fun kept => quiet kept.1
  rw [OpenedDraft.build, result_buildWhere, unneeded]
  simp [scalars, unlisted, unrecorded, endTsOr, endTsSet, back, clamp_int]

/-- What makes a request is not always built: not if the annotations of the draft were set to
nothing from outside, since they are not a list then, and not if its end has 4301 digits. -/
theorem made_but_not_built_of_no_annotations_nor_long_end :
    let assigned : OpenedDraft :=
      (OpenedDraft.ofDraft { Draft.empty with
        serviceName := .text "api", endTs := .int 5, limit := .int 10 }).put
          DraftPart.annotations.name .null
    let draft : Draft :=
      { Draft.empty with
        serviceName := .text "api", endTs := .int (10 ^ 4300), limit := .int 10 }
    let surroundings : Surroundings := ⟨.empty, .zero false, .warning⟩
    ((∃ request, Request.ofFields [("service_name", .text "api"), ("span_name", .null),
        ("annotations", .null), ("binary_annotations", .mapping []), ("min_duration", .null),
        ("max_duration", .null), ("end_ts", .int 5), ("lookback", .int 5),
        ("limit", .int 10)] = .ok request) ∧
      (assigned.build surroundings).result = .error (.notIterable .null)) ∧
      (∃ request, Request.ofFields
        (draft.candidate (.int (10 ^ 4300)) (.int (10 ^ 4300)) (.int 10)).fields = .ok request) ∧
      (draft.build surroundings).result = .error .tooLong := by
  intro assigned draft surroundings
  have scalars (field : Scalar) : assigned.readable (.scalar field) = .ok () := by
    cases field <;> rfl
  have failed : (assigned.build surroundings).result = .error (.notIterable .null) :=
    @not_built_of_unlisted_annotations assigned _ 5 none surroundings scalars rfl rfl rfl
      Value.noConfusion Level.noConfusion
  exact ⟨⟨⟨_, rfl⟩, failed⟩,
    made_but_not_built_of_long_end (Int.pow_pos (by decide)) Numeral.isWritable_leastLong _⟩

end Draft

end TraceFilter
