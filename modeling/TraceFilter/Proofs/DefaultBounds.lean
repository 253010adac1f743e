/-
Module: TraceFilter.Proofs.DefaultBounds
Purpose: The defaults that a build fills in break no rule: whichever of its bounds a build is
  refused for was set, and a draft that sets none of them is refused for none of them.
Main exports: Draft.Fills, Draft.exists_fills_of_rejected, Draft.set_of_rejected,
  Draft.MeetsFilterRules, Draft.HasTextNames, Draft.result_build_of_endTs_unset,
  Draft.defaults_break_no_rule
-/
import TraceFilter.Proofs.BuildEvents
import TraceFilter.Proofs.DirectConstruction
import TraceFilter.Proofs.SettingsReading

namespace TraceFilter

/-! ### The defaults themselves -/

/-- A clock that comes to an integer in milliseconds is read as that integer. -/
theorem Surroundings.currentMillis_of_quantity {surroundings : Surroundings} {current : Int}
    (moment : (surroundings.clock.scaleBy 1000).quantity = .ofInt current) :
    surroundings.currentMillis = .ok current := by
  simp only [currentMillis, moment, Quantity.ofInt]
  rw [Binary64.truncateUnits_ofInt]

/-- Either policy makes a positive end of a positive clock. -/
theorem EndTsPolicy.endTs_pos (policy : EndTsPolicy) {current : Int} (started : 1 ≤ current) :
    0 < policy.endTs current := by
  cases policy with
  | legacyMicros => exact Int.mul_pos (by omega) (by decide)
  | millis => exact started

/-- Settings that are loaded have a positive limit. -/
theorem Settings.defaultLimit_pos {environment : Environment} {threshold : Level}
    {settings : Settings} (loads : (load environment threshold).result = .ok settings) :
    0 < settings.defaultLimit :=
  (load_eq_ok_iff.1 loads).2.positive

/-! ### The rules on the bounds -/

/-- The bounds of a request. -/
def Scalar.bounds : List Scalar := [endTs, lookback, limit]

/-- Only the key and the value of a tag are reported under one field. -/
theorem Rule.eq_of_field_eq {rule other : Rule} (same : rule.field = other.field)
    (apart : other.field ≠ tagKeyGiven.field) : rule = other := by
  cases rule <;> cases other <;>
    first | rfl | exact absurd same (by decide) | exact absurd rfl apart

namespace Candidate

variable {candidate : Candidate} {breach : Breach}

/-- What a rule on the end, the limit or the lookback can be broken by. -/
theorem value_of_mem_possibleBreaches (possible : breach ∈ candidate.possibleBreaches) :
    (breach.rule = .endTsPositive → breach.value = candidate.endTs) ∧
    (breach.rule = .limitPositive → breach.value = candidate.limit) ∧
    (breach.rule = .lookbackNotNegative → breach.value = candidate.lookback) := by
  simp only [possibleBreaches, leadingBreaches, List.mem_append, List.mem_cons, List.mem_map,
    List.mem_flatMap, List.not_mem_nil, or_false] at possible
  rcases possible with
    ((((rfl | rfl | rfl | rfl) | ⟨_, _, rfl⟩) | ⟨_, _, rfl | rfl⟩) | rfl) | rfl <;> simp

/-- A candidate that is refused for its lookback meets all rules that are looked at before. -/
theorem meetsLeading_of_scan
    (scan : BreachScan candidate.Avoids candidate.possibleBreaches (some breach))
    (back : breach.rule = .lookbackNotNegative) : candidate.MeetsLeading := by
  rcases scan_iff.1 scan with leading | ⟨meets, _, _⟩
  · have listed := leading.broken_of_some.1
    simp only [leadingBreaches, List.mem_append, List.mem_cons, List.mem_map, List.mem_flatMap,
      List.not_mem_nil, or_false] at listed
    rcases listed with (((rfl | rfl | rfl | rfl) | ⟨_, _, rfl⟩) | ⟨_, _, rfl | rfl⟩) | rfl <;>
      cases back
  · exact meets

end Candidate

namespace Draft

variable {draft : Draft} {surroundings : Surroundings} {settings : Settings} {current : Int}

/-! ### What a build fills in -/

/-- The bounds that a build fills in where a draft leaves them unset: a positive end, a positive
limit, and a lookback as far as the end. -/
structure Fills (draft : Draft) (last back most : Value) : Prop where
  endTs : draft.endTs = .null → ∃ number, last = .int number ∧ 0 < number
  lookback : draft.lookback = .null → back = last
  limit : draft.limit = .null → ∃ number, most = .int number ∧ 0 < number

theorem endTsOr_of_unset (unset : draft.endTs = .null)
    (reads : surroundings.currentMillis = .ok current) :
    draft.endTsOr settings surroundings = .ok (.int (settings.endTsPolicy.endTs current)) := by
  rw [endTsOr, if_pos (Value.isNull_iff.2 unset), reads]
  rfl

theorem limitOr_of_unset (unset : draft.limit = .null) :
    draft.limitOr settings = .int settings.defaultLimit :=
  if_pos (Value.isNull_iff.2 unset)

/-- Clamping a bound by itself changes nothing. -/
theorem eq_of_clamp_self {bound clamped : Value} (gives : clamp bound bound = .ok clamped) :
    clamped = bound := by
  unfold clamp at gives
  split at gives <;> cases gives <;> rfl

/-- A limit is only filled in from settings that were loaded. -/
theorem defaultLimit_pos_of_unset (unset : draft.limit = .null)
    (loads : (draft.settings surroundings).result = .ok settings) : 0 < settings.defaultLimit := by
  rw [Draft.settings, if_pos (needsSettings_iff.2 (.inr unset))] at loads
  exact Settings.defaultLimit_pos loads

theorem fills_of_fillBounds {readable : DraftPart → Except Fault Unit}
    {bounds : Value × Value × Value} (reads : surroundings.currentMillis = .ok current)
    (started : 1 ≤ current) (loads : (draft.settings surroundings).result = .ok settings)
    (filled : draft.fillBounds readable surroundings settings = .ok bounds) :
    draft.Fills bounds.1 bounds.2.1 bounds.2.2 := by
  simp only [fillBounds, bind_eq_ok_iff] at filled
  obtain ⟨endTs, ended, _, _, lookback, clamped, _, _, _, _, made⟩ := filled
  cases made
  refine ⟨fun unset => ?_, fun unset => ?_, fun unset => ?_⟩
  · rw [endTsOr_of_unset unset reads] at ended
    cases ended
    exact ⟨_, rfl, settings.endTsPolicy.endTs_pos started⟩
  · rw [lookbackOr, if_pos (Value.isNull_iff.2 unset)] at clamped
    exact eq_of_clamp_self clamped
  · exact ⟨_, limitOr_of_unset unset, defaultLimit_pos_of_unset unset loads⟩

/-! ### Refused builds -/

end Draft

/-- What is rejected behind a step that rejects nothing is rejected behind what that step gives. -/
theorem NoRejection.exists_of_bind {α β : Type} {first : Except Fault α}
    {next : α → Except Fault β} {violation : Violation} (fair : NoRejection first)
    (refused : first >>= next = .error (.invalidArgument violation)) :
    ∃ value, first = .ok value ∧ next value = .error (.invalidArgument violation) := by
  rcases bind_eq_error_iff.1 refused with failed | later
  · cases fair _ failed
  · exact later

theorem noRejection_recordCall (threshold : Level) (logger callee : String)
    (arguments : List (String × Value)) :
    NoRejection (Observation.recordCall threshold logger callee arguments).result := by
  rw [Observation.result_recordCall]
  split
  · exact noRejection_error rfl
  · exact noRejection_ok _

/-- What is rejected is not rejected for being too long to be written. -/
theorem rejected_of_written {outcome : Except Fault Request} {violation : Violation}
    (refused : outcome >>= Request.written = .error (.invalidArgument violation)) :
    outcome = .error (.invalidArgument violation) := by
  rcases bind_eq_error_iff.1 refused with failed | ⟨request, _, unwritten⟩
  · exact failed
  · unfold Request.written at unwritten
    split at unwritten <;> cases unwritten

namespace Draft

variable {draft : Draft} {surroundings : Surroundings} {settings : Settings} {current : Int}
  {violation : Violation} {readable : DraftPart → Except Fault Unit}

theorem noRejection_readEnds (fair : ∀ part, NoRejection (readable part)) :
    NoRejection (draft.readEnds readable) := by
  intro fault failed
  obtain ⟨part, refused⟩ := draft.exists_unread_of_readEnds failed
  exact fair part fault refused

/-- A build that is refused was refused for what it filled in with what the draft sets. -/
theorem exists_fills_of_rejected (fair : ∀ part, NoRejection (readable part))
    (reads : surroundings.currentMillis = .ok current) (started : 1 ≤ current)
    (refused : (draft.buildWhere readable surroundings).result =
      .error (.invalidArgument violation)) :
    ∃ last back most, draft.Fills last back most ∧
      (draft.candidate last back most).accept = .error (.invalidArgument violation) := by
  simp only [buildWhere_eq, answer, Observed.result_bind, Observed.result_ofExcept,
    result_observe] at refused
  obtain ⟨_, _, refused⟩ := (noRejection_readEnds fair).exists_of_bind refused
  obtain ⟨settings, loads, refused⟩ :=
    (draft.noRejection_settings surroundings).exists_of_bind refused
  obtain ⟨bounds, filled, refused⟩ :=
    (draft.noRejection_fillBounds surroundings fair settings).exists_of_bind refused
  obtain ⟨_, _, refused⟩ := (noRejection_recordCall _ _ _ _).exists_of_bind refused
  refine ⟨bounds.1, bounds.2.1, bounds.2.2, fills_of_fillBounds reads started loads filled, ?_⟩
  replace refused := rejected_of_written refused
  rw [acceptWhere] at refused
  iterate 5 obtain ⟨_, _, refused⟩ := (fair _).exists_of_bind refused
  exact refused

/-- What is filled in is not what a candidate is refused for. -/
theorem Fills.set_of_scan {last back most : Value} {breach : Breach}
    (fills : draft.Fills last back most)
    (scan : BreachScan (draft.candidate last back most).Avoids
      (draft.candidate last back most).possibleBreaches (some breach)) :
    (breach.rule = .endTsPositive → draft.endTs ≠ .null) ∧
    (breach.rule = .lookbackNotNegative → draft.lookback ≠ .null) ∧
    (breach.rule = .limitPositive → draft.limit ≠ .null) := by
  obtain ⟨possible, broken⟩ := scan.broken_of_some
  obtain ⟨atEnd, atLimit, atLookback⟩ := Candidate.value_of_mem_possibleBreaches possible
  unfold Candidate.Avoids at broken
  refine ⟨fun rule unset => ?_, fun rule unset => ?_, fun rule unset => ?_⟩
  · rw [rule, atEnd rule] at broken
    exact broken (fills.endTs unset)
  · -- The lookback is looked at last, so that the end it reaches to is positive.
    obtain ⟨number, ends, positive⟩ := (Candidate.meetsLeading_of_scan scan rule).endTs
    rw [rule, atLookback rule] at broken
    exact broken ⟨number, (fills.lookback unset).trans ends, Int.le_of_lt positive⟩
  · rw [rule, atLimit rule] at broken
    exact broken (fills.limit unset)

/-- A bound that a build is refused for was set. -/
theorem set_of_rejected (fair : ∀ part, NoRejection (readable part))
    (reads : surroundings.currentMillis = .ok current) (started : 1 ≤ current)
    (refused : (draft.buildWhere readable surroundings).result =
      .error (.invalidArgument violation))
    {bound : Scalar} (listed : bound ∈ Scalar.bounds) (blamed : violation.field = bound.name) :
    draft.get bound ≠ .null := by
  obtain ⟨last, back, most, fills, refused⟩ :=
    exists_fills_of_rejected fair reads started refused
  obtain ⟨breach, scan, reports⟩ := Candidate.accept_eq_invalidArgument_iff.1 refused
  obtain ⟨ends, reaches, caps⟩ := fills.set_of_scan scan
  rw [reports.field_eq] at blamed
  simp only [Scalar.bounds, List.mem_cons, List.not_mem_nil, or_false] at listed
  rcases listed with rfl | rfl | rfl
  · exact ends (@Rule.eq_of_field_eq _ .endTsPositive blamed (by decide))
  · exact reaches (@Rule.eq_of_field_eq _ .lookbackNotNegative blamed (by decide))
  · exact caps (@Rule.eq_of_field_eq _ .limitPositive blamed (by decide))

/-! ### Accepted builds -/

/-- A draft meets the rules on names, annotations, tags and durations: those that look at no bound
of the request. -/
structure MeetsFilterRules (draft : Draft) : Prop where
  serviceName : draft.serviceName.truthy = true
  spanName : draft.spanName = .null ∨ draft.spanName.truthy = true
  annotations : ∀ note ∈ draft.annotations, note.truthy = true
  tags : ∀ tag ∈ draft.tags, tag.1.truthy = true ∧ tag.2.truthy = true
  maxDuration : draft.maxDuration = .null ∨ draft.minDuration ≠ .null

/-- Whether the names of a draft are texts; the span name may be unset. -/
def HasTextNames (draft : Draft) : Prop :=
  (∃ name, draft.serviceName = .text name) ∧ ∃ name?, draft.spanName = .ofText? name?

section Bounded

variable {last back most : Int}

/-- With proper bounds filled in, the other rules are all there is to meet. -/
theorem MeetsFilterRules.avoids (meets : draft.MeetsFilterRules) (ends : 0 < last)
    (reaches : 0 ≤ back) (caps : 0 < most) :
    let candidate := draft.candidate (.int last) (.int back) (.int most)
    ∀ breach ∈ candidate.possibleBreaches, candidate.Avoids breach :=
  Candidate.avoidsAll_iff.2 ⟨
    { serviceName := meets.serviceName
      spanName := meets.spanName
      endTs := ⟨last, rfl, ends⟩
      limit := ⟨most, rfl, caps⟩
      annotations := meets.annotations
      tags := meets.tags
      maxDuration := meets.maxDuration },
    back, rfl, reaches⟩

theorem MeetsFilterRules.exists_request (meets : draft.MeetsFilterRules)
    (texts : draft.HasTextNames) (ends : 0 < last) (reaches : 0 ≤ back) (caps : 0 < most) :
    ∃ request, (draft.candidate (.int last) (.int back) (.int most)).accept = .ok request ∧
      request.endTs = last ∧ request.lookback = back ∧ request.limit = most := by
  obtain ⟨request, accepted⟩ :=
    Candidate.exists_request_iff.2 ⟨meets.avoids ends reaches caps, texts⟩
  obtain ⟨_, becomes⟩ := Candidate.accept_eq_ok_iff.1 accepted
  exact ⟨request, accepted, (Value.int.inj becomes.endTs).symm,
    (Value.int.inj becomes.lookback).symm, (Value.int.inj becomes.limit).symm⟩

end Bounded

section Unset

variable {lookback? : Option Int} (unset : draft.endTs = .null)
  (reaches : draft.lookback = .ofInt? lookback?)
  (loads : (Settings.load surroundings.environment surroundings.threshold).result = .ok settings)
  (reads : surroundings.currentMillis = .ok current)

include unset reaches loads reads

/-- A build whose end is unset reaches back from the clock, as far as the lookback says and never
behind the epoch. -/
theorem result_build_of_endTs_unset :
    let last := settings.endTsPolicy.endTs current
    (draft.build surroundings).result =
      (draft.candidate (.int last) (.int (min (lookback?.getD last) last))
        (draft.limitOr settings)).built surroundings.threshold := by
  intro last
  rw [result_build_under fun _ => loads, endTsOr_of_unset unset reads, ok_bind,
    lookbackOr_of_optional reaches, clamp_int, ok_bind]

omit unset in
/-- What such a build proposes can be written if the draft can. -/
theorem IsWritable.candidate_of_endTs_unset (writable : draft.IsWritable) :
    let last := settings.endTsPolicy.endTs current
    (draft.candidate (.int last) (.int (min (lookback?.getD last) last))
      (draft.limitOr settings)).IsWritable := by
  intro last
  have ends : (Value.int last).isWritable = true := Surroundings.isWritable_endTs reads _
  have back : (draft.lookbackOr (.int last)).isWritable = true :=
    isWritable_lookbackOr (writable.part (.scalar .lookback)) ends
  have caps : (draft.limitOr settings).isWritable = true :=
    isWritable_limitOr (writable.part (.scalar .limit))
      fun _ => Settings.isWritable_defaultLimit loads
  rw [lookbackOr_of_optional reaches] at back
  exact writable.candidate ends (isWritable_clamp back ends (clamp_int _ last)) caps

end Unset

/-- With all its bounds unset, a draft that can be written is built under the clock and the settings
alone. -/
theorem result_build_of_unset (writable : draft.IsWritable)
    (unset : ∀ bound ∈ Scalar.bounds, draft.get bound = .null)
    (loads : (Settings.load surroundings.environment surroundings.threshold).result = .ok settings)
    (reads : surroundings.currentMillis = .ok current) :
    let last := settings.endTsPolicy.endTs current
    (draft.build surroundings).result =
      (draft.candidate (.int last) (.int last) (.int settings.defaultLimit)).accept := by
  intro last
  have ends : draft.endTs = .null := unset .endTs (by decide)
  have reaches : draft.lookback = .ofInt? none := unset .lookback (by decide)
  have caps : draft.limit = .null := unset .limit (by decide)
  rw [result_build_of_endTs_unset ends reaches loads reads,
    Candidate.built_of_writable (writable.candidate_of_endTs_unset reaches loads reads),
    limitOr_of_unset caps]
  show (draft.candidate (.int last) (.int (min last last)) _).accept = _
  rw [Int.min_self]

end Draft

/-- A draft whose parts can all be read is built as the draft of its parts. -/
theorem OpenedDraft.build_eq_of_readable {draft : OpenedDraft} {surroundings : Surroundings}
    (whole : ∀ part, draft.readable part = .ok ()) :
    draft.build surroundings = draft.shape.build surroundings := by
  rw [OpenedDraft.build, funext whole]
  rfl

namespace Draft

/-- Defaults are never what a build is refused for. If it is refused for its end, its lookback or
its limit, that bound was set, in a draft that was only edited and in one whose members were
assigned. Hence a draft that sets none of them, meets the rules on all else and can be written is
accepted whenever the settings load; its end is the clock under the policy, its lookback reaches as
far, and its limit is the configured one. All that it can fail for is a name that is no text. -/
theorem defaults_break_no_rule (surroundings : Surroundings) {current : Int}
    (reads : surroundings.currentMillis = .ok current) (started : 1 ≤ current) :
    (∀ (draft : Draft) (violation : Violation),
      (draft.build surroundings).result = .error (.invalidArgument violation) →
      ∀ bound ∈ Scalar.bounds, violation.field = bound.name → draft.get bound ≠ .null) ∧
    (∀ (draft : OpenedDraft) (violation : Violation),
      (draft.build surroundings).result = .error (.invalidArgument violation) →
      ∀ bound ∈ Scalar.bounds, violation.field = bound.name → draft.shape.get bound ≠ .null) ∧
    (∀ draft : OpenedDraft, (∀ part, draft.readable part = .ok ()) →
      draft.build surroundings = draft.shape.build surroundings) ∧
    ∀ (draft : Draft) (settings : Settings), draft.IsWritable →
      (∀ bound ∈ Scalar.bounds, draft.get bound = .null) → draft.MeetsFilterRules →
      (Settings.load surroundings.environment surroundings.threshold).result = .ok settings →
      (draft.HasTextNames → ∃ request,
        (draft.build surroundings).result = .ok request ∧
        request.endTs = settings.endTsPolicy.endTs current ∧ request.lookback = request.endTs ∧
        request.limit = settings.defaultLimit) ∧
      (¬ draft.HasTextNames → ∃ owner,
        (draft.build surroundings).result = .error (.noMember owner "lower")) := by
  refine ⟨?_, ?_, fun draft => OpenedDraft.build_eq_of_readable, ?_⟩
  · intro draft violation refused bound listed blamed
    exact set_of_rejected (fun _ => noRejection_ok ()) reads started refused listed blamed
  · intro draft violation refused bound listed blamed
    exact set_of_rejected draft.noRejection_readable reads started refused listed blamed
  · intro draft settings writable unset meets loads
    have ends := settings.endTsPolicy.endTs_pos started
    have caps := Settings.defaultLimit_pos loads
    rw [result_build_of_unset writable unset loads reads]
    constructor
    · intro texts
      obtain ⟨request, built, atEnd, back, limited⟩ :=
        meets.exists_request texts ends (Int.le_of_lt ends) caps
      exact ⟨request, built, atEnd, back.trans atEnd.symm, limited⟩
    · intro bare
      exact Candidate.exists_noMember (meets.avoids ends (Int.le_of_lt ends) caps) bare

/-- One and a half seconds after the epoch, a draft with nothing but a service is accepted; with a
limit of zero it is refused for that limit. -/
theorem defaults_break_no_rule_after_epoch :
    let surroundings : Surroundings :=
      { environment := .empty
        clock := ⟨false, ⟨1023, by decide⟩, ⟨2251799813685248, by decide⟩⟩
        threshold := .warning }
    let draft : Draft := { Draft.empty with serviceName := .text "Api" }
    let limited : Draft := { draft with endTs := .int 7, lookback := .int 3, limit := .int 0 }
    surroundings.currentMillis = .ok 1500 ∧
      (∃ request, (draft.build surroundings).result = .ok request ∧
        request.endTs = 1500000 ∧ request.lookback = request.endTs ∧ request.limit = 10) ∧
      (limited.build surroundings).result = .error (.invalidArgument
        ⟨"limit should be positive: was 0", "limit", .int 0⟩) ∧
      limited.get .limit ≠ .null := by
  intro surroundings draft limited
  have reads : surroundings.currentMillis = .ok 1500 :=
    Surroundings.currentMillis_of_quantity (by decide +kernel)
  have sound := defaults_break_no_rule surroundings reads (by decide)
  have meets : draft.MeetsFilterRules := ⟨rfl, .inl rfl, nofun, nofun, .inl rfl⟩
  have unset : ∀ bound ∈ Scalar.bounds, draft.get bound = .null := by
    simp [Scalar.bounds, draft, get, empty]
  have loads : (Settings.load surroundings.environment surroundings.threshold).result =
      .ok .standard := Settings.result_load _ _
  have built := (sound.2.2.2 draft .standard (by decide +kernel) unset meets loads).1
    ⟨⟨"Api", rfl⟩, none, rfl⟩
  have zero : (Value.int 0).isWritable = true := Numeral.isWritable_zero
  have written : (Value.int 0).plain = .ok "0" := Value.ifWritable_of_writable zero "0"
  have refused : (limited.build surroundings).result = .error (.invalidArgument
      ⟨"limit should be positive: was 0", "limit", .int 0⟩) := by
    rw [result_build_of_set_of_writable (by decide +kernel) Value.noConfusion Value.noConfusion]
    show (clamp (.int 3) (.int 7) >>= _) = _
    rw [clamp_int]
    exact congrArg Except.error (Breach.Reports.limitPositive written).fault_eq
  exact ⟨reads, built, refused, sound.1 limited _ refused .limit (by decide) rfl⟩

/-- A draft that sets no bound and meets the rules on all else is not accepted if its least duration
has too many digits to be written, whatever the settings and the threshold are. -/
theorem not_built_of_long_minDuration {number : Int}
    (long : Numeral.isWritable number = false) {surroundings : Surroundings} {settings : Settings}
    {current : Int} (started : 1 ≤ current)
    (loads : (Settings.load surroundings.environment surroundings.threshold).result = .ok settings)
    (reads : surroundings.currentMillis = .ok current) :
    let draft : Draft := { Draft.empty with serviceName := .text "api", minDuration := .int number }
    (∀ bound ∈ Scalar.bounds, draft.get bound = .null) ∧ draft.MeetsFilterRules ∧
      draft.HasTextNames ∧ (draft.build surroundings).result = .error .tooLong := by
  intro draft
  have unset : ∀ bound ∈ Scalar.bounds, draft.get bound = .null := by
    simp [Scalar.bounds, draft, get, empty]
  have meets : draft.MeetsFilterRules := ⟨rfl, .inl rfl, nofun, nofun, .inl rfl⟩
  have texts : draft.HasTextNames := ⟨⟨"api", rfl⟩, none, rfl⟩
  refine ⟨unset, meets, texts, ?_⟩
  have ends := settings.endTsPolicy.endTs_pos started
  have caps := Settings.defaultLimit_pos loads
  have reaches : draft.lookback = .ofInt? none := rfl
  obtain ⟨request, accepted, _⟩ := meets.exists_request texts ends (Int.le_of_lt ends) caps
  rw [result_build_of_endTs_unset rfl reaches loads reads, Option.getD_none, Int.min_self]
  have least : ("min_duration", Value.int number) ∈ (draft.candidate
      (.int (settings.endTsPolicy.endTs current)) (.int (settings.endTsPolicy.endTs current))
      (.int settings.defaultLimit)).fields := by
    simp [Candidate.fields, candidate, draft]
  exact Candidate.built_of_long_field accepted least long surroundings.threshold

/-- One and a half seconds after the epoch, two drafts that set no bound and meet the rules on all
else are not built: one whose service is a number, which has no lower case, and one with a least
duration of 4301 digits. -/
theorem not_built_of_numbered_service_nor_long_minDuration :
    let surroundings : Surroundings :=
      { environment := .empty
        clock := ⟨false, ⟨1023, by decide⟩, ⟨2251799813685248, by decide⟩⟩
        threshold := .warning }
    let numbered : Draft := { Draft.empty with serviceName := .int 5 }
    let long : Draft :=
      { Draft.empty with serviceName := .text "api", minDuration := .int (10 ^ 4300) }
    surroundings.currentMillis = .ok 1500 ∧
      (Settings.load surroundings.environment surroundings.threshold).result = .ok .standard ∧
      ((∀ bound ∈ Scalar.bounds, numbered.get bound = .null) ∧ numbered.MeetsFilterRules ∧
        (numbered.build surroundings).result = .error (.noMember "int" "lower")) ∧
      (∀ bound ∈ Scalar.bounds, long.get bound = .null) ∧ long.MeetsFilterRules ∧
      long.HasTextNames ∧ (long.build surroundings).result = .error .tooLong := by
  intro surroundings numbered long
  have reads : surroundings.currentMillis = .ok 1500 :=
    Surroundings.currentMillis_of_quantity (by decide +kernel)
  have loads : (Settings.load surroundings.environment surroundings.threshold).result =
      .ok .standard := Settings.result_load _ _
  have unset : ∀ bound ∈ Scalar.bounds, numbered.get bound = .null := by
    simp [Scalar.bounds, numbered, get, empty]
  have failed : (numbered.build surroundings).result = .error (.noMember "int" "lower") := by
    rw [result_build_of_unset (by decide +kernel) unset loads reads]
    rfl
  exact ⟨reads, loads, ⟨unset, ⟨rfl, .inl rfl, nofun, nofun, .inl rfl⟩, failed⟩,
    not_built_of_long_minDuration Numeral.isWritable_leastLong (by decide) loads reads⟩

end Draft

end TraceFilter
