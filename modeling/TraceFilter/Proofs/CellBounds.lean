/-
Module: TraceFilter.Proofs.CellBounds
Purpose: Which time ranges the cells of the span table can hold: those of built requests that end no
  later than a certain millisecond. A clock that is far enough on is past it, and no rule on
  requests keeps an end from being.
Main exports: Window.RangeFits, Request.Built.rangeFits_iff, Candidate.accept_ending_of_accept,
  Draft.build_ending, Request.range_fits_cells_iff
-/
import TraceFilter.Proofs.PresentInstant
import TraceFilter.Spans.Store

namespace TraceFilter

/-! ### Time ranges in cells -/

theorem fitsCell_iff {number : Int} :
    fitsCell number = true ↔ -wordLimit ≤ number ∧ number < wordLimit := by
  simp [fitsCell]

/-- The cells of the span table can hold both ends of the time range of a window. -/
structure Window.RangeFits (window : Window) : Prop where
  startTs : fitsCell window.startTs = true
  endTs : fitsCell window.endTs = true

theorem Window.rangeFits_iff {window : Window} :
    window.RangeFits ↔ (-wordLimit ≤ window.startTs ∧ window.startTs < wordLimit) ∧
      -wordLimit ≤ window.endTs ∧ window.endTs < wordLimit := by
  rw [← fitsCell_iff, ← fitsCell_iff]
  exact ⟨fun fits => ⟨fits.startTs, fits.endTs⟩, fun fits => ⟨fits.1, fits.2⟩⟩

namespace Request.Built

variable {request : Request} {window : Window}

/-- A built request starts no earlier than the epoch. -/
theorem range_nonneg (built : request.Built) (made : Window.ofRequest request = .ok window) :
    0 ≤ window.startTs ∧ window.startTs ≤ window.endTs := by
  obtain ⟨starts, ends⟩ := Window.bounds_of_ofRequest made
  have back := (Obtained.built built).wellFormed.lookback
  have within := built.lookback_le_endTs
  omega

/-- Since a built request starts between the epoch and its end, its end alone decides. -/
theorem rangeFits_iff (built : request.Built) (made : Window.ofRequest request = .ok window) :
    window.RangeFits ↔ request.endTs ≤ 9223372036854775 := by
  obtain ⟨started, ordered⟩ := built.range_nonneg made
  have ends := (Window.bounds_of_ofRequest made).2
  rw [Window.rangeFits_iff, wordLimit]
  omega

end Request.Built

/-! ### Ends that are left to the clock -/

namespace EndTsPolicy

theorem one_le_of_endTs_pos {policy : EndTsPolicy} {current : Int}
    (positive : 0 < policy.endTs current) : 1 ≤ current := by
  cases policy with
  | legacyMicros =>
    have thousandfold : legacyMicros.endTs current = current * 1000 := rfl
    omega
  | millis => exact positive

/-- The legacy policy is at the limit a thousand times sooner. -/
theorem legacyMicros_endTs_le_iff {current : Int} :
    legacyMicros.endTs current ≤ 9223372036854775 ↔ current ≤ 9223372036854 := by
  have thousandfold : legacyMicros.endTs current = current * 1000 := rfl
  omega

end EndTsPolicy

/-! ### Later ends -/

namespace Candidate

variable {candidate : Candidate} {request : Request} {last back : Int}

/-- A candidate with another end. -/
def ending (candidate : Candidate) (endTs : Value) : Candidate :=
  { candidate with endTs }

/-- An accepted candidate is accepted with any other positive end. -/
theorem accept_ending_of_accept (accepted : candidate.accept = .ok request)
    (positive : 0 < last) :
    (candidate.ending (.int last)).accept = .ok { request with endTs := last } := by
  obtain ⟨avoided, becomes⟩ := accept_eq_ok_iff.1 accepted
  obtain ⟨meets, back⟩ := avoidsAll_iff.1 avoided
  refine accept_eq_ok_iff.2 ⟨avoidsAll_iff.2 ⟨?_, back⟩, { becomes with endTs := rfl }⟩
  exact { meets with endTs := ⟨last, rfl, positive⟩ }

end Candidate

namespace Draft

variable {draft : Draft} {surroundings : Surroundings} {request : Request}

/-- As long as some end is set, it has no say in whether settings are needed. -/
theorem settings_ending (endTsSet : draft.endTs ≠ .null) {endTs : Value} (given : endTs ≠ .null) :
    ({ draft with endTs }).settings surroundings = draft.settings surroundings := by
  rw [← Value.isNull_eq_false_iff] at endTsSet given
  have sameNeed : ({ draft with endTs } : Draft).needsSettings = draft.needsSettings := by
    simp [needsSettings, endTsSet, given]
  rw [Draft.settings, sameNeed]
  rfl

/-- A draft that sets its end and is built is built with every later end, as long as that can be
written. -/
theorem build_ending {lookback? : Option Int} {later : Int}
    (reaches : draft.lookback = .ofInt? lookback?) (endTsSet : draft.endTs ≠ .null)
    (gives : (draft.build surroundings).result = .ok request) (further : request.endTs ≤ later) :
    ({ draft with endTs := .int later }.build surroundings).result =
      if Numeral.isWritable later then
        .ok { request with endTs := later, lookback := min (lookback?.getD later) later }
      else .error .tooLong := by
  have wellFormed := (Request.Obtained.built (.ofDraft draft surroundings gives)).wellFormed
  have positive : 0 < later := Int.lt_of_lt_of_le wellFormed.endTs further
  have notNegative : 0 ≤ min (lookback?.getD later) later := by
    have back := wellFormed.lookback
    rw [lookback_of_build reaches gives] at back
    cases lookback? with
    | none => simp only [Option.getD_none] at back ⊢; omega
    | some number => simp only [Option.getD_some] at back ⊢; omega
  rw [result_build] at gives
  simp only [bind_eq_ok_iff] at gives
  obtain ⟨settings, loaded, _, _, _, _, built⟩ := gives
  obtain ⟨accepted, writable⟩ := Candidate.built_eq_ok_iff.1 built
  let other : Draft := { draft with endTs := .int later }
  have sameSettings : other.settings surroundings = draft.settings surroundings :=
    settings_ending endTsSet Value.noConfusion
  have ends : other.endTsOr settings surroundings = .ok (.int later) := rfl
  have back : other.lookbackOr (.int later) = .int (lookback?.getD later) :=
    lookbackOr_of_optional reaches
  have again := Candidate.accept_reaching_of_accept
    (Candidate.accept_ending_of_accept accepted positive) notNegative
  rw [result_build, sameSettings, loaded, ok_bind, ends, ok_bind, back, clamp_int, ok_bind]
  cases short : Numeral.isWritable later with
  | true =>
    have nearer : (min (lookback?.getD later) later).natAbs ≤ later.natAbs := by omega
    have whole := Request.isWritable_ranging writable short
      (Numeral.isWritable_of_natAbs_le nearer short)
    exact Candidate.built_eq_ok_iff.2 ⟨again, whole⟩
  | false =>
    have atEnd : ("end_ts", Value.int later) ∈ Candidate.fields (other.candidate (.int later)
        (.int (min (lookback?.getD later) later)) (draft.limitOr settings)) := by
      simp [Candidate.fields, candidate]
    exact Candidate.built_of_long_field again atEnd short surroundings.threshold

/-- A search that ends five milliseconds after the epoch reaches back no further. -/
theorem build_of_early_end (clock : Binary64) (threshold : Level) :
    let draft : Draft :=
      { Draft.empty with serviceName := .text "api", endTs := .int 5, lookback := .int 7 }
    (draft.build ⟨.empty, clock, threshold⟩).result =
      .ok { serviceName := "api", spanName := none, annotations := [], tags := []
            minDuration := .null, maxDuration := .null, endTs := 5, lookback := 5
            limit := 10 } := by
  intro draft
  have loads : (draft.settings ⟨.empty, clock, threshold⟩).result = .ok .standard :=
    Settings.result_load _ _
  have ends : draft.endTsOr .standard ⟨.empty, clock, threshold⟩ = .ok (.int 5) := rfl
  have back : draft.lookbackOr (.int 5) = .int 7 := rfl
  have writable : draft.IsWritable := by decide +kernel
  rw [result_build_of_writable writable, loads, ok_bind, ends, ok_bind, back, clamp_int]
  rfl

end Draft

namespace Request

/-- The time range of a built request never starts before the epoch, and the cells of the span table
can hold it exactly if the request ends no later than a certain millisecond. If the end was left to
the clock, that is a bound on the clock, a thousand times lower under the legacy policy, whatever
the lookback is. Nothing keeps a request within it: a draft that is accepted with an end of its own
is accepted with every later one, as long as that can be written. -/
theorem range_fits_cells_iff :
    (∀ request : Request, request.Built →
      request.minDuration.kind ∈ [Kind.null, .bool, .int] →
      request.maxDuration.kind ∈ [Kind.null, .bool, .int] →
      ∃ window, Window.ofRequest request = .ok window ∧
        0 ≤ window.startTs ∧ 0 ≤ window.endTs ∧
        (window.RangeFits ↔ request.endTs ≤ 9223372036854775)) ∧
    (∀ (draft : Draft) (surroundings : Surroundings) (request : Request),
      draft.endTs = .null → (draft.build surroundings).result = .ok request →
      ∃ settings current,
        (Settings.load surroundings.environment surroundings.threshold).result = .ok settings ∧
        surroundings.currentMillis = .ok current ∧ 1 ≤ current ∧
        ∀ window, Window.ofRequest request = .ok window →
          (settings.endTsPolicy = .millis → (window.RangeFits ↔ current ≤ 9223372036854775)) ∧
          (settings.endTsPolicy = .legacyMicros →
            (window.RangeFits ↔ current ≤ 9223372036854))) ∧
    ∀ (draft : Draft) (surroundings : Surroundings) (request : Request) (lookback? : Option Int)
      (later : Int),
      draft.lookback = .ofInt? lookback? → draft.endTs ≠ .null →
      (draft.build surroundings).result = .ok request → request.endTs ≤ later →
      ({ draft with endTs := .int later }.build surroundings).result =
        if Numeral.isWritable later then
          .ok { request with endTs := later, lookback := min (lookback?.getD later) later }
        else .error .tooLong := by
  refine ⟨?_, ?_, ?_⟩
  · intro request built least most
    obtain ⟨window, made⟩ := Window.exists_ofRequest least most
    obtain ⟨started, ordered⟩ := built.range_nonneg made
    exact ⟨window, made, started, Int.le_trans started ordered, built.rangeFits_iff made⟩
  · intro draft surroundings request unset gives
    have built : request.Built := .ofDraft draft surroundings gives
    rcases Draft.endsAt_of_build gives with set | ⟨_, settings, current, loads, reads, ends⟩
    · rw [unset] at set
      cases set
    · have positive := (Obtained.built built).wellFormed.endTs
      rw [ends] at positive
      refine ⟨settings, current, loads, reads, EndTsPolicy.one_le_of_endTs_pos positive, ?_⟩
      intro window made
      rw [built.rangeFits_iff made, ends]
      constructor
      · intro millis
        rw [millis]
        exact Iff.rfl
      · intro legacy
        rw [legacy]
        exact EndTsPolicy.legacyMicros_endTs_le_iff
  · intro draft surroundings request lookback? later reaches endTsSet gives further
    exact Draft.build_ending reaches endTsSet gives further

/-- When the clock is at two to the thirty-fourth seconds, cells cannot hold the time range of a
search under the legacy policy, but that of one in milliseconds. They hold no search that ends at
9223372036854776, which is built as one that ends at 5 is. -/
theorem range_fits_cells_iff_of_late_clock :
    let surroundings (policy : Option String) : Surroundings :=
      { environment := ⟨policy, none⟩
        clock := ⟨false, ⟨1057, by decide⟩, ⟨0, by decide⟩⟩
        threshold := .warning }
    let draft (endTs : Value) : Draft :=
      { Draft.empty with serviceName := .text "api", endTs, lookback := .int 7 }
    (surroundings none).currentMillis = .ok 17179869184000 ∧
      (∃ request window, ((draft .null).build (surroundings none)).result = .ok request ∧
        Window.ofRequest request = .ok window ∧ ¬ window.RangeFits) ∧
      (∃ request window, ((draft .null).build (surroundings (some "millis"))).result = .ok request ∧
        Window.ofRequest request = .ok window ∧ window.RangeFits) ∧
      ∃ request window,
        ((draft (.int 9223372036854776)).build (surroundings none)).result = .ok request ∧
        Window.ofRequest request = .ok window ∧ ¬ window.RangeFits := by
  intro surroundings draft
  have reads (policy : Option String) :
      (surroundings policy).currentMillis = .ok 17179869184000 := by
    refine Surroundings.currentMillis_of_quantity ?_
    show (Binary64.scaleBy ⟨false, ⟨1057, by decide⟩, ⟨0, by decide⟩⟩ 1000).quantity = _
    decide +kernel
  have bare : Value.null.kind ∈ [Kind.null, .bool, .int] := by decide
  obtain ⟨fits, fitsOfClock, later⟩ := range_fits_cells_iff
  let request (last : Int) : Request :=
    { serviceName := "api", spanName := none, annotations := [], tags := []
      minDuration := .null, maxDuration := .null, endTs := last, lookback := 7, limit := 10 }
  have back (endTs : Value) : (draft endTs).lookback = .ofInt? (some 7) := rfl
  have loads : (Settings.load .empty .warning).result = .ok .standard := Settings.result_load _ _
  have loadsMillis : (Settings.load ⟨some "millis", none⟩ .warning).result =
      .ok ⟨.millis, Settings.standardLimit⟩ := Settings.result_load _ _
  have writable : (draft .null).IsWritable := by decide +kernel
  have builtLegacy : ((draft .null).build (surroundings none)).result =
      .ok (request 17179869184000000) := by
    rw [Draft.result_build_of_endTs_unset rfl (back _) loads (reads none),
      Candidate.built_of_writable
        (writable.candidate_of_endTs_unset (back _) loads (reads none))]
    rfl
  have builtMillis : ((draft .null).build (surroundings (some "millis"))).result =
      .ok (request 17179869184000) := by
    rw [Draft.result_build_of_endTs_unset rfl (back _) loadsMillis (reads _),
      Candidate.built_of_writable
        (writable.candidate_of_endTs_unset (back _) loadsMillis (reads (some "millis")))]
    rfl
  have builtEarly : ((draft (.int 5)).build (surroundings none)).result =
      .ok { request 5 with lookback := 5 } :=
    Draft.build_of_early_end _ .warning
  have short : Numeral.isWritable 9223372036854776 = true := by decide +kernel
  have builtLate := (later _ _ _ (some 7) 9223372036854776 (back (.int 5)) Value.noConfusion
    builtEarly (by decide)).trans (if_pos short)
  obtain ⟨window, made, _, _, _⟩ := fits _ (.ofDraft _ _ builtLegacy) bare bare
  obtain ⟨legacy, _, loaded, readsLegacy, _, fitsLegacy⟩ := fitsOfClock _ _ _ rfl builtLegacy
  cases loads.symm.trans loaded
  cases (reads none).symm.trans readsLegacy
  obtain ⟨wider, madeMillis, _, _, _⟩ := fits _ (.ofDraft _ _ builtMillis) bare bare
  obtain ⟨millis, _, loaded, readsMillis, _, fitsMillis⟩ := fitsOfClock _ _ _ rfl builtMillis
  cases loadsMillis.symm.trans loaded
  cases (reads (some "millis")).symm.trans readsMillis
  obtain ⟨last, madeLate, _, _, fitsLate⟩ := fits _ (.ofDraft _ _ builtLate) bare bare
  refine ⟨reads none, ⟨_, window, builtLegacy, made, ?_⟩, ⟨_, wider, builtMillis, madeMillis, ?_⟩,
    _, last, builtLate, madeLate, ?_⟩
  · rw [(fitsLegacy window made).2 rfl]
    decide
  · exact ((fitsMillis wider madeMillis).1 rfl).2 (by decide)
  · rw [fitsLate]
    decide

/-- A request has no window if its least duration cannot be read. -/
theorem not_made_of_minDuration {request : Request} {fault : FieldFault}
    (unread : Window.readOptionalBound request.minDuration = .error fault) :
    ¬ ∃ window, Window.ofRequest request = .ok window := by
  rw [Window.ofRequest_eq, unread]
  rintro ⟨window, made⟩
  cases made

/-- A draft that is built with an early end is not built with a later one that has too many digits
to be written. -/
theorem not_built_of_long_end {number : Int} (later : 5 ≤ number)
    (long : Numeral.isWritable number = false) {clock : Binary64} {threshold : Level} :
    let draft (endTs : Int) : Draft :=
      { Draft.empty with serviceName := .text "api", endTs := .int endTs, lookback := .int 7 }
    let surroundings : Surroundings := ⟨.empty, clock, threshold⟩
    (∃ request, ((draft 5).build surroundings).result = .ok request ∧
      request.endTs ≤ number) ∧
      ((draft number).build surroundings).result = .error .tooLong := by
  intro draft surroundings
  have built := Draft.build_of_early_end clock threshold
  have late := @Draft.build_ending (draft 5) surroundings _ (some 7) number rfl Value.noConfusion
    built later
  rw [long, if_neg Bool.false_ne_true] at late
  exact ⟨⟨_, built, later⟩, late⟩

/-- One and a half seconds after the epoch, a search with a text for its least duration is built,
but has no time range. And an end of 4301 digits keeps a draft from being built that is built with
an end of five. -/
theorem no_range_of_text_duration_nor_build_of_long_end :
    let surroundings : Surroundings :=
      { environment := .empty
        clock := ⟨false, ⟨1023, by decide⟩, ⟨2251799813685248, by decide⟩⟩
        threshold := .warning }
    let vague : Draft :=
      { Draft.empty with serviceName := .text "api", minDuration := .text "soon" }
    let ending (endTs : Int) : Draft :=
      { Draft.empty with serviceName := .text "api", endTs := .int endTs, lookback := .int 7 }
    (surroundings.currentMillis = .ok 1500 ∧
      ∃ request, (vague.build surroundings).result = .ok request ∧
        ¬ ∃ window, Window.ofRequest request = .ok window) ∧
      (∃ request, ((ending 5).build surroundings).result = .ok request ∧
        request.endTs ≤ 10 ^ 4300) ∧
      ((ending (10 ^ 4300)).build surroundings).result = .error .tooLong := by
  intro surroundings vague ending
  have reads : surroundings.currentMillis = .ok 1500 :=
    Surroundings.currentMillis_of_quantity (by decide +kernel)
  have loads : (Settings.load surroundings.environment surroundings.threshold).result =
      .ok .standard := Settings.result_load _ _
  have unset : ∀ bound ∈ Scalar.bounds, vague.get bound = .null := by
    simp [Scalar.bounds, vague, Draft.get, Draft.empty]
  have built := Draft.result_build_of_unset (by decide +kernel) unset loads reads
  have unread : Window.readOptionalBound (.text "soon") = .error .notNumeral := rfl
  exact ⟨⟨reads, _, built.trans rfl, not_made_of_minDuration unread⟩,
    not_built_of_long_end (by decide +kernel) Numeral.isWritable_leastLong⟩

end Request

end TraceFilter
