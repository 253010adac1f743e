/-
Module: TraceFilter.Proofs.PresentInstant
Purpose: Which searches up to now cover the present: all under the policy of milliseconds, and under
  the legacy policy those alone whose lookback makes up for the larger unit of their end.
Main exports: Window.LiesAfter, Draft.SearchesUpToNow, EndTsPolicy.reaches_present_iff,
  Draft.present_covered_iff
-/
import TraceFilter.Proofs.DefaultBounds
import TraceFilter.Proofs.WindowBounds

namespace TraceFilter

/-! ### Windows behind an instant -/

/-- A window lies after a timestamp if it covers something, and nothing up to that timestamp. -/
def Window.LiesAfter (window : Window) (timestamp : Int) : Prop :=
  (∃ later, window.Covers later) ∧ ∀ later, window.Covers later → timestamp < later

theorem Window.Spans.liesAfter_iff {window : Window} {first last timestamp : Int}
    (spans : window.Spans first last) :
    window.LiesAfter timestamp ↔ timestamp < 1000 * first := by
  constructor
  · rintro ⟨⟨later, covered⟩, after⟩
    rw [spans.covers_iff] at covered
    exact after (1000 * first) (spans.covers_iff.2 ⟨Int.le_refl _, by omega⟩)
  · intro before
    refine ⟨spans.nonempty, fun later covered => ?_⟩
    have started := (spans.covers_iff.1 covered).1
    omega

/-! ### The present under either policy -/

/-- The settings of an environment that names no policy have the legacy one. -/
theorem Settings.legacy_of_load {environment : Environment} {threshold : Level}
    {settings : Settings} (unnamed : environment.endTsDefault = none)
    (loads : (load environment threshold).result = .ok settings) :
    settings.endTsPolicy = .legacyMicros := by
  have configured := (load_eq_ok_iff.1 loads).1
  rw [unnamed] at configured
  generalize settings.endTsPolicy = policy at configured ⊢
  cases configured
  rfl

namespace EndTsPolicy

/-- How far a search whose end is left to a policy reaches back from it. -/
def reach (policy : EndTsPolicy) (current : Int) (lookback? : Option Int) : Int :=
  min (lookback?.getD (policy.endTs current)) (policy.endTs current)

variable {policy : EndTsPolicy} {current : Int} {lookback? : Option Int}

theorem reach_nonneg (started : 1 ≤ current) (notNegative : ∀ back ∈ lookback?, 0 ≤ back) :
    0 ≤ policy.reach current lookback? := by
  have positive := policy.endTs_pos started
  refine Int.le_min.2 ⟨?_, Int.le_of_lt positive⟩
  cases lookback? with
  | none => exact Int.le_of_lt positive
  | some back => exact notNegative back rfl

/-- The present is never behind the end of such a search. -/
theorem le_endTs (policy : EndTsPolicy) (started : 1 ≤ current) :
    current ≤ policy.endTs current := by
  cases policy with
  | legacyMicros =>
    show current ≤ current * 1000
    omega
  | millis => exact Int.le_refl current

/-- A search starts no later than the present, unless its end is a thousandfold of the present and
an explicit lookback does not lead back from there. -/
theorem reaches_present_iff (started : 1 ≤ current) (notNegative : ∀ back ∈ lookback?, 0 ≤ back) :
    policy.endTs current - policy.reach current lookback? ≤ current ↔
      policy = .millis ∨ lookback? = none ∨ ∃ back ∈ lookback?, 999 * current ≤ back := by
  have reaches := @reach_nonneg policy _ _ started notNegative
  cases policy with
  | millis =>
    refine iff_of_true ?_ (.inl rfl)
    show current - _ ≤ current
    omega
  | legacyMicros =>
    have thousandfold : legacyMicros.endTs current = current * 1000 := rfl
    rw [reach, thousandfold]
    cases lookback? with
    | none =>
      refine iff_of_true ?_ (.inr (.inl rfl))
      rw [Option.getD_none, Int.min_self]
      omega
    | some back =>
      simp only [Option.getD_some, Option.mem_some_iff, exists_eq_left', reduceCtorEq, false_or]
      omega

end EndTsPolicy

namespace Draft

/-- A draft of a search up to now: its end is unset, and its lookback is unset or an integer that is
not negative. Its other fields break no rule, and its bounds on durations are unset or integers. -/
structure SearchesUpToNow (draft : Draft) (lookback? : Option Int) : Prop where
  endTs : draft.endTs = .null
  lookback : draft.lookback = .ofInt? lookback?
  notNegative : ∀ back ∈ lookback?, 0 ≤ back
  limit : draft.limit = .null ∨ ∃ number, draft.limit = .int number ∧ 0 < number
  filters : draft.MeetsFilterRules
  names : draft.HasTextNames
  minDuration : draft.minDuration.kind ∈ [Kind.null, .bool, .int]
  maxDuration : draft.maxDuration.kind ∈ [Kind.null, .bool, .int]

variable {draft : Draft} {surroundings : Surroundings} {settings : Settings} {current : Int}
  {lookback? : Option Int}

theorem exists_limitOr
    (allowed : draft.limit = .null ∨ ∃ number, draft.limit = .int number ∧ 0 < number)
    (loads : (Settings.load surroundings.environment surroundings.threshold).result =
      .ok settings) :
    ∃ most, draft.limitOr settings = .int most ∧ 0 < most := by
  rcases allowed with unset | ⟨number, held, positive⟩
  · exact ⟨_, limitOr_of_unset unset, Settings.defaultLimit_pos loads⟩
  · exact ⟨number, by rw [limitOr, held]; rfl, positive⟩

section Searches

variable (searches : draft.SearchesUpToNow lookback?)
  (loads : (Settings.load surroundings.environment surroundings.threshold).result = .ok settings)
  (reads : surroundings.currentMillis = .ok current) (started : 1 ≤ current)

include searches loads reads started

/-- A search up to now is built, unless something in it has too many digits to be written. -/
theorem SearchesUpToNow.built_or_tooLong :
    (∃ request, (draft.build surroundings).result = .ok request) ∨
      (draft.build surroundings).result = .error .tooLong ∧ ¬ draft.IsWritable := by
  obtain ⟨most, limited, caps⟩ := exists_limitOr searches.limit loads
  have steps := result_build_of_endTs_unset searches.endTs searches.lookback loads reads
  obtain ⟨request, accepted, _⟩ := searches.filters.exists_request searches.names
    (settings.endTsPolicy.endTs_pos started)
    (settings.endTsPolicy.reach_nonneg started searches.notNegative) caps
  rw [← limited] at accepted
  cases built : (draft.build surroundings).result with
  | ok given => exact .inl ⟨given, rfl⟩
  | error fault =>
    rw [steps] at built
    rcases Candidate.error_of_built built with tooLong | refused
    · refine .inr ⟨congrArg Except.error tooLong, fun writable => ?_⟩
      have whole := writable.candidate_of_endTs_unset searches.lookback loads reads
      cases built.symm.trans ((Candidate.built_of_writable whole _).trans accepted)
    · cases refused.symm.trans accepted

omit started in
/-- The window of such a search spans what the policy makes of the clock and of the lookback. -/
theorem SearchesUpToNow.exists_window {request : Request}
    (gives : (draft.build surroundings).result = .ok request) :
    let last := settings.endTsPolicy.endTs current
    ∃ window, Window.ofRequest request = .ok window ∧
      window.Spans (last - settings.endTsPolicy.reach current lookback?) last := by
  intro last
  have steps := result_build_of_endTs_unset searches.endTs searches.lookback loads reads
  have accepted := (Candidate.built_eq_ok_iff.1 (steps.symm.trans gives)).1
  have atEnd : request.endTs = last :=
    (Value.int.inj (Candidate.accept_eq_ok_iff.1 accepted).2.endTs).symm
  have back : request.lookback = settings.endTsPolicy.reach current lookback? := by
    rw [lookback_of_build searches.lookback gives, atEnd]
    rfl
  obtain ⟨sameLeast, sameMost⟩ := durations_of_build gives
  obtain ⟨window, made⟩ := Window.exists_ofRequest (sameLeast ▸ searches.minDuration)
    (sameMost ▸ searches.maxDuration)
  have spans := (Request.Obtained.built (.ofDraft draft surroundings gives)).spans made
  rw [atEnd, back] at spans
  exact ⟨window, made, spans⟩

end Searches

/-- A search up to now is built, unless something in it has too many digits to be written. The
window of the built request covers the present exactly under the policy of milliseconds, or without
a lookback, or with one of no less than 999 times the clock. So under the legacy policy, which is
the one of an environment that names none, the window of every explicit lookback that is shorter
lies after the present, and under the other policy no window does. -/
theorem present_covered_iff (draft : Draft) (surroundings : Surroundings) {settings : Settings}
    {current : Int} {lookback? : Option Int} (searches : draft.SearchesUpToNow lookback?)
    (loads : (Settings.load surroundings.environment surroundings.threshold).result = .ok settings)
    (reads : surroundings.currentMillis = .ok current) (started : 1 ≤ current) :
    (surroundings.environment.endTsDefault = none → settings.endTsPolicy = .legacyMicros) ∧
    ((∃ request, (draft.build surroundings).result = .ok request) ∨
      (draft.build surroundings).result = .error .tooLong ∧ ¬ draft.IsWritable) ∧
    ∀ request, (draft.build surroundings).result = .ok request →
      ∃ window, Window.ofRequest request = .ok window ∧
        (window.Covers (1000 * current) ↔
          settings.endTsPolicy = .millis ∨ lookback? = none ∨
            ∃ back ∈ lookback?, 999 * current ≤ back) ∧
        (settings.endTsPolicy = .legacyMicros →
          ∀ back ∈ lookback?, back < 999 * current → window.LiesAfter (1000 * current)) ∧
        (settings.endTsPolicy = .millis → ¬ window.LiesAfter (1000 * current)) := by
  refine ⟨fun unnamed => Settings.legacy_of_load unnamed loads,
    searches.built_or_tooLong loads reads started, fun request gives => ?_⟩
  obtain ⟨window, made, spans⟩ := searches.exists_window loads reads gives
  have reaches := @EndTsPolicy.reaches_present_iff settings.endTsPolicy current lookback? started
    searches.notNegative
  refine ⟨window, made, ?_, ?_, ?_⟩
  · rw [spans.wholeMillis, reaches, and_iff_left (settings.endTsPolicy.le_endTs started)]
  · rintro legacy back ⟨rfl⟩ short
    have missed : ¬ settings.endTsPolicy.endTs current -
        settings.endTsPolicy.reach current (some back) ≤ current := by
      rw [reaches, legacy]
      simpa using short
    rw [spans.liesAfter_iff]
    omega
  · intro millis
    rw [spans.liesAfter_iff]
    have reached := reaches.2 (.inl millis)
    omega

/-- One and a half seconds after the epoch, a lookback of one second does not lead from the legacy
end back to the present; one of 1498500 milliseconds just does. -/
theorem present_covered_iff_after_epoch :
    let surroundings : Surroundings :=
      { environment := .empty
        clock := ⟨false, ⟨1023, by decide⟩, ⟨2251799813685248, by decide⟩⟩
        threshold := .warning }
    let draft (back : Int) : Draft :=
      { Draft.empty with serviceName := .text "api", lookback := .int back }
    surroundings.currentMillis = .ok 1500 ∧
      (∃ request window, ((draft 1000).build surroundings).result = .ok request ∧
        Window.ofRequest request = .ok window ∧ window.LiesAfter 1500000) ∧
      ∃ request window, ((draft 1498500).build surroundings).result = .ok request ∧
        Window.ofRequest request = .ok window ∧ window.Covers 1500000 := by
  intro surroundings draft
  have reads : surroundings.currentMillis = .ok 1500 :=
    Surroundings.currentMillis_of_quantity (by decide +kernel)
  have searches (back : Int) (notNegative : 0 ≤ back) :
      (draft back).SearchesUpToNow (some back) :=
    { endTs := rfl, lookback := rfl
      notNegative := by
        rintro _ ⟨rfl⟩
        exact notNegative
      limit := .inl rfl, filters := ⟨rfl, .inl rfl, nofun, nofun, .inl rfl⟩
      names := ⟨⟨"api", rfl⟩, none, rfl⟩
      minDuration := List.mem_cons_self, maxDuration := List.mem_cons_self }
  have loads : (Settings.load surroundings.environment surroundings.threshold).result =
      .ok .standard := Settings.result_load _ _
  have shorter : (draft 1000).IsWritable := by decide +kernel
  have longer : (draft 1498500).IsWritable := by decide +kernel
  obtain ⟨_, built, covers⟩ := present_covered_iff (draft 1000) surroundings
    (searches 1000 (by decide)) loads reads (by decide)
  obtain ⟨early, gives⟩ := built.resolve_right fun long => long.2 shorter
  obtain ⟨window, made, _, after, _⟩ := covers early gives
  obtain ⟨_, builtLater, coversLater⟩ := present_covered_iff (draft 1498500) surroundings
    (searches 1498500 (by decide)) loads reads (by decide)
  obtain ⟨late, givesLater⟩ := builtLater.resolve_right fun long => long.2 longer
  obtain ⟨wider, madeWider, covered, _⟩ := coversLater late givesLater
  exact ⟨reads, ⟨early, window, gives, made, after rfl 1000 rfl (by decide)⟩, late, wider,
    givesLater, madeWider, covered.2 (.inr (.inr ⟨1498500, rfl, by decide⟩))⟩

end Draft

end TraceFilter
