/-
Module: TraceFilter.Proofs.WindowBounds
Purpose: The time that the window of a request covers: from its lookback before its end up to its
  end, both included, and for a built request never from before the epoch.
Main exports: Window.Covers, Window.Spans, Window.contains_int, Window.exists_ofRequest,
  Draft.build_reaching, Request.window_spans_lookback
-/
import TraceFilter.Proofs.DirectConstruction
import TraceFilter.Proofs.ObtainedRequest
import TraceFilter.Window.Basic

namespace TraceFilter

namespace Window

variable {window : Window} {first last : Int}

/-! ### The timestamps in a window -/

/-- A window covers a timestamp in microseconds if it contains it. -/
def Covers (window : Window) (timestamp : Int) : Prop :=
  window.contains (.int timestamp) = .ok true

/-- Integers can always be asked for, and both bounds belong to the window. -/
theorem contains_int (window : Window) (timestamp : Int) :
    window.contains (.int timestamp) =
      .ok (decide (window.startTs ≤ timestamp ∧ timestamp ≤ window.endTs)) := by
  unfold contains
  rw [Value.compare_atMost_int, ok_bind, Value.compare_atMost_int]
  by_cases started : window.startTs ≤ timestamp <;> simp [started, pure, Except.pure]

theorem covers_iff {timestamp : Int} :
    window.Covers timestamp ↔ window.startTs ≤ timestamp ∧ timestamp ≤ window.endTs := by
  rw [Covers, contains_int]
  simp

/-- A window spans the milliseconds from the first to the last if it says of every timestamp whether
it lies between the two, is not empty, and covers the whole milliseconds between them. -/
structure Spans (window : Window) (first last : Int) : Prop where
  contains : ∀ timestamp, window.contains (.int timestamp) =
    .ok (decide (1000 * first ≤ timestamp ∧ timestamp ≤ 1000 * last))
  ordered : window.startTs ≤ window.endTs
  nonempty : ∃ timestamp, window.Covers timestamp
  wholeMillis : ∀ instant, window.Covers (1000 * instant) ↔ first ≤ instant ∧ instant ≤ last

theorem spans_of_bounds (starts : window.startTs = 1000 * first) (ends : window.endTs = 1000 * last)
    (ordered : first ≤ last) : window.Spans first last where
  contains := by
    intro timestamp
    rw [contains_int, starts, ends]
  ordered := by omega
  nonempty := ⟨window.endTs, covers_iff.2 ⟨by omega, Int.le_refl _⟩⟩
  wholeMillis := by
    intro instant
    rw [covers_iff]
    omega

namespace Spans

theorem covers_iff (spans : window.Spans first last) {timestamp : Int} :
    window.Covers timestamp ↔ 1000 * first ≤ timestamp ∧ timestamp ≤ 1000 * last := by
  rw [Covers, spans.contains]
  simp

/-- A window that starts no later and ends no earlier covers whatever another one covers. -/
theorem covers_of_covers {wider : Window} {start stop timestamp : Int}
    (spans : window.Spans first last) (spansWider : wider.Spans start stop)
    (earlier : start ≤ first) (later : last ≤ stop) (covered : window.Covers timestamp) :
    wider.Covers timestamp := by
  rw [spans.covers_iff] at covered
  rw [spansWider.covers_iff]
  omega

end Spans

/-! ### The window of a request -/

/-- The time range of a request always makes bounds, so that its window depends on whether the two
bounds on durations can be read. -/
theorem ofRequest_eq (request : Request) :
    ofRequest request =
      match readOptionalBound request.minDuration, readOptionalBound request.maxDuration with
      | .ok minDuration, .ok maxDuration => .ok
        { startTs := (request.endTs - request.lookback) * microsPerMilli
          endTs := request.endTs * microsPerMilli
          minDuration
          maxDuration }
      | least, most => .error (.invalidFields
        { title
          faults := FieldReport.faultOf "min_duration" least
            ++ FieldReport.faultOf "max_duration" most }) := by
  have fields : ∃ given, ofRequest request = ofFields given ∧
      boundOf given "start_ts" = .ok ((request.endTs - request.lookback) * microsPerMilli) ∧
      boundOf given "end_ts" = .ok (request.endTs * microsPerMilli) ∧
      optionalBoundOf given "min_duration" = readOptionalBound request.minDuration ∧
      optionalBoundOf given "max_duration" = readOptionalBound request.maxDuration ∧
      FieldReport.unexpected fieldNames given = [] :=
    ⟨_, rfl, rfl, rfl, rfl, rfl, rfl⟩
  obtain ⟨given, made, starts, ends, least, most, declared⟩ := fields
  rw [made, ofFields, starts, ends, least, most, declared]
  cases readOptionalBound request.minDuration <;> cases readOptionalBound request.maxDuration <;>
    simp [FieldReport.faultOf]

/-- A bound on durations that is left out or an integer can be read; a truth value counts as one. -/
theorem exists_readOptionalBound {value : Value} (integer : value.kind ∈ [Kind.null, .bool, .int]) :
    ∃ bound, readOptionalBound value = .ok bound := by
  cases value with
  | null => exact ⟨none, rfl⟩
  | bool truth => exact ⟨some truth.toInt, rfl⟩
  | int number => exact ⟨some number, rfl⟩
  | _ => simp [Value.kind] at integer

theorem exists_ofRequest {request : Request}
    (least : request.minDuration.kind ∈ [Kind.null, .bool, .int])
    (most : request.maxDuration.kind ∈ [Kind.null, .bool, .int]) :
    ∃ window, ofRequest request = .ok window := by
  obtain ⟨minDuration, readLeast⟩ := exists_readOptionalBound least
  obtain ⟨maxDuration, readMost⟩ := exists_readOptionalBound most
  rw [ofRequest_eq, readLeast, readMost]
  exact ⟨_, rfl⟩

theorem bounds_of_ofRequest {request : Request} (made : ofRequest request = .ok window) :
    window.startTs = 1000 * (request.endTs - request.lookback) ∧
      window.endTs = 1000 * request.endTs := by
  rw [ofRequest_eq] at made
  split at made
  · cases made
    exact ⟨Int.mul_comm _ _, Int.mul_comm _ _⟩
  · cases made

end Window

/-- The window of an obtained request spans the time from its lookback before its end to its end. -/
theorem Request.Obtained.spans {request : Request} {window : Window} (obtained : request.Obtained)
    (made : Window.ofRequest request = .ok window) :
    window.Spans (request.endTs - request.lookback) request.endTs := by
  obtain ⟨starts, ends⟩ := Window.bounds_of_ofRequest made
  have notNegative := obtained.wellFormed.lookback
  exact Window.spans_of_bounds starts ends (by omega)

/-! ### Another lookback -/

/-- An accepted candidate is accepted with any other lookback that is not negative. -/
theorem Candidate.accept_reaching_of_accept {candidate : Candidate} {request : Request}
    {lookback : Int} (accepted : candidate.accept = .ok request) (notNegative : 0 ≤ lookback) :
    (candidate.reaching (.int lookback)).accept = .ok { request with lookback } := by
  obtain ⟨avoided, becomes⟩ := Candidate.accept_eq_ok_iff.1 accepted
  obtain ⟨meets, _⟩ := Candidate.avoidsAll_iff.1 avoided
  refine Candidate.accept_eq_ok_iff.2 ⟨?_, { becomes with lookback := rfl }⟩
  exact Candidate.avoidsAll_reaching_iff.2 ⟨meets, lookback, rfl, notNegative⟩

namespace Draft

variable {draft : Draft} {surroundings : Surroundings} {request : Request}

/-- A draft ends at the instant that it sets itself, or at the one that the clock gives under the
policy. -/
def EndsAt (draft : Draft) (surroundings : Surroundings) (last : Int) : Prop :=
  draft.endTs = .int last ∨
    draft.endTs = .null ∧ ∃ settings current,
      (Settings.load surroundings.environment surroundings.threshold).result = .ok settings ∧
        surroundings.currentMillis = .ok current ∧ last = settings.endTsPolicy.endTs current

theorem endsAt_of_build (gives : (draft.build surroundings).result = .ok request) :
    draft.EndsAt surroundings request.endTs := by
  rw [result_build] at gives
  simp only [bind_eq_ok_iff] at gives
  obtain ⟨settings, loaded, endTs, ended, lookback, _, built⟩ := gives
  have accepted := (Candidate.built_eq_ok_iff.1 built).1
  have held : endTs = .int request.endTs := (Candidate.accept_eq_ok_iff.1 accepted).2.endTs
  subst held
  unfold endTsOr at ended
  split at ended
  · next unset =>
    have absent : draft.endTs = .null := Value.isNull_iff.1 unset
    rw [Draft.settings, if_pos (needsSettings_iff.2 (.inl absent))] at loaded
    cases reading : surroundings.currentMillis with
    | error fault =>
      rw [reading] at ended
      cases ended
    | ok current =>
      rw [reading] at ended
      have same := Value.int.inj (Except.ok.inj ended)
      exact .inr ⟨absent, settings, current, loaded, reading, same.symm⟩
  · exact .inl (Except.ok.inj ended)

/-- The lookback of a built request is the one that is set, or as far as the end, within the end. -/
theorem lookback_of_build {lookback? : Option Int} (reaches : draft.lookback = .ofInt? lookback?)
    (gives : (draft.build surroundings).result = .ok request) :
    request.lookback = min (lookback?.getD request.endTs) request.endTs := by
  obtain ⟨_, endTs, lookback, limit, clamped, accepted⟩ := accepted_of_buildWhere gives
  obtain ⟨_, becomes⟩ := Candidate.accept_eq_ok_iff.1 accepted
  have atEnd : endTs = .int request.endTs := becomes.endTs
  have back : lookback = .int request.lookback := becomes.lookback
  rw [atEnd, back, lookbackOr_of_optional reaches, clamp_int] at clamped
  exact (Value.int.inj (Except.ok.inj clamped)).symm

/-- A build that gives a request gives it with any other lookback as well, but for the lookback. -/
theorem build_reaching {lookback? : Option Int}
    (gives : (draft.build surroundings).result = .ok request)
    (notNegative : 0 ≤ lookback?.getD request.endTs) :
    ({ draft with lookback := .ofInt? lookback? }.build surroundings).result =
      .ok { request with lookback := min (lookback?.getD request.endTs) request.endTs } := by
  rw [result_build] at gives
  simp only [bind_eq_ok_iff] at gives
  obtain ⟨settings, loaded, endTs, ended, clamped, _, built⟩ := gives
  obtain ⟨accepted, writable⟩ := Candidate.built_eq_ok_iff.1 built
  have held : endTs = .int request.endTs := (Candidate.accept_eq_ok_iff.1 accepted).2.endTs
  subst held
  have positive : 0 < request.endTs := (Request.wellFormed_of_accept accepted).endTs
  have again := Candidate.accept_reaching_of_accept accepted
    (Int.le_min.2 ⟨notNegative, Int.le_of_lt positive⟩)
  have nearer : (min (lookback?.getD request.endTs) request.endTs).natAbs ≤
      request.endTs.natAbs := by omega
  have short := Numeral.isWritable_of_natAbs_le nearer (Request.isWritable_endTs writable)
  let other : Draft := { draft with lookback := .ofInt? lookback? }
  have sameSettings : other.settings surroundings = draft.settings surroundings := rfl
  have sameEnd : other.endTsOr settings surroundings = draft.endTsOr settings surroundings := rfl
  have reaches : other.lookbackOr (.int request.endTs) = .int (lookback?.getD request.endTs) :=
    lookbackOr_of_optional rfl
  rw [result_build, sameSettings, loaded, ok_bind, sameEnd, ended, ok_bind, reaches, clamp_int,
    ok_bind]
  exact Candidate.built_eq_ok_iff.2 ⟨again, Request.isWritable_reaching writable short⟩

/-- The bounds on durations of a built request are those of the draft. -/
theorem durations_of_build (gives : (draft.build surroundings).result = .ok request) :
    request.minDuration = draft.minDuration ∧ request.maxDuration = draft.maxDuration := by
  obtain ⟨_, _, _, _, _, accepted⟩ := accepted_of_buildWhere gives
  obtain ⟨_, becomes⟩ := Candidate.accept_eq_ok_iff.1 accepted
  exact ⟨becomes.minDuration, becomes.maxDuration⟩

end Draft

namespace Request

/-- The window of a request reaches from its lookback before its end up to its end, both included.
For a built request the lookback is the one of the draft, and what lies before the epoch is cut off:
a longer lookback never loses a timestamp. For a request that is made from fields nothing is cut
off. Bounds on durations have to be integers or left out. -/
theorem window_spans_lookback :
    (∀ (draft : Draft) (surroundings : Surroundings) (request : Request) (lookback? : Option Int),
      draft.lookback = .ofInt? lookback? →
      draft.minDuration.kind ∈ [Kind.null, .bool, .int] →
      draft.maxDuration.kind ∈ [Kind.null, .bool, .int] →
      (draft.build surroundings).result = .ok request →
      let last := request.endTs
      let lookback := lookback?.getD last
      draft.EndsAt surroundings last ∧ 0 < last ∧
      ∃ window, Window.ofRequest request = .ok window ∧
        window.Spans (max 0 (last - lookback)) last ∧ 0 ≤ window.startTs ∧
        ∀ longer? : Option Int, lookback ≤ longer?.getD last → ∃ other wider,
          ({ draft with lookback := .ofInt? longer? }.build surroundings).result = .ok other ∧
          Window.ofRequest other = .ok wider ∧
          wider.Spans (max 0 (last - longer?.getD last)) last ∧
          ∀ timestamp, window.Covers timestamp → wider.Covers timestamp) ∧
    ∀ (given : List (String × Value)) (request : Request),
      Request.ofFields given = .ok request →
      request.minDuration.kind ∈ [Kind.null, .bool, .int] →
      request.maxDuration.kind ∈ [Kind.null, .bool, .int] →
      ∃ window, Window.ofRequest request = .ok window ∧
        window.Spans (request.endTs - request.lookback) request.endTs ∧
        ∀ (others : List (String × Value)) (other : Request) (wider : Window),
          Request.ofFields others = .ok other → Window.ofRequest other = .ok wider →
          other.endTs = request.endTs → request.lookback ≤ other.lookback →
          ∀ timestamp, window.Covers timestamp → wider.Covers timestamp := by
  constructor
  · intro draft surroundings request lookback? reaches least most gives last lookback
    have obtained : request.Obtained := .built (.ofDraft draft surroundings gives)
    have positive : 0 < last := obtained.wellFormed.endTs
    have back : request.lookback = min lookback last := Draft.lookback_of_build reaches gives
    have notNegative := obtained.wellFormed.lookback
    obtain ⟨sameLeast, sameMost⟩ := Draft.durations_of_build gives
    rw [← sameLeast] at least
    rw [← sameMost] at most
    obtain ⟨window, made⟩ := Window.exists_ofRequest least most
    have cut : request.endTs - request.lookback = max 0 (last - lookback) := by omega
    have spans : window.Spans (max 0 (last - lookback)) last := cut ▸ obtained.spans made
    have starts := (Window.bounds_of_ofRequest made).1
    refine ⟨Draft.endsAt_of_build gives, positive, window, made, spans, by omega, ?_⟩
    intro longer? further
    have notBelow : 0 ≤ longer?.getD last := by omega
    have givesLonger := Draft.build_reaching gives notBelow
    have obtainedLonger := Obtained.built (.ofDraft _ surroundings givesLonger)
    obtain ⟨wider, madeWider⟩ := @Window.exists_ofRequest
      { request with lookback := min (longer?.getD last) last } least most
    have cutLonger : last - min (longer?.getD last) last = max 0 (last - longer?.getD last) := by
      omega
    have spansWider : wider.Spans (max 0 (last - longer?.getD last)) last :=
      cutLonger ▸ obtainedLonger.spans madeWider
    refine ⟨_, wider, givesLonger, madeWider, spansWider, ?_⟩
    intro timestamp covered
    exact spans.covers_of_covers spansWider (by omega) (Int.le_refl last) covered
  · intro given request gives least most
    have obtained : request.Obtained := .made given gives
    obtain ⟨window, made⟩ := Window.exists_ofRequest least most
    have spans := obtained.spans made
    refine ⟨window, made, spans, ?_⟩
    intro others other wider givesOther madeWider sameEnd further timestamp covered
    have spansWider := (Obtained.made others givesOther).spans madeWider
    exact spans.covers_of_covers spansWider (by omega) (by omega) covered

/-- A lookback of seven behind an end of five: built, the window starts with the epoch; made from
fields, it starts two milliseconds before. -/
theorem window_spans_lookback_of_seven :
    let draft : Draft :=
      { Draft.empty with
        serviceName := .text "api", minDuration := .int 100, maxDuration := .int 20
        endTs := .int 5, lookback := .int 7, limit := .int 10 }
    let surroundings : Surroundings := ⟨.empty, .zero false, .warning⟩
    let given : List (String × Value) := [
      ("service_name", .text "api"), ("end_ts", .int 5), ("lookback", .int 7), ("limit", .int 10)]
    let request : Request :=
      { serviceName := "api", spanName := none, annotations := [], tags := []
        minDuration := .int 100, maxDuration := .int 20, endTs := 5, lookback := 5, limit := 10 }
    let made : Request :=
      { request with minDuration := .null, maxDuration := .null, lookback := 7 }
    (draft.build surroundings).result = .ok request ∧ Request.ofFields given = .ok made ∧
    (∃ window, Window.ofRequest request = .ok window ∧ window.Spans 0 5) ∧
    ∃ window, Window.ofRequest made = .ok window ∧ window.Spans (-2) 5 := by
  intro draft surroundings given request made
  have endTsSet : draft.endTs ≠ .null := Value.noConfusion
  have limitSet : draft.limit ≠ .null := Value.noConfusion
  have gives : (draft.build surroundings).result = .ok request := by
    have writable : draft.IsWritable := by decide +kernel
    rw [Draft.result_build_of_set_of_writable writable endTsSet limitSet]
    show (Draft.clamp (.int 7) (.int 5) >>= _) = _
    rw [Draft.clamp_int]
    rfl
  have makes : Request.ofFields given = .ok made := rfl
  obtain ⟨_, _, window, opened, spans, _⟩ := window_spans_lookback.1 draft surroundings request
    (some 7) rfl (by decide) (by decide) gives
  obtain ⟨other, openedOther, spansOther, _⟩ :=
    window_spans_lookback.2 given made makes (by decide) (by decide)
  exact ⟨gives, makes, ⟨window, opened, spans⟩, other, openedOther, spansOther⟩

end Request

end TraceFilter
