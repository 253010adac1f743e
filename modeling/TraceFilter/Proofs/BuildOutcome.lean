/-
Module: TraceFilter.Proofs.BuildOutcome
Purpose: The outcome of a build as a chain of plain steps, which ends as making the request does
  unless something cannot be written, and how the acceptance of a candidate depends on its lookback.
Main exports: Request.written, Candidate.built, Candidate.built_eq_ok_iff,
  Candidate.built_of_writable, Draft.IsWritable, Draft.result_buildWhere, Draft.result_build,
  Draft.result_build_of_writable, Draft.accepted_of_buildWhere, Candidate.scan_iff,
  Candidate.reaching, Candidate.scan_reaching_iff
-/
import TraceFilter.Proofs.FirstViolation

namespace TraceFilter

/-! ### Requests that can be written -/

namespace Request

variable {request : Request}

theorem isWritable_endTs (writable : request.isWritable = true) :
    Numeral.isWritable request.endTs = true := by
  rw [isWritable, fieldsWritable_iff] at writable
  exact writable ("end_ts", .int request.endTs) (by simp [fields])

theorem isWritable_lookback (writable : request.isWritable = true) :
    Numeral.isWritable request.lookback = true := by
  rw [isWritable, fieldsWritable_iff] at writable
  exact writable ("lookback", .int request.lookback) (by simp [fields])

/-- A request that can be written still can with another time range that can be. -/
theorem isWritable_ranging (writable : request.isWritable = true) {endTs lookback : Int}
    (ends : Numeral.isWritable endTs = true) (reaches : Numeral.isWritable lookback = true) :
    Request.isWritable { request with endTs, lookback } = true := by
  rw [isWritable, fieldsWritable_iff] at writable ⊢
  simp only [fields, List.forall_mem_cons, Value.isWritable_int] at writable ⊢
  obtain ⟨service, span, notes, tags, least, most, _, _, cap⟩ := writable
  exact ⟨service, span, notes, tags, least, most, ends, reaches, cap⟩

theorem isWritable_reaching (writable : request.isWritable = true) {lookback : Int}
    (reaches : Numeral.isWritable lookback = true) :
    Request.isWritable { request with lookback } = true :=
  isWritable_ranging writable (isWritable_endTs writable) reaches

end Request

/-! ### What a build makes of a candidate -/

/-- A request, which is only given if it can be written. -/
def Request.written (request : Request) : Except Fault Request :=
  if request.isWritable then .ok request else .error .tooLong

theorem Request.written_eq_ok_iff {request given : Request} :
    request.written = .ok given ↔ request.isWritable = true ∧ given = request := by
  unfold written
  cases request.isWritable <;> simp [eq_comm]

namespace Candidate

variable {candidate : Candidate} {threshold : Level} {request : Request}

/-- The arguments that the record of a build shows. -/
def callArguments (candidate : Candidate) : List (String × Value) :=
  [("service_name", candidate.serviceName), ("end_ts", candidate.endTs),
    ("lookback", candidate.lookback), ("limit", candidate.limit)]

/-- The record of a build: it is made under the lowest threshold only, and only if its arguments can
be written. -/
def recorded (candidate : Candidate) (threshold : Level) : Except Fault Unit :=
  if threshold = .debug ∧ fieldsWritable candidate.callArguments = false then .error .tooLong
  else .ok ()

/-- What a build gives for its candidate: the build is recorded, and the request that is made has to
be written. -/
def built (candidate : Candidate) (threshold : Level) : Except Fault Request := do
  candidate.recorded threshold
  candidate.accept >>= Request.written

/-- Whether all parts of a candidate can be written. -/
def IsWritable (candidate : Candidate) : Prop :=
  ∀ field ∈ candidate.fields, field.2.isWritable = true

theorem isWritable_ofText? (name? : Option String) : (Value.ofText? name?).isWritable = true := by
  cases name? <;> rfl

/-- A request can be written when the candidate that becomes it can. -/
theorem Becomes.isWritable_iff (becomes : candidate.Becomes request) :
    request.isWritable = true ↔ candidate.IsWritable := by
  obtain ⟨⟨name, service, _⟩, ⟨name?, span, _⟩, notes, tags, least, most, ends, back, cap⟩ :=
    becomes
  simp only [Request.isWritable, fieldsWritable_iff, Request.fields, IsWritable, fields,
    List.forall_mem_cons, service, span, notes, tags, least, most, ends, back, cap,
    isWritable_ofText?, Value.isWritable_text]

/-- Every value that a rule is about is a field of the candidate, or is kept in one. -/
theorem IsWritable.breach (writable : candidate.IsWritable) {breach : Breach}
    (member : breach ∈ candidate.possibleBreaches) : breach.value.isWritable = true := by
  simp only [IsWritable, fields, List.forall_mem_cons] at writable
  obtain ⟨service, span, notes, tags, _, most, ends, back, cap, _⟩ := writable
  rw [Value.isWritable_list_iff] at notes
  rw [Value.isWritable_mapping_iff] at tags
  simp only [possibleBreaches, leadingBreaches, List.mem_append, List.mem_cons, List.mem_map,
    List.mem_flatMap, List.not_mem_nil, or_false] at member
  rcases member with
    ((((rfl | rfl | rfl | rfl) | ⟨note, own, rfl⟩) | ⟨tag, own, rfl | rfl⟩) | rfl) | rfl
  · exact service
  · exact span
  · exact ends
  · exact cap
  · exact notes note own
  · exact (tags tag own).1
  · exact (tags tag own).2
  · exact most
  · exact back

/-- The record of a build shows fields of its candidate. -/
theorem IsWritable.callArguments (writable : candidate.IsWritable) :
    fieldsWritable candidate.callArguments = true := by
  rw [fieldsWritable_iff]
  intro argument member
  apply writable argument
  simp only [Candidate.callArguments, List.mem_cons, List.not_mem_nil, or_false] at member
  rcases member with rfl | rfl | rfl | rfl <;> simp [fields]

theorem recorded_of_writable (writable : candidate.IsWritable) (threshold : Level) :
    candidate.recorded threshold = .ok () := by
  rw [recorded, writable.callArguments]
  simp

/-- A build gives exactly the requests that are made and can be written. -/
theorem built_eq_ok_iff :
    candidate.built threshold = .ok request ↔
      candidate.accept = .ok request ∧ request.isWritable = true := by
  simp only [built, bind_eq_ok_iff, Request.written_eq_ok_iff]
  constructor
  · rintro ⟨_, _, made, accepted, writable, rfl⟩
    exact ⟨accepted, writable⟩
  · rintro ⟨accepted, writable⟩
    have whole := (accept_eq_ok_iff.1 accepted).2.isWritable_iff.1 writable
    exact ⟨(), recorded_of_writable whole threshold, request, accepted, writable, rfl⟩

/-- A build fails as making the request does, or because something cannot be written. -/
theorem error_of_built {fault : Fault} (fails : candidate.built threshold = .error fault) :
    fault = .tooLong ∨ candidate.accept = .error fault := by
  unfold built recorded at fails
  split at fails
  · cases fails
    exact .inl rfl
  · cases accepted : candidate.accept with
    | error cause =>
      rw [accepted] at fails
      cases fails
      exact .inr rfl
    | ok made =>
      rw [accepted, ok_bind, ok_bind, Request.written] at fails
      split at fails
      · cases fails
      · cases fails
        exact .inl rfl

/-- When all can be written, a build gives what making the request gives. -/
theorem built_of_writable (writable : candidate.IsWritable) (threshold : Level) :
    candidate.built threshold = candidate.accept := by
  rw [built, recorded_of_writable writable, ok_bind]
  cases accepted : candidate.accept with
  | error fault => rfl
  | ok made =>
    have whole := (accept_eq_ok_iff.1 accepted).2.isWritable_iff.2 writable
    rw [ok_bind, Request.written, if_pos whole]

/-- A request that is made but cannot be written is not given, whatever the threshold is. -/
theorem built_of_long (accepted : candidate.accept = .ok request)
    (long : request.isWritable = false) (threshold : Level) :
    candidate.built threshold = .error .tooLong := by
  have refused : request.written = .error .tooLong := by
    rw [Request.written, long]
    rfl
  rw [built, recorded, accepted, ok_bind, refused]
  split <;> rfl

/-- Neither is one of which a single field cannot be written. -/
theorem built_of_long_field (accepted : candidate.accept = .ok request) {field : String × Value}
    (member : field ∈ candidate.fields) (long : field.2.isWritable = false) (threshold : Level) :
    candidate.built threshold = .error .tooLong := by
  refine built_of_long accepted ?_ threshold
  rw [Bool.eq_false_iff, ne_eq, (accept_eq_ok_iff.1 accepted).2.isWritable_iff]
  intro writable
  rw [writable field member] at long
  cases long

end Candidate

theorem DraftPart.mem_all (part : DraftPart) : part ∈ DraftPart.all := by
  cases part with
  | scalar field => cases field <;> decide
  | annotations => decide
  | tags => decide

namespace Draft

/-- Whether all members of a draft can be written. -/
def IsWritable (draft : Draft) : Prop :=
  ∀ member ∈ draft.members, member.2.isWritable = true

instance (draft : Draft) : Decidable draft.IsWritable :=
  inferInstanceAs (Decidable (∀ member ∈ draft.members, member.2.isWritable = true))

theorem IsWritable.part {draft : Draft} (writable : draft.IsWritable) (part : DraftPart) :
    (draft.part part).isWritable = true :=
  writable _ (List.mem_map_of_mem (DraftPart.mem_all part))

/-- The candidate of a draft can be written when the draft can and what fills it in. -/
theorem IsWritable.candidate {draft : Draft} (writable : draft.IsWritable)
    {endTs lookback limit : Value} (ends : endTs.isWritable = true)
    (reaches : lookback.isWritable = true) (caps : limit.isWritable = true) :
    (draft.candidate endTs lookback limit).IsWritable := by
  have part (part : DraftPart) : (draft.part part).isWritable = true := writable.part part
  simp only [Candidate.IsWritable, Candidate.fields, List.forall_mem_cons]
  exact ⟨part (.scalar .serviceName), part (.scalar .spanName), part .annotations, part .tags,
    part (.scalar .minDuration), part (.scalar .maxDuration), ends, reaches, caps, nofun⟩

/-! ### Defaults that can be written -/

section Defaults

variable {draft : Draft} {surroundings : Surroundings} {settings : Settings}
  {endTs lookback value : Value}

theorem isWritable_settings (loaded : (draft.settings surroundings).result = .ok settings) :
    Numeral.isWritable settings.defaultLimit = true := by
  unfold Draft.settings at loaded
  split at loaded
  · exact Settings.isWritable_defaultLimit loaded
  · cases loaded
    exact Settings.isWritable_standardLimit

theorem isWritable_endTsOr (writable : draft.endTs.isWritable = true)
    (ended : draft.endTsOr settings surroundings = .ok endTs) : endTs.isWritable = true := by
  unfold endTsOr at ended
  split at ended
  · cases reads : surroundings.currentMillis with
    | error fault =>
      rw [reads] at ended
      cases ended
    | ok current =>
      rw [reads] at ended
      cases ended
      exact Surroundings.isWritable_endTs reads settings.endTsPolicy
  · cases ended
    exact writable

theorem isWritable_lookbackOr (writable : draft.lookback.isWritable = true)
    (ends : endTs.isWritable = true) : (draft.lookbackOr endTs).isWritable = true := by
  unfold lookbackOr
  split
  · exact ends
  · exact writable

theorem isWritable_clamp (reaches : lookback.isWritable = true) (ends : endTs.isWritable = true)
    (clamped : clamp lookback endTs = .ok value) : value.isWritable = true := by
  unfold clamp at clamped
  split at clamped
  · cases clamped
  · cases clamped
    exact ends
  · cases clamped
    exact reaches

theorem isWritable_limitOr (writable : draft.limit.isWritable = true)
    (configured : draft.limit = .null → Numeral.isWritable settings.defaultLimit = true) :
    (draft.limitOr settings).isWritable = true := by
  unfold limitOr
  split
  · next unset => exact configured (Value.isNull_iff.1 unset)
  · exact writable

/-- What a build proposes of a draft that can be written can be written, too. -/
theorem IsWritable.filled (writable : draft.IsWritable)
    (loaded : (draft.settings surroundings).result = .ok settings)
    (ended : draft.endTsOr settings surroundings = .ok endTs)
    (clamped : clamp (draft.lookbackOr endTs) endTs = .ok lookback) :
    (draft.candidate endTs lookback (draft.limitOr settings)).IsWritable := by
  have ends : endTs.isWritable = true := isWritable_endTsOr (writable.part (.scalar .endTs)) ended
  have back : (draft.lookbackOr endTs).isWritable = true :=
    isWritable_lookbackOr (writable.part (.scalar .lookback)) ends
  have caps : (draft.limitOr settings).isWritable = true :=
    isWritable_limitOr (writable.part (.scalar .limit)) fun _ => isWritable_settings loaded
  exact writable.candidate ends (isWritable_clamp back ends clamped) caps

end Defaults

/-! ### The steps of a build -/

/-- Recording an outcome does not change it, unless it is a request that cannot be written. -/
theorem result_observe (threshold : Level) (outcome : Except Fault Request) :
    (observe threshold outcome).result = outcome >>= Request.written := by
  unfold observe
  split
  · simp only [Observed.result_bind, Observed.result_count, Observed.result_ofExcept,
      Observed.result_record, Observed.result_pure, ok_bind, Request.plain_eq, Request.written]
    split <;> rfl
  · simp
  · simp

theorem result_recordCall (draft : Draft) (endTs lookback limit : Value) (threshold : Level) :
    (Observation.recordCall threshold Observation.requestLogger (title ++ ".build") [
      ("service_name", draft.serviceName), ("end_ts", endTs), ("lookback", lookback),
      ("limit", limit)]).result = (draft.candidate endTs lookback limit).recorded threshold :=
  Observation.result_recordCall threshold _ _ _

/-- The outcome of a build is that of its steps, whatever is recorded on the way. -/
theorem result_buildWhere (draft : Draft) (readable : DraftPart → Except Fault Unit)
    (surroundings : Surroundings) :
    (draft.buildWhere readable surroundings).result = (do
      readable (.scalar .endTs)
      (if draft.endTs.isNull then .ok () else readable (.scalar .limit) : Except Fault Unit)
      let settings ← (draft.settings surroundings).result
      let endTs ← draft.endTsOr settings surroundings
      readable (.scalar .lookback)
      let lookback ← clamp (draft.lookbackOr endTs) endTs
      readable (.scalar .limit)
      readable (.scalar .serviceName)
      let candidate := draft.candidate endTs lookback (draft.limitOr settings)
      candidate.recorded surroundings.threshold
      readable (.scalar .spanName)
      readable .annotations
      readable .tags
      readable (.scalar .minDuration)
      readable (.scalar .maxDuration)
      candidate.accept >>= Request.written) := by
  unfold buildWhere
  cases draft.endTs.isNull <;> simp [result_recordCall, result_observe]

/-- Nothing is refused while the parts of a plain draft are read. -/
theorem result_build (draft : Draft) (surroundings : Surroundings) :
    (draft.build surroundings).result = (do
      let settings ← (draft.settings surroundings).result
      let endTs ← draft.endTsOr settings surroundings
      let lookback ← clamp (draft.lookbackOr endTs) endTs
      (draft.candidate endTs lookback (draft.limitOr settings)).built surroundings.threshold) := by
  simp [build_eq, result_recordCall, result_observe, Candidate.built]

/-- When all of a draft can be written, so can its defaults, and nothing that is recorded has a say
in the outcome of a build. -/
theorem result_build_of_writable {draft : Draft} (writable : draft.IsWritable)
    (surroundings : Surroundings) :
    (draft.build surroundings).result = (do
      let settings ← (draft.settings surroundings).result
      let endTs ← draft.endTsOr settings surroundings
      let lookback ← clamp (draft.lookbackOr endTs) endTs
      (draft.candidate endTs lookback (draft.limitOr settings)).accept) := by
  rw [result_build]
  cases loaded : (draft.settings surroundings).result with
  | error fault => rfl
  | ok settings =>
    rw [ok_bind, ok_bind]
    cases ended : draft.endTsOr settings surroundings with
    | error fault => rfl
    | ok endTs =>
      rw [ok_bind, ok_bind]
      cases clamped : clamp (draft.lookbackOr endTs) endTs with
      | error fault => rfl
      | ok lookback =>
        rw [ok_bind, ok_bind]
        exact Candidate.built_of_writable (writable.filled loaded ended clamped) _

/-- A build that gives a request clamped the lookback and accepted what came out, which can be
written. -/
theorem accepted_of_buildWhere {draft : Draft} {readable : DraftPart → Except Fault Unit}
    {surroundings : Surroundings} {request : Request}
    (gives : (draft.buildWhere readable surroundings).result = .ok request) :
    request.isWritable = true ∧
      ∃ endTs lookback limit, clamp (draft.lookbackOr endTs) endTs = .ok lookback ∧
        (draft.candidate endTs lookback limit).accept = .ok request := by
  simp only [result_buildWhere, bind_eq_ok_iff, Request.written_eq_ok_iff] at gives
  obtain ⟨_, _, _, _, settings, _, endTs, _, _, _, lookback, clamped, _, _, _, _, _, _, _, _, _, _,
    _, _, _, _, _, _, made, accepted, writable, rfl⟩ := gives
  exact ⟨writable, endTs, lookback, draft.limitOr settings, clamped, accepted⟩

theorem needsSettings_iff {draft : Draft} :
    draft.needsSettings = true ↔ draft.endTs = .null ∨ draft.limit = .null := by
  simp [needsSettings]

/-- A build fails as the settings do when a default is needed. -/
theorem result_build_of_load_error {draft : Draft} {surroundings : Surroundings} {fault : Fault}
    (needed : draft.endTs = .null ∨ draft.limit = .null)
    (failed : (Settings.load surroundings.environment surroundings.threshold).result =
      .error fault) :
    (draft.build surroundings).result = .error fault := by
  rw [result_build, settings, if_pos (needsSettings_iff.2 needed), failed, error_bind]

/-- The steps of a build under settings that were loaded if a default is needed. Settings that are
not needed have no say. -/
theorem result_build_under {draft : Draft} {surroundings : Surroundings} {settings : Settings}
    (loaded : draft.endTs = .null ∨ draft.limit = .null →
      (Settings.load surroundings.environment surroundings.threshold).result = .ok settings) :
    (draft.build surroundings).result = (do
      let endTs ← draft.endTsOr settings surroundings
      let lookback ← clamp (draft.lookbackOr endTs) endTs
      (draft.candidate endTs lookback (draft.limitOr settings)).built surroundings.threshold) := by
  rw [result_build, Draft.settings]
  by_cases needed : draft.endTs = .null ∨ draft.limit = .null
  · rw [if_pos (needsSettings_iff.2 needed), loaded needed, ok_bind]
  · obtain ⟨endTsSet, limitSet⟩ := not_or.1 needed
    rw [← ne_eq, ← Value.isNull_eq_false_iff] at endTsSet limitSet
    simp [needsSettings, endTsOr, limitOr, endTsSet, limitSet]

/-- With both set, neither the environment nor the clock is looked at. -/
theorem result_build_of_set {draft : Draft} (endTsSet : draft.endTs ≠ .null)
    (limitSet : draft.limit ≠ .null) (surroundings : Surroundings) :
    (draft.build surroundings).result = (do
      let lookback ← clamp (draft.lookbackOr draft.endTs) draft.endTs
      (draft.candidate draft.endTs lookback draft.limit).built surroundings.threshold) := by
  have unneeded : ¬ (draft.endTs = .null ∨ draft.limit = .null) :=
    not_or.2 ⟨endTsSet, limitSet⟩
  rw [← Value.isNull_eq_false_iff] at endTsSet limitSet
  rw [@result_build_under draft surroundings .standard fun needed => absurd needed unneeded]
  simp [endTsOr, limitOr, endTsSet, limitSet]

/-- With both set, a draft that can be written is built as its request is made. -/
theorem result_build_of_set_of_writable {draft : Draft} (writable : draft.IsWritable)
    (endTsSet : draft.endTs ≠ .null) (limitSet : draft.limit ≠ .null)
    (surroundings : Surroundings) :
    (draft.build surroundings).result = (do
      let lookback ← clamp (draft.lookbackOr draft.endTs) draft.endTs
      (draft.candidate draft.endTs lookback draft.limit).accept) := by
  rw [result_build_of_set endTsSet limitSet]
  have ends : draft.endTs.isWritable = true := writable.part (.scalar .endTs)
  have back : (draft.lookbackOr draft.endTs).isWritable = true :=
    isWritable_lookbackOr (writable.part (.scalar .lookback)) ends
  cases clamped : clamp (draft.lookbackOr draft.endTs) draft.endTs with
  | error fault => rfl
  | ok lookback =>
    have reaches : lookback.isWritable = true := isWritable_clamp back ends clamped
    have caps : draft.limit.isWritable = true := writable.part (.scalar .limit)
    rw [ok_bind, ok_bind]
    exact Candidate.built_of_writable (writable.candidate ends reaches caps) _

end Draft

namespace Candidate

variable {candidate : Candidate}

/-- A leading breach is found first; the lookback is at fault only when there is none. -/
theorem scan_iff {breach : Breach} :
    BreachScan candidate.Avoids candidate.possibleBreaches (some breach) ↔
      BreachScan candidate.Avoids candidate.leadingBreaches (some breach) ∨
        candidate.MeetsLeading ∧ ¬ (∃ number, candidate.lookback = .int number ∧ 0 ≤ number) ∧
          breach = ⟨.lookbackNotNegative, candidate.lookback⟩ := by
  rw [possibleBreaches, BreachScan.some_append_iff, BreachScan.some_singleton_iff,
    avoids_leading_iff]
  rfl

theorem avoidsAll_iff :
    (∀ breach ∈ candidate.possibleBreaches, candidate.Avoids breach) ↔
      candidate.MeetsLeading ∧ ∃ number, candidate.lookback = .int number ∧ 0 ≤ number := by
  rw [possibleBreaches, List.forall_mem_append, List.forall_mem_singleton, avoids_leading_iff]
  rfl

/-! ### Another lookback -/

/-- A candidate with another lookback. -/
def reaching (candidate : Candidate) (lookback : Value) : Candidate :=
  { candidate with lookback }

variable {lookback : Value}

/-- No rule but its own looks at the lookback. -/
theorem meetsLeading_reaching_iff :
    (candidate.reaching lookback).MeetsLeading ↔ candidate.MeetsLeading := by
  rw [← avoids_leading_iff, ← avoids_leading_iff]
  rfl

theorem scan_reaching_iff {breach : Breach} :
    BreachScan (candidate.reaching lookback).Avoids
        (candidate.reaching lookback).possibleBreaches (some breach) ↔
      BreachScan candidate.Avoids candidate.leadingBreaches (some breach) ∨
        candidate.MeetsLeading ∧ ¬ (∃ number, lookback = .int number ∧ 0 ≤ number) ∧
          breach = ⟨.lookbackNotNegative, lookback⟩ := by
  rw [scan_iff, meetsLeading_reaching_iff]
  rfl

theorem avoidsAll_reaching_iff :
    (∀ breach ∈ (candidate.reaching lookback).possibleBreaches,
        (candidate.reaching lookback).Avoids breach) ↔
      candidate.MeetsLeading ∧ ∃ number, lookback = .int number ∧ 0 ≤ number := by
  rw [avoidsAll_iff, meetsLeading_reaching_iff]
  rfl

end Candidate

end TraceFilter
