/-
Module: TraceFilter.Proofs.SettingsFailure
Purpose: When a build fails for its settings: whenever some default is needed and either setting is
  refused, be it the one of that default or the other one.
Main exports: Settings.Refused, Settings.load_fails_iff, Draft.FailsForSettings,
  Draft.build_eq_invalid_iff, Draft.BlamesOtherSetting, Draft.fails_for_own_settings_iff
-/
import TraceFilter.Proofs.BuildOutcome

namespace TraceFilter

namespace Settings

/-! ### Settings that are refused -/

/-- A setting is refused if it is a text other than the empty one, and settings made of this text
alone, as their field of a name, are faulty. -/
def Refused (field : String) (setting : Option String) : Prop :=
  ∃ content, setting = some content ∧ content ≠ "" ∧
    ∃ report, ofFields [(field, .text content)] = .error (.invalidFields report)

/-- A text is read as a limit or refused as one, but never ends the reading of all settings. -/
theorem readLimit_text (content : String) :
    ∃ reading, readLimit (.text content) = .ok reading := by
  simp only [readLimit]
  cases Numeral.readAnyScript content with
  | ok number => exact ⟨_, rfl⟩
  | error refusal => cases refusal <;> exact ⟨_, rfl⟩

/-- Fields that are all declared make settings unless the policy or the limit is faulty. -/
theorem ofFields_eq_invalid_iff {given : List (String × Value)} {limit : Except FieldFault Int}
    (declared : FieldReport.unexpected fieldNames given = []) (read : limitOf given = .ok limit)
    {report : FieldReport} :
    ofFields given = .error (.invalidFields report) ↔
      ((∃ fault, policyOf given = .error fault) ∨ ∃ fault, limit = .error fault) ∧
        report = ⟨title, FieldReport.faultOf "end_ts_default" (policyOf given)
          ++ FieldReport.faultOf "default_limit" limit⟩ := by
  simp only [ofFields, read, ok_bind, declared]
  cases policyOf given with
  | error fault => simp [eq_comm]
  | ok policy =>
    cases limit with
    | error fault => simp [eq_comm]
    | ok number => simp [pure, Except.pure]

theorem refused_policy_iff {content : String} :
    (∃ report, ofFields [("end_ts_default", .text content)] = .error (.invalidFields report)) ↔
      ∃ fault, readPolicy (.text content) = .error fault := by
  have standard : limitOf [("end_ts_default", .text content)] = .ok (.ok standardLimit) := rfl
  have alone : policyOf [("end_ts_default", .text content)] = readPolicy (.text content) := rfl
  simp [ofFields_eq_invalid_iff rfl standard, alone]

theorem refused_limit_iff {content : String} {limit : Except FieldFault Int}
    (read : limitOf [("default_limit", .text content)] = .ok limit) :
    (∃ report, ofFields [("default_limit", .text content)] = .error (.invalidFields report)) ↔
      ∃ fault, limit = .error fault := by
  have standard : policyOf [("default_limit", .text content)] = .ok .legacyMicros := rfl
  simp [ofFields_eq_invalid_iff rfl read, standard]

end Settings

/-! ### The fields that the environment gives -/

/-- A setting is given as a field, or else it is absent or empty and gives none. -/
theorem Environment.field_cases (name : String) (setting : Option String) :
    (∃ content, setting = some content ∧ content ≠ "" ∧
      field name setting = [(name, .text content)]) ∨
    (∀ content, setting = some content → content = "") ∧ field name setting = [] := by
  cases setting with
  | none => exact .inr ⟨nofun, rfl⟩
  | some content =>
    by_cases empty : content = ""
    · subst empty
      refine .inr ⟨?_, rfl⟩
      rintro other ⟨rfl⟩
      rfl
    · refine .inl ⟨content, rfl, empty, ?_⟩
      simp [field, empty]

namespace Settings

variable {environment : Environment}

theorem not_refused_of_empty {field : String} {setting : Option String}
    (empty : ∀ content, setting = some content → content = "") : ¬ Refused field setting := by
  rintro ⟨content, held, given, _⟩
  exact given (empty content held)

theorem refused_some_iff {field content : String} (given : content ≠ "") :
    Refused field (some content) ↔
      ∃ report, ofFields [(field, .text content)] = .error (.invalidFields report) := by
  simp [Refused, given]

theorem unexpected_given : FieldReport.unexpected fieldNames environment.given = [] := by
  unfold Environment.given
  rcases Environment.field_cases "end_ts_default" environment.endTsDefault with
    ⟨_, _, _, policy⟩ | ⟨_, policy⟩ <;>
  rcases Environment.field_cases "default_limit" environment.defaultLimit with
    ⟨_, _, _, limit⟩ | ⟨_, limit⟩ <;>
  · rw [policy, limit]
    rfl

/-- The policy of an environment is read from its setting, if that is given. -/
theorem policyOf_given_cases :
    (∃ content, environment.endTsDefault = some content ∧ content ≠ "" ∧
      policyOf environment.given = readPolicy (.text content)) ∨
    (∀ content, environment.endTsDefault = some content → content = "") ∧
      policyOf environment.given = .ok .legacyMicros := by
  unfold Environment.given
  rcases Environment.field_cases "end_ts_default" environment.endTsDefault with
    ⟨content, held, given, field⟩ | ⟨empty, field⟩
  · refine .inl ⟨content, held, given, ?_⟩
    rw [field]
    rfl
  · refine .inr ⟨empty, ?_⟩
    rw [field]
    rcases Environment.field_cases "default_limit" environment.defaultLimit with
      ⟨_, _, _, limit⟩ | ⟨_, limit⟩ <;>
    · rw [limit]
      rfl

/-- The limit of an environment is read from its setting, if that is given. -/
theorem limitOf_given_cases :
    (∃ content, environment.defaultLimit = some content ∧ content ≠ "" ∧
      limitOf environment.given = limitOf [("default_limit", .text content)]) ∨
    (∀ content, environment.defaultLimit = some content → content = "") ∧
      limitOf environment.given = .ok (.ok standardLimit) := by
  -- The policy in front of the limit is passed over.
  have behind : limitOf environment.given =
      limitOf (Environment.field "default_limit" environment.defaultLimit) := by
    unfold Environment.given
    rcases Environment.field_cases "end_ts_default" environment.endTsDefault with
      ⟨_, _, _, policy⟩ | ⟨_, policy⟩ <;>
    · rw [policy]
      rfl
  rw [behind]
  rcases Environment.field_cases "default_limit" environment.defaultLimit with
    ⟨content, held, given, field⟩ | ⟨empty, field⟩
  · exact .inl ⟨content, held, given, by rw [field]⟩
  · refine .inr ⟨empty, ?_⟩
    rw [field]
    rfl

theorem policyOf_given_iff :
    (∃ fault, policyOf environment.given = .error fault) ↔
      Refused "end_ts_default" environment.endTsDefault := by
  rcases @policyOf_given_cases environment with ⟨content, held, given, alone⟩ | ⟨empty, standard⟩
  · rw [alone, held, refused_some_iff given, refused_policy_iff]
  · simp [standard, not_refused_of_empty empty]

/-- A limit alone is read or refused as one. -/
theorem limitOf_alone (content : String) :
    ∃ reading, readLimit (.text content) = .ok reading ∧
      limitOf [("default_limit", .text content)] = .ok (reading.mapError .limitRefused) := by
  obtain ⟨reading, read⟩ := readLimit_text content
  exact ⟨reading, read, by simp [limitOf, read, Except.map]⟩

/-- The limit of an environment is read or refused, the latter exactly if its setting is. -/
theorem limitOf_given :
    ∃ limit, limitOf environment.given = .ok limit ∧
      ((∃ fault, limit = .error fault) ↔ Refused "default_limit" environment.defaultLimit) := by
  rcases @limitOf_given_cases environment with ⟨content, held, given, alone⟩ | ⟨empty, standard⟩
  · obtain ⟨reading, _, readAs⟩ := limitOf_alone content
    rw [alone, held, refused_some_iff given]
    exact ⟨_, readAs, (refused_limit_iff readAs).symm⟩
  · refine ⟨.ok standardLimit, standard, ?_⟩
    simp [not_refused_of_empty empty]

/-- The settings are loaded unless one of them is refused. -/
theorem load_fails_iff {threshold : Level} :
    (∃ report, (load environment threshold).result = .error (.invalidFields report)) ↔
      Refused "end_ts_default" environment.endTsDefault ∨
        Refused "default_limit" environment.defaultLimit := by
  obtain ⟨limit, read, refused⟩ := @limitOf_given environment
  rw [result_load, exists_congr fun _ => ofFields_eq_invalid_iff unexpected_given read,
    policyOf_given_iff, refused]
  simp

theorem mem_faultOf_iff {α : Type} {name field : String} {outcome : Except FieldFault α} :
    name ∈ (FieldReport.faultOf field outcome).map Prod.fst ↔
      name = field ∧ ∃ fault, outcome = .error fault := by
  cases outcome <;> simp [FieldReport.faultOf]

/-- A failure to load tells of every setting that is refused, whether it is needed or not. -/
theorem names_of_load_fails {threshold : Level} {report : FieldReport}
    (failed : (load environment threshold).result = .error (.invalidFields report)) :
    report.title = title ∧
      ("end_ts_default" ∈ report.faults.map Prod.fst ↔
        Refused "end_ts_default" environment.endTsDefault) ∧
      ("default_limit" ∈ report.faults.map Prod.fst ↔
        Refused "default_limit" environment.defaultLimit) := by
  obtain ⟨limit, read, refused⟩ := @limitOf_given environment
  rw [result_load, ofFields_eq_invalid_iff unexpected_given read] at failed
  obtain ⟨_, rfl⟩ := failed
  simp only [List.map_append, List.mem_append, mem_faultOf_iff, policyOf_given_iff, refused]
  simp

end Settings

/-! ### Builds that fail for the settings -/

namespace Draft

variable {draft : Draft} {surroundings : Surroundings}

/-- A build fails for the settings if its fault is that of faulty settings. -/
def FailsForSettings (draft : Draft) (surroundings : Surroundings) : Prop :=
  ∃ report, (draft.build surroundings).result = .error (.invalidFields report) ∧
    report.title = Settings.title

theorem endTsOr_ne_invalid {settings : Settings} {report : FieldReport} :
    draft.endTsOr settings surroundings ≠ .error (.invalidFields report) := by
  unfold endTsOr Surroundings.currentMillis
  split
  · split <;> nofun
  · nofun

theorem clamp_ne_invalid {lookback endTs : Value} {report : FieldReport} :
    clamp lookback endTs ≠ .error (.invalidFields report) := by
  unfold clamp
  split <;> nofun

theorem accept_ne_invalid {candidate : Candidate} {report : FieldReport} :
    candidate.accept ≠ .error (.invalidFields report) := by
  intro failed
  rcases Candidate.accept_eq_error_iff.1 failed with ⟨breach, _, same⟩ | ⟨_, _, _, bare⟩
  · rcases breach.reports_or_tooLong with ⟨violation, reports⟩ | ⟨_, tooLong⟩
    · cases same.trans reports.fault_eq
    · cases same.trans tooLong
  · cases bare

theorem built_ne_invalid {candidate : Candidate} {threshold : Level} {report : FieldReport} :
    candidate.built threshold ≠ .error (.invalidFields report) := by
  intro failed
  rcases Candidate.error_of_built failed with tooLong | refused
  · cases tooLong
  · exact accept_ne_invalid refused

/-- Only loading the settings fails for them, and they are loaded when some default is needed. -/
theorem build_eq_invalid_iff {report : FieldReport} :
    (draft.build surroundings).result = .error (.invalidFields report) ↔
      (draft.endTs = .null ∨ draft.limit = .null) ∧
        (Settings.load surroundings.environment surroundings.threshold).result =
          .error (.invalidFields report) := by
  have behind (settings : Settings) : (do
      let endTs ← draft.endTsOr settings surroundings
      let lookback ← clamp (draft.lookbackOr endTs) endTs
      (draft.candidate endTs lookback (draft.limitOr settings)).built surroundings.threshold) ≠
        .error (.invalidFields report) := by
    simp [bind_eq_error_iff, endTsOr_ne_invalid, clamp_ne_invalid, built_ne_invalid]
  rw [result_build, bind_eq_error_iff, settings]
  simp only [behind, and_false, exists_false, or_false]
  by_cases needed : draft.needsSettings
  · rw [if_pos needed]
    simp [needsSettings_iff.1 needed]
  · rw [if_neg needed]
    rw [needsSettings_iff] at needed
    simp [needed]

/-- The defaults that a build needs do not include that of a refused setting. -/
def BlamesOtherSetting (draft : Draft) (environment : Environment) : Prop :=
  (draft.endTs = .null ∧ draft.limit ≠ .null ∧
      ¬ Settings.Refused "end_ts_default" environment.endTsDefault ∧
      Settings.Refused "default_limit" environment.defaultLimit) ∨
    (draft.endTs ≠ .null ∧ draft.limit = .null ∧
      Settings.Refused "end_ts_default" environment.endTsDefault ∧
      ¬ Settings.Refused "default_limit" environment.defaultLimit)

theorem failsForSettings_iff :
    draft.FailsForSettings surroundings ↔
      (draft.endTs = .null ∨ draft.limit = .null) ∧
        (Settings.Refused "end_ts_default" surroundings.environment.endTsDefault ∨
          Settings.Refused "default_limit" surroundings.environment.defaultLimit) := by
  rw [← @Settings.load_fails_iff _ surroundings.threshold]
  simp only [FailsForSettings, build_eq_invalid_iff]
  constructor
  · rintro ⟨report, ⟨needed, failed⟩, _⟩
    exact ⟨needed, report, failed⟩
  · rintro ⟨needed, report, failed⟩
    exact ⟨report, ⟨needed, failed⟩, (Settings.names_of_load_fails failed).1⟩

/-- A build fails for a refused setting of a default that it needs, and for no other, except when
the one default that it needs has a setting that is in order and the other setting is refused: then
it fails for the other. Whenever it fails for the settings, it tells of all that are refused. -/
theorem fails_for_own_settings_iff (draft : Draft) (surroundings : Surroundings) :
    let policyRefused := Settings.Refused "end_ts_default" surroundings.environment.endTsDefault
    let limitRefused := Settings.Refused "default_limit" surroundings.environment.defaultLimit
    ((draft.FailsForSettings surroundings ↔
        draft.endTs = .null ∧ policyRefused ∨ draft.limit = .null ∧ limitRefused) ↔
      ¬ draft.BlamesOtherSetting surroundings.environment) ∧
    (draft.FailsForSettings surroundings ↔
      (draft.endTs = .null ∨ draft.limit = .null) ∧ (policyRefused ∨ limitRefused)) ∧
    (draft.BlamesOtherSetting surroundings.environment → draft.FailsForSettings surroundings) ∧
    ∀ report, (draft.build surroundings).result = .error (.invalidFields report) →
      report.title = Settings.title ∧
        ("end_ts_default" ∈ report.faults.map Prod.fst ↔ policyRefused) ∧
        ("default_limit" ∈ report.faults.map Prod.fst ↔ limitRefused) := by
  intro policyRefused limitRefused
  have fails : draft.FailsForSettings surroundings ↔
      (draft.endTs = .null ∨ draft.limit = .null) ∧ (policyRefused ∨ limitRefused) :=
    failsForSettings_iff
  refine ⟨?_, fails, ?_, ?_⟩
  · -- One default is needed or the other, and one setting is refused or the other: sixteen cases.
    rw [fails]
    show _ ↔ ¬ ((draft.endTs = .null ∧ ¬ draft.limit = .null ∧ ¬ policyRefused ∧ limitRefused) ∨
      (¬ draft.endTs = .null ∧ draft.limit = .null ∧ policyRefused ∧ ¬ limitRefused))
    by_cases endTsUnset : draft.endTs = .null <;> by_cases limitUnset : draft.limit = .null <;>
      by_cases policy : policyRefused <;> by_cases limit : limitRefused <;>
      simp [endTsUnset, limitUnset, policy, limit]
  · rintro (⟨endTsUnset, _, _, limit⟩ | ⟨_, limitUnset, policy, _⟩)
    · exact fails.2 ⟨.inl endTsUnset, .inr limit⟩
    · exact fails.2 ⟨.inr limitUnset, .inl policy⟩
  · intro report failed
    exact Settings.names_of_load_fails (build_eq_invalid_iff.1 failed).2

/-- The end is set and the only default that is needed, that of the limit, has no setting that could
be refused; still the build fails for the policy on ends. -/
theorem set_end_failed_by_policy :
    let draft : Draft := { Draft.empty with serviceName := .text "api", endTs := .int 5 }
    let surroundings : Surroundings := ⟨⟨some "seconds", none⟩, .zero false, .warning⟩
    (draft.build surroundings).result =
        .error (.invalidFields ⟨Settings.title, [("end_ts_default", .unknownPolicy)]⟩) ∧
      ¬ (draft.endTs = .null ∧
          Settings.Refused "end_ts_default" surroundings.environment.endTsDefault ∨
        draft.limit = .null ∧
          Settings.Refused "default_limit" surroundings.environment.defaultLimit) := by
  intro draft surroundings
  refine ⟨rfl, ?_⟩
  rintro (⟨unset, _⟩ | ⟨_, content, held, _⟩)
  · cases unset
  · cases held

end Draft

end TraceFilter
