/-
Module: TraceFilter.Proofs.SettingsReading
Purpose: Which contents of the two environment variables are settings, which settings they are, and
  what is reported of all others.
Main exports: Settings.Configured, Settings.PolicyConfigured, Settings.LimitConfigured,
  Settings.load_eq_ok_iff, Settings.BlamesUnconfigured, Settings.load_reads_configured
-/
import TraceFilter.Proofs.PolicyNames
import TraceFilter.Proofs.SettingsFailure
import TraceFilter.Proofs.WrittenIntegers

namespace TraceFilter

namespace Settings

/-! ### What a variable configures -/

/-- What a variable configures: what its content means, or the standard when it has none. Content
that means nothing configures nothing. -/
inductive Configured {α : Type} (standard : α) (means : String → α → Prop) :
    Option String → α → Prop where
  | unset : Configured standard means none standard
  | empty : Configured standard means (some "") standard
  | given {content : String} {value : α} (meant : means content value) :
      Configured standard means (some content) value

/-- The policy that a variable configures. -/
def PolicyConfigured : Option String → EndTsPolicy → Prop :=
  Configured .legacyMicros fun content policy => policy.Spelled content

/-- The limit that a variable configures. -/
def LimitConfigured : Option String → Int → Prop :=
  Configured 10 fun content limit => Numeral.Denotes content limit ∧ 1 ≤ limit

namespace Configured

variable {α : Type} {standard : α} {means : String → α → Prop}

theorem some_iff {content : String} (present : content ≠ "") {value : α} :
    Configured standard means (some content) value ↔ means content value := by
  constructor
  · intro configured
    cases configured with
    | empty => exact absurd rfl present
    | given meant => exact meant
  · exact .given

theorem absent_iff {setting : Option String} (meaningless : ∀ value, ¬ means "" value)
    (absent : ∀ content, setting = some content → content = "") {value : α} :
    Configured standard means setting value ↔ value = standard := by
  constructor
  · intro configured
    cases configured with
    | unset => rfl
    | empty => rfl
    | given meant =>
      obtain rfl := absent _ rfl
      exact absurd meant (meaningless value)
  · rintro rfl
    cases setting with
    | none => exact .unset
    | some content =>
      obtain rfl := absent content rfl
      exact .empty

end Configured

/-- A limit is positive, be it written or the standard one. -/
theorem LimitConfigured.positive {setting : Option String} {limit : Int}
    (configured : LimitConfigured setting limit) : 1 ≤ limit := by
  cases configured with
  | unset => decide
  | empty => decide
  | given meant => exact meant.2

theorem not_spelled_of_blank {content : String}
    (blank : ∀ c ∈ content.toList, Text.isBlank c = true) (policy : EndTsPolicy) :
    ¬ policy.Spelled content := by
  intro spelled
  obtain ⟨c, member, visible⟩ := spelled.exists_visible
  exact Bool.eq_false_iff.1 visible (blank c member)

theorem not_denotes_of_blank {content : String}
    (blank : ∀ c ∈ content.toList, Text.isBlank c = true) (limit : Int) :
    ¬ (Numeral.Denotes content limit ∧ 1 ≤ limit) := by
  rintro ⟨denotes, _⟩
  obtain ⟨c, member, visible⟩ := denotes.exists_visible
  exact Bool.eq_false_iff.1 visible (blank c member)

/-! ### What the reader makes of it -/

variable {environment : Environment}

theorem positiveLimit_eq_ok_iff {number limit : Int} :
    positiveLimit number = .ok limit ↔ number = limit ∧ 1 ≤ limit := by
  by_cases below : number < 1
  · rw [positiveLimit, if_pos below]
    constructor
    · intro read
      cases read
    · rintro ⟨rfl, positive⟩
      omega
  · rw [positiveLimit, if_neg below, Except.ok.injEq, iff_self_and]
    rintro rfl
    omega

/-- A text is read as a limit exactly if it denotes it, and it is positive. -/
theorem readLimit_text_eq_ok_iff {content : String} {limit : Int} :
    readLimit (.text content) = .ok (.ok limit) ↔ Numeral.Denotes content limit ∧ 1 ≤ limit := by
  rw [← Numeral.readAnyScript_eq_ok_iff]
  simp only [readLimit]
  cases Numeral.readAnyScript content with
  | ok number => simp [positiveLimit_eq_ok_iff]
  | error refusal => cases refusal <;> simp

theorem policyOf_given_eq_ok_iff {policy : EndTsPolicy} :
    policyOf environment.given = .ok policy ↔
      PolicyConfigured environment.endTsDefault policy := by
  unfold PolicyConfigured
  rcases @policyOf_given_cases environment with ⟨content, held, present, alone⟩ | ⟨empty, standard⟩
  · rw [alone, held, Configured.some_iff present, readPolicy_text_eq_ok_iff]
  · rw [standard, Configured.absent_iff (not_spelled_of_blank (by simp)) empty, Except.ok.injEq,
      eq_comm]

theorem limitOf_given_eq_ok_iff {limit : Int} :
    limitOf environment.given = .ok (.ok limit) ↔
      LimitConfigured environment.defaultLimit limit := by
  unfold LimitConfigured
  rcases @limitOf_given_cases environment with ⟨content, held, present, alone⟩ | ⟨empty, standard⟩
  · obtain ⟨reading, read, readAs⟩ := limitOf_alone content
    rw [alone, readAs, held, Configured.some_iff present, ← readLimit_text_eq_ok_iff, read,
      Except.ok.injEq, Except.ok.injEq, mapError_eq_ok_iff]
  · rw [standard, Configured.absent_iff (not_denotes_of_blank (by simp)) empty, Except.ok.injEq,
      Except.ok.injEq, eq_comm, standardLimit]

/-- Fields that are all declared make the settings of their policy and their limit. -/
theorem ofFields_eq_ok_iff {given : List (String × Value)}
    (declared : FieldReport.unexpected fieldNames given = []) {settings : Settings} :
    ofFields given = .ok settings ↔
      policyOf given = .ok settings.endTsPolicy ∧
        limitOf given = .ok (.ok settings.defaultLimit) := by
  obtain ⟨endTsPolicy, defaultLimit⟩ := settings
  simp only [ofFields, declared]
  cases limitOf given with
  | error fault => simp
  | ok limit =>
    cases policyOf given <;> cases limit <;> simp [pure, Except.pure]

/-! ### Loading -/

/-- Settings are loaded when each variable configures its part of them. -/
theorem load_eq_ok_iff {threshold : Level} {settings : Settings} :
    (load environment threshold).result = .ok settings ↔
      PolicyConfigured environment.endTsDefault settings.endTsPolicy ∧
        LimitConfigured environment.defaultLimit settings.defaultLimit := by
  rw [result_load, ofFields_eq_ok_iff unexpected_given, policyOf_given_eq_ok_iff,
    limitOf_given_eq_ok_iff]

/-- A report on settings names the fields whose variables configure nothing, in the order in which
the fields are declared. -/
structure BlamesUnconfigured (environment : Environment) (report : FieldReport) : Prop where
  title : report.title = Settings.title
  ordered : (report.faults.map Prod.fst).Sublist fieldNames
  policy : "end_ts_default" ∈ report.faults.map Prod.fst ↔
    ¬ ∃ policy, PolicyConfigured environment.endTsDefault policy
  limit : "default_limit" ∈ report.faults.map Prod.fst ↔
    ¬ ∃ limit, LimitConfigured environment.defaultLimit limit

theorem names_faultOf_sublist {α : Type} (field : String) (outcome : Except FieldFault α) :
    ((FieldReport.faultOf field outcome).map Prod.fst).Sublist [field] := by
  cases outcome with
  | ok value => exact List.nil_sublist _
  | error fault => exact List.Sublist.refl _

/-- Loading comes to settings, or else to a report on the variables that configure nothing. -/
theorem load_ok_or_blames (environment : Environment) (threshold : Level) :
    (∃ settings, (load environment threshold).result = .ok settings) ∨
      ∃ report, (load environment threshold).result = .error (.invalidFields report) ∧
        BlamesUnconfigured environment report := by
  obtain ⟨limit, read, _⟩ := @limitOf_given environment
  have policyFaulty : (∃ fault, policyOf environment.given = .error fault) ↔
      ¬ ∃ policy, PolicyConfigured environment.endTsDefault policy := by
    rw [exists_eq_error_iff, exists_congr fun _ => policyOf_given_eq_ok_iff]
  have limitFaulty : (∃ fault, limit = .error fault) ↔
      ¬ ∃ number, LimitConfigured environment.defaultLimit number := by
    simp only [exists_eq_error_iff, ← limitOf_given_eq_ok_iff, read, Except.ok.injEq]
  by_cases faulty : (∃ fault, policyOf environment.given = .error fault) ∨
      ∃ fault, limit = .error fault
  · have failed := (ofFields_eq_invalid_iff unexpected_given read).2 ⟨faulty, rfl⟩
    rw [← @result_load environment threshold] at failed
    refine .inr ⟨_, failed, rfl, ?_, ?_, ?_⟩
    · rw [List.map_append]
      exact (names_faultOf_sublist _ _).append (names_faultOf_sublist _ _)
    · rw [← policyFaulty, List.map_append, List.mem_append, mem_faultOf_iff, mem_faultOf_iff]
      simp
    · rw [← limitFaulty, List.map_append, List.mem_append, mem_faultOf_iff, mem_faultOf_iff]
      simp
  · rw [not_or, policyFaulty, limitFaulty, not_not, not_not] at faulty
    obtain ⟨⟨policy, policyConfigured⟩, number, limitConfigured⟩ := faulty
    exact .inl ⟨⟨policy, number⟩, load_eq_ok_iff.2 ⟨policyConfigured, limitConfigured⟩⟩

/-- Settings are loaded exactly when either variable is unset or empty, or its content has the form
that its part of them is written in, and they are what is written; the limit is never below one.
Otherwise every variable that is neither is reported, in order. Blanks alone are such content, and
no character outside ASCII is part of the name of a policy. -/
theorem load_reads_configured (environment : Environment) (threshold : Level) :
    (∀ settings, (load environment threshold).result = .ok settings ↔
      PolicyConfigured environment.endTsDefault settings.endTsPolicy ∧
        LimitConfigured environment.defaultLimit settings.defaultLimit) ∧
    (∀ settings, (load environment threshold).result = .ok settings →
      1 ≤ settings.defaultLimit) ∧
    ((∃ settings, (load environment threshold).result = .ok settings) ∨
      ∃ report, (load environment threshold).result = .error (.invalidFields report) ∧
        BlamesUnconfigured environment report) ∧
    (∀ content, content ≠ "" → (∀ c ∈ content.toList, Text.isBlank c = true) →
      (∀ policy, ¬ PolicyConfigured (some content) policy) ∧
        ∀ limit, ¬ LimitConfigured (some content) limit) ∧
    ∀ content policy, PolicyConfigured (some content) policy →
      ∀ c ∈ content.toList, Text.isBlank c = true ∨ c.toNat < 0x80 := by
  refine ⟨fun settings => load_eq_ok_iff, ?_, load_ok_or_blames environment threshold, ?_, ?_⟩
  · intro settings loaded
    exact (load_eq_ok_iff.1 loaded).2.positive
  · intro content present blank
    constructor
    · intro policy configured
      exact not_spelled_of_blank blank policy ((Configured.some_iff present).1 configured)
    · intro limit configured
      exact not_denotes_of_blank blank limit ((Configured.some_iff present).1 configured)
  · intro content policy configured
    cases configured with
    | empty => nofun
    | given spelled => exact spelled.ascii_or_blank

/-- A name in mixed case, and a number with a sign, digits of two scripts and an underscore between
them, all with blanks around. -/
theorem load_reads_configured_mixed_spelling :
    (load ⟨some " MiLLis\t", some "\n+1_\u0662 "⟩ .warning).result = .ok ⟨.millis, 12⟩ := by
  have spelled : EndTsPolicy.millis.Spelled " MiLLis\t" := by
    have parts : " MiLLis\t" =
        String.ofList ([' '] ++ (['M', 'i', 'L', 'L', 'i', 's'] ++ ['\t'])) := by decide
    rw [parts]
    exact .intro (List.forall_mem_singleton.2 (by decide)) (by decide)
      (List.forall_mem_singleton.2 (by decide))
  have denotes : Numeral.Denotes "\n+1_\u0662 " 12 := by
    have parts : "\n+1_\u0662 " =
        String.ofList (['\n'] ++ (['+'] ++ (['1', '_', '\u0662'] ++ [' ']))) := by decide
    have written : Numeral.DigitsWritten ['1', '_', '\u0662'] [1, 2] :=
      .grouped (by decide) (.last (by decide))
    have number : (12 : Int) = Numeral.Sign.plus.apply (Nat.ofDigits 10 [1, 2].reverse) := rfl
    rw [parts, number]
    exact .intro (List.forall_mem_singleton.2 (by decide)) .plus written (by decide)
      (List.forall_mem_singleton.2 (by decide))
  exact ((load_reads_configured _ _).1 _).2 ⟨.given spelled, .given ⟨denotes, by decide⟩⟩

end Settings

end TraceFilter
