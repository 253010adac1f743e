/-
Module: TraceFilter.Proofs.BuildEvents
Purpose: What a build of values that can be written leaves behind for its operators: the settings
  that it loaded, its call, and one count with one record of its outcome, unless it fails for
  anything but a broken rule.
Main exports: Draft.buildWhere_eq, Draft.Account, Draft.Leaves, Draft.leaves_buildWhere,
  Draft.leaves_build, Observed.Accounted, Draft.Leaves.accounted
-/
import TraceFilter.Draft.Opened
import TraceFilter.Proofs.SettingsFailure

namespace TraceFilter

/-! ### Faults that report no broken rule -/

/-- The violation of a rule that a fault reports, if it reports one. -/
def Fault.violation? : Fault → Option Violation
  | .invalidArgument violation => some violation
  | _ => none

theorem Fault.eq_of_violation? {fault : Fault} {violation : Violation}
    (reports : fault.violation? = some violation) : fault = .invalidArgument violation := by
  unfold violation? at reports
  split at reports
  · cases reports
    rfl
  · cases reports

/-- An outcome is no rejection if its fault reports no broken rule. -/
def NoRejection {α : Type} (outcome : Except Fault α) : Prop :=
  ∀ fault, outcome = .error fault → fault.violation? = none

section NoRejection

variable {α β : Type}

theorem noRejection_ok (value : α) : NoRejection (.ok value) := nofun

theorem noRejection_error {fault : Fault} (other : fault.violation? = none) :
    NoRejection (.error fault : Except Fault α) := by
  rintro _ ⟨rfl⟩
  exact other

theorem NoRejection.bind {first : Except Fault α} {next : α → Except Fault β}
    (before : NoRejection first) (after : ∀ value, NoRejection (next value)) :
    NoRejection (first >>= next) := by
  cases first with
  | error fault => exact noRejection_error (before fault rfl)
  | ok value => exact after value

theorem NoRejection.map {first : Except Fault α} (before : NoRejection first) (change : α → β) :
    NoRejection (first.map change) := by
  cases first with
  | error fault => exact noRejection_error (before fault rfl)
  | ok value => exact noRejection_ok (change value)

theorem NoRejection.discard {first : Except Fault α} (before : NoRejection first) :
    NoRejection (discard first) := by
  cases first with
  | error fault => exact noRejection_error (before fault rfl)
  | ok value => exact noRejection_ok ()

end NoRejection

namespace Settings

theorem noRejection_readLimit (value : Value) : NoRejection (readLimit value) := by
  unfold readLimit
  split
  · exact noRejection_ok _
  · exact noRejection_ok _
  · split
    · exact noRejection_ok _
    · exact noRejection_ok _
    · exact noRejection_error rfl
  · split <;> exact noRejection_ok _
  · exact noRejection_error rfl

/-- Settings that cannot be made are no argument that breaks a rule. -/
theorem noRejection_ofFields (given : List (String × Value)) : NoRejection (ofFields given) := by
  apply NoRejection.bind
  · unfold limitOf
    split
    · exact (noRejection_readLimit _).map _
    · exact noRejection_ok _
  · intro limit
    simp only
    split
    · exact noRejection_ok _
    · exact noRejection_error rfl

end Settings

theorem Surroundings.noRejection_currentMillis (surroundings : Surroundings) :
    NoRejection surroundings.currentMillis := by
  unfold currentMillis
  split
  · exact noRejection_error rfl
  · exact noRejection_ok _
  · exact noRejection_error rfl

/-! ### The records before the outcome -/

/-- Some variable of an environment has a text. -/
def Environment.HasText (environment : Environment) : Prop :=
  ∃ content, content ≠ "" ∧
    (environment.endTsDefault = some content ∨ environment.defaultLimit = some content)

theorem Environment.hasText_iff {environment : Environment} :
    environment.HasText ↔ environment.given ≠ [] := by
  unfold given HasText
  rcases field_cases "end_ts_default" environment.endTsDefault with
    ⟨policy, held, nonempty, field⟩ | ⟨empty, field⟩
  · rw [field]
    exact iff_of_true ⟨policy, nonempty, .inl held⟩ (List.cons_ne_nil _ _)
  · rw [field, List.nil_append]
    rcases field_cases "default_limit" environment.defaultLimit with
      ⟨limit, held, nonempty, field⟩ | ⟨emptyToo, field⟩
    · rw [field]
      exact iff_of_true ⟨limit, nonempty, .inr held⟩ (List.cons_ne_nil _ _)
    · rw [field]
      refine iff_of_false ?_ fun given => given rfl
      rintro ⟨content, nonempty, held | held⟩
      · exact nonempty (empty content held)
      · exact nonempty (emptyToo content held)

/-- What loading the settings leaves behind: a record of their text if some variable has a text. -/
def Settings.loadRecords (environment : Environment) : List Event :=
  match ofFields environment.given with
  | .error _ => []
  | .ok settings =>
    if environment.given.isEmpty then []
    else settings.plain.toOption.toList.map fun text =>
      .record .debug Observation.settingsLogger
        ("Loaded query settings from environment: " ++ text)

theorem Settings.debug_of_mem_loadRecords {environment : Environment} {event : Event}
    (mem : event ∈ loadRecords environment) :
    ∃ logger message, event = .record .debug logger message := by
  unfold loadRecords at mem
  split at mem
  · cases mem
  · split at mem
    · cases mem
    · obtain ⟨text, _, same⟩ := List.mem_map.1 mem
      exact ⟨_, _, same.symm⟩

theorem Settings.loadRecords_of_not_given {environment : Environment}
    (none : environment.given.isEmpty = true) : loadRecords environment = [] := by
  unfold loadRecords
  split
  · rfl
  · exact if_pos none

/-- Settings that were loaded because some variable has a text leave one record behind. -/
theorem Settings.loadRecords_of_given {environment : Environment} {settings : Settings}
    (given : environment.given ≠ []) (made : ofFields environment.given = .ok settings) :
    ∃ text, settings.plain = .ok text ∧
      loadRecords environment = [.record .debug Observation.settingsLogger
        ("Loaded query settings from environment: " ++ text)] := by
  obtain ⟨text, written⟩ := exists_plain
    (isWritable_of_ofFields (fun _ => Environment.text_of_mem_given) made)
  refine ⟨text, written, ?_⟩
  simp only [loadRecords, made, written, List.isEmpty_iff, if_neg given]
  rfl

theorem Settings.events_load (environment : Environment) (threshold : Level) :
    (load environment threshold).events =
      (loadRecords environment).filter (Event.visibleAt threshold) := by
  cases made : ofFields environment.given with
  | error fault =>
    simp only [load, loadRecords, made]
    rfl
  | ok settings =>
    cases none : environment.given.isEmpty with
    | true =>
      rw [loadRecords_of_not_given none]
      simp only [load, made, none]
      rfl
    | false =>
      obtain ⟨text, written, records⟩ :=
        loadRecords_of_given (List.isEmpty_eq_false_iff.1 none) made
      rw [records, load, made, Observed.ofExcept_ok_bind, none, if_neg Bool.false_ne_true, written,
        Observed.ofExcept_ok_bind]
      exact (Observed.events_bind_of_silent fun _ => rfl).trans (Observed.events_record _ _ _ _)

/-- A call whose arguments can all be written has one record, which is kept if the threshold lets it
through. -/
theorem Observation.recordCall_of_writable {arguments : List (String × Value)}
    (writable : fieldsWritable arguments = true) (logger callee : String) :
    ∃ message, callMessage callee arguments = .ok message ∧
      ∀ threshold, recordCall threshold logger callee arguments =
        ⟨.ok (), [Event.record .debug logger message].filter (Event.visibleAt threshold)⟩ := by
  have shown : ∃ message, callMessage callee arguments = .ok message := by
    rw [callMessage_eq, truncateArguments_eq, if_pos writable]
    exact ⟨_, rfl⟩
  obtain ⟨message, shown⟩ := shown
  refine ⟨message, shown, fun threshold => ?_⟩
  cases threshold with
  | debug =>
    simp only [recordCall, shown]
    rfl
  | info | warning | error | critical => rfl

namespace Draft

/-- What a build leaves behind of the settings: nothing unless it needs them. -/
def settingsRecords (draft : Draft) (environment : Environment) : List Event :=
  if draft.needsSettings then Settings.loadRecords environment else []

/-- A build records its settings if it needs them, a variable has a text, and they can be made. -/
theorem settingsRecords_ne_nil_iff {draft : Draft} {environment : Environment} :
    draft.settingsRecords environment ≠ [] ↔
      (draft.endTs = .null ∨ draft.limit = .null) ∧ environment.HasText ∧
        ∃ settings, Settings.ofFields environment.given = .ok settings := by
  rw [← needsSettings_iff, Environment.hasText_iff, settingsRecords]
  cases draft.needsSettings with
  | false => simp
  | true =>
    cases made : Settings.ofFields environment.given with
    | error fault => simp [Settings.loadRecords, made]
    | ok settings =>
      by_cases given : environment.given = []
      · simp [Settings.loadRecords_of_not_given (List.isEmpty_iff.2 given), given]
      · obtain ⟨text, _, records⟩ := Settings.loadRecords_of_given given made
        simp [records, given]

theorem events_settings (draft : Draft) (surroundings : Surroundings) :
    (draft.settings surroundings).events =
      (draft.settingsRecords surroundings.environment).filter
        (Event.visibleAt surroundings.threshold) := by
  unfold settings settingsRecords
  split
  · exact Settings.events_load _ _
  · rfl

theorem noRejection_settings (draft : Draft) (surroundings : Surroundings) :
    NoRejection (draft.settings surroundings).result := by
  unfold settings
  split
  · rw [Settings.result_load]
    exact Settings.noRejection_ofFields _
  · exact noRejection_ok _

/-! ### The account of the outcome -/

/-- What an outcome leaves behind: a built request is counted and its text recorded, a broken rule
is counted under its field and told in a warning, and any other fault leaves nothing behind. -/
inductive Account : Except Fault Request → List Event → Prop
  | built {request : Request} {text : String} (written : request.plain = .ok text) :
    Account (.ok request) [
      .count Observation.builtCounter.name 1 [],
      .record .debug Observation.requestLogger ("Built " ++ text)]
  | rejected (violation : Violation) :
    Account (.error (.invalidArgument violation)) [
      .count Observation.rejectedCounter.name 1 [("field", violation.field)],
      .record .warning Observation.requestLogger ("Rejected query request: " ++ violation.message)]
  | unaccounted {fault : Fault} (other : fault.violation? = none) : Account (.error fault) []

/-- An outcome that is observed leaves its account behind, as far as the threshold lets it through,
unless it is a request that cannot be written. -/
theorem account_observe {outcome : Except Fault Request}
    (writable : ∀ request, outcome = .ok request → request.isWritable = true) (threshold : Level) :
    ∃ told, Account outcome told ∧
      observe threshold outcome = ⟨outcome, told.filter (Event.visibleAt threshold)⟩ := by
  cases outcome with
  | ok request =>
    obtain ⟨text, written⟩ : ∃ text, request.plain = .ok text := by
      rw [Request.plain_eq, if_pos (writable request rfl)]
      exact ⟨_, rfl⟩
    refine ⟨_, .built written, ?_⟩
    simp only [observe, written]
    rw [Observed.bind_of_ok _ _ () (Observed.result_count _ _), Observed.ofExcept_ok_bind,
      Observed.bind_of_ok _ _ () (Observed.result_record _ _ _ _), Observed.events_record]
    exact congrArg (Observed.mk _) (congrArg (List.cons _) (List.append_nil _))
  | error fault =>
    cases reports : fault.violation? with
    | none =>
      refine ⟨[], .unaccounted reports, ?_⟩
      cases fault <;> first | rfl | cases reports
    | some violation =>
      rw [Fault.eq_of_violation? reports]
      refine ⟨_, .rejected violation, ?_⟩
      simp only [observe]
      rw [Observed.bind_of_ok _ _ () (Observed.result_count _ _),
        Observed.bind_of_ok _ _ () (Observed.result_record _ _ _ _), Observed.events_record]
      exact congrArg (Observed.mk _) (congrArg (List.cons _) (List.append_nil _))

/-! ### The three places where a build leaves something behind -/

section Steps

variable (draft : Draft) (readable : DraftPart → Except Fault Unit) (surroundings : Surroundings)

/-- What a build reads before it loads any settings. -/
def readEnds : Except Fault Unit := do
  readable (.scalar .endTs)
  if !draft.endTs.isNull then readable (.scalar .limit)

/-- The end, the lookback and the limit that a build fills in for its call. -/
def fillBounds (settings : Settings) : Except Fault (Value × Value × Value) := do
  let endTs ← draft.endTsOr settings surroundings
  readable (.scalar .lookback)
  let lookback ← clamp (draft.lookbackOr endTs) endTs
  readable (.scalar .limit)
  readable (.scalar .serviceName)
  return (endTs, lookback, draft.limitOr settings)

/-- What a build has to read besides, for its candidate to be accepted. -/
def acceptWhere (endTs lookback limit : Value) : Except Fault Request := do
  readable (.scalar .spanName)
  readable .annotations
  readable .tags
  readable (.scalar .minDuration)
  readable (.scalar .maxDuration)
  (draft.candidate endTs lookback limit).accept

/-- What a build does from its call on. -/
def answer (threshold : Level) (endTs lookback limit : Value) : Observed Request := do
  Observation.recordCall threshold Observation.requestLogger (title ++ ".build")
    (draft.candidate endTs lookback limit).callArguments
  observe threshold (draft.acceptWhere readable endTs lookback limit)

/-- A build leaves something behind when it loads its settings, when all is there for its call, and
when its outcome is known. All its other steps are silent. -/
theorem buildWhere_eq : draft.buildWhere readable surroundings = (do
    .ofExcept (draft.readEnds readable)
    let settings ← draft.settings surroundings
    let bounds ← .ofExcept (draft.fillBounds readable surroundings settings)
    draft.answer readable surroundings.threshold bounds.1 bounds.2.1 bounds.2.2) := by
  unfold buildWhere readEnds fillBounds
  simp only [Observed.ofExcept_bind, Observed.ofExcept_pure, Observed.bind_bind,
    Observed.pure_bind]
  cases draft.endTs.isNull <;> rfl

variable {readable}

theorem exists_unread_of_readEnds {fault : Fault} (fails : draft.readEnds readable = .error fault) :
    ∃ part, readable part = .error fault := by
  rcases bind_eq_error_iff.1 fails with refused | ⟨_, _, refused⟩
  · exact ⟨_, refused⟩
  · split at refused
    · exact ⟨_, refused⟩
    · cases refused

variable (fair : ∀ part, NoRejection (readable part))

include fair

theorem noRejection_fillBounds (settings : Settings) :
    NoRejection (draft.fillBounds readable surroundings settings) := by
  apply NoRejection.bind
  · unfold endTsOr
    split
    · exact surroundings.noRejection_currentMillis.map _
    · exact noRejection_ok _
  intro endTs
  apply NoRejection.bind (fair _)
  intro _
  apply NoRejection.bind
  · unfold clamp
    split
    · exact noRejection_error rfl
    · exact noRejection_ok _
    · exact noRejection_ok _
  intro lookback
  apply NoRejection.bind (fair _)
  intro _
  apply NoRejection.bind (fair _)
  intro _
  exact noRejection_ok _

omit fair

variable {draft surroundings}

/-- What a build goes on with from its call can be written if the draft can. -/
theorem isWritable_fillBounds {settings : Settings} {endTs lookback limit : Value}
    (writable : draft.IsWritable) (loaded : (draft.settings surroundings).result = .ok settings)
    (filled : draft.fillBounds readable surroundings settings = .ok (endTs, lookback, limit)) :
    (draft.candidate endTs lookback limit).IsWritable := by
  simp only [fillBounds, bind_eq_ok_iff] at filled
  obtain ⟨_, ended, _, _, _, clamped, _, _, _, _, ⟨rfl⟩⟩ := filled
  exact writable.filled loaded ended clamped

/-- A request that is accepted where all that is proposed can be written can be written, too. -/
theorem isWritable_acceptWhere {endTs lookback limit : Value} {request : Request}
    (writable : (draft.candidate endTs lookback limit).IsWritable)
    (accepts : draft.acceptWhere readable endTs lookback limit = .ok request) :
    request.isWritable = true := by
  simp only [acceptWhere, bind_eq_ok_iff] at accepts
  obtain ⟨_, _, _, _, _, _, _, _, _, _, accepted⟩ := accepts
  exact (Candidate.accept_eq_ok_iff.1 accepted).2.isWritable_iff.2 writable

end Steps

/-! ### All that a build leaves behind -/

/-- What a build with some outcome can leave behind under an environment, as far as the threshold
lets it through. Until it reaches its call it cannot fail for a broken rule; after that its outcome
is accounted for, whatever it is. -/
inductive Leaves (draft : Draft) (readable : DraftPart → Except Fault Unit)
    (environment : Environment) : Except Fault Request → List Event → Prop
  | unread {part : DraftPart} {fault : Fault} (refused : readable part = .error fault)
    (other : fault.violation? = none) : Leaves draft readable environment (.error fault) []
  | uncalled {fault : Fault} (other : fault.violation? = none) :
    Leaves draft readable environment (.error fault) (draft.settingsRecords environment)
  | called {endTs lookback limit : Value} {message : String} {outcome : Except Fault Request}
    {told : List Event}
    (shown : Observation.callMessage (title ++ ".build")
      (draft.candidate endTs lookback limit).callArguments = .ok message)
    (accounts : Account outcome told) :
    Leaves draft readable environment outcome
      (draft.settingsRecords environment
        ++ .record .debug Observation.requestLogger message :: told)

/-- From its call on, a build leaves behind a record of the call and the account of its outcome. -/
theorem account_answer {draft : Draft} {readable : DraftPart → Except Fault Unit}
    {endTs lookback limit : Value} (writable : (draft.candidate endTs lookback limit).IsWritable)
    (threshold : Level) :
    ∃ message told, Observation.callMessage (title ++ ".build")
        (draft.candidate endTs lookback limit).callArguments = .ok message ∧
      Account (draft.answer readable threshold endTs lookback limit).result told ∧
      (draft.answer readable threshold endTs lookback limit).events =
        (.record .debug Observation.requestLogger message :: told).filter
          (Event.visibleAt threshold) := by
  obtain ⟨message, shown, called⟩ := Observation.recordCall_of_writable writable.callArguments
    Observation.requestLogger (title ++ ".build")
  obtain ⟨told, accounts, observed⟩ := account_observe
    (fun _ accepts => isWritable_acceptWhere writable accepts) threshold
  have answers : draft.answer readable threshold endTs lookback limit =
      ⟨draft.acceptWhere readable endTs lookback limit,
        (.record .debug Observation.requestLogger message :: told).filter
          (Event.visibleAt threshold)⟩ := by
    rw [answer, called, observed, Observed.bind_of_ok _ _ () rfl, ← List.filter_append]
    rfl
  rw [answers]
  exact ⟨message, told, shown, accounts, rfl⟩

theorem leaves_buildWhere {draft : Draft} {readable : DraftPart → Except Fault Unit}
    {surroundings : Surroundings} (writable : draft.IsWritable)
    (fair : ∀ part, NoRejection (readable part)) :
    ∃ left,
      draft.Leaves readable surroundings.environment
        (draft.buildWhere readable surroundings).result left ∧
      (draft.buildWhere readable surroundings).events =
        left.filter (Event.visibleAt surroundings.threshold) := by
  rw [buildWhere_eq]
  cases ends : draft.readEnds readable with
  | error fault =>
    obtain ⟨part, refused⟩ := draft.exists_unread_of_readEnds ends
    exact ⟨[], .unread refused (fair part fault refused), rfl⟩
  | ok _ =>
    rw [Observed.ofExcept_ok_bind]
    have kept := draft.events_settings surroundings
    cases loaded : (draft.settings surroundings).result with
    | error fault =>
      rw [Observed.bind_of_error _ _ _ loaded]
      exact ⟨_, .uncalled (draft.noRejection_settings surroundings fault loaded), kept⟩
    | ok settings =>
      rw [Observed.bind_of_ok _ _ _ loaded, kept]
      cases filled : draft.fillBounds readable surroundings settings with
      | error fault =>
        have other := draft.noRejection_fillBounds surroundings fair settings fault filled
        exact ⟨_, .uncalled other, List.append_nil _⟩
      | ok bounds =>
        obtain ⟨message, told, shown, accounts, events⟩ := @account_answer draft readable _ _ _
          (isWritable_fillBounds writable loaded filled) surroundings.threshold
        rw [Observed.ofExcept_ok_bind, events, ← List.filter_append]
        exact ⟨_, .called shown accounts, rfl⟩

/-- A draft that was only edited can always be read. -/
theorem leaves_build {draft : Draft} (writable : draft.IsWritable) (surroundings : Surroundings) :
    ∃ left,
      draft.Leaves (fun _ => .ok ()) surroundings.environment (draft.build surroundings).result
        left ∧
      (draft.build surroundings).events =
        left.filter (Event.visibleAt surroundings.threshold) :=
  leaves_buildWhere writable fun _ => noRejection_ok ()

end Draft

/-! ### Drafts whose members were assigned -/

theorem Entries.noRejection_insert (entries : Entries) (key value : Value) :
    NoRejection (entries.insert key value) := by
  unfold insert
  split
  · exact noRejection_ok _
  · exact noRejection_error rfl

namespace Value

theorem noRejection_items (value : Value) : NoRejection value.items := by
  unfold items
  split
  · exact noRejection_ok _
  · exact noRejection_ok _
  · exact noRejection_ok _
  · exact noRejection_error rfl

theorem noRejection_entry (index : Nat) (item : Value) : NoRejection (item.entry index) := by
  unfold entry
  split
  · exact noRejection_error rfl
  · exact noRejection_ok _
  · exact noRejection_error rfl

theorem noRejection_putItems (items : List Value) (index : Nat) (entries : Entries) :
    NoRejection (putItems index items entries) := by
  induction items generalizing index entries with
  | nil => exact noRejection_ok _
  | cons item rest ih =>
    apply NoRejection.bind (noRejection_entry index item)
    intro pair
    apply NoRejection.bind (entries.noRejection_insert _ _)
    intro more
    exact ih (index + 1) more

theorem noRejection_entries (value : Value) : NoRejection value.entries := by
  unfold entries
  split
  · exact noRejection_ok _
  · apply NoRejection.bind (noRejection_items _)
    intro items
    exact noRejection_putItems items 0 []

end Value

namespace OpenedDraft

theorem noRejection_read (draft : OpenedDraft) (name : String) : NoRejection (draft.read name) := by
  unfold read
  split
  · exact noRejection_ok _
  · exact noRejection_error rfl

/-- A part that cannot be read is no argument that breaks a rule. -/
theorem noRejection_readable (draft : OpenedDraft) (part : DraftPart) :
    NoRejection (draft.readable part) := by
  cases part with
  | scalar field => exact (draft.noRejection_read _).discard
  | annotations =>
    exact ((draft.noRejection_read _).bind fun held => held.noRejection_items).discard
  | tags =>
    exact ((draft.noRejection_read _).bind fun held => held.noRejection_entries).discard

theorem leaves_build {draft : OpenedDraft} (writable : draft.shape.IsWritable)
    (surroundings : Surroundings) :
    ∃ left,
      draft.shape.Leaves draft.readable surroundings.environment (draft.build surroundings).result
        left ∧
      (draft.build surroundings).events =
        left.filter (Event.visibleAt surroundings.threshold) :=
  Draft.leaves_buildWhere writable draft.noRejection_readable

end OpenedDraft

/-! ### One count for each outcome -/

/-- Whether an event is a record of a warning. -/
def Event.isWarning : Event → Bool
  | .record level _ _ => level == .warning
  | .count _ _ _ => false

/-- The events of a build account for its outcome: a built request is counted once, a broken rule is
counted once under its field and told in one warning, and nothing else is either. -/
structure Observed.Accounted (threshold : Level) (built : Observed Request) : Prop where
  ofBuilt : ∀ request, built.result = .ok request →
    built.events.filter Event.isCount = [.count Observation.builtCounter.name 1 []] ∧
    built.events.filter Event.isWarning = []
  ofRejected : ∀ violation, built.result = .error (.invalidArgument violation) →
    built.events.filter Event.isCount =
      [.count Observation.rejectedCounter.name 1 [("field", violation.field)]] ∧
    built.events.filter Event.isWarning =
      if Level.warning.passes threshold then
        [.record .warning Observation.requestLogger
          ("Rejected query request: " ++ violation.message)]
      else []
  ofOther : ∀ fault, built.result = .error fault → fault.violation? = none →
    built.events.filter Event.isCount = [] ∧ built.events.filter Event.isWarning = []

namespace Draft

variable {draft : Draft} {readable : DraftPart → Except Fault Unit} {environment : Environment}
  {outcome : Except Fault Request} {left : List Event}

theorem debug_of_mem_settingsRecords {event : Event}
    (mem : event ∈ draft.settingsRecords environment) :
    ∃ logger message, event = .record .debug logger message := by
  unfold settingsRecords at mem
  split at mem
  · exact Settings.debug_of_mem_loadRecords mem
  · cases mem

/-- Before the account of its outcome a build leaves behind nothing but records for debugging. -/
theorem Leaves.exists_before (leaves : draft.Leaves readable environment outcome left) :
    ∃ before told, left = before ++ told ∧ Account outcome told ∧
      ∀ event ∈ before, ∃ logger message, event = .record .debug logger message := by
  cases leaves with
  | unread _ other => exact ⟨[], [], rfl, .unaccounted other, nofun⟩
  | uncalled other =>
    exact ⟨draft.settingsRecords environment, [], (List.append_nil _).symm, .unaccounted other,
      fun _ => debug_of_mem_settingsRecords⟩
  | @called _ _ _ message _ told _ accounts =>
    refine ⟨draft.settingsRecords environment ++ [.record .debug Observation.requestLogger message],
      told, ?_, accounts, ?_⟩
    · rw [List.append_assoc]
      rfl
    · intro event mem
      rcases List.mem_append.1 mem with loaded | called
      · exact debug_of_mem_settingsRecords loaded
      · exact ⟨_, _, List.mem_singleton.1 called⟩

theorem Leaves.accounted {threshold : Level} {built : Observed Request}
    (leaves : draft.Leaves readable environment built.result left)
    (kept : built.events = left.filter (Event.visibleAt threshold)) :
    built.Accounted threshold := by
  obtain ⟨before, told, rfl, accounts, debug⟩ := leaves.exists_before
  -- Records for debugging are neither counts nor warnings, so that only the account is left.
  have chosen : ∀ choose : Event → Bool,
      (∀ logger message, choose (.record .debug logger message) = false) →
      built.events.filter choose = (told.filter (Event.visibleAt threshold)).filter choose := by
    intro choose quiet
    have nothing : (before.filter (Event.visibleAt threshold)).filter choose = [] := by
      refine List.filter_eq_nil_iff.2 fun event mem => ?_
      obtain ⟨logger, message, rfl⟩ := debug event (List.mem_filter.1 mem).1
      rw [quiet]
      exact Bool.false_ne_true
    rw [kept, List.filter_append, List.filter_append, nothing, List.nil_append]
  have counts := chosen Event.isCount fun _ _ => rfl
  have warnings := chosen Event.isWarning fun _ _ => rfl
  constructor
  · intro request gives
    rw [gives] at accounts
    cases accounts
    rw [counts, warnings]
    cases passing : Level.debug.passes threshold <;>
      simp [passing, Event.visibleAt, Event.isCount, Event.isWarning]
  · intro violation gives
    rw [gives] at accounts
    cases accounts with
    | rejected =>
      rw [counts, warnings]
      cases passing : Level.warning.passes threshold <;>
        simp [passing, Event.visibleAt, Event.isCount, Event.isWarning]
    | unaccounted other => cases other
  · intro fault gives other
    rw [gives] at accounts
    cases accounts with
    | rejected => cases other
    | unaccounted =>
      rw [counts, warnings]
      exact ⟨rfl, rfl⟩

end Draft

end TraceFilter
