/-
Module: TraceFilter.Proofs.RecordThresholds
Purpose: What a threshold for records takes away from an operation: the records below it, and
  nothing of the outcome, of the counts or of the order of events.
Main exports: Observed.heardAt, Observed.heardAt_bind, Settings.load_eq_heardAt,
  Draft.buildWhere_eq_heardAt, Observed.Overheard, Observed.overheard_of_heardAt
-/
import TraceFilter.Proofs.BuildEvents

namespace TraceFilter

/-! ### Hearing an operation at a threshold -/

theorem Event.visibleAt_debug (event : Event) : event.visibleAt .debug = true := by
  cases event with
  | record level logger message => cases level <;> rfl
  | count counter amount attributes => rfl

theorem Event.filter_visibleAt_debug (events : List Event) :
    events.filter (visibleAt .debug) = events :=
  List.filter_eq_self.2 fun event _ => event.visibleAt_debug

namespace Observed

variable {α β : Type}

/-- What is heard of an operation at a threshold: its outcome, and of its events the counts and
those records that pass. -/
def heardAt (threshold : Level) (operation : Observed α) : Observed α :=
  { operation with events := operation.events.filter (Event.visibleAt threshold) }

@[simp] theorem result_heardAt (threshold : Level) (operation : Observed α) :
    (operation.heardAt threshold).result = operation.result := rfl

theorem events_heardAt (threshold : Level) (operation : Observed α) :
    (operation.heardAt threshold).events =
      operation.events.filter (Event.visibleAt threshold) := rfl

theorem heardAt_pure (threshold : Level) (value : α) :
    (pure value : Observed α).heardAt threshold = pure value := rfl

theorem heardAt_ofExcept (threshold : Level) (outcome : Except Fault α) :
    (ofExcept outcome).heardAt threshold = ofExcept outcome := rfl

theorem heardAt_count (threshold : Level) (counter : String)
    (attributes : List (String × String)) :
    (count counter attributes).heardAt threshold = count counter attributes := rfl

/-- Two operations in a row are heard as the first and then the second. -/
theorem heardAt_bind (threshold : Level) (first : Observed α) (next : α → Observed β) :
    (first >>= next).heardAt threshold =
      first.heardAt threshold >>= fun value => (next value).heardAt threshold := by
  cases reached : first.result with
  | error fault =>
    rw [bind_of_error first next fault reached, bind_of_error (first.heardAt threshold) _ fault]
    · rfl
    · exact reached
  | ok value =>
    rw [bind_of_ok first next value reached, bind_of_ok (first.heardAt threshold) _ value]
    · exact congrArg (Observed.mk _) (List.filter_append _ _)
    · exact reached

/-- What follows an operation matters only where the operation leads. -/
theorem bind_congr {first : Observed α} {next other : α → Observed β}
    (same : ∀ value, first.result = .ok value → next value = other value) :
    first >>= next = first >>= other := by
  cases reached : first.result with
  | error fault =>
    rw [bind_of_error first next fault reached, bind_of_error first other fault reached]
  | ok value => rw [bind_of_ok first next value reached, bind_of_ok first other value reached,
      same value reached]

/-- Events that only the threshold chooses from are heard as the threshold chooses from all. -/
theorem eq_heardAt (operation : Level → Observed α) (all : List Event)
    (outcome : ∀ level, (operation level).result = (operation .debug).result)
    (chosen : ∀ level, (operation level).events = all.filter (Event.visibleAt level))
    (threshold : Level) : operation threshold = (operation .debug).heardAt threshold := by
  have events : (operation .debug).events = all :=
    (chosen .debug).trans (Event.filter_visibleAt_debug all)
  have heard : operation threshold =
      ⟨(operation .debug).result, all.filter (Event.visibleAt threshold)⟩ := by
    rw [← outcome threshold, ← chosen threshold]
  rw [heard, heardAt, events]

end Observed

/-! ### The operations that leave events behind -/

theorem Settings.load_eq_heardAt (environment : Environment) (threshold : Level) :
    load environment threshold = (load environment .debug).heardAt threshold := by
  refine Observed.eq_heardAt (load environment) (loadRecords environment) ?_ ?_ threshold
  · intro level
    rw [result_load, result_load]
  · exact events_load environment

theorem Observed.record_eq_heardAt (level : Level) (logger message : String) (threshold : Level) :
    record threshold level logger message =
      (record .debug level logger message).heardAt threshold := by
  refine eq_heardAt (record · level logger message) [.record level logger message] ?_ ?_ threshold
  · exact fun _ => (result_record _ _ _ _).trans (result_record _ _ _ _).symm
  · exact fun kept => events_record kept level logger message

/-- A call is heard only if its arguments can be written: at the lowest threshold it fails
otherwise. -/
theorem Observation.recordCall_eq_heardAt {arguments : List (String × Value)}
    (writable : fieldsWritable arguments = true) (logger callee : String) (threshold : Level) :
    recordCall threshold logger callee arguments =
      (recordCall .debug logger callee arguments).heardAt threshold := by
  obtain ⟨message, _, called⟩ := recordCall_of_writable writable logger callee
  refine Observed.eq_heardAt (recordCall · logger callee arguments)
    [.record .debug logger message] ?_ ?_ threshold
  · intro level
    simp only [called]
  · intro level
    rw [called]

/-- Surroundings with another threshold. -/
def Surroundings.keeping (surroundings : Surroundings) (threshold : Level) : Surroundings :=
  { surroundings with threshold }

namespace Draft

theorem observe_eq_heardAt (outcome : Except Fault Request) (threshold : Level) :
    observe threshold outcome = (observe .debug outcome).heardAt threshold := by
  unfold observe
  split <;> simp only [Observed.fail, Observed.heardAt_bind, Observed.heardAt_count,
    Observed.heardAt_ofExcept, Observed.heardAt_pure, ← Observed.record_eq_heardAt]

variable (draft : Draft) (surroundings : Surroundings) (threshold : Level)

theorem settings_eq_heardAt :
    draft.settings (surroundings.keeping threshold) =
      (draft.settings (surroundings.keeping .debug)).heardAt threshold := by
  unfold settings
  split
  · exact Settings.load_eq_heardAt surroundings.environment threshold
  · rfl

variable {draft}

theorem answer_eq_heardAt {endTs lookback limit : Value}
    (writable : (draft.candidate endTs lookback limit).IsWritable)
    (readable : DraftPart → Except Fault Unit) :
    draft.answer readable threshold endTs lookback limit =
      (draft.answer readable .debug endTs lookback limit).heardAt threshold := by
  rw [answer, answer, Observed.heardAt_bind,
    ← Observation.recordCall_eq_heardAt writable.callArguments]
  simp only [← observe_eq_heardAt]

/-- A build at a threshold is the build at the lowest one, heard at the threshold, as long as all
that it records can be written. -/
theorem buildWhere_eq_heardAt (writable : draft.IsWritable)
    (readable : DraftPart → Except Fault Unit) :
    draft.buildWhere readable (surroundings.keeping threshold) =
      (draft.buildWhere readable (surroundings.keeping .debug)).heardAt threshold := by
  rw [buildWhere_eq, buildWhere_eq]
  simp only [Observed.heardAt_bind, Observed.heardAt_ofExcept, ← settings_eq_heardAt]
  refine Observed.bind_congr fun _ _ => Observed.bind_congr fun settings loaded => ?_
  -- The bounds are filled in from the clock, which is the same at all thresholds.
  have bounds : draft.fillBounds readable (surroundings.keeping threshold) settings =
      draft.fillBounds readable (surroundings.keeping .debug) settings := rfl
  rw [bounds]
  refine Observed.bind_congr fun filled reached => ?_
  exact answer_eq_heardAt threshold (isWritable_fillBounds writable loaded reached) readable

theorem build_eq_heardAt (writable : draft.IsWritable) :
    draft.build (surroundings.keeping threshold) =
      (draft.build (surroundings.keeping .debug)).heardAt threshold :=
  buildWhere_eq_heardAt surroundings threshold writable _

end Draft

theorem OpenedDraft.build_eq_heardAt {draft : OpenedDraft} (surroundings : Surroundings)
    (threshold : Level) (writable : draft.shape.IsWritable) :
    draft.build (surroundings.keeping threshold) =
      (draft.build (surroundings.keeping .debug)).heardAt threshold :=
  Draft.buildWhere_eq_heardAt surroundings threshold writable draft.readable

/-! ### Operations that are only overheard -/

/-- Whether an event is a record at least as severe as a level. -/
def Event.isRecordFrom (threshold : Level) : Event → Bool
  | .record level _ _ => threshold.severity ≤ level.severity
  | .count _ _ _ => false

namespace Observed

variable {α : Type}

/-- An operation is only overheard when its threshold does not touch its outcome nor its counts, and
the records are, in order, those at the lowest threshold that are severe enough. -/
structure Overheard (operation : Level → Observed α) : Prop where
  outcome : ∀ level other, (operation level).result = (operation other).result
  counts : ∀ level other,
    (operation level).events.filter Event.isCount = (operation other).events.filter Event.isCount
  records : ∀ level,
    (operation level).events.filter (fun event => !event.isCount) =
      (operation .debug).events.filter (Event.isRecordFrom level)

theorem filter_isCount_heardAt (threshold : Level) (operation : Observed α) :
    (operation.heardAt threshold).events.filter Event.isCount =
      operation.events.filter Event.isCount := by
  rw [events_heardAt, List.filter_filter]
  apply List.filter_congr
  intro event _
  cases event with
  | record level logger message => rfl
  | count counter amount attributes => rfl

theorem filter_isRecord_heardAt (threshold : Level) (operation : Observed α) :
    (operation.heardAt threshold).events.filter (fun event => !event.isCount) =
      operation.events.filter (Event.isRecordFrom threshold) := by
  rw [events_heardAt, List.filter_filter]
  apply List.filter_congr
  intro event _
  cases event with
  | record level logger message => rfl
  | count counter amount attributes => rfl

theorem overheard_of_heardAt {operation : Level → Observed α}
    (heard : ∀ level, operation level = (operation .debug).heardAt level) :
    Overheard operation where
  outcome := by
    intro level other
    rw [heard level, heard other, result_heardAt, result_heardAt]
  counts := by
    intro level other
    rw [heard level, heard other, filter_isCount_heardAt, filter_isCount_heardAt]
  records := by
    intro level
    rw [heard level, filter_isRecord_heardAt]

end Observed

end TraceFilter
