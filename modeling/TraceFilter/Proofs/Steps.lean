/-
Module: TraceFilter.Proofs.Steps
Purpose: When a chain of steps that can fail succeeds and when it fails, for plain outcomes and for
  operations that leave events behind.
Main exports: bind_eq_ok_iff, bind_eq_error_iff, map_eq_ok_iff, mapError_eq_ok_iff,
  toOption_eq_some_iff, Observed.result_bind, Observed.events_bind_of_ok, Observed.bind_bind,
  Observed.ofExcept_bind
-/
import TraceFilter.Observation.CallRecord

namespace TraceFilter

section Outcomes

variable {ε ε' α β : Type}

@[simp] theorem ok_bind (value : α) (next : α → Except ε β) :
    (Except.ok value >>= next) = next value := rfl

@[simp] theorem error_bind (cause : ε) (next : α → Except ε β) :
    ((Except.error cause : Except ε α) >>= next) = .error cause := rfl

/-- Two steps succeed when the first does, and the second does with what the first gave. -/
theorem bind_eq_ok_iff {first : Except ε α} {next : α → Except ε β} {value : β} :
    first >>= next = .ok value ↔ ∃ middle, first = .ok middle ∧ next middle = .ok value := by
  cases first with
  | ok middle => simp
  | error cause => simp

/-- Two steps fail when the first does, or else when the second does with what the first gave. -/
theorem bind_eq_error_iff {first : Except ε α} {next : α → Except ε β} {cause : ε} :
    first >>= next = .error cause ↔
      first = .error cause ∨ ∃ middle, first = .ok middle ∧ next middle = .error cause := by
  cases first with
  | ok middle => simp
  | error other => simp

/-- What is made of what a step gives is given exactly when the step gives what it is made of. -/
theorem map_eq_ok_iff {outcome : Except ε α} {change : α → β} {value : β} :
    outcome.map change = .ok value ↔ ∃ before, outcome = .ok before ∧ change before = value := by
  cases outcome <;> simp [Except.map]

@[simp] theorem mapError_ok {rename : ε → ε'} (value : α) :
    (Except.ok value).mapError rename = .ok value := rfl

@[simp] theorem mapError_error {rename : ε → ε'} (cause : ε) :
    (Except.error cause : Except ε α).mapError rename = .error (rename cause) := rfl

@[simp] theorem mapError_eq_ok_iff {rename : ε → ε'} {outcome : Except ε α} {value : α} :
    outcome.mapError rename = .ok value ↔ outcome = .ok value := by
  cases outcome <;> simp

/-- A step fails exactly if it gives nothing. -/
theorem exists_eq_error_iff {outcome : Except ε α} :
    (∃ cause, outcome = .error cause) ↔ ¬ ∃ value, outcome = .ok value := by
  cases outcome <;> simp

@[simp] theorem toOption_eq_some_iff {outcome : Except ε α} {value : α} :
    outcome.toOption = some value ↔ outcome = .ok value := by
  cases outcome <;> simp [Except.toOption]

end Outcomes

namespace Observed

variable {α β γ : Type}

@[simp] theorem result_pure (value : α) : (pure value : Observed α).result = .ok value := rfl

@[simp] theorem result_ofExcept (outcome : Except Fault α) :
    (ofExcept outcome).result = outcome := rfl

@[simp] theorem result_fail (fault : Fault) : (fail fault : Observed α).result = .error fault := rfl

/-- The outcome of one operation after another does not depend on the events. -/
@[simp] theorem result_bind (first : Observed α) (next : α → Observed β) :
    (first >>= next).result = first.result >>= fun value => (next value).result := by
  cases outcome : first.result with
  | ok value => rw [bind_of_ok first next value outcome, ok_bind]
  | error fault => rw [bind_of_error first next fault outcome, error_bind]

/-! ### The events that operations leave behind -/

theorem events_bind_of_ok {first : Observed α} {value : α} (succeeds : first.result = .ok value)
    (next : α → Observed β) : (first >>= next).events = first.events ++ (next value).events := by
  rw [bind_of_ok first next value succeeds]

theorem events_bind_of_error {first : Observed α} {fault : Fault}
    (fails : first.result = .error fault) (next : α → Observed β) :
    (first >>= next).events = first.events := by
  rw [bind_of_error first next fault fails]

/-- What leaves nothing behind adds nothing to the events of what comes before it. -/
theorem events_bind_of_silent {first : Observed α} {next : α → Observed β}
    (silent : ∀ value, (next value).events = []) : (first >>= next).events = first.events := by
  cases outcome : first.result with
  | ok value => rw [events_bind_of_ok outcome, silent, List.append_nil]
  | error fault => rw [events_bind_of_error outcome]

/-! ### Operations in a row -/

theorem pure_bind (value : α) (next : α → Observed β) : (pure value >>= next) = next value := rfl

theorem bind_bind (first : Observed α) (second : α → Observed β) (third : β → Observed γ) :
    first >>= second >>= third = first >>= fun value => second value >>= third := by
  cases reached : first.result with
  | error fault =>
    rw [bind_of_error first second fault reached, bind_of_error first _ fault reached]
    rfl
  | ok value =>
    rw [bind_of_ok first second value reached, bind_of_ok first _ value reached]
    cases further : (second value).result with
    | error fault =>
      rw [bind_of_error (second value) third fault further]
      rfl
    | ok other =>
      rw [bind_of_ok (second value) third other further]
      exact congrArg (Observed.mk _) (List.append_assoc _ _ _)

theorem ofExcept_ok_bind (value : α) (next : α → Observed β) :
    ofExcept (.ok value) >>= next = next value := rfl

theorem ofExcept_pure (value : α) : ofExcept (pure value) = (pure value : Observed α) := rfl

theorem ofExcept_bind (first : Except Fault α) (next : α → Except Fault β) :
    ofExcept (first >>= next) = ofExcept first >>= fun value => ofExcept (next value) := by
  cases first <;> rfl

end Observed

/-- Recording a call fails only if the record is kept and an argument cannot be written. -/
theorem Observation.result_recordCall (threshold : Level) (logger callee : String)
    (arguments : List (String × Value)) :
    (recordCall threshold logger callee arguments).result =
      if threshold = .debug ∧ fieldsWritable arguments = false then .error .tooLong
      else .ok () := by
  unfold recordCall
  rw [callMessage_eq, truncateArguments_eq]
  cases threshold with
  | debug => cases fieldsWritable arguments <;> rfl
  | info | warning | error | critical => rfl

end TraceFilter
