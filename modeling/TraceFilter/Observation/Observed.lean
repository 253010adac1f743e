/-
Module: TraceFilter.Observation.Observed
Purpose: Operations that succeed or fail and leave events behind either way, in order.
Main exports: Observed, Observed.bind, Observed.record, Observed.count, Observed.ofExcept
-/
import TraceFilter.Fault
import TraceFilter.Observation.Event

namespace TraceFilter

/-- The outcome of an operation with the events that it left behind. -/
structure Observed (α : Type) where
  result : Except Fault α
  events : List Event

namespace Observed

variable {α β : Type}

/-- An operation that succeeds and leaves nothing behind. -/
protected def pure (value : α) : Observed α :=
  { result := .ok value, events := [] }

/-- One operation after another: the second does not take place when the first fails, and the
events of both stand in order. -/
protected def bind (first : Observed α) (next : α → Observed β) : Observed β :=
  match first.result with
  | .error fault => { result := .error fault, events := first.events }
  | .ok value =>
    let second := next value
    { result := second.result, events := first.events ++ second.events }

instance : Monad Observed where
  pure := Observed.pure
  bind := Observed.bind

/-- An outcome that leaves nothing behind. -/
def ofExcept (result : Except Fault α) : Observed α :=
  { result, events := [] }

/-- Leaves one event behind. -/
def emit (event : Event) : Observed Unit :=
  { result := .ok (), events := [event] }

/-- Writes a log record if the threshold lets it through. -/
def record (threshold level : Level) (logger message : String) : Observed Unit :=
  if level.passes threshold then emit (.record level logger message) else .pure ()

/-- Adds one to a counter. -/
def count (counter : String) (attributes : List (String × String)) : Observed Unit :=
  emit (.count counter 1 attributes)

/-- Fails. -/
def fail (fault : Fault) : Observed α :=
  ofExcept (.error fault)

/-! ### What each operation does to the outcome and to the events -/

theorem bind_of_ok (first : Observed α) (next : α → Observed β) (value : α)
    (succeeded : first.result = .ok value) :
    first >>= next = ⟨(next value).result, first.events ++ (next value).events⟩ := by
  show first.bind next = _
  simp only [Observed.bind, succeeded]

theorem bind_of_error (first : Observed α) (next : α → Observed β) (fault : Fault)
    (failed : first.result = .error fault) :
    first >>= next = ⟨.error fault, first.events⟩ := by
  show first.bind next = _
  simp only [Observed.bind, failed]

@[simp] theorem result_record (threshold level : Level) (logger message : String) :
    (record threshold level logger message).result = .ok () := by
  unfold record
  split <;> rfl

theorem events_record (threshold level : Level) (logger message : String) :
    (record threshold level logger message).events =
      [Event.record level logger message].filter (Event.visibleAt threshold) := by
  unfold record
  cases passing : level.passes threshold <;>
    simp [passing, Event.visibleAt, emit, Observed.pure]

@[simp] theorem result_count (counter : String) (attributes : List (String × String)) :
    (count counter attributes).result = .ok () := rfl

end Observed

end TraceFilter
