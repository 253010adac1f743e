/-
Module: TraceFilter.Observation.Event
Purpose: What an operation leaves behind for its operators: log records with a level, and additions
  to counters.
Main exports: Level, Event, Event.visibleAt
-/

namespace TraceFilter

/-- The levels of log records, from the most to the least talkative. -/
inductive Level where
  | debug
  | info
  | warning
  | error
  | critical
deriving DecidableEq, Repr, Inhabited

namespace Level

/-- How severe a record of a level is. -/
def severity : Level → Nat
  | .debug => 10
  | .info => 20
  | .warning => 30
  | .error => 40
  | .critical => 50

/-- The name of a level. -/
def name : Level → String
  | .debug => "DEBUG"
  | .info => "INFO"
  | .warning => "WARNING"
  | .error => "ERROR"
  | .critical => "CRITICAL"

/-- The level of a name. -/
def ofName? (name : String) : Option Level :=
  [debug, info, warning, error, critical].find? (·.name == name)

/-- Whether a logger with a threshold lets a record of a level through. -/
def passes (level threshold : Level) : Bool :=
  threshold.severity ≤ level.severity

end Level

/-- Something that an operation leaves behind. -/
inductive Event where
  | record (level : Level) (logger message : String)
  | count (counter : String) (amount : Nat) (attributes : List (String × String))
deriving DecidableEq, Repr, Inhabited

/-- Whether an event is left behind under a threshold. Counters do not depend on it. -/
def Event.visibleAt (threshold : Level) : Event → Bool
  | .record level _ _ => level.passes threshold
  | .count _ _ _ => true

/-- Whether an event adds to a counter. -/
def Event.isCount : Event → Bool
  | .record _ _ _ => false
  | .count _ _ _ => true

end TraceFilter
