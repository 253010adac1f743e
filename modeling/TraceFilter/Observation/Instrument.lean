/-
Module: TraceFilter.Observation.Instrument
Purpose: The counters and loggers of the library.
Main exports: Observation.Instrument, Observation.instruments, Observation.builtCounter,
  Observation.rejectedCounter
-/

namespace TraceFilter.Observation

/-- A counter of a meter. -/
structure Instrument where
  meter : String
  name : String
  unit : String
  description : String
deriving DecidableEq, Repr, Inhabited

/-- The logger of requests, and the meter of their counters. -/
def requestLogger : String := "trace_query.query_request"

/-- The logger of the settings. -/
def settingsLogger : String := "trace_query.config"

/-- The logger below the common one that bears a name. -/
def namedLogger (name : String) : String := "trace_query." ++ name

/-- Counts the requests that were built. -/
def builtCounter : Instrument :=
  { meter := requestLogger
    name := "trace_query.request.built"
    unit := "1"
    description := "Query requests successfully built" }

/-- Counts the requests that were rejected. -/
def rejectedCounter : Instrument :=
  { meter := requestLogger
    name := "trace_query.request.rejected"
    unit := "1"
    description := "Query requests rejected by validation" }

/-- All counters, in the order in which they are created. -/
def instruments : List Instrument := [builtCounter, rejectedCounter]

end TraceFilter.Observation
