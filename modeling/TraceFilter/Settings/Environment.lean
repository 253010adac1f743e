/-
Module: TraceFilter.Settings.Environment
Purpose: The environment variables and the loading of the settings from them.
Main exports: Environment, Environment.given, Settings.load
-/
import TraceFilter.Settings.Basic
import TraceFilter.Observation.Instrument
import TraceFilter.Observation.Observed

namespace TraceFilter

/-- The environment variables of the settings; an absent text is an unset variable. -/
structure Environment where
  endTsDefault : Option String
  defaultLimit : Option String
deriving DecidableEq, Repr, Inhabited

namespace Environment

/-- The name of the variable that holds the policy. -/
def endTsDefaultName : String := "TRACE_QUERY_END_TS_DEFAULT"

/-- The name of the variable that holds the limit. -/
def defaultLimitName : String := "TRACE_QUERY_DEFAULT_LIMIT"

/-- The names of the variables. -/
def names : List String := [endTsDefaultName, defaultLimitName]

/-- The environment with no variable set. -/
def empty : Environment := ⟨none, none⟩

/-- Sets or unsets a variable; other variables are not looked at. -/
def set (environment : Environment) (name : String) (content : Option String) : Environment :=
  if name = endTsDefaultName then { environment with endTsDefault := content }
  else if name = defaultLimitName then { environment with defaultLimit := content }
  else environment

/-- Sets or unsets variables in order. -/
def setAll (environment : Environment) (contents : List (String × Option String)) : Environment :=
  contents.foldl (fun sofar content => sofar.set content.1 content.2) environment

/-- A variable as a field of the settings; an empty one is as good as unset. -/
def field (name : String) : Option String → List (String × Value)
  | none => []
  | some content => if content.isEmpty then [] else [(name, .text content)]

/-- The fields that the environment gives. -/
def given (environment : Environment) : List (String × Value) :=
  field "end_ts_default" environment.endTsDefault
    ++ field "default_limit" environment.defaultLimit

end Environment

/-- Loads the settings from the environment, and records them if a variable was set. -/
def Settings.load (environment : Environment) (threshold : Level) : Observed Settings := do
  let given := environment.given
  let settings ← .ofExcept (Settings.ofFields given)
  if given.isEmpty then return settings
  else
    let text ← .ofExcept settings.plain
    Observed.record threshold .debug Observation.settingsLogger
      ("Loaded query settings from environment: " ++ text)
    return settings

end TraceFilter
