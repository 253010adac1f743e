/-
Module: TraceFilter.Settings.Basic
Purpose: The configured defaults of a search: how an unset end of the time range is derived, and
  how many traces are returned.
Main exports: EndTsPolicy, Settings, Settings.readPolicy, Settings.readLimit, Settings.ofFields,
  Settings.plain
-/
import TraceFilter.Numeral.AnyScript
import TraceFilter.Text.LowerCase
import TraceFilter.Value.Display

namespace TraceFilter

/-- How an unset end of the time range is derived from the clock. -/
inductive EndTsPolicy where
  /-- The current milliseconds times a thousand. -/
  | legacyMicros
  /-- The current milliseconds. -/
  | millis
deriving DecidableEq, Repr, Inhabited

namespace EndTsPolicy

/-- The constant of a policy. -/
def constant : EndTsPolicy → String
  | .legacyMicros => "LEGACY_MICROS"
  | .millis => "MILLIS"

/-- The name of a policy in a configuration. -/
def name : EndTsPolicy → String
  | .legacyMicros => "legacy_micros"
  | .millis => "millis"

/-- All policies. -/
def all : List EndTsPolicy := [.legacyMicros, .millis]

/-- The policy of a name. -/
def ofName? (name : String) : Option EndTsPolicy :=
  all.find? (·.name == name)

/-- A policy in the text of settings. -/
def display (policy : EndTsPolicy) : String :=
  "<EndTsDefault." ++ policy.constant ++ ": " ++ Text.quoted policy.name ++ ">"

/-- The end of the time range under a policy, from the current milliseconds. -/
def endTs : EndTsPolicy → Int → Int
  | .legacyMicros, current => current * 1000
  | .millis, current => current

end EndTsPolicy

/-- The configured defaults. -/
structure Settings where
  endTsPolicy : EndTsPolicy
  defaultLimit : Int
deriving DecidableEq, Repr, Inhabited

namespace Settings

/-- The limit when none is configured. -/
def standardLimit : Int := 10

/-- The settings when nothing is configured. -/
def standard : Settings := ⟨.legacyMicros, standardLimit⟩

/-- The name of the settings in reports. -/
def title : String := "QuerySettings"

/-- The names of the fields. -/
def fieldNames : List String := ["end_ts_default", "default_limit"]

/-- A configured text as the name of a policy: blanks around it and letter case do not count. -/
def policyName (text : String) : String :=
  String.ofList (Text.lowerFrom false (Text.trim Text.isBlank text.toList))

/-- Reads a policy. -/
def readPolicy (value : Value) : Except FieldFault EndTsPolicy :=
  match value.text?.bind (EndTsPolicy.ofName? ∘ policyName) with
  | some policy => .ok policy
  | none => .error .unknownPolicy

/-- Refuses a limit below one. -/
def positiveLimit (limit : Int) : Except LimitRefusal Int :=
  if limit < 1 then .error .belowOne else .ok limit

/-- Reads a limit. A value that is no number at all, and an infinity, are no matter of a refused
field: they end the reading of all settings. -/
def readLimit : Value → Except Fault (Except LimitRefusal Int)
  | .int number => .ok (positiveLimit number)
  | .bool truth => .ok (positiveLimit truth.toInt)
  | .float number _ =>
    match number.quantity with
    | .undefined => .ok (.error .notANumber)
    | .exactly units => .ok (positiveLimit (Binary64.truncateUnits units))
    | _ => .error .infiniteInteger
  | .text characters =>
    match Numeral.readAnyScript characters with
    | .ok number => .ok (positiveLimit number)
    | .error .malformed => .ok (.error (.malformed characters))
    | .error (.tooManyDigits count) => .ok (.error (.tooManyDigits count))
  | value => .error (.notNumber value.kind)

/-- The policy among given fields. -/
def policyOf (given : List (String × Value)) : Except FieldFault EndTsPolicy :=
  match given.lookup "end_ts_default" with
  | some value => readPolicy value
  | none => .ok .legacyMicros

/-- The limit among given fields. -/
def limitOf (given : List (String × Value)) : Except Fault (Except FieldFault Int) :=
  match given.lookup "default_limit" with
  | some value => (readLimit value).map fun reading => reading.mapError .limitRefused
  | none => .ok (.ok standardLimit)

/-- Makes settings from given fields. The faults of all fields are reported together. -/
def ofFields (given : List (String × Value)) : Except Fault Settings := do
  let policy := policyOf given
  let limit ← limitOf given
  let unexpected := FieldReport.unexpected fieldNames given
  match policy, limit, unexpected with
  | .ok policy, .ok limit, [] => return ⟨policy, limit⟩
  | _, _, _ =>
    .error (.invalidFields
      { title
        faults := FieldReport.faultOf "end_ts_default" policy
          ++ FieldReport.faultOf "default_limit" limit ++ unexpected })

/-- The fields of settings as texts. -/
def displayFields (settings : Settings) : Except Fault (List (String × String)) := do
  return [("end_ts_default", settings.endTsPolicy.display),
    ("default_limit", ← (Value.int settings.defaultLimit).display)]

/-- The text of settings in a message. -/
def plain (settings : Settings) : Except Fault String := do
  return joinFields " " (← settings.displayFields)

/-- The text of settings with their name. -/
def display (settings : Settings) : Except Fault String := do
  return title ++ "(" ++ joinFields ", " (← settings.displayFields) ++ ")"

end Settings

end TraceFilter
