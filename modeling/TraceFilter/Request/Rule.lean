/-
Module: TraceFilter.Request.Rule
Purpose: The rules that a request has to meet, and the fault when one of them is not met.
Main exports: Rule, Rule.field, Rule.complaint, Breach, Breach.fault
-/
import TraceFilter.Value.Display

namespace TraceFilter

/-- The rules on the parts of a request, in the order in which they are checked. The key and the
value of a tag are checked together, tag by tag. -/
inductive Rule where
  | serviceNameGiven
  | spanNameNotEmpty
  | endTsPositive
  | limitPositive
  | annotationGiven
  | tagKeyGiven
  | tagValueGiven
  | maxDurationNeedsMin
  | lookbackNotNegative
deriving DecidableEq, Repr, Inhabited

/-- The field that a rule is about. -/
def Rule.field : Rule → String
  | .serviceNameGiven => "service_name"
  | .spanNameNotEmpty => "span_name"
  | .endTsPositive => "end_ts"
  | .limitPositive => "limit"
  | .annotationGiven => "annotations"
  | .tagKeyGiven => "binary_annotations"
  | .tagValueGiven => "binary_annotations"
  | .maxDurationNeedsMin => "max_duration"
  | .lookbackNotNegative => "lookback"

/-- What is said about a value that breaks a rule. Where the value itself is told, it has to be
written. -/
def Rule.complaint (rule : Rule) (value : Value) : Except Fault String :=
  match rule with
  | .serviceNameGiven => .ok "service_name was empty"
  | .spanNameNotEmpty => .ok "span_name was empty"
  | .endTsPositive => do
    return "end_ts should be positive, in epoch milliseconds: was " ++ (← value.plain)
  | .limitPositive => do return "limit should be positive: was " ++ (← value.plain)
  | .annotationGiven => .ok "annotation was empty"
  | .tagKeyGiven => .ok "binary annotation key was empty"
  | .tagValueGiven => .ok "binary annotation value was empty"
  | .maxDurationNeedsMin => do return "max_duration requires min_duration: was " ++ (← value.plain)
  | .lookbackNotNegative => do return "lookback should not be negative: was " ++ (← value.plain)

/-- A rule and a value that breaks it. -/
structure Breach where
  rule : Rule
  value : Value
deriving Repr, Inhabited

/-- The fault of a breach: it is reported as a violation, unless what is said about it cannot be
written. -/
def Breach.fault (breach : Breach) : Fault :=
  match breach.rule.complaint breach.value with
  | .ok message => .invalidArgument { message, field := breach.rule.field, value := breach.value }
  | .error fault => fault

end TraceFilter
