/-
Module: TraceFilter.Request.Validation
Purpose: The checks that a candidate has to pass, which stop at the first breach of a rule, and the
  request that it then becomes.
Main exports: Candidate.check, Candidate.accept, Request.ofFields
-/
import TraceFilter.Request.Basic
import TraceFilter.Request.Rule
import TraceFilter.Text.LowerCase

namespace TraceFilter

/-- The three integers of a candidate that passed the checks. -/
structure Bounds where
  endTs : Int
  lookback : Int
  limit : Int
deriving DecidableEq, Repr, Inhabited

/-- A value as a positive integer. -/
def Value.positive? (value : Value) : Option Int :=
  value.integer?.filter (0 < ·)

/-- A value as an integer that is not negative. -/
def Value.notNegative? (value : Value) : Option Int :=
  value.integer?.filter (0 ≤ ·)

namespace Rule

/-- Demands that a value meets a rule. -/
def demand (rule : Rule) (value : Value) (met : Bool) : Except Breach Unit :=
  if met then .ok () else .error ⟨rule, value⟩

/-- Demands that a value can be read as a rule wants it. -/
def demandSome (rule : Rule) (value : Value) (reading : Option Int) : Except Breach Int :=
  match reading with
  | some number => .ok number
  | none => .error ⟨rule, value⟩

end Rule

namespace Candidate

/-- Checks the annotations in order. -/
def checkAnnotations : List Value → Except Breach Unit
  | [] => .ok ()
  | note :: rest => do
    Rule.annotationGiven.demand note note.truthy
    checkAnnotations rest

/-- Checks the tags in order, of each tag the key before the value. -/
def checkTags : Entries → Except Breach Unit
  | [] => .ok ()
  | (key, value) :: rest => do
    Rule.tagKeyGiven.demand key key.truthy
    Rule.tagValueGiven.demand value value.truthy
    checkTags rest

/-- Checks a candidate rule by rule and stops at the first breach. -/
def check (candidate : Candidate) : Except Breach Bounds := do
  Rule.serviceNameGiven.demand candidate.serviceName candidate.serviceName.truthy
  Rule.spanNameNotEmpty.demand candidate.spanName
    (candidate.spanName.isNull || candidate.spanName.truthy)
  let endTs ← Rule.endTsPositive.demandSome candidate.endTs candidate.endTs.positive?
  let limit ← Rule.limitPositive.demandSome candidate.limit candidate.limit.positive?
  checkAnnotations candidate.annotations
  checkTags candidate.tags
  Rule.maxDurationNeedsMin.demand candidate.maxDuration
    (candidate.maxDuration.isNull || !candidate.minDuration.isNull)
  let lookback ← Rule.lookbackNotNegative.demandSome candidate.lookback
    candidate.lookback.notNegative?
  return { endTs, lookback, limit }

/-- The lower case of a name; only texts have one. -/
def lowerName : Value → Except Fault String
  | .text characters => .ok (Text.lower characters)
  | value => .error (.noMember value.kind.name "lower")

/-- The lower case of a name that may be left out. -/
def lowerOptionalName : Value → Except Fault (Option String)
  | .null => .ok none
  | value => (lowerName value).map some

/-- The request that a candidate becomes: the checks come first, then the names are brought into
lower case. -/
def accept (candidate : Candidate) : Except Fault Request := do
  let bounds ← candidate.check.mapError Breach.fault
  let serviceName ← lowerName candidate.serviceName
  let spanName ← lowerOptionalName candidate.spanName
  return {
    serviceName
    spanName
    annotations := candidate.annotations
    tags := candidate.tags
    minDuration := candidate.minDuration
    maxDuration := candidate.maxDuration
    endTs := bounds.endTs
    lookback := bounds.lookback
    limit := bounds.limit }

end Candidate

/-- Makes a request from named fields. -/
def Request.ofFields (given : List (String × Value)) : Except Fault Request := do
  (← Candidate.ofFields given).accept

end TraceFilter
