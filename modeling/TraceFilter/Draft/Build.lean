/-
Module: TraceFilter.Draft.Build
Purpose: Building a request from a draft: defaults from the clock and the settings, a lookback that
  never reaches behind the epoch, and a record of every outcome.
Main exports: Surroundings, Surroundings.currentMillis, Draft.candidate, Draft.buildWhere,
  Draft.build, Draft.build_eq
-/
import TraceFilter.Draft.Basic
import TraceFilter.Request.Display
import TraceFilter.Request.Validation
import TraceFilter.Settings.Environment
import TraceFilter.Observation.CallRecord

namespace TraceFilter

/-- What a build can see besides the draft: the environment variables, the clock in seconds, and
the level from which on records are kept. -/
structure Surroundings where
  environment : Environment
  clock : Binary64
  threshold : Level
deriving DecidableEq, Repr, Inhabited

/-- The clock in whole milliseconds: its seconds times a thousand, rounded to a double, without the
fraction. -/
def Surroundings.currentMillis (surroundings : Surroundings) : Except Fault Int :=
  match (surroundings.clock.scaleBy 1000).quantity with
  | .undefined => .error .undefinedInteger
  | .exactly units => .ok (Binary64.truncateUnits units)
  | _ => .error .infiniteInteger

namespace Draft

/-- Whether the settings are needed for a default. -/
def needsSettings (draft : Draft) : Bool :=
  draft.endTs.isNull || draft.limit.isNull

/-- The settings for the defaults; nothing is loaded unless one is needed. -/
def settings (draft : Draft) (surroundings : Surroundings) : Observed Settings :=
  if draft.needsSettings then Settings.load surroundings.environment surroundings.threshold
  else pure .standard

/-- The end of the time range: the one that is set, or the clock under the configured policy. -/
def endTsOr (draft : Draft) (settings : Settings) (surroundings : Surroundings) :
    Except Fault Value :=
  if draft.endTs.isNull then
    surroundings.currentMillis.map fun current => .int (settings.endTsPolicy.endTs current)
  else .ok draft.endTs

/-- The lookback that is set, or as far as the end of the time range. -/
def lookbackOr (draft : Draft) (endTs : Value) : Value :=
  if draft.lookback.isNull then endTs else draft.lookback

/-- The lookback within a time range that ends at `endTs`: the lesser of the two, the lookback
unless the end is below it. -/
def clamp (lookback endTs : Value) : Except Fault Value :=
  match endTs.compare .below lookback with
  | .error pair => .error (.incomparable pair)
  | .ok true => .ok endTs
  | .ok false => .ok lookback

/-- The limit that is set, or the configured one. -/
def limitOr (draft : Draft) (settings : Settings) : Value :=
  if draft.limit.isNull then .int settings.defaultLimit else draft.limit

/-- The candidate of a draft with its bounds filled in. -/
def candidate (draft : Draft) (endTs lookback limit : Value) : Candidate :=
  { serviceName := draft.serviceName
    spanName := draft.spanName
    annotations := draft.annotations
    tags := draft.tags
    minDuration := draft.minDuration
    maxDuration := draft.maxDuration
    endTs
    lookback
    limit }

/-- Records an outcome: a built request is counted and written, and a broken rule is counted under
its field and told as a warning. Other faults leave nothing behind. A request that cannot be written
is counted all the same. -/
def observe (threshold : Level) (outcome : Except Fault Request) : Observed Request :=
  match outcome with
  | .ok request => do
    Observed.count Observation.builtCounter.name []
    -- The text is made whether or not it is kept.
    let text ← .ofExcept request.plain
    Observed.record threshold .debug Observation.requestLogger ("Built " ++ text)
    return request
  | .error (.invalidArgument violation) => do
    Observed.count Observation.rejectedCounter.name [("field", violation.field)]
    Observed.record threshold .warning Observation.requestLogger
      ("Rejected query request: " ++ violation.message)
    .fail (.invalidArgument violation)
  | .error fault => .fail fault

/-- Builds a request from a draft of which `readable` may refuse some parts; a part is asked for
when it is needed, and not before. -/
def buildWhere (draft : Draft) (readable : DraftPart → Except Fault Unit)
    (surroundings : Surroundings) : Observed Request := do
  .ofExcept (readable (.scalar .endTs))
  if !draft.endTs.isNull then .ofExcept (readable (.scalar .limit))
  let settings ← draft.settings surroundings
  let endTs ← .ofExcept (draft.endTsOr settings surroundings)
  .ofExcept (readable (.scalar .lookback))
  let lookback ← .ofExcept (clamp (draft.lookbackOr endTs) endTs)
  .ofExcept (readable (.scalar .limit))
  let limit := draft.limitOr settings
  .ofExcept (readable (.scalar .serviceName))
  Observation.recordCall surroundings.threshold Observation.requestLogger (title ++ ".build") [
    ("service_name", draft.serviceName), ("end_ts", endTs), ("lookback", lookback),
    ("limit", limit)]
  observe surroundings.threshold do
    readable (.scalar .spanName)
    readable .annotations
    readable .tags
    readable (.scalar .minDuration)
    readable (.scalar .maxDuration)
    (draft.candidate endTs lookback limit).accept

/-- Builds a request from a draft. -/
def build (draft : Draft) (surroundings : Surroundings) : Observed Request :=
  draft.buildWhere (fun _ => .ok ()) surroundings

/-- A build of a draft asks its parts for nothing but their values. -/
theorem build_eq (draft : Draft) (surroundings : Surroundings) :
    draft.build surroundings = (do
      let settings ← draft.settings surroundings
      let endTs ← .ofExcept (draft.endTsOr settings surroundings)
      let lookback ← .ofExcept (clamp (draft.lookbackOr endTs) endTs)
      let limit := draft.limitOr settings
      Observation.recordCall surroundings.threshold Observation.requestLogger (title ++ ".build") [
        ("service_name", draft.serviceName), ("end_ts", endTs), ("lookback", lookback),
        ("limit", limit)]
      observe surroundings.threshold (draft.candidate endTs lookback limit).accept) := by
  unfold build buildWhere
  cases draft.endTs.isNull <;> rfl

end Draft

end TraceFilter
