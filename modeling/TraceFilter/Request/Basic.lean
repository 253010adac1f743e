/-
Module: TraceFilter.Request.Basic
Purpose: Search requests, the values that are proposed for one, and the collections among them.
Main exports: Candidate, Request, Value.annotationItems, Value.tagEntries, Request.fieldSignature,
  Candidate.ofFields
-/
import TraceFilter.Value.Collection

namespace TraceFilter

/-- The values that are proposed for the parts of a request. -/
structure Candidate where
  serviceName : Value
  spanName : Value
  annotations : List Value
  tags : Entries
  minDuration : Value
  maxDuration : Value
  endTs : Value
  lookback : Value
  limit : Value
deriving Repr, Inhabited

/-- A request for the traces that match all its filters. The names are in lower case. The time
range ends at `endTs` and reaches back over `lookback`, both in milliseconds; at most `limit` traces
are asked for. The bounds on durations and the members of the two collections are kept as they were
given. -/
structure Request where
  serviceName : String
  spanName : Option String
  annotations : List Value
  tags : Entries
  minDuration : Value
  maxDuration : Value
  endTs : Int
  lookback : Int
  limit : Int
deriving Repr, Inhabited

namespace Value

/-- The annotations that a value stands for. -/
def annotationItems (value : Value) : Except Fault (List Value) :=
  if value.truthy then value.items else .ok []

/-- The tags that a value stands for. -/
def tagEntries (value : Value) : Except Fault Entries :=
  if value.truthy then value.entries else .ok []

end Value

/-! ### Requests from named fields -/

/-- The name of requests in messages. -/
def Request.title : String := "QueryRequest"

/-- How a request is made from named fields. -/
def Request.fieldSignature : Signature :=
  { name := Request.title ++ ".__init__"
    positional := [.required "self"]
    namedOnly := [.required "service_name", ⟨"span_name", some .null⟩,
      ⟨"annotations", some (.list [])⟩, ⟨"binary_annotations", some (.mapping [])⟩,
      ⟨"min_duration", some .null⟩, ⟨"max_duration", some .null⟩,
      .required "end_ts", .required "lookback", .required "limit"]
    takesOthers := false }

/-- The candidate that named fields propose. -/
def Candidate.ofFields (given : List (String × Value)) : Except Fault Candidate := do
  let field ← (Request.fieldSignature.bind [.null] given).mapError Fault.badCall
  let annotations ← (field "annotations").annotationItems
  let tags ← (field "binary_annotations").tagEntries
  return {
    serviceName := field "service_name"
    spanName := field "span_name"
    annotations
    tags
    minDuration := field "min_duration"
    maxDuration := field "max_duration"
    endTs := field "end_ts"
    lookback := field "lookback"
    limit := field "limit" }

end TraceFilter
