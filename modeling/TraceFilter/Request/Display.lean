/-
Module: TraceFilter.Request.Display
Purpose: The two texts of a request: one for messages, one that tells the values apart.
Main exports: Request.fields, Request.isWritable, Request.plain, Request.display
-/
import TraceFilter.Request.Basic
import TraceFilter.Value.Display

namespace TraceFilter.Request

/-- The fields of a request by name. -/
def fields (request : Request) : List (String × Value) := [
  ("service_name", .text request.serviceName),
  ("span_name", .ofText? request.spanName),
  ("annotations", .list request.annotations),
  ("binary_annotations", .mapping request.tags),
  ("min_duration", request.minDuration),
  ("max_duration", request.maxDuration),
  ("end_ts", .int request.endTs),
  ("lookback", .int request.lookback),
  ("limit", .int request.limit)]

/-- Whether all fields of a request can be written. -/
def isWritable (request : Request) : Bool :=
  fieldsWritable request.fields

/-- The text of a request in a message. -/
def plain (request : Request) : Except Fault String := do
  return title ++ "\x7b" ++ joinFields ", " (← plainFields request.fields) ++ "\x7d"

/-- A request has a text in messages exactly if all its fields can be written. -/
theorem plain_eq (request : Request) :
    request.plain =
      if request.isWritable then
        .ok (title ++ "\x7b" ++ joinFields ", " (request.fields.map fun field =>
          (field.1, field.2.bare)) ++ "\x7d")
      else .error .tooLong := by
  rw [plain, plainFields_eq, isWritable]
  cases fieldsWritable request.fields <;> rfl

/-- The text of a request with its texts quoted and its collections marked as read-only. -/
def display (request : Request) : Except Fault String := do
  return title ++ "(" ++ joinFields ", " [
    ("service_name", ← (Value.text request.serviceName).display),
    ("span_name", ← (Value.ofText? request.spanName).display),
    ("annotations", ← displayTuple request.annotations),
    ("binary_annotations",
      "mappingproxy(" ++ (← (Value.mapping request.tags).display) ++ ")"),
    ("min_duration", ← request.minDuration.display),
    ("max_duration", ← request.maxDuration.display),
    ("end_ts", ← (Value.int request.endTs).display),
    ("lookback", ← (Value.int request.lookback).display),
    ("limit", ← (Value.int request.limit).display)] ++ ")"

end TraceFilter.Request
