/-
Module: TraceFilter.Observation.CallRecord
Purpose: Records of calls with their arguments, long ones cut off.
Main exports: Observation.maxArgumentLength, Observation.truncate, Observation.truncateArguments,
  Observation.truncateArguments_eq, Observation.callMessage, Observation.callMessage_eq,
  Observation.recordCall
-/
import TraceFilter.Observation.Observed
import TraceFilter.Value.Display

namespace TraceFilter.Observation

/-- The most code points of an argument that a call record shows. -/
def maxArgumentLength : Nat := 200

/-- What marks an argument that was cut off. -/
def truncationMark : String := "... (truncated)"

/-- Cuts a text off behind the code points that are shown. -/
def truncate (text : String) : String :=
  if maxArgumentLength < text.toList.length then
    String.ofList (text.toList.take maxArgumentLength) ++ truncationMark
  else text

/-- The arguments of a call as texts, long ones cut off. -/
def truncateArguments (arguments : List (String × Value)) :
    Except Fault (List (String × String)) := do
  return (← plainFields arguments).map fun argument => (argument.1, truncate argument.2)

/-- Arguments are shown exactly when all of them can be written. -/
theorem truncateArguments_eq (arguments : List (String × Value)) :
    truncateArguments arguments =
      if fieldsWritable arguments then
        .ok (arguments.map fun argument => (argument.1, truncate argument.2.bare))
      else .error .tooLong := by
  rw [truncateArguments, plainFields_eq]
  cases fieldsWritable arguments with
  | false => rfl
  | true => simp [bind, Except.bind, pure, Except.pure]

/-- Named texts as a mapping. -/
def textEntries (arguments : List (String × String)) : Entries :=
  arguments.map fun argument => (.text argument.1, .text argument.2)

/-- Named texts can be written. -/
theorem isWritable_textEntries (pairs : List (String × String)) :
    (Value.mapping (textEntries pairs)).isWritable = true := by
  rw [Value.isWritable_mapping_iff, textEntries, List.forall_mem_map]
  exact fun _ _ => ⟨rfl, rfl⟩

/-- The message of a call record. -/
def callMessage (callee : String) (arguments : List (String × Value)) : Except Fault String := do
  let shown := Value.mapping (textEntries (← truncateArguments arguments))
  return "Call: " ++ callee ++ " | Args: " ++ (← shown.display)

/-- The message of a call record shows the texts of the arguments as a mapping. -/
theorem callMessage_eq (callee : String) (arguments : List (String × Value)) :
    callMessage callee arguments = (truncateArguments arguments).map fun shown =>
      "Call: " ++ callee ++ " | Args: " ++ (Value.mapping (textEntries shown)).spelled := by
  rw [callMessage]
  cases truncateArguments arguments with
  | error fault => rfl
  | ok shown =>
    have written := Value.ifWritable_of_writable (isWritable_textEntries shown)
      (Value.mapping (textEntries shown)).spelled
    simp only [bind, Except.bind, Value.display, written]
    rfl

/-- Records a call. Its arguments are not even looked at unless the threshold lets the record
through. -/
def recordCall (threshold : Level) (logger callee : String) (arguments : List (String × Value)) :
    Observed Unit :=
  if Level.debug.passes threshold then do
    let message ← .ofExcept (callMessage callee arguments)
    .record threshold .debug logger message
  else pure ()

/-- How a call is asked to be recorded: the logger and the callee have a position, all further
names are arguments of the recorded call. -/
def recordCallSignature : Signature :=
  { name := "log_call"
    positional := [.required "logger", .required "func_name"]
    namedOnly := []
    takesOthers := true }

/-- Records a call unless one of its arguments bears the name of a parameter of the recorder. -/
def recordNamedCall (threshold : Level) (logger callee : String)
    (arguments : List (String × Value)) : Observed Unit :=
  match recordCallSignature.bind [.text logger, .text callee] arguments with
  | .error fault => .fail (.badCall fault)
  | .ok _ => recordCall threshold logger callee arguments

end TraceFilter.Observation
