/-
Module: TraceFilter.Draft.Call
Purpose: The operations of a draft under their names, with the arguments that each takes, and what
  a call of one does.
Main exports: DraftOperation, DraftCall, DraftCall.resolve, Draft.perform, Draft.invoke
-/
import TraceFilter.Draft.Build

namespace TraceFilter

/-- The operations of a draft. -/
inductive DraftOperation where
  | set (field : Scalar)
  | annotate
  | addTag
  | clear
  | build
  | restart
deriving DecidableEq, Repr, Inhabited

/-- A call of an operation with its arguments. -/
inductive DraftCall where
  | edit (edit : Edit)
  | build
  /-- Starts over, from what is to be a request. -/
  | restart (source : Value)
deriving Repr, Inhabited

namespace DraftOperation

/-- The name of an operation. -/
def name : DraftOperation → String
  | .set field => field.name
  | .annotate => "add_annotation"
  | .addTag => "add_binary_annotation"
  | .clear => "clear"
  | .build => "build"
  | .restart => "__init__"

/-- All operations. -/
def all : List DraftOperation :=
  Scalar.all.map .set ++ [.annotate, .addTag, .clear, .build, .restart]

/-- The operation of a name. -/
def ofName? (name : String) : Option DraftOperation :=
  all.find? (·.name == name)

/-- The parameters of an operation. -/
def parameters : DraftOperation → List Parameter
  | .set field => [.required field.name]
  | .annotate => [.required "annotation"]
  | .addTag => [.required "key", .required "value"]
  | .clear => []
  | .build => []
  | .restart => [⟨"source", some .null⟩]

/-- How an operation is called. -/
def signature (operation : DraftOperation) : Signature :=
  { name := Draft.title ++ "." ++ operation.name
    positional := .required "self" :: operation.parameters
    namedOnly := []
    takesOthers := false }

/-- The call of an operation with some arguments. -/
def call (operation : DraftOperation) (arguments : List Value) : Except Fault DraftCall := do
  let bound ← (operation.signature.bind (.null :: arguments) []).mapError Fault.badCall
  return match operation with
    | .set field => .edit (.set field (bound field.name))
    | .annotate => .edit (.annotate (bound "annotation"))
    | .addTag => .edit (.addTag (bound "key") (bound "value"))
    | .clear => .edit .clear
    | .build => .build
    | .restart => .restart (bound "source")

end DraftOperation

/-- The call that a name and arguments ask for, where `members` hide the operations of their names.
The operation is looked for before its arguments are needed, and those before it is called. -/
def DraftCall.resolve (members : List (String × Value)) (operation : String)
    (arguments : Except Fault (List Value)) : Except Fault DraftCall :=
  match members.lookup operation, DraftOperation.ofName? operation with
  | some value, _ => do
    let _ ← arguments
    .error (.notOperation value.kind.name)
  | none, some known => do known.call (← arguments)
  | none, none => .error (.noMember Draft.title operation)

/-- The fault of starting over from a value: the absent one is as good as none, and no other has
the members of a request. -/
def restartFault? (source : Value) : Option Fault :=
  if source.isNull then none
  else some (.noMember source.kind.name "service_name")

/-- What starting over gives: nothing, or a fault. -/
def restarted (source : Value) : Observed Bool :=
  match restartFault? source with
  | some fault => .fail fault
  | none => pure false

namespace Draft

/-- Carries out a call: the draft after it, and whether the draft itself is what the call gives. A
build leaves the draft as it was, and starting over leaves an empty one also when it fails. -/
def perform (draft : Draft) (surroundings : Surroundings) : DraftCall → Draft × Observed Bool
  | .edit edit =>
    match draft.apply edit with
    | .ok after => (after, pure true)
    | .error fault => (draft, .fail fault)
  | .build => (draft, do
      let _ ← draft.build surroundings
      return false)
  | .restart source => (.empty, restarted source)

/-- Calls an operation by name. -/
def invoke (draft : Draft) (surroundings : Surroundings) (operation : String)
    (arguments : Except Fault (List Value)) : Draft × Observed Bool :=
  match DraftCall.resolve draft.members operation arguments with
  | .ok call => draft.perform surroundings call
  | .error fault => (draft, .fail fault)

end Draft

end TraceFilter
