/-
Module: TraceFilter.Session.Register
Purpose: Registers and the members by which a step reaches what they hold: contents, operations,
  and what was assigned to them from outside.
Main exports: Member, Register, Register.member?, Register.prepare, Register.invoke,
  Register.assign, Register.delete, Register.origin, Register.window, Register.putTag
-/
import TraceFilter.Session.Stored

namespace TraceFilter

/-- A member of something that is held: an operation, a value, or a content of another type. -/
inductive Member where
  | operation
  | value (held : Value)
  | content (typeName : String)
deriving Repr, Inhabited

namespace Member

/-- The name of the type of a member in messages. -/
def typeName : Member → String
  | .operation => "method"
  | .value held => held.kind.name
  | .content typeName => typeName

/-- The number that a member is. -/
def number? : Member → Option Number
  | .value held => held.number?
  | _ => none

/-- A member as the value of a field. What is no value is read like a collection: it is no number
and no text. -/
def asField : Member → Value
  | .value held => held
  | _ => .list []

end Member

/-! ### The members of what is held -/

/-- The operations of a request that take no arguments. -/
def Request.operations : List String :=
  ["to_builder", "_identity", "__init__", "__post_init__", "__hash__", "__repr__", "__str__"]

/-- The operation of a request that takes one argument. -/
def Request.comparison : String := "__eq__"

/-- The members of a request. -/
def Request.member? (request : Request) : String → Option Member
  | "service_name" => some (.value (.text request.serviceName))
  | "span_name" => some (.value (.ofText? request.spanName))
  | "annotations" => some (.content "tuple")
  | "binary_annotations" => some (.content "mappingproxy")
  | "min_duration" => some (.value request.minDuration)
  | "max_duration" => some (.value request.maxDuration)
  | "end_ts" => some (.value (.int request.endTs))
  | "lookback" => some (.value (.int request.lookback))
  | "limit" => some (.value (.int request.limit))
  | name => if (comparison :: operations).contains name then some .operation else none

/-- The member of a draft under a name, where `members` hide operations. -/
def Draft.memberAmong? (members : List (String × Value)) (name : String) : Option Member :=
  match members.lookup name with
  | some value => some (.value value)
  | none => (DraftOperation.ofName? name).map fun _ => .operation

/-- The members of a window. -/
def Window.member? (window : Window) : String → Option Member
  | "start_ts" => some (.value (.int window.startTs))
  | "end_ts" => some (.value (.int window.endTs))
  | "min_duration" => some (.value (.ofInt? window.minDuration))
  | "max_duration" => some (.value (.ofInt? window.maxDuration))
  | "from_request" => some .operation
  | "contains" => some .operation
  | "accepts_duration" => some .operation
  | "span_predicate" => some .operation
  | "model_config" => some (.content "dict")
  | _ => none

/-- The members of settings. -/
def Settings.member? (settings : Settings) : String → Option Member
  | "end_ts_default" => some (.content "EndTsDefault")
  | "default_limit" => some (.value (.int settings.defaultLimit))
  | "validate_end_ts_default" => some .operation
  | "validate_default_limit" => some .operation
  | "model_config" => some (.content "dict")
  | _ => none

/-- The members of what is held. -/
def Stored.member? : Stored → String → Option Member
  | .request asked => asked.member?
  | .draft sketch => Draft.memberAmong? sketch.members
  | .opened sketch => Draft.memberAmong? sketch.members
  | .window bounds => bounds.member?
  | .settings defaults => defaults.member?

/-! ### Operations that change nothing -/

/-- Asks an operation of a request, which changes nothing. -/
def Request.ask (operation : String) (arguments : List Value) : Except Fault Unit :=
  let signature : Signature :=
    { name := Request.title ++ "." ++ operation
      positional := .required "self" :: if operation = comparison then [.required "other"] else []
      namedOnly := []
      takesOthers := false }
  discard ((signature.bind (.null :: arguments) []).mapError Fault.badCall)

/-- Asks an operation of a window, which changes nothing. -/
def Window.ask (window : Window) (operation : String) (value : Value) : Except Fault Unit :=
  match operation with
  | "contains" => discard ((window.contains value).mapError .incomparable)
  | "accepts_duration" => discard ((window.accepts value).mapError .incomparable)
  | "span_predicate" => .error (.noMember value.kind.name "c")
  | "from_request" => .error (.noMember value.kind.name "end_ts")
  | _ => .ok ()

/-- Asks an operation of the settings, which changes nothing. -/
def Settings.ask (operation : String) (value : Value) : Except Fault Unit :=
  match operation with
  | "validate_default_limit" => do
    discard ((← Settings.readLimit value).mapError .refusedLimit)
  | _ => .ok ()

namespace Stored

/-- Asks an operation of something that is no draft, which changes nothing. -/
def ask (held : Stored) (operation : String) (arguments : List Value) : Except Fault Unit :=
  match held, arguments with
  | .request _, _ => Request.ask operation arguments
  | .window bounds, [value] => bounds.ask operation value
  | .settings _, [value] => Settings.ask operation value
  | _, _ => .ok ()

end Stored

/-! ### Registers -/

/-- A register: what it holds, and the private members that were assigned to it from outside. An
opened draft has such members itself. -/
structure Register where
  held : Stored
  assigned : List (String × Value)
deriving Repr, Inhabited

namespace Register

/-- A register to which nothing was assigned. -/
def holding (held : Stored) : Register := ⟨held, []⟩

/-- The member of a name. -/
def member? (register : Register) (name : String) : Option Member :=
  match register.assigned.lookup name with
  | some value => some (.value value)
  | none => register.held.member? name

/-- Demands that a register has a member. -/
def demand (register : Register) (name : String) : Except Fault Member :=
  match register.member? name with
  | some member => .ok member
  | none => .error (register.held.lacks name)

/-- The value that a member is. -/
def valueOf (register : Register) (name : String) : Except Fault Value := do
  match ← register.demand name with
  | .value held => return held
  | _ => .error (register.held.lacks name)

/-- Prepares a call: the member has to be there before the arguments are needed, and has to be an
operation after that. -/
def prepare {α : Type} (register : Register) (operation : String) (arguments : Except Fault α) :
    Except Fault α := do
  let member ← register.demand operation
  let given ← arguments
  match member with
  | .operation => return given
  | other => .error (.notOperation other.typeName)

/-- Calls an operation of what a register holds: the register after it, and whether what it holds
is itself what the call gives. -/
def invoke (register : Register) (surroundings : Surroundings) (operation : String)
    (arguments : Except Fault (List Value)) : Register × Observed Bool :=
  match register.held with
  | .draft draft =>
    let (after, outcome) := draft.invoke surroundings operation arguments
    ({ register with held := .draft after }, outcome)
  | .opened draft =>
    let (after, outcome) := draft.invoke surroundings operation arguments
    ({ register with held := .opened after }, outcome)
  | held => (register, .ofExcept do
      held.ask operation (← register.prepare operation arguments)
      return false)

/-! ### Registers as sources -/

/-- The draft that starts from what a register holds. What is no request is read member by
member. -/
def origin (register : Register) : Except Fault Draft :=
  match register.held with
  | .request request => .ok (.ofRequest request)
  | _ => do
    let _ ← register.demand "service_name"
    let _ ← register.demand "span_name"
    let annotations ← (← register.valueOf "annotations").items
    let tags ← (← register.valueOf "binary_annotations").entries
    return {
      serviceName := ← register.valueOf "service_name"
      spanName := ← register.valueOf "span_name"
      annotations
      tags
      minDuration := ← register.valueOf "min_duration"
      maxDuration := ← register.valueOf "max_duration"
      endTs := ← register.valueOf "end_ts"
      lookback := ← register.valueOf "lookback"
      limit := ← register.valueOf "limit" }

/-- The window that is made of what a register holds. What is no request is read member by
member, and its start is the difference of two of them. -/
def window (register : Register) : Except Fault Window :=
  match register.held with
  | .request request => Window.ofRequest request
  | _ => do
    let endTs ← register.demand "end_ts"
    let lookback ← register.demand "lookback"
    match endTs.number?, lookback.number? with
    | some last, some span =>
      let inMicros (number : Number) := (number.times Window.microsPerMilli.toNat).value
      let start ← last.minus span
      Window.ofFields [
        ("start_ts", inMicros start),
        ("end_ts", inMicros last),
        ("min_duration", (← register.demand "min_duration").asField),
        ("max_duration", (← register.demand "max_duration").asField)]
    | _, _ => .error (.noDifference endTs.typeName lookback.typeName)

/-! ### Assigning and deleting members -/

/-- The report that a field cannot be written to. -/
def frozen (title field : String) : Fault :=
  .invalidFields ⟨title, [(field, .frozen)]⟩

/-- Whether a name is that of a private member. -/
def isPrivate (name : String) : Bool :=
  name.toList.head? == some '_'

/-- Assigns a private member of something with declared fields; its other members are frozen. -/
def assignPrivate (register : Register) (name : String) (value : Value) : Except Fault Register :=
  if !isPrivate name then .error (frozen register.held.title name)
  else
    match reservedFault? name value with
    | some fault => .error fault
    | none => .ok { register with assigned := putWith (· == ·) register.assigned name value }

/-- Replaces what a register holds by an opened draft. -/
def opening (register : Register) (opened : Except Fault OpenedDraft) : Except Fault Register :=
  opened.map fun draft => { register with held := .opened draft }

/-- Assigns a member. Requests take none, windows and settings only private ones. -/
def assign (register : Register) (name : String) (value : Value) : Except Fault Register :=
  match register.held with
  | .request _ => .error (.frozenAssignment name)
  | .draft draft => register.opening ((OpenedDraft.ofDraft draft).assign name value)
  | .opened draft => register.opening (draft.assign name value)
  | _ => register.assignPrivate name value

/-- Deletes a member. Only drafts allow it. -/
def delete (register : Register) (name : String) : Except Fault Register :=
  match register.held with
  | .request _ => .error (.frozenDeletion name)
  | .draft draft => register.opening ((OpenedDraft.ofDraft draft).delete name)
  | .opened draft => register.opening (draft.delete name)
  | held => .error (frozen held.title name)

/-- Puts a value under a key of the tags that a register holds. Those of a request are read-only;
only an opened draft can have others under the same name. -/
def putTag (register : Register) (key : Except Fault Value) (value : Value) :
    Except Fault Register := do
  let member ← register.demand "binary_annotations"
  let key ← key
  match member, register.held with
  | .value tags, .opened draft =>
    register.opening do return draft.put "binary_annotations" (← tags.putItem key value)
  | other, _ => .error (.noItemAssignment other.typeName)

end Register

end TraceFilter
