/-
Module: TraceFilter.Draft.Opened
Purpose: Drafts whose members were assigned and deleted one by one, so that a part may hold any
  value, or be gone.
Main exports: OpenedDraft, OpenedDraft.ofDraft, OpenedDraft.assign, OpenedDraft.delete,
  OpenedDraft.apply, OpenedDraft.build, OpenedDraft.view, OpenedDraft.invoke
-/
import TraceFilter.Draft.Call

namespace TraceFilter

/-- A draft as its members by name: the parts that it keeps, and whatever else was assigned. -/
structure OpenedDraft where
  members : List (String × Value)
deriving Repr, Inhabited

/-- The fault of assigning one of the two names that are not those of members: that of the class,
which no value can be, and that of all members together, which only a mapping can be. -/
def reservedFault? (name : String) (value : Value) : Option Fault :=
  match name, value with
  | "__class__", _ => some (.notClass value.kind)
  | "__dict__", .mapping _ => none
  | "__dict__", _ => some (.notMembers value.kind)
  | _, _ => none

namespace OpenedDraft

/-- A draft that is opened keeps all its parts. -/
def ofDraft (draft : Draft) : OpenedDraft := ⟨draft.members⟩

/-- The member of a name. -/
def read (draft : OpenedDraft) (name : String) : Except Fault Value :=
  match draft.members.lookup name with
  | some value => .ok value
  | none => .error (.noMember Draft.title name)

/-- Puts a value in place of a member. -/
def put (draft : OpenedDraft) (name : String) (value : Value) : OpenedDraft :=
  ⟨putWith (· == ·) draft.members name value⟩

/-- The members that the entries of a mapping make; only texts are names. -/
def ofEntries (entries : Entries) : OpenedDraft :=
  ⟨entries.filterMap fun entry => entry.1.text?.map fun name => (name, entry.2)⟩

/-- Assigns a member, or all of them at once. -/
def assign (draft : OpenedDraft) (name : String) (value : Value) : Except Fault OpenedDraft :=
  match reservedFault? name value, name, value with
  | some fault, _, _ => .error fault
  | none, "__dict__", .mapping entries => .ok (ofEntries entries)
  | none, _, _ => .ok (draft.put name value)

/-- Deletes a member. -/
def delete (draft : OpenedDraft) (name : String) : Except Fault OpenedDraft :=
  match name with
  | "__class__" => .error .keptClass
  | "__dict__" => .ok ⟨[]⟩
  | _ => do
    let _ ← draft.read name
    return ⟨draft.members.filter (·.1 != name)⟩

/-- Puts the parts of an empty draft in place. -/
def clear (draft : OpenedDraft) : OpenedDraft :=
  DraftPart.all.foldl (fun sofar part => sofar.put part.name (Draft.empty.part part)) draft

/-- Applies a change to the part that it is about. -/
def apply (draft : OpenedDraft) : Edit → Except Fault OpenedDraft
  | .set field value => .ok (draft.put (DraftPart.scalar field).name value)
  | .annotate note => do
    let notes ← draft.read DraftPart.annotations.name
    return draft.put DraftPart.annotations.name (← notes.append note)
  | .addTag key value => do
    let tags ← draft.read DraftPart.tags.name
    return draft.put DraftPart.tags.name (← tags.putItem key value)
  | .clear => .ok draft.clear

/-! ### Building -/

/-- The value of a field, absent if the field is gone. -/
def fieldOr (draft : OpenedDraft) (field : Scalar) : Value :=
  (draft.members.lookup (DraftPart.scalar field).name).getD .null

/-- The annotations that the member of their name stands for. -/
def annotations (draft : OpenedDraft) : Except Fault (List Value) := do
  (← draft.read DraftPart.annotations.name).items

/-- The tags that the member of their name stands for. -/
def tags (draft : OpenedDraft) : Except Fault Entries := do
  (← draft.read DraftPart.tags.name).entries

/-- Whether a build can read a part. -/
def readable (draft : OpenedDraft) : DraftPart → Except Fault Unit
  | .scalar field => discard (draft.read (DraftPart.scalar field).name)
  | .annotations => discard draft.annotations
  | .tags => discard draft.tags

/-- The draft of the parts that can be read, with the others unset. -/
def shape (draft : OpenedDraft) : Draft :=
  { serviceName := draft.fieldOr .serviceName
    spanName := draft.fieldOr .spanName
    annotations := draft.annotations.toOption.getD []
    tags := draft.tags.toOption.getD []
    minDuration := draft.fieldOr .minDuration
    maxDuration := draft.fieldOr .maxDuration
    endTs := draft.fieldOr .endTs
    lookback := draft.fieldOr .lookback
    limit := draft.fieldOr .limit }

/-- Builds a request, as far as the parts can be read. -/
def build (draft : OpenedDraft) (surroundings : Surroundings) : Observed Request :=
  draft.shape.buildWhere draft.readable surroundings

/-! ### Showing and calling -/

/-- What a draft shows. Its tags have to be a mapping for that. -/
def view (draft : OpenedDraft) : Except Fault DraftView := do
  let values ← DraftPart.valued.mapM fun part => do return (part.label, ← draft.read part.name)
  match ← draft.read DraftPart.tags.name with
  | .mapping tags => return { values, tags }
  | other => .error (.noMember other.kind.name "items")

/-- Carries out a call, as `Draft.perform` does. Starting over clears the draft by its operation of
that name, which a member can hide. -/
def perform (draft : OpenedDraft) (surroundings : Surroundings) :
    DraftCall → OpenedDraft × Observed Bool
  | .edit edit =>
    match draft.apply edit with
    | .ok after => (after, pure true)
    | .error fault => (draft, .fail fault)
  | .build => (draft, do
      let _ ← draft.build surroundings
      return false)
  | .restart source =>
    match draft.members.lookup DraftOperation.clear.name with
    | some value => (draft, .fail (.notOperation value.kind.name))
    | none => (draft.clear, restarted source)

/-- Calls an operation by name. -/
def invoke (draft : OpenedDraft) (surroundings : Surroundings) (operation : String)
    (arguments : Except Fault (List Value)) : OpenedDraft × Observed Bool :=
  match DraftCall.resolve draft.members operation arguments with
  | .ok call => draft.perform surroundings call
  | .error fault => (draft, .fail fault)

end OpenedDraft

end TraceFilter
