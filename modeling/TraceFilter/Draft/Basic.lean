/-
Module: TraceFilter.Draft.Basic
Purpose: Requests in the making: fields that can be set and unset, collections that grow, and the
  edits by which that is done.
Main exports: Scalar, Draft, Draft.get, Draft.set, Edit, Draft.apply, Draft.ofRequest, DraftPart,
  Draft.part, Draft.members, Draft.view
-/
import TraceFilter.Request.Basic

namespace TraceFilter

/-- The fields of a draft that hold one value. -/
inductive Scalar where
  | serviceName
  | spanName
  | minDuration
  | maxDuration
  | endTs
  | lookback
  | limit
deriving DecidableEq, Repr, Inhabited

namespace Scalar

/-- The name of a field. -/
def name : Scalar → String
  | .serviceName => "service_name"
  | .spanName => "span_name"
  | .minDuration => "min_duration"
  | .maxDuration => "max_duration"
  | .endTs => "end_ts"
  | .lookback => "lookback"
  | .limit => "limit"

/-- All fields. -/
def all : List Scalar :=
  [serviceName, spanName, minDuration, maxDuration, endTs, lookback, limit]

/-- The field of a name. -/
def ofName? (name : String) : Option Scalar :=
  all.find? (·.name == name)

end Scalar

/-- A request in the making. An unset field holds the absent value; nothing is checked before the
request is built. -/
structure Draft where
  serviceName : Value
  spanName : Value
  annotations : List Value
  tags : Entries
  minDuration : Value
  maxDuration : Value
  endTs : Value
  lookback : Value
  limit : Value
deriving Repr, Inhabited

namespace Draft

/-- The draft with nothing set. -/
def empty : Draft :=
  { serviceName := .null
    spanName := .null
    annotations := []
    tags := []
    minDuration := .null
    maxDuration := .null
    endTs := .null
    lookback := .null
    limit := .null }

/-- The draft that holds what a request holds. -/
def ofRequest (request : Request) : Draft :=
  { serviceName := .text request.serviceName
    spanName := .ofText? request.spanName
    annotations := request.annotations
    tags := request.tags
    minDuration := request.minDuration
    maxDuration := request.maxDuration
    endTs := .int request.endTs
    lookback := .int request.lookback
    limit := .int request.limit }

/-- The value of a field. -/
def get (draft : Draft) : Scalar → Value
  | .serviceName => draft.serviceName
  | .spanName => draft.spanName
  | .minDuration => draft.minDuration
  | .maxDuration => draft.maxDuration
  | .endTs => draft.endTs
  | .lookback => draft.lookback
  | .limit => draft.limit

/-- Sets a field; the absent value unsets it. -/
def set (draft : Draft) (field : Scalar) (value : Value) : Draft :=
  match field with
  | .serviceName => { draft with serviceName := value }
  | .spanName => { draft with spanName := value }
  | .minDuration => { draft with minDuration := value }
  | .maxDuration => { draft with maxDuration := value }
  | .endTs => { draft with endTs := value }
  | .lookback => { draft with lookback := value }
  | .limit => { draft with limit := value }

theorem get_set (draft : Draft) (field other : Scalar) (value : Value) :
    (draft.set field value).get other = if other = field then value else draft.get other := by
  cases field <;> cases other <;> rfl

end Draft

/-- One change of a draft. -/
inductive Edit where
  | set (field : Scalar) (value : Value)
  | annotate (note : Value)
  | addTag (key value : Value)
  | clear
deriving Repr, Inhabited

/-- Applies a change. A tag replaces the one with an equal key; only a key that can be none makes a
change fail. -/
def Draft.apply (draft : Draft) : Edit → Except Fault Draft
  | .set field value => .ok (draft.set field value)
  | .annotate note =>
    .ok { draft with annotations := draft.annotations ++ [note] }
  | .addTag key value =>
    (draft.tags.insert key value).map fun tags => { draft with tags }
  | .clear => .ok .empty

/-! ### The parts of a draft by name -/

/-- A part of a draft: a field that holds one value, or one of the two collections. -/
inductive DraftPart where
  | scalar (field : Scalar)
  | annotations
  | tags
deriving DecidableEq, Repr, Inhabited

namespace DraftPart

/-- The name of a part. -/
def label : DraftPart → String
  | .scalar field => field.name
  | .annotations => "annotations"
  | .tags => "binary_annotations"

/-- The name under which a draft keeps a part. -/
def name (part : DraftPart) : String := "_" ++ part.label

/-- The parts that are shown as values, in order; the tags are shown as entries after them. -/
def valued : List DraftPart :=
  [.scalar .serviceName, .scalar .spanName, .annotations, .scalar .minDuration,
    .scalar .maxDuration, .scalar .endTs, .scalar .lookback, .scalar .limit]

/-- All parts. -/
def all : List DraftPart := valued ++ [.tags]

end DraftPart

/-- What a draft shows of itself. -/
structure DraftView where
  values : List (String × Value)
  tags : Entries
deriving Repr, Inhabited

namespace Draft

/-- The name of drafts in messages. -/
def title : String := "QueryRequestBuilder"

/-- A part of a draft as a value. -/
def part (draft : Draft) : DraftPart → Value
  | .scalar field => draft.get field
  | .annotations => .list draft.annotations
  | .tags => .mapping draft.tags

/-- What a draft keeps, by name. -/
def members (draft : Draft) : List (String × Value) :=
  DraftPart.all.map fun part => (part.name, draft.part part)

/-- What a draft shows. -/
def view (draft : Draft) : DraftView :=
  { values := DraftPart.valued.map fun part => (part.label, draft.part part)
    tags := draft.tags }

end Draft

end TraceFilter
