/-
Module: TraceFilter.Spans.Table
Purpose: The table of stored spans: its columns, its uniqueness constraint and the statement that
  creates it.
Main exports: ColumnType, SpanColumn, UniqueConstraint, SpanTable.createStatement
-/
import TraceFilter.Fault

namespace TraceFilter

/-- The types of columns. -/
inductive ColumnType where
  | bigInteger
  | characters (most : Nat)
  | boolean
deriving DecidableEq, Repr, Inhabited

/-- The name of a type in statements. -/
def ColumnType.name : ColumnType → String
  | .bigInteger => "BIGINT"
  | .characters most => "VARCHAR(" ++ toString most ++ ")"
  | .boolean => "BOOLEAN"

/-- The columns of the span table. -/
inductive SpanColumn where
  | traceId
  | id
  | name
  | parentId
  | debug
  | startTs
  | duration
deriving DecidableEq, Repr, Inhabited

namespace SpanColumn

/-- All columns, in the order of the table. -/
def all : List SpanColumn := [traceId, id, name, parentId, debug, startTs, duration]

/-- The name of a column. -/
def label : SpanColumn → String
  | .traceId => "trace_id"
  | .id => "id"
  | .name => "name"
  | .parentId => "parent_id"
  | .debug => "debug"
  | .startTs => "start_ts"
  | .duration => "duration"

/-- The type of a column. -/
def type : SpanColumn → ColumnType
  | .name => .characters 255
  | .debug => .boolean
  | _ => .bigInteger

/-- Whether a column takes the absent value. -/
def nullable : SpanColumn → Bool
  | .traceId => false
  | .id => false
  | .name => false
  | _ => true

/-- Whether a column belongs to a primary key; the table has none. -/
def inPrimaryKey (_column : SpanColumn) : Bool := false

/-- The comment on a column. -/
def comment? : SpanColumn → Option String
  | .startTs => some "Span.timestamp(): epoch micros used for end_ts query and to implement TTL"
  | .duration => some "Span.duration(): micros used for min_duration and max_duration query"
  | _ => none

/-- The column of a name. -/
def ofLabel? (label : String) : Option SpanColumn :=
  all.find? (·.label == label)

end SpanColumn

/-- Columns whose cells no two rows may share. -/
structure UniqueConstraint where
  name : String
  columns : List SpanColumn
deriving DecidableEq, Repr, Inhabited

namespace SpanTable

/-- The name of the table. -/
def name : String := "zipkin_spans"

/-- The names of all tables. -/
def tableNames : List String := [name]

/-- The constraint that a span of a trace is stored once. -/
def spanOfTraceOnce : UniqueConstraint :=
  ⟨"zipkin_spans_trace_id_id_uc", [.traceId, .id]⟩

/-- The uniqueness constraints. -/
def uniqueConstraints : List UniqueConstraint := [spanOfTraceOnce]

/-- The name of a column with that of the table. -/
def qualified (column : SpanColumn) : String :=
  name ++ "." ++ column.label

/-- Fails for the name of a table that there is not. -/
def require (table : String) : Except Fault Unit :=
  if tableNames.contains table then .ok () else .error (.unknownKey table)

/-- The column of a name, if there is one. -/
def column (label : String) : Except Fault SpanColumn :=
  match SpanColumn.ofLabel? label with
  | some column => .ok column
  | none => .error (.unknownKey label)

/-- The part of the creating statement that is about a column. -/
def columnClause (column : SpanColumn) : String :=
  column.label ++ " " ++ column.type.name ++ (if column.nullable then "" else " NOT NULL")

/-- The part of the creating statement that is about a constraint. -/
def constraintClause (constraint : UniqueConstraint) : String :=
  "CONSTRAINT " ++ constraint.name ++ " UNIQUE ("
    ++ ", ".intercalate (constraint.columns.map SpanColumn.label) ++ ")"

/-- The statement that creates the table. -/
def createStatement : String :=
  let clauses := SpanColumn.all.map columnClause ++ uniqueConstraints.map constraintClause
  "\nCREATE TABLE " ++ name ++ " (\n\t" ++ ", \n\t".intercalate clauses ++ "\n)\n\n"

end SpanTable

end TraceFilter
