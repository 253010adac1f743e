/-
Module: TraceFilter.Spans.Store
Purpose: Rows of the span table and the store that keeps them under the table's constraints.
Main exports: SpanRow, SpanRow.number?, SpanStore, SpanStore.insert
-/
import TraceFilter.Power
import TraceFilter.Spans.Table

namespace TraceFilter

/-- A row of the span table; an absent cell is the absent value of the database. -/
structure SpanRow where
  traceId : Option Int
  id : Option Int
  name : Option String
  parentId : Option Int
  debug : Option Bool
  startTs : Option Int
  duration : Option Int
deriving DecidableEq, Repr, Inhabited

/-- What a cell can hold. -/
inductive Cell where
  | null
  | number (value : Int)
  | characters (value : String)
  | truth (value : Bool)
deriving DecidableEq, Repr, Inhabited

namespace SpanRow

/-- The cell of a column. -/
def cell (row : SpanRow) : SpanColumn → Cell
  | .traceId => row.traceId.elim .null .number
  | .id => row.id.elim .null .number
  | .name => row.name.elim .null .characters
  | .parentId => row.parentId.elim .null .number
  | .debug => row.debug.elim .null .truth
  | .startTs => row.startTs.elim .null .number
  | .duration => row.duration.elim .null .number

/-- The number in the cell of a column. -/
def number? (row : SpanRow) (column : SpanColumn) : Option Int :=
  match row.cell column with
  | .number value => some value
  | _ => none

end SpanRow

/-- Whether an integer fits into a cell of 64 bits with a sign. -/
def fitsCell (number : Int) : Bool :=
  -wordLimit ≤ number && number < wordLimit

/-- The stored rows in the order of their insertion. -/
structure SpanStore where
  rows : List SpanRow
deriving DecidableEq, Repr, Inhabited

namespace SpanStore

/-- The store without rows. -/
def empty : SpanStore := ⟨[]⟩

/-- Whether every integer of a row fits into its cell. -/
def fits (row : SpanRow) : Bool :=
  SpanColumn.all.all fun column => (row.number? column).all fitsCell

/-- The fault of the first required cell that a row lacks. -/
def absenceFault? (row : SpanRow) : Option Fault :=
  (SpanColumn.all.find? fun column => !column.nullable && row.cell column == .null).map
    fun column => .notNull (SpanTable.qualified column)

/-- Whether two rows share the cells of a constraint; absent cells are never shared. -/
def clashes (constraint : UniqueConstraint) (row other : SpanRow) : Bool :=
  constraint.columns.all fun column =>
    row.cell column != .null && row.cell column == other.cell column

/-- The fault of the first constraint under which a row repeats a stored one. -/
def repetitionFault? (store : SpanStore) (row : SpanRow) : Option Fault :=
  (SpanTable.uniqueConstraints.find? fun constraint =>
    store.rows.any (clashes constraint row)).map
      fun constraint => .notUnique (constraint.columns.map SpanTable.qualified)

/-- Inserts a row, unless it does not fit, lacks a required cell or repeats what has to be
unique. -/
def insert (store : SpanStore) (row : SpanRow) : Except Fault SpanStore :=
  if !fits row then .error .tooWide
  else
    match absenceFault? row <|> store.repetitionFault? row with
    | some fault => .error fault
    | none => .ok ⟨store.rows ++ [row]⟩

/-- Inserts rows in order and stops at the first that is refused. -/
def insertAll : List SpanRow → SpanStore → Except Fault SpanStore
  | [], store => .ok store
  | row :: rest, store => do insertAll rest (← store.insert row)

end SpanStore

end TraceFilter
