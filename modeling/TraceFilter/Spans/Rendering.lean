/-
Module: TraceFilter.Spans.Rendering
Purpose: The texts of a predicate: with named parameters, and with the values in place.
Main exports: Piece, Predicate.pieces, Rendered, Predicate.render, Rendered.written
-/
import TraceFilter.Spans.Condition
import TraceFilter.Value.Display

namespace TraceFilter

/-- A piece of the text of a predicate: fixed, or the place of a parameter with its value. -/
inductive Piece where
  | fixed (text : String)
  | parameter (name : String) (value : Int)
deriving DecidableEq, Repr, Inhabited

namespace Condition

/-- The name of the parameter that comes after `earlier` ones of its column. -/
def parameterName (column : SpanColumn) (earlier : Nat) : String :=
  column.label ++ "_" ++ toString (earlier + 1)

/-- The pieces of a condition on the columns of a table name, after `earlier` parameters of the
same column. -/
def pieces (table : String) (earlier : Nat) (condition : Condition) : List Piece :=
  let column := table ++ "." ++ condition.column.label
  let name := parameterName condition.column
  match condition.test with
  | .between low high =>
    [.fixed (column ++ " BETWEEN "), .parameter (name earlier) low, .fixed " AND ",
      .parameter (name (earlier + 1)) high]
  | .atLeast bound => [.fixed (column ++ " >= "), .parameter (name earlier) bound]
  | .atMost bound => [.fixed (column ++ " <= "), .parameter (name earlier) bound]

end Condition

namespace Predicate

/-- How many parameters some conditions have on a column. -/
def parameterCount (conditions : List Condition) (column : SpanColumn) : Nat :=
  ((conditions.filter (·.column = column)).flatMap Condition.operands).length

/-- The pieces of the conditions after some others, joined by conjunctions. Parameters are numbered
column by column. -/
def piecesAfter (table : String) : List Condition → List Condition → List Piece
  | _, [] => []
  | earlier, condition :: rest =>
    (if earlier.isEmpty then [] else [.fixed " AND "])
      ++ condition.pieces table (parameterCount earlier condition.column)
      ++ piecesAfter table (earlier ++ [condition]) rest

/-- The pieces of a predicate. -/
def pieces (table : String) (predicate : Predicate) : List Piece :=
  piecesAfter table [] predicate

end Predicate

namespace Piece

/-- The text of a piece with named parameters. -/
def named : Piece → String
  | .fixed text => text
  | .parameter name _ => ":" ++ name

/-- The text of a piece with the values in place. -/
def inPlace : Piece → String
  | .fixed text => text
  | .parameter _ value => toString value

/-- The parameter of a piece. -/
def parameter? : Piece → Option (String × Int)
  | .fixed _ => none
  | .parameter name value => some (name, value)

end Piece

/-- The three texts of a predicate. -/
structure Rendered where
  clause : String
  parameters : List (String × Int)
  literal : String
deriving DecidableEq, Repr, Inhabited

/-- Inserts a parameter among others that are sorted by name. -/
def insertParameter (parameter : String × Int) : List (String × Int) → List (String × Int)
  | [] => [parameter]
  | first :: rest =>
    if parameter.1 < first.1 then parameter :: first :: rest
    else first :: insertParameter parameter rest

/-- Sorts parameters by name. -/
def sortParameters (parameters : List (String × Int)) : List (String × Int) :=
  parameters.foldl (fun sorted parameter => insertParameter parameter sorted) []

/-- Renders a predicate on the columns of a table name. -/
def Predicate.render (predicate : Predicate) (table : String) : Rendered :=
  let pieces := predicate.pieces table
  { clause := String.join (pieces.map Piece.named)
    parameters := sortParameters (pieces.filterMap Piece.parameter?)
    literal := String.join (pieces.map Piece.inPlace) }

/-- A rendering of which the values are written in place, which they can only be if all of them can
be written. -/
def Rendered.written (rendered : Rendered) : Except Fault Rendered :=
  if rendered.parameters.all (Value.isWritable ∘ .int ∘ Prod.snd) then .ok rendered
  else .error .tooLong

end TraceFilter
