/-
Module: TraceFilter.Spans.Condition
Purpose: Conditions on rows with their meaning in three truth values, and the rows of a store that
  a conjunction of them selects.
Main exports: Truth, Test, Condition, Predicate, Predicate.holds, SpanStore.select
-/
import TraceFilter.Spans.Store

namespace TraceFilter

/-- The truth values of conditions on cells that may be absent. -/
inductive Truth where
  | yes
  | no
  | unknown
deriving DecidableEq, Repr, Inhabited

namespace Truth

/-- A known truth value. -/
def ofBool (truth : Bool) : Truth :=
  if truth then yes else no

/-- Conjunction: false if one side is false, otherwise unknown if one side is unknown. -/
def and : Truth → Truth → Truth
  | .no, _ => .no
  | _, .no => .no
  | .yes, .yes => .yes
  | _, _ => .unknown

end Truth

/-- A test of one number. -/
inductive Test where
  | between (low high : Int)
  | atLeast (bound : Int)
  | atMost (bound : Int)
deriving DecidableEq, Repr, Inhabited

/-- Whether a number passes a test. -/
def Test.passes : Test → Int → Bool
  | .between low high, number => low ≤ number && number ≤ high
  | .atLeast bound, number => bound ≤ number
  | .atMost bound, number => number ≤ bound

/-- A test of the cells of a column. -/
structure Condition where
  column : SpanColumn
  test : Test
deriving DecidableEq, Repr, Inhabited

/-- The truth of a condition for a row; the test of an absent cell is unknown. -/
def Condition.truth (condition : Condition) (row : SpanRow) : Truth :=
  match row.number? condition.column with
  | none => .unknown
  | some number => .ofBool (condition.test.passes number)

/-- Conditions that have to hold together. -/
abbrev Predicate := List Condition

namespace Predicate

/-- The truth of a predicate for a row. -/
def truth (predicate : Predicate) (row : SpanRow) : Truth :=
  predicate.foldr (fun condition rest => (condition.truth row).and rest) .yes

/-- Whether a predicate selects a row: it has to be true, not merely unknown. -/
def holds (predicate : Predicate) (row : SpanRow) : Bool :=
  predicate.truth row == .yes

end Predicate

/-- The values that a condition compares with, in the order of its text. -/
def Condition.operands (condition : Condition) : List Int :=
  match condition.test with
  | .between low high => [low, high]
  | .atLeast bound => [bound]
  | .atMost bound => [bound]

/-- Whether one row stands before another by trace and span. -/
def SpanRow.precedes (row other : SpanRow) : Bool :=
  let key (row : SpanRow) := (row.traceId.getD 0, row.id.getD 0)
  (key row).1 < (key other).1 || ((key row).1 == (key other).1 && (key row).2 ≤ (key other).2)

/-- The stored rows that a predicate selects, in order of insertion. -/
def SpanStore.matching (store : SpanStore) (predicate : Predicate) : List SpanRow :=
  store.rows.filter predicate.holds

/-- The stored rows that a predicate selects, sorted by trace and span. The values compared with
have to fit into cells. -/
def SpanStore.select (store : SpanStore) (predicate : Predicate) : Except Fault (List SpanRow) :=
  if predicate.all (·.operands.all fitsCell) then
    .ok ((store.matching predicate).mergeSort SpanRow.precedes)
  else .error .tooWide

end TraceFilter
