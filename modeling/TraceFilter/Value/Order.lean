/-
Module: TraceFilter.Value.Order
Purpose: Order comparisons between values, and the fault when two values are in no order.
Main exports: Relation, Incomparable, Value.compare
-/
import TraceFilter.Value.Equality

namespace TraceFilter

/-- The order comparisons that are asked of values. -/
inductive Relation where
  | below
  | atMost
  | above
deriving DecidableEq, Repr, Inhabited

/-- The sign of a comparison in messages. -/
def Relation.symbol : Relation → String
  | .below => "<"
  | .atMost => "<="
  | .above => ">"

/-- Whether a comparison holds of two things that stand in a given order. -/
def Relation.holds : Relation → Ordering → Bool
  | .below, order => order == .lt
  | .atMost, order => order != .gt
  | .above, order => order == .gt

/-- Two kinds that a comparison is not defined between, in the order in which they were
compared. -/
structure Incomparable where
  relation : Relation
  left : Kind
  right : Kind
deriving DecidableEq, Repr, Inhabited

/-- The comparison of two values that are neither both texts nor both lists: numbers are ordered
among themselves, and what is not a number stands in no order, so every comparison with it is
false. -/
def Relation.onQuantities (relation : Relation) (left right : Value) : Except Incomparable Bool :=
  match left.quantity?, right.quantity? with
  | some first, some second => .ok ((first.compare? second).any relation.holds)
  | _, _ => .error ⟨relation, left.kind, right.kind⟩

namespace Value

mutual

/-- Compares two values: numbers by what they amount to, texts by code points, lists by their first
unequal items. No other kinds are in any order. -/
def compare (relation : Relation) : Value → Value → Except Incomparable Bool
  | .text left, .text right => .ok (relation.holds (Ord.compare left right))
  | .list left, .list right => compareItems relation left right
  | left, right => relation.onQuantities left right
termination_by structural left => left

/-- Compares two lists: the first unequal items decide, then the lengths. -/
def compareItems (relation : Relation) : List Value → List Value → Except Incomparable Bool
  | [], [] => .ok (relation.holds .eq)
  | [], _ :: _ => .ok (relation.holds .lt)
  | _ :: _, [] => .ok (relation.holds .gt)
  | left :: restLeft, right :: restRight =>
    if left.same right then compareItems relation restLeft restRight
    else left.compare relation right
termination_by structural left => left

end

end Value

end TraceFilter
