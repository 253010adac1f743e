/-
Module: TraceFilter.Value.Basic
Purpose: The values that callers hand in for a filter's fields, whatever type they have.
Main exports: Value, Kind, Value.kind, Value.truthy, Value.integer?, Value.quantity?, Value.every
-/
import TraceFilter.Binary64.Basic

namespace TraceFilter

/-- An argument value. The fields of a filter are declared as texts and integers, but any value
can be passed, and some are stored as they came. A double is one of possibly many with the same
number, which its identity tells apart. A mapping keeps its entries in order of first insertion. -/
inductive Value where
  | null
  | bool (truth : Bool)
  | int (number : Int)
  | float (number : Binary64) (identity : Nat)
  | text (characters : String)
  | list (items : List Value)
  | mapping (entries : List (Value × Value))
deriving Repr, Inhabited

/-- The kinds of values. -/
inductive Kind where
  | null
  | bool
  | int
  | float
  | text
  | list
  | mapping
deriving DecidableEq, Repr, Inhabited

/-- The name of a kind in messages. -/
def Kind.name : Kind → String
  | .null => "NoneType"
  | .bool => "bool"
  | .int => "int"
  | .float => "float"
  | .text => "str"
  | .list => "list"
  | .mapping => "dict"

namespace Value

/-- The kind of a value. -/
def kind : Value → Kind
  | .null => .null
  | .bool _ => .bool
  | .int _ => .int
  | .float _ _ => .float
  | .text _ => .text
  | .list _ => .list
  | .mapping _ => .mapping

/-- Whether a value was left out. -/
def isNull : Value → Bool
  | .null => true
  | _ => false

/-- Whether a value counts as given: everything but the absent value, false, zero, and the empty
text, list and mapping. What is not a number counts as given. -/
def truthy : Value → Bool
  | .null => false
  | .bool truth => truth
  | .int number => number != 0
  | .float number _ => number.isSpecial || number.significand != 0
  | .text characters => !characters.isEmpty
  | .list items => !items.isEmpty
  | .mapping entries => !entries.isEmpty

/-- The integer that a value is. A truth value is no integer. -/
def integer? : Value → Option Int
  | .int number => some number
  | _ => none

/-- The text that a value is. -/
def text? : Value → Option String
  | .text characters => some characters
  | _ => none

/-- The place of a numeric value on the extended line. The truth values count as zero and one. -/
def quantity? : Value → Option Quantity
  | .bool truth => some (.ofInt truth.toInt)
  | .int number => some (.ofInt number)
  | .float number _ => some number.quantity
  | _ => none

/-- Whether a value can be a key, or a member of a set. -/
def isHashable : Value → Bool
  | .list _ => false
  | .mapping _ => false
  | _ => true

/-! ### What a value is made of -/

mutual

/-- Whether a condition holds of everything inside a value, at any depth, that is neither a list nor
a mapping. -/
def every (holds : Value → Bool) : Value → Bool
  | .list items => everyOf holds items
  | .mapping entries => everyAmong holds entries
  | plain => holds plain
termination_by structural value => value

/-- Whether a condition holds of everything inside some values. -/
def everyOf (holds : Value → Bool) : List Value → Bool
  | [] => true
  | item :: rest => item.every holds && everyOf holds rest
termination_by structural items => items

/-- Whether a condition holds of everything inside the keys and the values of some entries. -/
def everyAmong (holds : Value → Bool) : List (Value × Value) → Bool
  | [] => true
  | (key, value) :: rest => key.every holds && value.every holds && everyAmong holds rest
termination_by structural entries => entries

end

theorem everyOf_iff {holds : Value → Bool} {items : List Value} :
    everyOf holds items = true ↔ ∀ item ∈ items, item.every holds = true := by
  induction items with
  | nil => simp [everyOf]
  | cons item rest ih => rw [everyOf, Bool.and_eq_true, ih, List.forall_mem_cons]

theorem everyAmong_iff {holds : Value → Bool} {entries : List (Value × Value)} :
    everyAmong holds entries = true ↔
      ∀ entry ∈ entries, entry.1.every holds = true ∧ entry.2.every holds = true := by
  induction entries with
  | nil => simp [everyAmong]
  | cons entry rest ih =>
    rw [everyAmong, Bool.and_eq_true, Bool.and_eq_true, ih, List.forall_mem_cons]

end Value

/-- An optional integer as a value. -/
def Value.ofInt? : Option Int → Value
  | none => .null
  | some number => .int number

/-- An optional text as a value. -/
def Value.ofText? : Option String → Value
  | none => .null
  | some characters => .text characters

end TraceFilter
