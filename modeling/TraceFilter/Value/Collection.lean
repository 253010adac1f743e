/-
Module: TraceFilter.Value.Collection
Purpose: Values as collections: what they hold, and what becomes of them when something is put in.
Main exports: Entries.insert, Value.items, Value.entries, Value.append, Value.putItem
-/
import TraceFilter.Value.Number

namespace TraceFilter

/-- Puts a value under a key, unless the key can be none. -/
def Entries.insert (entries : Entries) (key value : Value) : Except Fault Entries :=
  if key.isHashable then .ok (entries.put key value) else .error (.unhashable key.kind)

namespace Value

/-! ### What a value holds -/

/-- The items of a value: the characters of a text, the items of a list, the keys of a mapping. -/
def items : Value → Except Fault (List Value)
  | .text characters => .ok (characters.toList.map fun c => .text c.toString)
  | .list members => .ok members
  | .mapping entries => .ok (entries.map Prod.fst)
  | value => .error (.notIterable value.kind)

/-- An item of a sequence as an entry of a mapping: it needs two items of its own. -/
def entry (index : Nat) (item : Value) : Except Fault (Value × Value) :=
  match item.items with
  | .error _ => .error (.entryNotSequence index)
  | .ok [key, value] => .ok (key, value)
  | .ok parts => .error (.entryLength index parts.length)

/-- Puts the items of a sequence into a mapping, one after the other. -/
def putItems : Nat → List Value → Entries → Except Fault Entries
  | _, [], entries => .ok entries
  | index, item :: rest, entries => do
    let (key, value) ← item.entry index
    putItems (index + 1) rest (← entries.insert key value)

/-- The entries of a value: those of a mapping, or those that the items of a sequence make. -/
def entries : Value → Except Fault Entries
  | .mapping entries => .ok entries
  | value => do putItems 0 (← value.items) []

/-! ### Putting something in -/

/-- A value with one more item at the end; only a list takes one. -/
def append (value item : Value) : Except Fault Value :=
  match value with
  | .list members => .ok (.list (members ++ [item]))
  | other => .error (.noMember other.kind.name "append")

/-- Whether a key is an integer that does not fit into a word. -/
def isWideIndex (key : Value) : Bool :=
  match key.number? with
  | some (.whole index) => index < -wordLimit || wordLimit ≤ index
  | _ => false

/-- The place in a list of some length that a key stands for; a negative one counts from the end. -/
def placeIn (length : Nat) (key : Value) : Except Fault Nat :=
  match key.number? with
  | some (.whole index) =>
    let place := if index < 0 then index + length else index
    if key.isWideIndex then .error .indexTooWide
    else if 0 ≤ place ∧ place < length then .ok place.toNat
    else .error .indexOutOfRange
  | _ => .error (.badIndex key.kind)

/-- A value with something put under a key: an entry of a mapping, or the item of a list at a
place. A text takes nothing, but judges the width of an integer before that. -/
def putItem (value key item : Value) : Except Fault Value :=
  match value with
  | .mapping entries => (Entries.insert entries key item).map .mapping
  | .list members => do return .list (members.set (← key.placeIn members.length) item)
  | .text _ =>
    .error (if key.isWideIndex then .indexTooWide else .noItemAssignment Kind.text.name)
  | other => .error (.noItemAssignment other.kind.name)

end Value

end TraceFilter
