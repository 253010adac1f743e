/-
Module: TraceFilter.Value.Equality
Purpose: When two values are equal: numbers by what they amount to, what is not a number by being
  one and the same, lists item by item, mappings regardless of the order of their entries.
Main exports: Value.isSameDouble, Value.same, Value.sameItems, Entries, Entries.same, Entries.put
-/
import TraceFilter.Value.Basic

namespace TraceFilter

namespace Value

/-- Whether two values are one and the same double. -/
def isSameDouble : Value → Value → Bool
  | .float number identity, .float other otherIdentity =>
    number == other && identity == otherIdentity
  | _, _ => false

mutual

/-- Equality of values as collections judge it: one and the same value is always equal to itself.
Numbers are equal when they amount to the same, so a truth value can equal an integer and an integer
a double; what is not a number equals nothing else. Two mappings are equal when each entry of one is
found in the other. -/
def same : Value → Value → Bool
  | .null, .null => true
  | .text left, .text right => left == right
  | .list left, .list right => sameItems left right
  | .mapping left, .mapping right => eachFound left right && right.all (foundIn left)
  | left, right =>
    left.isSameDouble right ||
      match left.quantity?, right.quantity? with
      | some first, some second => first.compare? second == some .eq
      | _, _ => false
termination_by structural left => left

/-- Equality of lists, item by item. -/
def sameItems : List Value → List Value → Bool
  | [], [] => true
  | left :: restLeft, right :: restRight => left.same right && sameItems restLeft restRight
  | _, _ => false
termination_by structural left => left

/-- Whether each entry of the first mapping is found in the second. -/
def eachFound : List (Value × Value) → List (Value × Value) → Bool
  | [], _ => true
  | (key, value) :: rest, entries =>
    entries.any (fun entry => key.same entry.1 && value.same entry.2) && eachFound rest entries
termination_by structural left => left

/-- Whether an entry is found in a mapping. -/
def foundIn : List (Value × Value) → Value × Value → Bool
  | [], _ => false
  | (key, value) :: rest, entry => key.same entry.1 && value.same entry.2 || foundIn rest entry
termination_by structural left => left

end

end Value

/-- Keys with values in order of first insertion. -/
abbrev Entries := List (Value × Value)

/-- Puts a value under a key in an ordered mapping: the entry with an equal key keeps its place
and the spelling of its key, a new key goes to the end. -/
def putWith {κ β : Type} (same : κ → κ → Bool) : List (κ × β) → κ → β → List (κ × β)
  | [], key, value => [(key, value)]
  | (present, old) :: rest, key, value =>
    if same present key then (present, value) :: rest
    else (present, old) :: putWith same rest key value

/-- Putting a value under a key that no entry has adds an entry at the end. -/
theorem putWith_of_absent {κ β : Type} (same : κ → κ → Bool) (pairs : List (κ × β)) (key : κ)
    (value : β) (absent : ∀ pair ∈ pairs, same pair.1 key = false) :
    putWith same pairs key value = pairs ++ [(key, value)] := by
  induction pairs with
  | nil => rfl
  | cons first rest ih =>
    have other : same first.1 key = false := absent first List.mem_cons_self
    have later : ∀ pair ∈ rest, same pair.1 key = false :=
      fun pair member => absent pair (List.mem_cons_of_mem first member)
    simp [putWith, other, ih later]

/-- Putting a value under a key that an entry has keeps all keys in place. -/
theorem keys_putWith_of_present {κ β : Type} (same : κ → κ → Bool) (pairs : List (κ × β)) (key : κ)
    (value : β) (present : ∃ pair ∈ pairs, same pair.1 key = true) :
    (putWith same pairs key value).map Prod.fst = pairs.map Prod.fst := by
  induction pairs with
  | nil => simp at present
  | cons first rest ih =>
    unfold putWith
    by_cases here : same first.1 key = true
    · simp [here]
    · have later : ∃ pair ∈ rest, same pair.1 key = true := by
        obtain ⟨pair, member, equal⟩ := present
        rcases List.mem_cons.1 member with rfl | member
        · exact absurd equal here
        · exact ⟨pair, member, equal⟩
      simp [here, ih later]

/-- Puts a value under a key. -/
def Entries.put (entries : Entries) (key value : Value) : Entries :=
  putWith Value.same entries key value

/-- Equality of mappings, regardless of order. -/
def Entries.same (left right : Entries) : Bool :=
  Value.same (.mapping left) (.mapping right)

/-- Named arguments with each name once: a repeated name keeps its first place and takes its last
value. -/
def distinctNames {β : Type} (pairs : List (String × β)) : List (String × β) :=
  pairs.foldl (fun named pair => putWith (· == ·) named pair.1 pair.2) []

end TraceFilter
