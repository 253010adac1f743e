/-
Module: TraceFilter.Value.Display
Purpose: The text of a value, in a message and inside a list or a mapping. Only a value that can be
  written has one: no integer in it has too many digits.
Main exports: Value.isWritable, Value.display, Value.plain, plainFields, displayTuple, joinFields
-/
import TraceFilter.Binary64.Shortest
import TraceFilter.Fault
import TraceFilter.Numeral.Digits

namespace TraceFilter

namespace Value

/-! ### Values that can be written -/

/-- Whether a value can be written: no integer inside it, at any depth, has too many digits. -/
def isWritable (value : Value) : Bool :=
  value.every fun
    | .int number => Numeral.isWritable number
    | _ => true

@[simp] theorem isWritable_int (number : Int) :
    (Value.int number).isWritable = Numeral.isWritable number := rfl

@[simp] theorem isWritable_text (characters : String) :
    (Value.text characters).isWritable = true := rfl

theorem isWritable_list_iff {items : List Value} :
    (Value.list items).isWritable = true ↔ ∀ item ∈ items, item.isWritable = true :=
  everyOf_iff

theorem isWritable_mapping_iff {entries : Entries} :
    (Value.mapping entries).isWritable = true ↔
      ∀ entry ∈ entries, entry.1.isWritable = true ∧ entry.2.isWritable = true :=
  everyAmong_iff

/-! ### Their texts -/

mutual

/-- The spelling of a value where it has to be told apart from others: texts are quoted, lists stand
in square brackets and mappings in braces. -/
def spelled : Value → String
  | .null => "None"
  | .bool truth => if truth then "True" else "False"
  | .int number => toString number
  | .float number _ => number.text
  | .text characters => Text.quoted characters
  | .list items => "[" ++ spelledItems items ++ "]"
  | .mapping entries => "\x7b" ++ spelledEntries entries ++ "\x7d"
termination_by structural value => value

/-- The spellings of some values with commas between them. -/
def spelledItems : List Value → String
  | [] => ""
  | [item] => item.spelled
  | item :: next :: rest => item.spelled ++ ", " ++ spelledItems (next :: rest)
termination_by structural items => items

/-- The spellings of some entries with commas between them. -/
def spelledEntries : List (Value × Value) → String
  | [] => ""
  | [(key, value)] => key.spelled ++ ": " ++ value.spelled
  | (key, value) :: next :: rest =>
    key.spelled ++ ": " ++ value.spelled ++ ", " ++ spelledEntries (next :: rest)
termination_by structural entries => entries

end

/-- The spelling of a value in a message: a text stands as it is. -/
def bare : Value → String
  | .text characters => characters
  | value => value.spelled

/-- A spelling of a value, which is only carried out for a value that can be written. -/
def ifWritable (value : Value) (spelling : String) : Except Fault String :=
  if value.isWritable then .ok spelling else .error .tooLong

theorem ifWritable_of_writable {value : Value} (writable : value.isWritable = true)
    (spelling : String) : value.ifWritable spelling = .ok spelling :=
  if_pos writable

theorem ifWritable_of_long {value : Value} (long : value.isWritable = false)
    (spelling : String) : value.ifWritable spelling = .error .tooLong :=
  if_neg (Bool.eq_false_iff.1 long)

/-- The text of a value where it has to be told apart from others. -/
def display (value : Value) : Except Fault String :=
  value.ifWritable value.spelled

/-- The text of a value in a message. -/
def plain (value : Value) : Except Fault String :=
  value.ifWritable value.bare

end Value

/-- The text of a fixed sequence: parentheses, and a comma after a single item. -/
def displayTuple (items : List Value) : Except Fault String :=
  (Value.list items).ifWritable <| match items with
    | [item] => "(" ++ item.spelled ++ ",)"
    | _ => "(" ++ Value.spelledItems items ++ ")"

/-! ### Named values -/

/-- Named values as named texts. -/
def plainFields (fields : List (String × Value)) : Except Fault (List (String × String)) :=
  fields.mapM fun field => do return (field.1, ← field.2.plain)

/-- Whether all of some named values can be written. -/
def fieldsWritable (fields : List (String × Value)) : Bool :=
  fields.all (·.2.isWritable)

theorem fieldsWritable_iff {fields : List (String × Value)} :
    fieldsWritable fields = true ↔ ∀ field ∈ fields, field.2.isWritable = true :=
  List.all_eq_true

/-- Named values have named texts exactly when all of them can be written. -/
theorem plainFields_eq (fields : List (String × Value)) :
    plainFields fields =
      if fieldsWritable fields then .ok (fields.map fun field => (field.1, field.2.bare))
      else .error .tooLong := by
  unfold plainFields fieldsWritable
  induction fields with
  | nil => rfl
  | cons field rest ih =>
    rw [List.mapM_cons, ih, List.all_cons, Value.plain, Value.ifWritable]
    cases field.2.isWritable with
    | false => rfl
    | true => cases rest.all (·.2.isWritable) <;> rfl

/-- Named texts joined by equals signs, with a separator between them. -/
def joinFields (separator : String) (fields : List (String × String)) : String :=
  separator.intercalate (fields.map fun field => field.1 ++ "=" ++ field.2)

end TraceFilter
