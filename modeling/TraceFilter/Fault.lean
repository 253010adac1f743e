/-
Module: TraceFilter.Fault
Purpose: Every cause for which an operation of the library fails, with the wording of each.
Main exports: Violation, Fault, Fault.message?
-/
import TraceFilter.FieldReport
import TraceFilter.Signature
import TraceFilter.Value.Order

namespace TraceFilter

/-- What is reported of an argument that breaks a rule: what is said about it, the field that it is
meant for, and the argument itself. -/
structure Violation where
  message : String
  field : String
  value : Value
deriving Repr, Inhabited

/-- Why an operation fails. -/
inductive Fault where
  /-- A request breaks a rule. -/
  | invalidArgument (violation : Violation)
  /-- The fields of a window or of the settings are faulty. -/
  | invalidFields (report : FieldReport)
  /-- The arguments of a call do not fit. -/
  | badCall (fault : CallFault)
  /-- Two values are in no order. -/
  | incomparable (pair : Incomparable)
  /-- A list or a mapping is used as a key or as a member of a set. -/
  | unhashable (kind : Kind)
  /-- A value that has no items is asked for them. -/
  | notIterable (kind : Kind)
  /-- An item that should be an entry of a mapping has no items of its own. -/
  | entryNotSequence (index : Nat)
  /-- An item that should be an entry of a mapping does not have two items. -/
  | entryLength (index length : Nat)
  /-- A value that is no number is asked for an integer. -/
  | notNumber (kind : Kind)
  /-- An infinity is asked for an integer. -/
  | infiniteInteger
  /-- What is not a number is asked for an integer. -/
  | undefinedInteger
  /-- Something lacks a member. -/
  | noMember (owner member : String)
  /-- Something with declared fields lacks a member. -/
  | noField (owner member : String)
  /-- A member that is no operation is called. -/
  | notOperation (typeName : String)
  /-- The class of something is replaced by a value, which is none. -/
  | notClass (kind : Kind)
  /-- The class of something is deleted. -/
  | keptClass
  /-- All members of something are replaced at once by a value that is no mapping. -/
  | notMembers (kind : Kind)
  /-- Two members are subtracted that are no numbers. -/
  | noDifference (left right : String)
  /-- An integer is beyond the finite doubles. -/
  | beyondDoubles
  /-- A value is refused as the default limit. -/
  | refusedLimit (refusal : LimitRefusal)
  /-- A field of a request is assigned to. -/
  | frozenAssignment (field : String)
  /-- A field of a request is deleted. -/
  | frozenDeletion (field : String)
  /-- Something is put into what takes no items. -/
  | noItemAssignment (typeName : String)
  /-- A key of a list is no integer. -/
  | badIndex (kind : Kind)
  /-- A key of a list is beyond its ends. -/
  | indexOutOfRange
  /-- A key of a list does not fit into a word. -/
  | indexTooWide
  /-- A stored row lacks a required cell. -/
  | notNull (column : String)
  /-- A stored row repeats cells that have to be unique. -/
  | notUnique (columns : List String)
  /-- An integer does not fit into a cell. -/
  | tooWide
  /-- An integer has too many digits to be written. -/
  | tooLong
  /-- A text is no number with a fraction. -/
  | notDecimal (text : String)
  /-- A table or a column is not known. -/
  | unknownKey (name : String)
  /-- A register was never filled. -/
  | noSuchRegister (name : String)
deriving Repr, Inhabited

/-- The wording of a fault. Faulty fields have no wording of their own beside that of each field. -/
def Fault.message? : Fault → Option String
  | .invalidArgument violation => some violation.message
  | .invalidFields _ => none
  | .badCall fault => some fault.message
  | .incomparable ⟨relation, left, right⟩ =>
    some ("'" ++ relation.symbol ++ "' not supported between instances of '" ++ left.name
      ++ "' and '" ++ right.name ++ "'")
  | .unhashable kind => some ("unhashable type: '" ++ kind.name ++ "'")
  | .notIterable kind => some ("'" ++ kind.name ++ "' object is not iterable")
  | .entryNotSequence index =>
    some ("cannot convert dictionary update sequence element #" ++ toString index
      ++ " to a sequence")
  | .entryLength index length =>
    some ("dictionary update sequence element #" ++ toString index ++ " has length "
      ++ toString length ++ "; 2 is required")
  | .notNumber kind =>
    some ("int() argument must be a string, a bytes-like object or a real number, not '"
      ++ kind.name ++ "'")
  | .infiniteInteger => some "cannot convert float infinity to integer"
  | .undefinedInteger => some "cannot convert float NaN to integer"
  | .noMember owner member => some ("'" ++ owner ++ "' object has no attribute '" ++ member ++ "'")
  | .noField owner member =>
    some ("'" ++ owner ++ "' object has no attribute " ++ Text.quoted member)
  | .notOperation typeName => some ("'" ++ typeName ++ "' object is not callable")
  | .notClass kind => some ("__class__ must be set to a class, not '" ++ kind.name ++ "' object")
  | .keptClass => some "can't delete __class__ attribute"
  | .notMembers kind => some ("__dict__ must be set to a dictionary, not a '" ++ kind.name ++ "'")
  | .noDifference left right =>
    some ("unsupported operand type(s) for -: '" ++ left ++ "' and '" ++ right ++ "'")
  | .beyondDoubles => some "int too large to convert to float"
  | .refusedLimit refusal => some refusal.message
  | .frozenAssignment field => some ("cannot assign to field " ++ Text.quoted field)
  | .frozenDeletion field => some ("cannot delete field " ++ Text.quoted field)
  | .noItemAssignment typeName =>
    some ("'" ++ typeName ++ "' object does not support item assignment")
  | .badIndex kind => some ("list indices must be integers or slices, not " ++ kind.name)
  | .indexOutOfRange => some "list assignment index out of range"
  | .indexTooWide => some "cannot fit 'int' into an index-sized integer"
  | .notNull column => some ("NOT NULL constraint failed: " ++ column)
  | .notUnique columns => some ("UNIQUE constraint failed: " ++ ", ".intercalate columns)
  | .tooWide => some "Python int too large to convert to SQLite INTEGER"
  | .tooLong => some ("Exceeds the limit (4300 digits) for integer string conversion; "
      ++ "use sys.set_int_max_str_digits() to increase the limit")
  | .notDecimal text => some ("could not convert string to float: " ++ Text.quoted text)
  | .unknownKey name => some (Text.quoted name)
  | .noSuchRegister name => some name

end TraceFilter
