/-
Module: TraceFilter.Signature
Purpose: Binding the arguments of a call to the parameters of what is called, and the faults of a
  call that does not fit.
Main exports: Parameter, Signature, CallFault, CallFault.message, Signature.bind
-/
import TraceFilter.Text.Quoted
import TraceFilter.Value.Equality

namespace TraceFilter

/-- A parameter with the value that it takes when no argument is given, if it has one. -/
structure Parameter where
  name : String
  fallback : Option Value
deriving Repr, Inhabited

/-- A parameter that has to be given. -/
def Parameter.required (name : String) : Parameter := ⟨name, none⟩

/-- What can be called: the parameters that arguments reach by position or by name, those that
they reach by name only, and whether further names are taken too. -/
structure Signature where
  name : String
  positional : List Parameter
  namedOnly : List Parameter
  takesOthers : Bool
deriving Repr, Inhabited

/-- Why the arguments of a call do not fit. -/
inductive CallFault where
  | repeated (callee parameter : String)
  | unexpected (callee parameter : String)
  | tooMany (callee : String) (least most given : Nat)
  | missing (callee : String) (namedOnly : Bool) (parameters : List String)
deriving DecidableEq, Repr, Inhabited

/-- Names in a row: two are joined by a word, more by commas and the word. -/
def joinNames : List String → String
  | [] => ""
  | [only] => only
  | [first, second] => first ++ " and " ++ second
  | names => ", ".intercalate names.dropLast ++ ", and " ++ names.getLastD ""

/-- The ending of a word that is counted. -/
def pluralEnding (count : Nat) : String :=
  if count = 1 then "" else "s"

/-- What is said about a call that does not fit. -/
def CallFault.message : CallFault → String
  | .repeated callee parameter =>
    callee ++ "() got multiple values for argument '" ++ parameter ++ "'"
  | .unexpected callee parameter =>
    callee ++ "() got an unexpected keyword argument '" ++ parameter ++ "'"
  | .tooMany callee least most given =>
    let allowed := if least = most then toString most else
      "from " ++ toString least ++ " to " ++ toString most
    let ending := if least = most then pluralEnding most else "s"
    callee ++ "() takes " ++ allowed ++ " positional argument" ++ ending ++ " but "
      ++ toString given ++ (if given = 1 then " was given" else " were given")
  | .missing callee namedOnly parameters =>
    callee ++ "() missing " ++ toString parameters.length ++ " required "
      ++ (if namedOnly then "keyword-only" else "positional") ++ " argument"
      ++ pluralEnding parameters.length ++ ": " ++ joinNames (parameters.map Text.quoted)

namespace Signature

/-- All parameters in order. -/
def parameters (signature : Signature) : List Parameter :=
  signature.positional ++ signature.namedOnly

/-- The parameters that the positional arguments of a call reach, with those arguments. -/
def placed (signature : Signature) (arguments : List Value) : List (String × Value) :=
  (signature.positional.map Parameter.name).zip arguments

/-- The fault of the first named argument that does not fit, if there is one. -/
def namedFault? (signature : Signature) (arguments : List Value) (named : List (String × Value)) :
    Option CallFault :=
  named.findSome? fun pair =>
    if (signature.placed arguments).any (·.1 == pair.1) then some (.repeated signature.name pair.1)
    else if signature.takesOthers || signature.parameters.any (·.name == pair.1) then none
    else some (.unexpected signature.name pair.1)

/-- The fault of more positional arguments than there are parameters for. -/
def countFault? (signature : Signature) (arguments : List Value) : Option CallFault :=
  let most := signature.positional.length
  let least := (signature.positional.filter (·.fallback.isNone)).length
  if most < arguments.length then some (.tooMany signature.name least most arguments.length)
  else none

/-- The fault of required parameters among some that no argument reaches. -/
def missingFault? (signature : Signature) (namedOnly : Bool) (among : List Parameter)
    (given : List (String × Value)) : Option CallFault :=
  let missing := among.filter fun parameter =>
    parameter.fallback.isNone && (given.lookup parameter.name).isNone
  if missing.isEmpty then none
  else some (.missing signature.name namedOnly (missing.map Parameter.name))

/-- Binds arguments to parameters. Named arguments are judged first and in order, then the number
of positional ones, then the missing parameters, those with a position first. The answer gives
each parameter its argument or its fallback. -/
def bind (signature : Signature) (arguments : List Value) (named : List (String × Value)) :
    Except CallFault (String → Value) :=
  let given := signature.placed arguments ++ named
  let fault? := signature.namedFault? arguments named
    <|> signature.countFault? arguments
    <|> signature.missingFault? false signature.positional given
    <|> signature.missingFault? true signature.namedOnly given
  match fault? with
  | some fault => .error fault
  | none => .ok fun name =>
    match given.lookup name with
    | some value => value
    | none =>
      ((signature.parameters.find? (·.name == name)).bind Parameter.fallback).getD .null

end Signature

end TraceFilter
