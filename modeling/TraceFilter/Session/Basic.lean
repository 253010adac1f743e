/-
Module: TraceFilter.Session.Basic
Purpose: A session's named registers and how two of them compare.
Main exports: Session, Session.fetch, Session.store, Comparison, comparePlaces,
  Session.countDistinct
-/
import TraceFilter.Session.Register

namespace TraceFilter

/-- A session: registers by name, the latest first, and the surroundings of its builds. -/
structure Session where
  registers : List (String × Register)
  surroundings : Surroundings
deriving Repr, Inhabited

namespace Session

/-- The session with no register filled. -/
def start (surroundings : Surroundings) : Session := ⟨[], surroundings⟩

/-- The register of a name. -/
def fetch (session : Session) (name : String) : Except Fault Register :=
  match session.registers.lookup name with
  | some register => .ok register
  | none => .error (.noSuchRegister name)

/-- What a register holds, for an operation that takes no arguments. -/
def fetchFor (session : Session) (name operation : String) : Except Fault Stored := do
  let register ← session.fetch name
  register.prepare operation (.ok register.held)

/-- Fills a register, in place of what it was. -/
def store (session : Session) (name : String) (register : Register) : Session :=
  { session with registers := (name, register) :: session.registers.filter (·.1 != name) }

end Session

/-- Two registers compared: whether they are equal, and whether their hashes then agree. -/
structure Comparison where
  equal : Bool
  hashesAgree : Option Bool
deriving DecidableEq, Repr, Inhabited

/-- Whether two registers hold equal things; a register always equals itself. -/
def placesEqual (left right : String × Stored) : Except Fault Bool :=
  if left.1 = right.1 then .ok true else left.2.equals right.2

/-- Compares two registers. Hashes are only taken of equal things. -/
def comparePlaces (left right : String × Stored) : Except Fault Comparison := do
  if ← placesEqual left right then
    let first ← left.2.hashAt left.1
    let second ← right.2.hashAt right.1
    return ⟨true, some (first == second)⟩
  else return ⟨false, none⟩

/-- Adds a register to others that hold distinct things, unless it equals one of them. -/
def addDistinct (distinct : List (String × Stored)) (place : String × Stored) :
    Except Fault (List (String × Stored)) := do
  let known ← distinct.anyM fun other => placesEqual other place
  return if known then distinct else distinct ++ [place]

namespace Session

/-- What several registers hold. Each is fetched and has to be hashable before the next one. -/
def fetchHashable (session : Session) : List String → Except Fault (List (String × Stored))
  | [] => .ok []
  | name :: rest => do
    let register ← session.fetch name
    match register.held.hashFault? with
    | some fault => .error fault
    | none => return (name, register.held) :: (← session.fetchHashable rest)

/-- How many distinct things some registers hold. -/
def countDistinct (session : Session) (names : List String) : Except Fault Nat := do
  let places ← session.fetchHashable names
  return (← places.foldlM addDistinct []).length

end Session

end TraceFilter
