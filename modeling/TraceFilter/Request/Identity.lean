/-
Module: TraceFilter.Request.Identity
Purpose: Equality of requests, field by field with the tags as a set of pairs, and a hash that
  agrees with it.
Main exports: samePair, addPair, pairSet, samePairSets, hashPairs, Request.sameFields,
  Request.equals, Request.hashWith, Value.hashCode
-/
import TraceFilter.Request.Basic

namespace TraceFilter

/-- The fault of the first value among some that can be no member of a set. -/
def firstUnhashable? (values : List Value) : Option Fault :=
  (values.find? (!·.isHashable)).map fun value => .unhashable value.kind

/-- A hash of values under which equal values agree. Numbers are hashed by what they amount to. -/
def Value.hashCode (value : Value) : UInt64 :=
  match value with
  | .text characters => hash characters
  | _ =>
    match value.quantity? with
    | some (.exactly units) => hash units
    | some .belowAll => 3
    | some .aboveAll => 5
    | _ => 7

/-! ### Sets of pairs -/

/-- Whether two pairs are equal, part by part. -/
def samePair (left right : Value × Value) : Bool :=
  left.1.same right.1 && left.2.same right.2

/-- Adds a pair to the members of a set, unless an equal one is among them. -/
def addPair (members : List (Value × Value)) (pair : Value × Value) : List (Value × Value) :=
  if members.any (samePair pair) then members else members ++ [pair]

/-- The set that some pairs make. -/
def pairSet (pairs : List (Value × Value)) : List (Value × Value) :=
  pairs.foldl addPair []

/-- Whether two sets are equal: they have the same size, and each member of the first is found in
the second. -/
def samePairSets (left right : List (Value × Value)) : Bool :=
  left.length == right.length && left.all fun pair => right.any (samePair pair)

/-- The hash of a set of pairs under a hash of values. The sum does not depend on the order in which
the members are taken. -/
def hashPairs (code : Value → UInt64) (members : List (Value × Value)) : UInt64 :=
  members.foldl (fun total pair => total + mixHash (code pair.1) (code pair.2)) 0

namespace Request

/-- The tags of a request as a set of pairs. -/
def tagSet (request : Request) : List (Value × Value) :=
  pairSet request.tags

/-- The fault of comparing a request: its tags form a set, so their values have to be hashable. -/
def comparisonFault? (request : Request) : Option Fault :=
  firstUnhashable? (request.tags.map Prod.snd)

/-- The fault of hashing a request: what is compared as it is has to be hashable too. -/
def hashFault? (request : Request) : Option Fault :=
  request.comparisonFault?
    <|> firstUnhashable? (request.annotations ++ [request.minDuration, request.maxDuration])

/-- Whether two requests agree in every field, and in the tags as sets. -/
def sameFields (left right : Request) : Bool :=
  left.serviceName == right.serviceName
    && left.spanName == right.spanName
    && Value.sameItems left.annotations right.annotations
    && samePairSets left.tagSet right.tagSet
    && left.minDuration.same right.minDuration
    && left.maxDuration.same right.maxDuration
    && left.endTs == right.endTs
    && left.lookback == right.lookback
    && left.limit == right.limit

/-- Compares two distinct requests; the left one is judged first. -/
def equals (left right : Request) : Except Fault Bool :=
  match left.comparisonFault? <|> right.comparisonFault? with
  | some fault => .error fault
  | none => .ok (left.sameFields right)

/-- Mixes a hash into another. -/
def mixCodes (codes : List UInt64) : UInt64 :=
  codes.foldl mixHash 11

/-- The hash of a request under a hash of values. -/
def hashWith (code : Value → UInt64) (request : Request) : Except Fault UInt64 :=
  match request.hashFault? with
  | some fault => .error fault
  | none => .ok (mixCodes ([hash request.serviceName, hash request.spanName]
      ++ request.annotations.map code
      ++ [hashPairs code request.tagSet, code request.minDuration, code request.maxDuration,
        hash request.endTs, hash request.lookback, hash request.limit]))

end Request

end TraceFilter
