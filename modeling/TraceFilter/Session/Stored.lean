/-
Module: TraceFilter.Session.Stored
Purpose: What a session keeps: requests, drafts, windows and settings, with their texts, their
  equality and their hashes.
Main exports: Stored, View, Stored.view, Stored.lacks, Stored.equals, Stored.hashAt
-/
import TraceFilter.Draft.Opened
import TraceFilter.Request.Identity
import TraceFilter.Window.Predicate

namespace TraceFilter

/-- What a register can hold. A draft is opened when one of its members is assigned or deleted. -/
inductive Stored where
  | request (request : Request)
  | draft (draft : Draft)
  | opened (draft : OpenedDraft)
  | window (window : Window)
  | settings (settings : Settings)
deriving Repr, Inhabited

/-- What is shown of something that is held; all but a draft is shown with its text. -/
inductive View where
  | request (request : Request) (text : String)
  | draft (view : DraftView)
  | window (window : Window) (text : String)
  | settings (settings : Settings) (text : String)
deriving Repr, Inhabited

namespace Stored

/-- The name of the kind of what is held. -/
def title : Stored → String
  | .request _ => Request.title
  | .draft _ => Draft.title
  | .opened _ => Draft.title
  | .window _ => Window.title
  | .settings _ => Settings.title

/-- The text of what is held, with the name of its kind. -/
def display : Stored → Except Fault String
  | .request asked => asked.display
  | .draft _ => .ok Draft.title
  | .opened _ => .ok Draft.title
  | .window bounds => bounds.display
  | .settings defaults => defaults.display

/-- The fault of asking for a member that something does not have. -/
def lacks (held : Stored) (member : String) : Fault :=
  match held with
  | .request _ => .noMember held.title member
  | .draft _ => .noMember held.title member
  | .opened _ => .noMember held.title member
  | .window _ => .noField held.title member
  | .settings _ => .noField held.title member

/-- What is held as a request; something else is known by lacking a member. -/
def asRequest (member : String) : Stored → Except Fault Request
  | .request asked => .ok asked
  | other => .error (other.lacks member)

/-- What is held as a window. -/
def asWindow (member : String) : Stored → Except Fault Window
  | .window bounds => .ok bounds
  | other => .error (other.lacks member)

/-- What is shown of what is held, if it can be written. -/
def view : Stored → Except Fault View
  | .request asked => asked.plain.map (.request asked)
  | .draft sketch => .ok (.draft sketch.view)
  | .opened sketch => sketch.view.map .draft
  | .window bounds => bounds.plain.map (.window bounds)
  | .settings defaults => defaults.plain.map (.settings defaults)

/-- Compares what two distinct registers hold. Windows and settings are compared by their fields,
drafts are equal to themselves only. -/
def equals : Stored → Stored → Except Fault Bool
  | .request left, .request right => left.equals right
  | .window left, .window right => .ok (left == right)
  | .settings left, .settings right => .ok (left == right)
  | _, _ => .ok false

/-- The fault of hashing what is held; only some requests cannot be hashed. -/
def hashFault? : Stored → Option Fault
  | .request asked => asked.hashFault?
  | _ => none

/-- The hash of what is held; `place` stands for the identity of a draft. -/
def hashAt (place : String) : Stored → Except Fault UInt64
  | .request asked => asked.hashWith Value.hashCode
  | .draft _ => .ok (hash place)
  | .opened _ => .ok (hash place)
  | .window bounds => .ok (Request.mixCodes [hash bounds.startTs, hash bounds.endTs,
      hash bounds.minDuration, hash bounds.maxDuration])
  | .settings defaults => .ok (Request.mixCodes [hash defaults.endTsPolicy.name,
      hash defaults.defaultLimit])

end Stored

end TraceFilter
