/-
Module: TraceFilter.Session.Step
Purpose: The steps of a session and what each of them answers.
Main exports: Step, Reply, Outcome, Session.outcome, Session.step, Session.run
-/
import TraceFilter.Session.Basic

namespace TraceFilter

/-- One step of a session. Registers to fill are called `target`, registers to read `source`. A
value that could not be made comes as the fault of making it, which shows when the value is
needed. -/
inductive Step where
  | newDraft (target : String)
  | draftFrom (source target : String)
  | toDraft (source target : String)
  | call (source operation : String) (arguments : Except Fault (List Value))
  | build (source target : String)
  | newRequest (fields : Except Fault (List (String × Value))) (target : String)
  | newSettings (fields : Except Fault (List (String × Value))) (target : String)
  | newWindow (fields : Except Fault (List (String × Value))) (target : String)
  | loadSettings (target : String)
  | windowOf (source target : String)
  | contains (source : String) (value : Except Fault Value)
  | accepts (source : String) (value : Except Fault Value)
  | predicate (source : String) (alias? : Option String)
  | select (source : String) (rows : List SpanRow)
  | show (source : String)
  | display (source : String)
  | compare (left right : String)
  | compareValue (source : String) (value : Except Fault Value)
  | distinct (sources : List String)
  | assign (source member : String) (value : Except Fault Value)
  | delete (source member : String)
  | putTag (source : String) (key value : Except Fault Value)
  | setEnvironment (contents : List (String × Option String))
  | setClock (clock : Except Fault Binary64)
  | setThreshold (threshold : Level)
deriving Repr, Inhabited

/-- What a step answers. -/
inductive Reply where
  | done
  | view (view : View)
  /-- What an operation was called of, and whether the call gave it back. -/
  | called (view : View) (chained : Bool)
  | verdict (truth : Bool)
  | predicate (rendered : Rendered)
  | rows (keys : List (Option Int × Option Int))
  | text (text : String)
  | comparison (comparison : Comparison)
  | foreign
  | size (count : Nat)
deriving Repr, Inhabited

/-- What a step does: the register that it fills, if it fills one, and its answer. -/
structure Outcome where
  filled? : Option (String × Register)
  reply : Observed Reply

namespace Outcome

/-- A step that only answers. -/
def answering (reply : Except Fault Reply) : Outcome :=
  { filled? := none, reply := .ofExcept reply }

/-- A step that fills a register with something made, and shows it. What cannot be made or shown
fills nothing. -/
def making (target : String) (made : Observed Stored) : Outcome :=
  let shown : Observed (Stored × View) := do
    let held ← made
    return (held, ← .ofExcept held.view)
  { filled? := shown.result.toOption.map fun pair => (target, .holding pair.1)
    reply := do return .view (← shown).2 }

/-- A step that changes a register. -/
def changing (source : String) (after : Except Fault Register) : Outcome :=
  { filled? := after.toOption.map fun register => (source, register)
    reply := .ofExcept (after.map fun _ => .done) }

/-- A step that calls an operation and shows what it was called of. The change stays also when it
cannot be shown. -/
def calling (source : String) (after : Register) (outcome : Observed Bool) : Outcome :=
  { filled? := some (source, after)
    reply := do
      let chained ← outcome
      return .called (← .ofExcept after.held.view) chained }

end Outcome

namespace Session

/-- The answer of a step that fills no register. -/
def answer (session : Session) : Step → Except Fault Reply
  | .contains source value => do
    let register ← session.fetch source
    let value ← register.prepare "contains" value
    let window ← register.held.asWindow "contains"
    return .verdict (← (window.contains value).mapError .incomparable)
  | .accepts source value => do
    let register ← session.fetch source
    let value ← register.prepare "accepts_duration" value
    let window ← register.held.asWindow "accepts_duration"
    return .verdict (← (window.accepts value).mapError .incomparable)
  | .predicate source alias? => do
    let window ← (← session.fetchFor source "span_predicate").asWindow "span_predicate"
    return .predicate (← (window.render alias?).written)
  | .select source rows => do
    let _ ← session.fetch source
    let store ← SpanStore.insertAll rows .empty
    let window ← (← session.fetchFor source "span_predicate").asWindow "span_predicate"
    let selected ← store.select window.predicate
    return .rows (selected.map fun row => (row.traceId, row.id))
  | .show source => do
    return .view (← (← session.fetch source).held.view)
  | .display source => do
    return .text (← (← session.fetch source).held.display)
  | .compare left right => do
    let first ← session.fetch left
    let second ← session.fetch right
    return .comparison (← comparePlaces (left, first.held) (right, second.held))
  | .compareValue source value => do
    let _ ← session.fetch source
    let _ ← value
    return .foreign
  | .distinct sources => do
    return .size (← session.countDistinct sources)
  | .setClock clock => do
    let _ ← clock
    return .done
  | _ => .ok .done

/-- What a step does. -/
def outcome (session : Session) : Step → Outcome
  | .newDraft target => .making target (pure (.draft .empty))
  | .draftFrom source target => .making target (.ofExcept do
      return .draft (← (← session.fetch source).origin))
  | .toDraft source target => .making target (.ofExcept do
      let request ← (← session.fetchFor source "to_builder").asRequest "to_builder"
      return .draft (.ofRequest request))
  | .call source operation arguments =>
    match session.fetch source with
    | .ok register =>
      let (after, outcome) := register.invoke session.surroundings operation arguments
      .calling source after outcome
    | .error fault => .answering (.error fault)
  | .build source target => .making target do
      match ← .ofExcept (session.fetchFor source "build") with
      | .draft draft => return .request (← draft.build session.surroundings)
      | .opened draft => return .request (← draft.build session.surroundings)
      | held => .fail (held.lacks "build")
  | .newRequest fields target => .making target (.ofExcept do
      return .request (← Request.ofFields (← fields)))
  | .newSettings fields target => .making target (.ofExcept do
      return .settings (← Settings.ofFields (← fields)))
  | .newWindow fields target => .making target (.ofExcept do
      return .window (← Window.ofFields (← fields)))
  | .loadSettings target => .making target do
      let around := session.surroundings
      return .settings (← Settings.load around.environment around.threshold)
  | .windowOf source target => .making target (.ofExcept do
      return .window (← (← session.fetch source).window))
  | .assign source member value => .changing source do
      let register ← session.fetch source
      register.assign member (← value)
  | .delete source member => .changing source do
      (← session.fetch source).delete member
  | .putTag source key value => .changing source do
      let value ← value
      (← session.fetch source).putTag key value
  | next => .answering (session.answer next)

/-- The surroundings after a step. -/
def surroundingsAfter (surroundings : Surroundings) : Step → Surroundings
  | .setEnvironment contents =>
    { surroundings with environment := surroundings.environment.setAll contents }
  | .setClock (.ok clock) => { surroundings with clock }
  | .setThreshold threshold => { surroundings with threshold }
  | _ => surroundings

/-- Takes one step. -/
def step (session : Session) (next : Step) : Session × Observed Reply :=
  let outcome := session.outcome next
  let around : Session :=
    { session with surroundings := surroundingsAfter session.surroundings next }
  match outcome.filled? with
  | some (name, register) => (around.store name register, outcome.reply)
  | none => (around, outcome.reply)

/-- Takes steps in order and gives the answer of each. -/
def run : Session → List Step → Session × List (Observed Reply)
  | session, [] => (session, [])
  | session, next :: rest =>
    let (after, reply) := session.step next
    let (last, replies) := after.run rest
    (last, reply :: replies)

end Session

end TraceFilter
