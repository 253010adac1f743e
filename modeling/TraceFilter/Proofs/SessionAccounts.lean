/-
Module: TraceFilter.Proofs.SessionAccounts
Purpose: The counters over a whole session add up to the builds that it carried out; no other step
  counts anything.
Main exports: Event.total, Session.build?, Session.builds, Session.counts_step,
  Session.totals_events, Session.builds_accounted
-/
import Mathlib.Algebra.GroupWithZero.Nat
import TraceFilter.Proofs.BuildEvents
import TraceFilter.Proofs.WritableSessions

namespace TraceFilter

/-! ### What counters add up to -/

namespace Event

/-- What an event adds to a counter. -/
def amount (counter : String) : Event → Nat
  | .record _ _ _ => 0
  | .count other amount _ => if other = counter then amount else 0

/-- What some events add to a counter. -/
def total (counter : String) (events : List Event) : Nat :=
  (events.map (amount counter)).sum

theorem total_append (counter : String) (events more : List Event) :
    total counter (events ++ more) = total counter events + total counter more := by
  rw [total, List.map_append, List.sum_append]
  rfl

/-- Records add nothing. -/
theorem total_filter_isCount (counter : String) (events : List Event) :
    total counter (events.filter isCount) = total counter events := by
  induction events with
  | nil => rfl
  | cons event rest ih =>
    cases event with
    | record level logger message =>
      rw [List.filter_cons_of_neg Bool.false_ne_true, ih]
      exact (Nat.zero_add _).symm
    | count other amount attributes =>
      rw [List.filter_cons_of_pos rfl]
      exact congrArg (_ + ·) ih

end Event

namespace Observed

/-- Whether a build gave a request. -/
def succeeded (built : Observed Request) : Bool :=
  built.result.isOk

/-- Whether a build failed for a broken rule. -/
def rejected (built : Observed Request) : Bool :=
  match built.result with
  | .error fault => fault.violation?.isSome
  | .ok _ => false

/-- A build adds one to the counter of its outcome and nothing to the other one. -/
theorem Accounted.totals {threshold : Level} {built : Observed Request}
    (accounted : built.Accounted threshold) :
    Event.total Observation.builtCounter.name built.events = [built].countP succeeded ∧
      Event.total Observation.rejectedCounter.name built.events = [built].countP rejected := by
  rw [← Event.total_filter_isCount, ← Event.total_filter_isCount _ built.events]
  cases gives : built.result with
  | ok request =>
    rw [(accounted.ofBuilt request gives).1]
    simp only [List.countP_singleton, succeeded, rejected, gives]
    exact ⟨rfl, rfl⟩
  | error fault =>
    cases reports : fault.violation? with
    | none =>
      rw [(accounted.ofOther fault gives reports).1]
      simp only [List.countP_singleton, succeeded, rejected, gives, reports]
      exact ⟨rfl, rfl⟩
    | some violation =>
      rw [Fault.eq_of_violation? reports] at gives
      rw [(accounted.ofRejected violation gives).1]
      simp only [List.countP_singleton, succeeded, rejected, gives]
      exact ⟨rfl, rfl⟩

end Observed

/-! ### The builds of a session -/

namespace Stored

/-- The build of what is held, if that is a draft. -/
def build? (held : Stored) (surroundings : Surroundings) : Option (Observed Request) :=
  match held with
  | .draft sketch => some (sketch.build surroundings)
  | .opened sketch => some (sketch.build surroundings)
  | _ => none

/-- The call that an operation and arguments ask of what is held, if that is a draft. -/
def call? (held : Stored) (operation : String) (arguments : Except Fault (List Value)) :
    Option DraftCall :=
  match held with
  | .draft sketch => (DraftCall.resolve sketch.members operation arguments).toOption
  | .opened sketch => (DraftCall.resolve sketch.members operation arguments).toOption
  | _ => none

/-- The build that a call of what is held comes to, if it is one. -/
def called? (held : Stored) (surroundings : Surroundings) (operation : String)
    (arguments : Except Fault (List Value)) : Option (Observed Request) :=
  match held.call? operation arguments with
  | some .build => held.build? surroundings
  | _ => none

end Stored

namespace Session

/-- The build that a step carries out, if it carries out one: as a step of its own, or by calling
the operation of a draft. -/
def build? (session : Session) : Step → Option (Observed Request)
  | .build source _ =>
    (session.fetchFor source "build").toOption.bind (·.build? session.surroundings)
  | .call source operation arguments =>
    (session.fetch source).toOption.bind
      (·.held.called? session.surroundings operation arguments)
  | _ => none

/-- The builds that steps carry out, in order. -/
def builds : Session → List Step → List (Observed Request)
  | _, [] => []
  | session, next :: rest => (session.build? next).toList ++ (session.step next).1.builds rest

end Session

theorem Stored.accounted_of_build? {held : Stored} {surroundings : Surroundings}
    {built : Observed Request} (writable : held.IsWritable)
    (builds : held.build? surroundings = some built) :
    built.Accounted surroundings.threshold := by
  cases held with
  | draft draft =>
    obtain ⟨left, leaves, kept⟩ := draft.leaves_build writable surroundings
    cases builds
    exact leaves.accounted kept
  | opened draft =>
    obtain ⟨left, leaves, kept⟩ := draft.leaves_build writable.shape surroundings
    cases builds
    exact leaves.accounted kept
  | request asked => cases builds
  | window bounds => cases builds
  | settings defaults => cases builds

theorem Session.accounted_of_build? {session : Session} {next : Step} {built : Observed Request}
    (writable : session.IsWritable) (builds : session.build? next = some built) :
    built.Accounted session.surroundings.threshold := by
  unfold build? at builds
  split at builds
  · obtain ⟨held, fetched, builds⟩ := Option.bind_eq_some_iff.1 builds
    have held := writable.of_fetchFor (toOption_eq_some_iff.1 fetched)
    exact Stored.accounted_of_build? held builds
  · obtain ⟨register, fetched, called⟩ := Option.bind_eq_some_iff.1 builds
    have held := writable.of_fetch (toOption_eq_some_iff.1 fetched)
    unfold Stored.called? at called
    split at called
    · exact Stored.accounted_of_build? held called
    · cases called
  · cases builds

/-! ### The events of a step -/

/-- The events of a build, if there is one. -/
def Observed.eventsOf? : Option (Observed Request) → List Event
  | none => []
  | some built => built.events

namespace Outcome

theorem events_making (target : String) (made : Observed Stored) :
    (making target made).reply.events = made.events := by
  have shown : ∀ held : Stored, (Observed.ofExcept held.view >>= fun view =>
      (pure (held, view) : Observed (Stored × View))).events = [] := by
    intro held
    exact Observed.events_bind_of_silent fun _ => rfl
  exact (Observed.events_bind_of_silent fun _ => rfl).trans (Observed.events_bind_of_silent shown)

theorem events_calling (source : String) (after : Register) (outcome : Observed Bool) :
    (calling source after outcome).reply.events = outcome.events := by
  refine Observed.events_bind_of_silent fun chained => ?_
  exact Observed.events_bind_of_silent fun _ => rfl

end Outcome

/-! ### The events of a call -/

theorem events_restarted (source : Value) : (restarted source).events = [] := by
  unfold restarted
  split <;> rfl

theorem Draft.events_perform (draft : Draft) (surroundings : Surroundings) (call : DraftCall) :
    (draft.perform surroundings call).2.events =
      match call with
      | .build => (draft.build surroundings).events
      | _ => [] := by
  cases call with
  | edit edit =>
    simp only [perform]
    cases draft.apply edit <;> rfl
  | build => exact Observed.events_bind_of_silent fun _ => rfl
  | restart source => exact events_restarted source

theorem OpenedDraft.events_perform (draft : OpenedDraft) (surroundings : Surroundings)
    (call : DraftCall) :
    (draft.perform surroundings call).2.events =
      match call with
      | .build => (draft.build surroundings).events
      | _ => [] := by
  cases call with
  | edit edit =>
    simp only [perform]
    cases draft.apply edit <;> rfl
  | build => exact Observed.events_bind_of_silent fun _ => rfl
  | restart source =>
    simp only [perform]
    cases draft.members.lookup DraftOperation.clear.name with
    | some value => rfl
    | none => exact events_restarted source

theorem Register.events_invoke (register : Register) (surroundings : Surroundings)
    (operation : String) (arguments : Except Fault (List Value)) :
    (register.invoke surroundings operation arguments).2.events =
      Observed.eventsOf? (register.held.called? surroundings operation arguments) := by
  obtain ⟨held, assigned⟩ := register
  cases held with
  | draft sketch =>
    show (sketch.invoke surroundings operation arguments).2.events = _
    simp only [Draft.invoke, Stored.called?, Stored.call?]
    cases DraftCall.resolve sketch.members operation arguments with
    | error fault => rfl
    | ok call =>
      simp only [Draft.events_perform]
      cases call <;> rfl
  | opened sketch =>
    show (sketch.invoke surroundings operation arguments).2.events = _
    simp only [OpenedDraft.invoke, Stored.called?, Stored.call?]
    cases DraftCall.resolve sketch.members operation arguments with
    | error fault => rfl
    | ok call =>
      simp only [OpenedDraft.events_perform]
      cases call <;> rfl
  | request asked => rfl
  | window bounds => rfl
  | settings defaults => rfl

/-! ### The events of steps -/

namespace Session

theorem step_reply (session : Session) (next : Step) :
    (session.step next).2 = (session.outcome next).reply := by
  simp only [step]
  cases (session.outcome next).filled? <;> rfl

/-- A step counts what the build that it carries out counts, and otherwise nothing. -/
theorem counts_step (session : Session) (next : Step) :
    (session.step next).2.events.filter Event.isCount =
      (Observed.eventsOf? (session.build? next)).filter Event.isCount := by
  rw [step_reply]
  cases next with
  | build source target =>
    rw [outcome, Outcome.events_making, build?]
    cases session.fetchFor source "build" with
    | error fault => rfl
    | ok held =>
      apply congrArg (List.filter Event.isCount)
      cases held with
      | draft sketch =>
        show (sketch.build session.surroundings >>= fun request =>
          (pure (.request request) : Observed Stored)).events = _
        exact Observed.events_bind_of_silent fun _ => rfl
      | opened sketch =>
        show (sketch.build session.surroundings >>= fun request =>
          (pure (.request request) : Observed Stored)).events = _
        exact Observed.events_bind_of_silent fun _ => rfl
      | request asked | window bounds | settings defaults => rfl
  | call source operation arguments =>
    cases fetched : session.fetch source with
    | error fault =>
      simp only [outcome, build?, fetched]
      rfl
    | ok register =>
      simp only [outcome, build?, fetched, Outcome.events_calling, Register.events_invoke]
      rfl
  | loadSettings target =>
    rw [outcome, Outcome.events_making, Observed.events_bind_of_silent fun _ => rfl,
      Settings.events_load]
    refine List.filter_eq_nil_iff.2 fun event mem => ?_
    obtain ⟨_, _, rfl⟩ := Settings.debug_of_mem_loadRecords (List.mem_filter.1 mem).1
    exact Bool.false_ne_true
  | newDraft | draftFrom | toDraft | newRequest | newSettings | newWindow | windowOf =>
    rw [outcome, Outcome.events_making]
    rfl
  | _ => rfl

theorem total_step (counter : String) (session : Session) (next : Step) :
    Event.total counter (session.step next).2.events =
      Event.total counter (Observed.eventsOf? (session.build? next)) := by
  rw [← Event.total_filter_isCount, counts_step, Event.total_filter_isCount]

/-- A step that carries out a build adds one to the counter of its outcome, others add nothing. -/
theorem totals_step {session : Session} (writable : session.IsWritable) (next : Step) :
    Event.total Observation.builtCounter.name (session.step next).2.events =
        (session.build? next).toList.countP Observed.succeeded ∧
      Event.total Observation.rejectedCounter.name (session.step next).2.events =
        (session.build? next).toList.countP Observed.rejected := by
  rw [total_step, total_step]
  cases carries : session.build? next with
  | none => exact ⟨rfl, rfl⟩
  | some built => exact (accounted_of_build? writable carries).totals

/-- What steps leave behind, in order. -/
def events (session : Session) (steps : List Step) : List Event :=
  (session.run steps).2.flatMap Observed.events

theorem events_cons (session : Session) (next : Step) (rest : List Step) :
    session.events (next :: rest) =
      (session.step next).2.events ++ (session.step next).1.events rest := rfl

/-- Over a whole session the counters add up to the builds of either outcome. -/
theorem totals_events {session : Session} {steps : List Step} (writable : session.IsWritable)
    (handed : ∀ next ∈ steps, next.IsWritable) :
    Event.total Observation.builtCounter.name (session.events steps) =
        (session.builds steps).countP Observed.succeeded ∧
      Event.total Observation.rejectedCounter.name (session.events steps) =
        (session.builds steps).countP Observed.rejected := by
  induction steps generalizing session with
  | nil => exact ⟨rfl, rfl⟩
  | cons next rest ih =>
    rw [List.forall_mem_cons] at handed
    obtain ⟨built, rejected⟩ := ih (writable.step handed.1) handed.2
    obtain ⟨builtNow, rejectedNow⟩ := totals_step writable next
    rw [events_cons, builds, List.countP_append, List.countP_append, Event.total_append,
      Event.total_append]
    rw [builtNow, rejectedNow, built, rejected]
    exact ⟨rfl, rfl⟩

/-- Every build of values that can be written is accounted for exactly once: one that gives a
request by one count, one that breaks a rule by one count under its field and one warning, any other
by nothing, and always behind the settings and the call. So over a session the counters add up to
the builds of either outcome, and a request that is made from fields leaves nothing behind. -/
theorem builds_accounted :
    (∀ (draft : Draft) (surroundings : Surroundings), draft.IsWritable →
      (draft.build surroundings).Accounted surroundings.threshold ∧
      ∃ left,
        draft.Leaves (fun _ => .ok ()) surroundings.environment (draft.build surroundings).result
          left ∧
        (draft.build surroundings).events =
          left.filter (Event.visibleAt surroundings.threshold)) ∧
    (∀ (draft : OpenedDraft) (surroundings : Surroundings), draft.shape.IsWritable →
      (draft.build surroundings).Accounted surroundings.threshold ∧
      ∃ left,
        draft.shape.Leaves draft.readable surroundings.environment
          (draft.build surroundings).result left ∧
        (draft.build surroundings).events =
          left.filter (Event.visibleAt surroundings.threshold)) ∧
    (∀ (draft : Draft) (environment : Environment),
      draft.settingsRecords environment ≠ [] ↔
        (draft.endTs = .null ∨ draft.limit = .null) ∧ environment.HasText ∧
          ∃ settings, Settings.ofFields environment.given = .ok settings) ∧
    (∀ (session : Session) (steps : List Step), session.IsWritable →
      (∀ next ∈ steps, next.IsWritable) →
      Event.total Observation.builtCounter.name (session.events steps) =
          (session.builds steps).countP Observed.succeeded ∧
        Event.total Observation.rejectedCounter.name (session.events steps) =
          (session.builds steps).countP Observed.rejected) ∧
    ∀ (session : Session) (fields : Except Fault (List (String × Value))) (target : String),
      (session.step (.newRequest fields target)).2.events = [] := by
  refine ⟨?_, ?_, fun _ _ => Draft.settingsRecords_ne_nil_iff, ?_, ?_⟩
  · intro draft surroundings writable
    obtain ⟨left, leaves, kept⟩ := draft.leaves_build writable surroundings
    exact ⟨leaves.accounted kept, left, leaves, kept⟩
  · intro draft surroundings writable
    obtain ⟨left, leaves, kept⟩ := draft.leaves_build writable surroundings
    exact ⟨leaves.accounted kept, left, leaves, kept⟩
  · intro session steps writable handed
    exact totals_events writable handed
  · intro session fields target
    rw [step_reply, outcome, Outcome.events_making]
    rfl

/-- A draft is built three times: under a limit of zero it is refused, under another one it gives a
request, by a step of its own and by a call. -/
theorem builds_accounted_of_three_builds :
    let draft : Draft := { Draft.empty with
      serviceName := .text "api", endTs := .int 5, limit := .int 0 }
    let surroundings : Surroundings := ⟨.empty, .zero false, .warning⟩
    let steps : List Step := [
      .newDraft "draft", .call "draft" "service_name" (.ok [.text "api"]),
      .call "draft" "end_ts" (.ok [.int 5]), .call "draft" "limit" (.ok [.int 0]),
      .build "draft" "refused", .call "draft" "limit" (.ok [.int 1]), .build "draft" "built",
      .call "draft" "build" (.ok [])]
    (draft.build surroundings).Accounted .warning ∧
      ((OpenedDraft.ofDraft draft).build surroundings).Accounted .warning ∧
      Event.total Observation.builtCounter.name ((start surroundings).events steps) = 2 ∧
      Event.total Observation.rejectedCounter.name ((start surroundings).events steps) = 1 := by
  intro draft surroundings steps
  obtain ⟨drafts, opened, _, sessions, _⟩ := builds_accounted
  have writable : draft.IsWritable := by decide +kernel
  have shape : (OpenedDraft.ofDraft draft).shape.IsWritable := by decide +kernel
  have handed : ∀ next ∈ steps, next.IsWritable := by decide +kernel
  obtain ⟨built, rejected⟩ := sessions (start surroundings) steps (isWritable_start _) handed
  refine ⟨(drafts draft surroundings writable).1, (opened _ surroundings shape).1,
    built.trans ?_, rejected.trans ?_⟩
  · decide +kernel
  · decide +kernel

end Session

end TraceFilter
