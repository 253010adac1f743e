/-
Module: TraceFilter.Proofs.SessionThresholds
Purpose: A session heard at changing thresholds is the same session at the lowest one, of which each
  step is heard at the threshold then in force.
Main exports: Step.loud, Session.keeping, Session.thresholds, Session.outcome_eq_heardAt,
  Session.step_eq_heardAt, Session.run_eq_heardAt, Session.thresholds_only_choose_records
-/
import TraceFilter.Proofs.RecordThresholds
import TraceFilter.Proofs.WritableSessions

namespace TraceFilter

/-! ### Calls -/

namespace Observed

variable {α γ : Type}

/-- What is heard of an operation that also leaves a thing behind. -/
def heardBeside (threshold : Level) (left : γ × Observed α) : γ × Observed α :=
  (left.1, left.2.heardAt threshold)

end Observed

section Calls

variable (surroundings : Surroundings) (threshold : Level)

theorem heardAt_restarted (source : Value) :
    (restarted source).heardAt threshold = restarted source := by
  unfold restarted
  split <;> rfl

theorem Draft.perform_eq_heardBeside {draft : Draft} (writable : draft.IsWritable)
    (call : DraftCall) :
    draft.perform (surroundings.keeping threshold) call =
      Observed.heardBeside threshold (draft.perform (surroundings.keeping .debug) call) := by
  cases call with
  | edit edit =>
    simp only [perform]
    cases draft.apply edit <;> rfl
  | build =>
    simp only [perform, Observed.heardBeside, Observed.heardAt_bind, Observed.heardAt_pure,
      build_eq_heardAt surroundings threshold writable]
  | restart source =>
    simp only [perform, Observed.heardBeside, heardAt_restarted]

theorem OpenedDraft.perform_eq_heardBeside {draft : OpenedDraft}
    (writable : draft.shape.IsWritable) (call : DraftCall) :
    draft.perform (surroundings.keeping threshold) call =
      Observed.heardBeside threshold (draft.perform (surroundings.keeping .debug) call) := by
  cases call with
  | edit edit =>
    simp only [perform]
    cases draft.apply edit <;> rfl
  | build =>
    simp only [perform, Observed.heardBeside, Observed.heardAt_bind, Observed.heardAt_pure,
      build_eq_heardAt surroundings threshold writable]
  | restart source =>
    simp only [perform]
    cases draft.members.lookup DraftOperation.clear.name with
    | some value => rfl
    | none => simp only [Observed.heardBeside, heardAt_restarted]

theorem Register.invoke_eq_heardBeside {register : Register}
    (writable : register.held.IsWritable) (operation : String)
    (arguments : Except Fault (List Value)) :
    register.invoke (surroundings.keeping threshold) operation arguments =
      Observed.heardBeside threshold
        (register.invoke (surroundings.keeping .debug) operation arguments) := by
  obtain ⟨held, assigned⟩ := register
  cases held with
  | draft sketch =>
    simp only [invoke, Draft.invoke]
    cases DraftCall.resolve sketch.members operation arguments with
    | error fault => rfl
    | ok call =>
      simp only [Draft.perform_eq_heardBeside surroundings threshold writable call]
      rfl
  | opened sketch =>
    simp only [invoke, OpenedDraft.invoke]
    cases DraftCall.resolve sketch.members operation arguments with
    | error fault => rfl
    | ok call =>
      simp only [OpenedDraft.perform_eq_heardBeside surroundings threshold writable.shape call]
      rfl
  | request asked => rfl
  | window bounds => rfl
  | settings defaults => rfl

end Calls

/-! ### Steps -/

namespace Outcome

/-- What is heard of a step: it fills the register that it fills, and its answer is heard. -/
def heardAt (threshold : Level) (outcome : Outcome) : Outcome :=
  { outcome with reply := outcome.reply.heardAt threshold }

theorem making_heardAt (threshold : Level) (target : String) (made : Observed Stored) :
    making target (made.heardAt threshold) = (making target made).heardAt threshold := by
  simp only [making, heardAt, Observed.heardAt_bind, Observed.heardAt_pure,
    Observed.heardAt_ofExcept, Observed.result_bind, Observed.result_heardAt]

theorem calling_heardAt (threshold : Level) (source : String) (after : Register)
    (outcome : Observed Bool) :
    calling source after (outcome.heardAt threshold) =
      (calling source after outcome).heardAt threshold := by
  simp only [calling, heardAt, Observed.heardAt_bind, Observed.heardAt_pure,
    Observed.heardAt_ofExcept]

end Outcome

namespace Step

/-- A step with the lowest threshold in place of the one that it sets, if it sets one. -/
def loud : Step → Step
  | .setThreshold _ => .setThreshold .debug
  | next => next

/-- The threshold in force after a step. -/
def thresholdAfter (threshold : Level) : Step → Level
  | .setThreshold next => next
  | _ => threshold

/-- A loud step hands over the same values. -/
theorem IsWritable.loud {next : Step} (handed : next.IsWritable) : next.loud.IsWritable := by
  cases next <;> exact handed

end Step

namespace Session

/-- A session with another threshold. -/
def keeping (session : Session) (threshold : Level) : Session :=
  { session with surroundings := session.surroundings.keeping threshold }

/-- The threshold in force at each of some steps. -/
def thresholds : Level → List Step → List Level
  | _, [] => []
  | threshold, next :: rest => threshold :: thresholds (next.thresholdAfter threshold) rest

theorem length_thresholds (threshold : Level) (steps : List Step) :
    (thresholds threshold steps).length = steps.length := by
  induction steps generalizing threshold with
  | nil => rfl
  | cons next rest ih => exact congrArg (· + 1) (ih (next.thresholdAfter threshold))

theorem IsWritable.keeping {session : Session} (writable : session.IsWritable)
    (threshold : Level) : (session.keeping threshold).IsWritable :=
  writable

section Keeping

variable (session : Session) (threshold : Level)

theorem fetch_keeping (name : String) :
    (session.keeping threshold).fetch name = session.fetch name := rfl

theorem fetchHashable_keeping (names : List String) :
    (session.keeping threshold).fetchHashable names = session.fetchHashable names := by
  induction names with
  | nil => rfl
  | cons name rest ih =>
    simp only [fetchHashable, ih]
    rfl

/-- No answer that a step gives by itself depends on the threshold. -/
theorem answer_keeping (next : Step) :
    (session.keeping threshold).answer next = (session.keeping .debug).answer next.loud := by
  cases next with
  | distinct sources =>
    simp only [Step.loud, answer, countDistinct, fetchHashable_keeping]
  | _ => rfl

end Keeping

section Heard

variable {session : Session} (threshold : Level) (writable : session.IsWritable)

include writable

/-- What a step does is what it does at the lowest threshold, heard at the one in force. -/
theorem outcome_eq_heardAt (next : Step) :
    (session.keeping threshold).outcome next =
      ((session.keeping .debug).outcome next.loud).heardAt threshold := by
  cases next with
  | build source target =>
    refine Eq.trans ?_ (Outcome.making_heardAt threshold target _)
    rw [Observed.heardAt_bind, Observed.heardAt_ofExcept]
    refine congrArg (Outcome.making target) (Observed.bind_congr fun held fetched => ?_)
    have written : held.IsWritable := writable.of_fetchFor fetched
    cases held with
    | draft sketch =>
      rw [Observed.heardAt_bind]
      exact congrArg (· >>= _) (Draft.build_eq_heardAt session.surroundings threshold written)
    | opened sketch =>
      rw [Observed.heardAt_bind]
      exact congrArg (· >>= _)
        (OpenedDraft.build_eq_heardAt session.surroundings threshold written.shape)
    | request asked | window bounds | settings defaults => rfl
  | call source operation arguments =>
    have same : (Step.call source operation arguments).loud = .call source operation arguments :=
      rfl
    cases fetched : session.fetch source with
    | error fault =>
      have unheard (level : Level) : (session.keeping level).outcome
          (.call source operation arguments) = .answering (.error fault) := by
        simp only [outcome, fetch_keeping, fetched]
      rw [same, unheard, unheard]
      rfl
    | ok register =>
      have called (level : Level) : (session.keeping level).outcome
          (.call source operation arguments) =
            let done := register.invoke (session.surroundings.keeping level) operation arguments
            .calling source done.1 done.2 := by
        simp only [outcome, fetch_keeping, fetched]
        rfl
      have written : register.held.IsWritable := writable.of_fetch fetched
      rw [same, called, called, Register.invoke_eq_heardBeside _ _ written]
      exact Outcome.calling_heardAt threshold source _ _
  | loadSettings target =>
    refine Eq.trans ?_ (Outcome.making_heardAt threshold target _)
    rw [Observed.heardAt_bind]
    exact congrArg (fun loaded => Outcome.making target (loaded >>= _))
      (Settings.load_eq_heardAt session.surroundings.environment threshold)
  | newDraft | draftFrom | toDraft | newRequest | newSettings | newWindow | windowOf =>
    refine Eq.trans ?_ (Outcome.making_heardAt threshold _ _)
    rfl
  | assign | delete | putTag => rfl
  | _ => exact congrArg Outcome.answering (session.answer_keeping threshold _)

/-! ### Runs -/

omit writable in
theorem surroundingsAfter_keeping (surroundings : Surroundings) (next : Step) :
    surroundingsAfter (surroundings.keeping threshold) next =
      (surroundingsAfter (surroundings.keeping .debug) next.loud).keeping
        (next.thresholdAfter threshold) := by
  cases next with
  | setClock clock => cases clock <;> rfl
  | _ => rfl

/-- A step is the one at the lowest threshold, heard at the threshold in force; after it, all but
the threshold is the same. -/
theorem step_eq_heardAt (next : Step) :
    (session.keeping threshold).step next =
      let loud := (session.keeping .debug).step next.loud
      (loud.1.keeping (next.thresholdAfter threshold), loud.2.heardAt threshold) := by
  have surroundings :=
    surroundingsAfter_keeping threshold session.surroundings next
  unfold step
  rw [outcome_eq_heardAt threshold writable]
  simp only [Outcome.heardAt]
  cases ((session.keeping .debug).outcome next.loud).filled? with
  | none => exact congrArg (fun around => (Session.mk session.registers around, _)) surroundings
  | some place =>
    exact congrArg (fun around => ((Session.mk session.registers around).store place.1 place.2, _))
      surroundings

omit writable in
/-- At the lowest threshold a session stays there through loud steps. -/
theorem keeping_step_loud (session : Session) (next : Step) :
    ((session.keeping .debug).step next.loud).1.keeping .debug =
      ((session.keeping .debug).step next.loud).1 := by
  have surroundings : (surroundingsAfter (session.keeping .debug).surroundings next.loud).keeping
      .debug = surroundingsAfter (session.keeping .debug).surroundings next.loud := by
    cases next with
    | setClock clock => cases clock <;> rfl
    | _ => rfl
  simp only [step]
  cases ((session.keeping .debug).outcome next.loud).filled? with
  | none => exact congrArg (Session.mk session.registers) surroundings
  | some place =>
    exact congrArg (fun around => (Session.mk session.registers around).store place.1 place.2)
      surroundings

/-- The threshold in force after some steps. -/
def thresholdAfter (threshold : Level) (steps : List Step) : Level :=
  steps.foldl (fun current next => next.thresholdAfter current) threshold

/-- A session is the one at the lowest threshold, of which each step is heard at the threshold then
in force. -/
theorem run_eq_heardAt {steps : List Step} (handed : ∀ next ∈ steps, next.IsWritable) :
    (session.keeping threshold).run steps =
      let loud := (session.keeping .debug).run (steps.map Step.loud)
      (loud.1.keeping (thresholdAfter threshold steps),
        List.zipWith Observed.heardAt (thresholds threshold steps) loud.2) := by
  induction steps generalizing session threshold with
  | nil => rfl
  | cons next rest ih =>
    rw [List.forall_mem_cons] at handed
    have after : ((session.keeping .debug).step next.loud).1.IsWritable :=
      (writable.keeping .debug).step handed.1.loud
    have later := ih (next.thresholdAfter threshold) after handed.2
    rw [keeping_step_loud] at later
    simp only [List.map_cons, run]
    rw [step_eq_heardAt threshold writable]
    simp only [later]
    rfl

omit writable in
theorem length_run (session : Session) (steps : List Step) :
    (session.run steps).2.length = steps.length := by
  induction steps generalizing session with
  | nil => rfl
  | cons next rest ih => exact congrArg (· + 1) (ih (session.step next).1)

/-- What the threshold does not touch of an answer is the same in all answers of a run. -/
theorem map_run_keeping {γ : Type} (part : Observed Reply → γ)
    (untouched : ∀ level reply, part (Observed.heardAt level reply) = part reply)
    {steps : List Step} (handed : ∀ next ∈ steps, next.IsWritable) :
    ((session.keeping threshold).run steps).2.map part =
      ((session.keeping .debug).run (steps.map Step.loud)).2.map part := by
  let loud := ((session.keeping .debug).run (steps.map Step.loud)).2
  have lengths : loud.length = (thresholds threshold steps).length := by
    rw [length_thresholds, length_run, List.length_map]
  calc ((session.keeping threshold).run steps).2.map part
      = (List.zipWith Observed.heardAt (thresholds threshold steps) loud).map part := by
        rw [run_eq_heardAt threshold writable handed]
    _ = ((List.zip (thresholds threshold steps) loud).map Prod.snd).map part := by
        rw [List.map_zipWith, List.map_map, List.map_zip_eq_zipWith]
        simp only [untouched]
        rfl
    _ = loud.map part := by rw [List.map_snd_zip (Nat.le_of_eq lengths)]

end Heard

/-- Whatever the threshold, settings are loaded with the same outcome and the same counts, and leave
behind those records of the lowest threshold that are severe enough. So do builds of drafts that can
be written, and every step of a session that holds what can be written and is handed nothing else,
also when the threshold changes, with the threshold then in force; and but for the threshold, the
session comes out the same. -/
theorem thresholds_only_choose_records :
    (∀ environment, Observed.Overheard (Settings.load environment)) ∧
    (∀ (draft : Draft) (surroundings : Surroundings), draft.IsWritable →
      Observed.Overheard fun level => draft.build (surroundings.keeping level)) ∧
    (∀ (draft : OpenedDraft) (surroundings : Surroundings), draft.shape.IsWritable →
      Observed.Overheard fun level => draft.build (surroundings.keeping level)) ∧
    ∀ (session : Session) (threshold : Level) (steps : List Step), session.IsWritable →
      (∀ next ∈ steps, next.IsWritable) →
      let heard := (session.keeping threshold).run steps
      let loud := (session.keeping .debug).run (steps.map Step.loud)
      heard.1 = loud.1.keeping (thresholdAfter threshold steps) ∧
      heard.2.map Observed.result = loud.2.map Observed.result ∧
      heard.2.map (fun reply => reply.events.filter Event.isCount) =
        loud.2.map (fun reply => reply.events.filter Event.isCount) ∧
      heard.2.map (fun reply => reply.events.filter fun event => !event.isCount) =
        List.zipWith (fun level reply => reply.events.filter (Event.isRecordFrom level))
          (thresholds threshold steps) loud.2 := by
  refine ⟨?_, ?_, ?_, ?_⟩
  · intro environment
    exact Observed.overheard_of_heardAt (Settings.load_eq_heardAt environment)
  · intro draft surroundings writable
    exact Observed.overheard_of_heardAt fun level =>
      Draft.build_eq_heardAt surroundings level writable
  · intro draft surroundings writable
    exact Observed.overheard_of_heardAt fun level =>
      OpenedDraft.build_eq_heardAt surroundings level writable
  · intro session threshold steps writable handed heard loud
    have law := run_eq_heardAt threshold writable handed
    refine ⟨congrArg Prod.fst law, ?_, ?_, ?_⟩
    · exact map_run_keeping threshold writable Observed.result (fun _ _ => rfl) handed
    · exact map_run_keeping threshold writable _ Observed.filter_isCount_heardAt handed
    · rw [congrArg Prod.snd law, List.map_zipWith]
      simp only [Observed.filter_isRecord_heardAt]
      rfl

/-- A draft that is refused twice: what is said of it is heard the second time, when the threshold
has been lowered, and not the first time. -/
theorem thresholds_only_choose_records_of_lowered_threshold :
    let draft : Draft := { Draft.empty with
      serviceName := .text "api", endTs := .int 5, limit := .int 0 }
    let surroundings : Surroundings := ⟨.empty, .zero false, .error⟩
    let steps : List Step := [
      .newDraft "draft", .call "draft" "service_name" (.ok [.text "api"]),
      .call "draft" "end_ts" (.ok [.int 5]), .call "draft" "limit" (.ok [.int 0]),
      .build "draft" "first", .setThreshold .warning, .build "draft" "second"]
    let heard := (start surroundings).run steps
    let loud := ((start surroundings).keeping .debug).run (steps.map Step.loud)
    let counted : Event := .count Observation.rejectedCounter.name 1 [("field", "limit")]
    let said : Event := .record .warning Observation.requestLogger
      "Rejected query request: limit should be positive: was 0"
    (Observed.Overheard fun level => draft.build (surroundings.keeping level)) ∧
      (Observed.Overheard fun level =>
        (OpenedDraft.ofDraft draft).build (surroundings.keeping level)) ∧
      heard.1 = loud.1.keeping .warning ∧
      heard.2.map Observed.result = loud.2.map Observed.result ∧
      heard.2.flatMap Observed.events = [counted, counted, said] := by
  intro draft surroundings steps heard loud counted said
  obtain ⟨_, drafts, opened, sessions⟩ := thresholds_only_choose_records
  have writable : draft.IsWritable := by decide +kernel
  have shape : (OpenedDraft.ofDraft draft).shape.IsWritable := by decide +kernel
  have handed : ∀ next ∈ steps, next.IsWritable := by decide +kernel
  obtain ⟨after, outcomes, _, _⟩ :=
    sessions (start surroundings) .error steps (isWritable_start _) handed
  refine ⟨drafts draft surroundings writable, opened _ surroundings shape, after, outcomes, ?_⟩
  decide +kernel

end Session

end TraceFilter
