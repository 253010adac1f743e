/-
Module: TraceFilter.Proofs.SessionDrafts
Purpose: What a draft holds at any point of a session depends on the calls of its own operations
  only, whatever is done to other registers in between.
Main exports: Step.draftCall?, Draft.toOption_resolve, Session.fetch_step_draft,
  Session.fetch_run_draft, Session.draft_reaches_normal_form
-/
import TraceFilter.Proofs.AcceptedRequest
import TraceFilter.Proofs.DraftRuns
import TraceFilter.Proofs.SessionAccounts
import TraceFilter.Proofs.SessionFrames

namespace TraceFilter

/-- The call of an operation of the draft in a register that a step comes to, if it comes to one. -/
def Step.draftCall? (name : String) : Step → Option DraftCall
  | .call source operation arguments =>
    if source = name then (DraftCall.resolve [] operation arguments).toOption else none
  | _ => none

/-- No part of a draft has the name of an operation, so that none is hidden. -/
theorem Draft.toOption_resolve (draft : Draft) (operation : String)
    (arguments : Except Fault (List Value)) :
    (DraftCall.resolve draft.members operation arguments).toOption =
      (DraftCall.resolve [] operation arguments).toOption := by
  unfold DraftCall.resolve
  cases looked : draft.members.lookup operation with
  | none => rfl
  | some value =>
    obtain ⟨part, known, same⟩ := List.mem_map.1 (mem_of_lookup looked)
    have named : part.name = operation := congrArg Prod.fst same
    have apart : ∀ part ∈ DraftPart.all, DraftOperation.ofName? part.name = none := by decide
    rw [← named, apart part known]
    cases arguments <;> rfl

theorem Draft.invoke_eq_after (draft : Draft) (surroundings : Surroundings) (operation : String)
    (arguments : Except Fault (List Value)) :
    (draft.invoke surroundings operation arguments).1 =
      (DraftCall.resolve [] operation arguments).toOption.elim draft draft.after := by
  rw [← draft.toOption_resolve, invoke]
  cases DraftCall.resolve draft.members operation arguments with
  | ok call => exact draft.perform_eq_after surroundings call
  | error fault => rfl

namespace Session

variable {session : Session} {name : String} {next : Step} {draft : Draft}

/-- A step leaves in a register that it spares the draft after the call that it comes to. -/
theorem fetch_step_draft (fetched : session.fetch name = .ok (.holding (.draft draft)))
    (spares : next.Spares name) : (session.step next).1.fetch name =
      .ok (.holding (.draft ((next.draftCall? name).elim draft draft.after))) := by
  -- Only a call of one of its own operations can reach a draft that is spared.
  by_cases calls : ∃ operation arguments, next = .call name operation arguments
  · obtain ⟨operation, arguments, rfl⟩ := calls
    rw [fetch_step_call fetched, Step.draftCall?, if_pos rfl, ← draft.invoke_eq_after]
    rfl
  · have silent : next.draftCall? name = none := by
      cases next with
      | call source operation arguments =>
        have other : source ≠ name := by
          rintro rfl
          exact calls ⟨operation, arguments, rfl⟩
        exact if_neg other
      | _ => rfl
    rw [silent, fetch_step_of_spared spares]
    · exact fetched
    · intro operation arguments same
      exact calls ⟨operation, arguments, same⟩

/-- After steps that spare its register, a draft has undergone the calls that they came to. -/
theorem fetch_run_draft {steps : List Step}
    (fetched : session.fetch name = .ok (.holding (.draft draft)))
    (spared : ∀ next ∈ steps, next.Spares name) : (session.run steps).1.fetch name =
      .ok (.holding (.draft ((steps.filterMap (·.draftCall? name)).foldl Draft.after draft))) := by
  induction steps generalizing session draft with
  | nil => exact fetched
  | cons next rest ih =>
    rw [List.forall_mem_cons] at spared
    have reached := ih (fetch_step_draft fetched spared.1) spared.2
    cases called : next.draftCall? name with
    | none =>
      rw [List.filterMap_cons_none called]
      rw [called] at reached
      exact reached
    | some call =>
      rw [List.filterMap_cons_some called]
      rw [called] at reached
      exact reached

/-! ### Calls that fail, and builds -/

/-- A step that comes to a change of a draft answers as the change does. -/
theorem result_step_edit {edit : Edit}
    (fetched : session.fetch name = .ok (.holding (.draft draft)))
    (called : next.draftCall? name = some (.edit edit)) : (session.step next).2.result =
      (draft.apply edit).map fun after => .called (.draft after.view) true := by
  cases next with
  | call source operation arguments =>
    simp only [Step.draftCall?, Option.ite_none_right_eq_some] at called
    obtain ⟨rfl, called⟩ := called
    rw [← draft.toOption_resolve, toOption_eq_some_iff] at called
    simp only [step_reply, outcome, fetched, Register.holding, Register.invoke, Draft.invoke,
      called, Draft.perform]
    cases draft.apply edit <;> rfl
  | _ => cases called

/-- A step that comes to a change fails exactly when it adds a tag under a key that can be none. -/
theorem fails_step_edit_iff {edit : Edit}
    (fetched : session.fetch name = .ok (.holding (.draft draft)))
    (called : next.draftCall? name = some (.edit edit)) :
    (∃ fault, (session.step next).2.result = .error fault) ↔
      ∃ key value, edit = .addTag key value ∧ key.isHashable = false := by
  rw [result_step_edit fetched called]
  cases edit with
  | set field value => simp [Draft.apply, Except.map]
  | annotate note => simp [Draft.apply, Except.map]
  | addTag key value =>
    cases plain : key.isHashable <;> simp [Draft.apply, Entries.insert, Except.map, plain]
  | clear => simp [Draft.apply, Except.map]

/-- A step that fails leaves a draft as it was, unless it starts over. -/
theorem fetch_step_of_failed {fault : Fault}
    (fetched : session.fetch name = .ok (.holding (.draft draft))) (spares : next.Spares name)
    (going : ∀ source, next.draftCall? name ≠ some (.restart source))
    (fails : (session.step next).2.result = .error fault) :
    (session.step next).1.fetch name = .ok (.holding (.draft draft)) := by
  rw [fetch_step_draft fetched spares]
  cases called : next.draftCall? name with
  | none => rfl
  | some call =>
    cases call with
    | build => rfl
    | restart source => exact absurd called (going source)
    | edit edit =>
      rw [result_step_edit fetched called] at fails
      cases changed : draft.apply edit with
      | ok after =>
        rw [changed] at fails
        cases fails
      | error cause =>
        rw [Option.elim_some, Draft.after, changed]
        rfl

theorem run_append (session : Session) (earlier later : List Step) :
    (session.run (earlier ++ later)).1 = ((session.run earlier).1.run later).1 := by
  induction earlier generalizing session with
  | nil => rfl
  | cons next rest ih => exact ih (session.step next).1

/-- A draft that starts empty or from an accepted request is, after any steps that neither fill its
register anew nor change a member from outside, in the normal form of the calls of its own
operations, whatever the other steps do. Of these calls only the addition of a tag under a key that
can be none fails. A step that fails leaves the draft as it was, unless it starts over, and so does
a build; and no step changes a request that is held, be it one from which a draft started or one
that was built. -/
theorem draft_reaches_normal_form {start : Draft} {steps : List Step}
    (fetched : session.fetch name = .ok (.holding (.draft start)))
    (fresh : start = .empty ∨ ∃ seed : Request, seed.Accepted ∧ start = .ofRequest seed)
    (spared : ∀ next ∈ steps, next.Spares name) :
    let reached := (session.run steps).1
    (∃ draft, reached.fetch name = .ok (.holding (.draft draft)) ∧
      start.NormalForm (steps.filterMap (·.draftCall? name)) draft) ∧
    (∀ next edit, next.draftCall? name = some (.edit edit) →
      ((∃ fault, (reached.step next).2.result = .error fault) ↔
        ∃ key value, edit = .addTag key value ∧ key.isHashable = false)) ∧
    (∀ next, next.Spares name → (∀ source, next.draftCall? name ≠ some (.restart source)) →
      (∃ fault, (reached.step next).2.result = .error fault) →
      (reached.step next).1.fetch name = reached.fetch name) ∧
    (∀ next, next.Spares name →
      (next.draftCall? name = some .build ∨ ∃ target, next = .build name target) →
      (reached.step next).1.fetch name = reached.fetch name) ∧
    ∀ earlier later other register request, steps = earlier ++ later →
      (session.run earlier).1.fetch other = .ok register → register.held = .request request →
      (∀ next ∈ later, next.target? ≠ some other) → reached.fetch other = .ok register := by
  intro reached
  have keyed : start.tags.WellKeyed := by
    rcases fresh with rfl | ⟨seed, accepted, rfl⟩
    · exact Entries.wellKeyed_nil
    · exact accepted.wellKeyed
  have holds := fetch_run_draft fetched spared
  refine ⟨⟨_, holds, Draft.normalForm_foldl keyed _⟩, ?_, ?_, ?_, ?_⟩
  · intro next edit called
    exact fails_step_edit_iff holds called
  · intro next spares going fails
    obtain ⟨fault, fails⟩ := fails
    rw [fetch_step_of_failed holds spares going fails, holds]
  · intro next spares builds
    rw [fetch_step_draft holds spares, holds]
    rcases builds with called | ⟨target, rfl⟩
    · rw [called]
      rfl
    · rfl
  · intro earlier later other register request split fetchedOther holdsRequest kept
    show (session.run steps).1.fetch other = .ok register
    rw [split, run_append]
    exact fetch_run_request fetchedOther holdsRequest kept

/-- Calls of two drafts from one request in turn: the one draft is cleared in between, the number
one and the truth are one key, and the last addition fails. -/
theorem draft_reaches_normal_form_interleaved :
    let seed : Request :=
      { serviceName := "api", spanName := none, annotations := [.text "error"]
        tags := [(.text "cache", .int 1)], minDuration := .null, maxDuration := .null
        endTs := 5, lookback := 5, limit := 1 }
    let session : Session :=
      { registers := [("first", .holding (.draft (.ofRequest seed))),
          ("second", .holding (.draft (.ofRequest seed))), ("seed", .holding (.request seed))]
        surroundings := default }
    let steps : List Step := [
      .call "first" "add_binary_annotation" (.ok [.int 1, .text "a"]),
      .call "second" "clear" (.ok []),
      .call "first" "limit" (.ok [.int 3]),
      .build "first" "built",
      .call "first" "add_binary_annotation" (.ok [.bool true, .text "b"]),
      .call "first" "add_binary_annotation" (.ok [.list [], .text "c"])]
    seed.Accepted ∧ ((session.run steps).1.fetch "seed" = .ok (.holding (.request seed))) ∧
      ∃ draft, (session.run steps).1.fetch "first" = .ok (.holding (.draft draft)) ∧
        draft.get .limit = .int 3 ∧ draft.get .endTs = .int 5 ∧
        draft.annotations = [.text "error"] ∧
        draft.tags = [(.text "cache", .int 1), (.int 1, .text "b")] := by
  intro seed session steps
  have lowered : Text.lower "api" = "api" := by decide +kernel
  have wellFormed : seed.WellFormed :=
    { serviceName := ⟨by simp [seed], lowered⟩, spanName := by simp [seed]
      annotations := by simp [seed, Value.truthy], tags := by simp [seed, Value.truthy]
      maxDuration := .inl rfl, endTs := by simp [seed], lookback := by simp [seed]
      limit := by simp [seed] }
  have bounds : Value.null.WellKeyed := Value.wellKeyed_of_kind_ne Kind.noConfusion
  have accepted : seed.Accepted := wellFormed.accepted ⟨by decide, by decide⟩ bounds bounds
  have spared : ∀ next ∈ steps, next.Spares "first" := by
    simp [steps, Step.Spares, Step.target?, Step.edited?]
  have kept : ∀ next ∈ steps, next.target? ≠ some "seed" := by
    simp [steps, Step.target?]
  obtain ⟨⟨draft, holds, normal⟩, _, _, _, requests⟩ :=
    @draft_reaches_normal_form session "first" (.ofRequest seed) steps rfl
      (.inr ⟨seed, accepted, rfl⟩) spared
  refine ⟨accepted, requests [] steps "seed" _ seed rfl rfl rfl kept, draft, holds, ?_, ?_, ?_, ?_⟩
  · exact normal.fields .limit
  · exact normal.fields .endTs
  · exact normal.annotations
  · have same : (Value.int 1).same (.bool true) = true := by decide +kernel
    have apart : (Value.text "cache").same (.int 1) = false := by decide +kernel
    have apart' : (Value.text "cache").same (.bool true) = false := by decide +kernel
    rw [normal.tags]
    show Entries.settled [(.text "cache", .int 1), (.int 1, .text "a"), (.bool true, .text "b")] = _
    simp [Entries.settled, Entries.lastUnder, same, apart, apart']

end Session

end TraceFilter
