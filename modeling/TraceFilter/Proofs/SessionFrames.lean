/-
Module: TraceFilter.Proofs.SessionFrames
Purpose: What a step of a session leaves alone: every register but the one that it fills, and every
  request wherever it is held.
Main exports: Step.target?, Step.edited?, Step.Spares, Session.fetch_step,
  Session.fetch_step_of_spared, Session.fetch_step_request, Session.fetch_run_request
-/
import TraceFilter.Proofs.Rebuild

namespace TraceFilter

namespace Step

/-- The register that a step fills anew, if it can be filled. -/
def target? : Step → Option String
  | .newDraft target => some target
  | .draftFrom _ target => some target
  | .toDraft _ target => some target
  | .build _ target => some target
  | .newRequest _ target => some target
  | .newSettings _ target => some target
  | .newWindow _ target => some target
  | .loadSettings target => some target
  | .windowOf _ target => some target
  | _ => none

/-- The register of which a step changes a member from outside. -/
def edited? : Step → Option String
  | .assign source _ _ => some source
  | .delete source _ => some source
  | .putTag source _ _ => some source
  | _ => none

/-- A step spares a register when it neither fills it anew nor changes a member of what it holds
from outside. Operations of what it holds may be called. -/
def Spares (name : String) (next : Step) : Prop :=
  next.target? ≠ some name ∧ next.edited? ≠ some name

end Step

/-! ### The register that a step fills -/

namespace Outcome

variable {name : String} {register : Register}

theorem of_filled_making {target : String} {made : Observed Stored}
    (fills : (making target made).filled? = some (name, register)) : target = name := by
  obtain ⟨_, _, same⟩ := Option.map_eq_some_iff.1 fills
  exact congrArg Prod.fst same

theorem of_filled_changing {source : String} {after : Except Fault Register}
    (fills : (changing source after).filled? = some (name, register)) :
    source = name ∧ after = .ok register := by
  cases after with
  | error fault => cases fills
  | ok changed =>
    cases fills
    exact ⟨rfl, rfl⟩

end Outcome

namespace Session

variable {session : Session} {name : String} {next : Step} {register : Register}

/-- A step fills the register that it is to fill anew or to change, or the one of which it calls an
operation. -/
theorem target_of_filled (fills : (session.outcome next).filled? = some (name, register)) :
    next.target? = some name ∨ next.edited? = some name ∨
      ∃ operation arguments, next = .call name operation arguments := by
  cases next with
  | newDraft | draftFrom | toDraft | build | newRequest | newSettings | newWindow | loadSettings
  | windowOf => exact .inl (congrArg some (Outcome.of_filled_making fills))
  | assign | delete | putTag =>
    exact .inr (.inl (congrArg some (Outcome.of_filled_changing fills).1))
  | call source operation arguments =>
    apply Or.inr
    apply Or.inr
    cases fetched : session.fetch source with
    | ok register =>
      simp only [outcome, fetched] at fills
      cases fills
      exact ⟨operation, arguments, rfl⟩
    | error fault =>
      simp only [outcome, fetched] at fills
      cases fills
  | _ => cases fills

theorem fetch_store_of_ne {other : String} (apart : other ≠ name) (register : Register) :
    (session.store other register).fetch name = session.fetch name := by
  have looked (registers : List (String × Register)) :
      (registers.filter (·.1 != other)).lookup name = registers.lookup name := by
    induction registers with
    | nil => rfl
    | cons place rest ih =>
      rw [List.filter_cons]
      split
      · rw [List.lookup_cons, List.lookup_cons, ih]
      · next dropped =>
        have here : place.1 = other := by simpa using dropped
        have elsewhere : (name == place.1) = false := by
          rw [here, beq_eq_false_iff_ne]
          exact Ne.symm apart
        rw [ih, List.lookup_cons, elsewhere]
  have elsewhere : (name == other) = false := beq_eq_false_iff_ne.2 (Ne.symm apart)
  simp only [fetch, store, List.lookup_cons, elsewhere, looked]

/-- A step leaves every register alone but the one that it fills. -/
theorem fetch_step (session : Session) (next : Step) (name : String) :
    (session.step next).1.fetch name =
      match (session.outcome next).filled? with
      | some (filled, register) => if filled = name then .ok register else session.fetch name
      | none => session.fetch name := by
  simp only [step]
  cases (session.outcome next).filled? with
  | none => rfl
  | some place =>
    obtain ⟨filled, register⟩ := place
    dsimp only
    split
    · next same =>
      rw [same]
      exact fetch_store name register
    · next apart => exact fetch_store_of_ne apart register

/-- A step leaves a register alone that it spares, unless it calls an operation of what is held. -/
theorem fetch_step_of_spared (spares : next.Spares name)
    (silent : ∀ operation arguments, next ≠ .call name operation arguments) :
    (session.step next).1.fetch name = session.fetch name := by
  rw [fetch_step]
  split
  · next filled register fills =>
    split
    · next same =>
      rw [same] at fills
      rcases target_of_filled fills with target | edited | ⟨operation, arguments, calls⟩
      · exact absurd target spares.1
      · exact absurd edited spares.2
      · exact absurd calls (silent operation arguments)
    · rfl
  · rfl

/-- A call leaves in the register of what is called what the operation leaves of it. -/
theorem fetch_step_call (fetched : session.fetch name = .ok register) (operation : String)
    (arguments : Except Fault (List Value)) :
    (session.step (.call name operation arguments)).1.fetch name =
      .ok (register.invoke session.surroundings operation arguments).1 := by
  rw [fetch_step]
  simp [outcome, fetched, Outcome.calling]

/-! ### Requests stay as they are -/

variable {request : Request}

/-- No member of a request can be changed from outside. -/
theorem not_edited_request (fetched : session.fetch name = .ok register)
    (holds : register.held = .request request) {changed : Register}
    (fills : (session.outcome next).filled? = some (name, changed)) :
    next.edited? ≠ some name := by
  intro edited
  cases next with
  | assign source member value =>
    cases edited
    have changes := (Outcome.of_filled_changing fills).2
    rw [fetched, ok_bind, bind_eq_ok_iff] at changes
    obtain ⟨given, _, assigns⟩ := changes
    simp only [Register.assign, holds] at assigns
    cases assigns
  | delete source member =>
    cases edited
    have changes := (Outcome.of_filled_changing fills).2
    rw [fetched, ok_bind, Register.delete, holds] at changes
    cases changes
  | putTag source key value =>
    cases edited
    have changes := (Outcome.of_filled_changing fills).2
    simp only [fetched, ok_bind, bind_eq_ok_iff, Register.putTag] at changes
    obtain ⟨_, _, member, _, _, _, puts⟩ := changes
    rw [holds] at puts
    cases member <;> cases puts
  | _ => cases edited

/-- No step changes a request that is held, unless it fills the register anew. -/
theorem fetch_step_request (fetched : session.fetch name = .ok register)
    (holds : register.held = .request request) (kept : next.target? ≠ some name) :
    (session.step next).1.fetch name = .ok register := by
  rw [fetch_step]
  split
  · next filled changed fills =>
    split
    · next same =>
      rw [same] at fills
      rcases target_of_filled fills with target | edited | ⟨operation, arguments, rfl⟩
      · exact absurd target kept
      · exact absurd edited (not_edited_request fetched holds fills)
      · simp only [outcome, fetched, Register.invoke, holds] at fills
        cases fills
        rfl
    · exact fetched
  · exact fetched

/-- No steps change a request that is held, as long as none of them fills the register anew. -/
theorem fetch_run_request {steps : List Step} (fetched : session.fetch name = .ok register)
    (holds : register.held = .request request)
    (kept : ∀ next ∈ steps, next.target? ≠ some name) :
    (session.run steps).1.fetch name = .ok register := by
  induction steps generalizing session with
  | nil => exact fetched
  | cons next rest ih =>
    rw [List.forall_mem_cons] at kept
    exact ih (fetch_step_request fetched holds kept.1) kept.2

end Session

end TraceFilter
