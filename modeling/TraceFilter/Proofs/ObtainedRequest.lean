/-
Module: TraceFilter.Proofs.ObtainedRequest
Purpose: The ways in which a request is obtained, and what holds of every request that is, at any
  point of any session.
Main exports: Request.Built, Request.Obtained, Request.WellFormed, Request.Obtained.wellFormed,
  Request.WellFormed.accept_stored, Request.WellFormed.obtained, Request.Built.isWritable,
  Request.Built.lookback_le_endTs
-/
import TraceFilter.Draft.Opened
import TraceFilter.Proofs.BuildOutcome
import TraceFilter.Proofs.LowerCase

namespace TraceFilter

namespace Request

/-! ### Obtaining a request -/

/-- A request is built when some draft gives it, in whatever surroundings. The draft may be one
whose members were assigned one by one. -/
inductive Built (request : Request) : Prop where
  | ofDraft (draft : Draft) (surroundings : Surroundings)
      (gives : (draft.build surroundings).result = .ok request)
  | ofOpened (draft : OpenedDraft) (surroundings : Surroundings)
      (gives : (draft.build surroundings).result = .ok request)

/-- A request is obtained when it is made from fields or built. -/
inductive Obtained (request : Request) : Prop where
  | made (given : List (String × Value)) (gives : Request.ofFields given = .ok request)
  | built (built : request.Built)

variable {request : Request}

/-- A built request was accepted with a clamped lookback. -/
theorem Built.exists_clamped (built : request.Built) :
    ∃ (candidate : Candidate) (lookback : Value),
      Draft.clamp lookback candidate.endTs = .ok candidate.lookback ∧
        candidate.accept = .ok request := by
  cases built with
  | ofDraft draft surroundings gives =>
    obtain ⟨_, endTs, lookback, limit, clamped, accepted⟩ := Draft.accepted_of_buildWhere gives
    exact ⟨draft.candidate endTs lookback limit, draft.lookbackOr endTs, clamped, accepted⟩
  | ofOpened draft surroundings gives =>
    obtain ⟨_, endTs, lookback, limit, clamped, accepted⟩ := Draft.accepted_of_buildWhere gives
    exact ⟨draft.shape.candidate endTs lookback limit, draft.shape.lookbackOr endTs, clamped,
      accepted⟩

/-- A built request can be written: it was, when it was built. -/
theorem Built.isWritable (built : request.Built) : request.isWritable = true := by
  cases built with
  | ofDraft draft surroundings gives => exact (Draft.accepted_of_buildWhere gives).1
  | ofOpened draft surroundings gives => exact (Draft.accepted_of_buildWhere gives).1

/-- However a request was obtained, it was accepted. -/
theorem Obtained.exists_accepted (obtained : request.Obtained) :
    ∃ candidate : Candidate, candidate.accept = .ok request := by
  cases obtained with
  | made given gives =>
    rw [ofFields, bind_eq_ok_iff] at gives
    exact gives.imp fun _ proposed => proposed.2
  | built built =>
    obtain ⟨candidate, _, _, accepted⟩ := built.exists_clamped
    exact ⟨candidate, accepted⟩

/-- The lookback of a built request stays within the time range. -/
theorem Built.lookback_le_endTs (built : request.Built) : request.lookback ≤ request.endTs := by
  obtain ⟨candidate, lookback, clamped, accepted⟩ := built.exists_clamped
  obtain ⟨_, becomes⟩ := Candidate.accept_eq_ok_iff.1 accepted
  rw [becomes.endTs, becomes.lookback] at clamped
  exact Draft.le_of_clamp_eq_ok clamped

/-! ### What holds of every request -/

/-- A request that its own rules would accept, with its names in lower case. -/
structure WellFormed (request : Request) : Prop where
  serviceName : request.serviceName ≠ "" ∧ Text.lower request.serviceName = request.serviceName
  spanName : ∀ name ∈ request.spanName, name ≠ "" ∧ Text.lower name = name
  annotations : ∀ note ∈ request.annotations, note.truthy = true
  tags : ∀ tag ∈ request.tags, tag.1.truthy = true ∧ tag.2.truthy = true
  maxDuration : request.maxDuration = .null ∨ request.minDuration ≠ .null
  endTs : 0 < request.endTs
  lookback : 0 ≤ request.lookback
  limit : 0 < request.limit

theorem truthy_text_iff {name : String} : (Value.text name).truthy = true ↔ name ≠ "" := by
  simp [Value.truthy]

/-- Lower-casing neither empties a name nor leaves anything to do. -/
theorem lower_of_given {name : String} (given : (Value.text name).truthy = true) :
    Text.lower name ≠ "" ∧ Text.lower (Text.lower name) = Text.lower name :=
  ⟨mt Text.lower_eq_empty_iff.1 (truthy_text_iff.1 given), Text.lower_lower name⟩

/-- What holds of the integer that a value is holds of it under any name. -/
theorem holds_of_int {holds : Int → Prop} {value : Value} {number : Int}
    (found : ∃ other, value = .int other ∧ holds other) (same : value = .int number) :
    holds number := by
  obtain ⟨other, held, fits⟩ := found
  rw [held] at same
  cases same
  exact fits

/-- What is accepted is well-formed, for the checks passed and the names were lower-cased. -/
theorem wellFormed_of_accept {candidate : Candidate} (accepted : candidate.accept = .ok request) :
    request.WellFormed := by
  obtain ⟨avoided, becomes⟩ := Candidate.accept_eq_ok_iff.1 accepted
  obtain ⟨meets, back⟩ := Candidate.avoidsAll_iff.1 avoided
  refine
    { serviceName := ?_
      spanName := ?_
      annotations := becomes.annotations ▸ meets.annotations
      tags := becomes.tags ▸ meets.tags
      maxDuration := becomes.maxDuration ▸ becomes.minDuration ▸ meets.maxDuration
      endTs := holds_of_int meets.endTs becomes.endTs
      lookback := holds_of_int back becomes.lookback
      limit := holds_of_int meets.limit becomes.limit }
  · obtain ⟨name, held, lowered⟩ := becomes.serviceName
    rw [lowered]
    exact lower_of_given (held ▸ meets.serviceName)
  · intro name member
    obtain ⟨name?, held, lowered⟩ := becomes.spanName
    have allowed := meets.spanName
    rw [held] at allowed
    rw [lowered] at member
    obtain ⟨original, rfl, rfl⟩ := Option.map_eq_some_iff.1 member
    rcases allowed with absent | present
    · cases absent
    · exact lower_of_given present

theorem Obtained.wellFormed (obtained : request.Obtained) : request.WellFormed := by
  obtain ⟨_, accepted⟩ := obtained.exists_accepted
  exact wellFormed_of_accept accepted

/-! ### The fields of a request, proposed once more -/

/-- The candidate that proposes the fields of a request as they are stored. -/
def stored (request : Request) : Candidate :=
  { serviceName := .text request.serviceName
    spanName := .ofText? request.spanName
    annotations := request.annotations
    tags := request.tags
    minDuration := request.minDuration
    maxDuration := request.maxDuration
    endTs := .int request.endTs
    lookback := .int request.lookback
    limit := .int request.limit }

/-- A well-formed request passes the checks again, and comes out as it was. -/
theorem WellFormed.accept_stored (wellFormed : request.WellFormed) :
    request.stored.accept = .ok request := by
  refine Candidate.accept_eq_ok_iff.2 ⟨Candidate.avoidsAll_iff.2 ⟨?_, ?_⟩, ?_⟩
  · refine
      { serviceName := truthy_text_iff.2 wellFormed.serviceName.1
        spanName := ?_
        endTs := ⟨request.endTs, rfl, wellFormed.endTs⟩
        limit := ⟨request.limit, rfl, wellFormed.limit⟩
        annotations := wellFormed.annotations
        tags := wellFormed.tags
        maxDuration := wellFormed.maxDuration }
    cases given : request.spanName with
    | none => exact .inl (congrArg Value.ofText? given)
    | some name =>
      have held : request.stored.spanName = .text name := congrArg Value.ofText? given
      rw [held]
      exact .inr (truthy_text_iff.2 (wellFormed.spanName name given).1)
  · exact ⟨request.lookback, rfl, wellFormed.lookback⟩
  · refine
      { serviceName := ⟨request.serviceName, rfl, wellFormed.serviceName.2.symm⟩
        spanName := ⟨request.spanName, rfl, ?_⟩
        annotations := rfl, tags := rfl, minDuration := rfl, maxDuration := rfl
        endTs := rfl, lookback := rfl, limit := rfl }
    cases given : request.spanName with
    | none => rfl
    | some name => exact congrArg some (wellFormed.spanName name given).2.symm

/-- Every well-formed request can be made of its own fields. -/
theorem WellFormed.obtained (wellFormed : request.WellFormed) : request.Obtained :=
  .made request.stored.fields
    ((Candidate.request_ofFields_fields _).trans wellFormed.accept_stored)

end Request

end TraceFilter
