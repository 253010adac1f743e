/-
Module: TraceFilter.Proofs.AcceptedRequest
Purpose: Requests that are made or built of mappings as there can be, in which no two keys are
  equal: their own tags are such a mapping.
Main exports: Value.WellKeyed, Value.wellKeyed_entries, Request.Accepted,
  Request.Accepted.wellKeyed, Request.Accepted.obtained, Request.WellFormed.accepted
-/
import TraceFilter.Proofs.KeyedEntries
import TraceFilter.Proofs.MemberInvariants
import TraceFilter.Proofs.ObtainedRequest

namespace TraceFilter

/-- If a value is a mapping, then it has well-chosen keys. -/
def Value.WellKeyed (value : Value) : Prop :=
  ∀ entries : Entries, value = .mapping entries → entries.WellKeyed

theorem Value.wellKeyed_mapping {entries : Entries} :
    (Value.mapping entries).WellKeyed ↔ entries.WellKeyed := by
  simp [Value.WellKeyed]

theorem Value.wellKeyed_of_kind_ne {value : Value} (other : value.kind ≠ .mapping) :
    value.WellKeyed := by
  intro entries isMapping
  cases isMapping
  exact absurd rfl other

theorem Entries.wellKeyed_nil : Entries.WellKeyed [] :=
  ⟨nofun, .nil⟩

/-! ### Mappings that are put together -/

theorem Entries.WellKeyed.insert {entries after : Entries} {key value : Value}
    (keyed : entries.WellKeyed) (inserts : entries.insert key value = .ok after) :
    after.WellKeyed := by
  unfold Entries.insert at inserts
  split at inserts
  · next hashable =>
    cases inserts
    exact keyed.put hashable value
  · cases inserts

namespace Value

variable {value : Value} {entries after : Entries}

theorem wellKeyed_putItems {items : List Value} {index : Nat} (keyed : entries.WellKeyed)
    (gives : putItems index items entries = .ok after) : after.WellKeyed := by
  induction items generalizing index entries with
  | nil =>
    cases gives
    exact keyed
  | cons item rest ih =>
    simp only [putItems, bind_eq_ok_iff] at gives
    obtain ⟨_, _, _, inserts, gives⟩ := gives
    exact ih (keyed.insert inserts) gives

/-- A mapping that is made of a value has well-chosen keys, be they its own or its items'. -/
theorem wellKeyed_entries (keyed : value.WellKeyed) (gives : value.entries = .ok entries) :
    entries.WellKeyed := by
  cases value with
  | mapping own =>
    cases gives
    exact keyed entries rfl
  | null | bool | int | float | text | list =>
    obtain ⟨items, _, gives⟩ := bind_eq_ok_iff.1 gives
    exact wellKeyed_putItems Entries.wellKeyed_nil gives

theorem wellKeyed_tagEntries (keyed : value.WellKeyed) (gives : value.tagEntries = .ok entries) :
    entries.WellKeyed := by
  unfold tagEntries at gives
  split at gives
  · exact wellKeyed_entries keyed gives
  · cases gives
    exact Entries.wellKeyed_nil

end Value

/-! ### Accepted requests -/

/-- A request is accepted when it is made from fields or built from a draft, which may be opened,
and the mappings among what it is made from have well-chosen keys. -/
inductive Request.Accepted (request : Request) : Prop where
  | made (given : List (String × Value)) (keyed : ∀ field ∈ given, field.2.WellKeyed)
      (gives : Request.ofFields given = .ok request)
  | built (draft : Draft) (surroundings : Surroundings) (keyed : draft.tags.WellKeyed)
      (gives : (draft.build surroundings).result = .ok request)
  | builtOpened (draft : OpenedDraft) (surroundings : Surroundings)
      (keyed : ∀ member ∈ draft.members, member.2.WellKeyed)
      (gives : (draft.build surroundings).result = .ok request)

/-- Of mappings as there can be, all fields of a request that are mappings are such. -/
theorem Request.wellKeyed_field {given : List (String × Value)} {field : String → Value}
    (keyed : ∀ field ∈ given, field.2.WellKeyed)
    (binds : fieldSignature.bind [.null] given = .ok field) (name : String) :
    (field name).WellKeyed := by
  have absent : Value.null.WellKeyed := Value.wellKeyed_of_kind_ne Kind.noConfusion
  apply Signature.holds_of_bind absent _ _ keyed binds
  · simp [fieldSignature, Signature.parameters, Parameter.required, Value.WellKeyed,
      Entries.wellKeyed_nil]
  · simp [Value.WellKeyed]

theorem Candidate.wellKeyed_ofFields {given : List (String × Value)} {candidate : Candidate}
    (keyed : ∀ field ∈ given, field.2.WellKeyed) (proposes : ofFields given = .ok candidate) :
    candidate.tags.WellKeyed ∧ candidate.minDuration.WellKeyed ∧
      candidate.maxDuration.WellKeyed := by
  simp only [ofFields, bind_eq_ok_iff, mapError_eq_ok_iff] at proposes
  obtain ⟨field, binds, annotations, _, tags, gives, proposed⟩ := proposes
  cases proposed
  have reached := Request.wellKeyed_field keyed binds
  exact ⟨Value.wellKeyed_tagEntries (reached _) gives, reached _, reached _⟩

theorem OpenedDraft.wellKeyed_read {draft : OpenedDraft} {name : String} {value : Value}
    (keyed : ∀ member ∈ draft.members, member.2.WellKeyed) (reads : draft.read name = .ok value) :
    value.WellKeyed := by
  unfold read at reads
  split at reads
  · next found =>
    cases reads
    exact keyed (name, value) (mem_of_lookup found)
  · cases reads

theorem OpenedDraft.wellKeyed_shape {draft : OpenedDraft}
    (keyed : ∀ member ∈ draft.members, member.2.WellKeyed) : draft.shape.tags.WellKeyed := by
  show (draft.tags.toOption.getD []).WellKeyed
  cases read : draft.tags with
  | error fault => exact Entries.wellKeyed_nil
  | ok tags =>
    obtain ⟨value, found, gives⟩ := bind_eq_ok_iff.1 read
    exact Value.wellKeyed_entries (wellKeyed_read keyed found) gives

namespace Request

variable {request : Request}

theorem Accepted.obtained (accepted : request.Accepted) : request.Obtained := by
  cases accepted with
  | made given keyed gives => exact .made given gives
  | built draft surroundings keyed gives => exact .built (.ofDraft draft surroundings gives)
  | builtOpened draft surroundings keyed gives => exact .built (.ofOpened draft surroundings gives)

/-- No two tags of an accepted request have equal keys. -/
theorem Accepted.wellKeyed (accepted : request.Accepted) : request.tags.WellKeyed := by
  cases accepted with
  | made given keyed gives =>
    obtain ⟨candidate, proposes, accepted⟩ := bind_eq_ok_iff.1 gives
    obtain ⟨_, becomes⟩ := Candidate.accept_eq_ok_iff.1 accepted
    rw [becomes.tags]
    exact (Candidate.wellKeyed_ofFields keyed proposes).1
  | built draft surroundings keyed gives =>
    obtain ⟨_, _, _, _, _, accepted⟩ := Draft.accepted_of_buildWhere gives
    obtain ⟨_, becomes⟩ := Candidate.accept_eq_ok_iff.1 accepted
    rw [becomes.tags]
    exact keyed
  | builtOpened draft surroundings keyed gives =>
    obtain ⟨_, _, _, _, _, accepted⟩ := Draft.accepted_of_buildWhere gives
    obtain ⟨_, becomes⟩ := Candidate.accept_eq_ok_iff.1 accepted
    rw [becomes.tags]
    exact OpenedDraft.wellKeyed_shape keyed

/-- Every well-formed request whose mappings have well-chosen keys is accepted. -/
theorem WellFormed.accepted (wellFormed : request.WellFormed) (tags : request.tags.WellKeyed)
    (minDuration : request.minDuration.WellKeyed) (maxDuration : request.maxDuration.WellKeyed) :
    request.Accepted := by
  apply Accepted.made request.stored.fields
  · have spanName : (Value.ofText? request.spanName).WellKeyed := by
      cases request.spanName <;> exact Value.wellKeyed_of_kind_ne Kind.noConfusion
    have text (characters : String) : (Value.text characters).WellKeyed :=
      Value.wellKeyed_of_kind_ne Kind.noConfusion
    have list (items : List Value) : (Value.list items).WellKeyed :=
      Value.wellKeyed_of_kind_ne Kind.noConfusion
    have int (number : Int) : (Value.int number).WellKeyed :=
      Value.wellKeyed_of_kind_ne Kind.noConfusion
    simp only [Candidate.fields, List.forall_mem_cons]
    exact ⟨text _, spanName, list _, Value.wellKeyed_mapping.2 tags, minDuration, maxDuration,
      int _, int _, int _, List.forall_mem_nil _⟩
  · rw [Candidate.request_ofFields_fields, wellFormed.accept_stored]

end Request

end TraceFilter
