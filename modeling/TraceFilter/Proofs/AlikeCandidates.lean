/-
Module: TraceFilter.Proofs.AlikeCandidates
Purpose: Candidates that differ only in how equal values are written and in the order of their tags
  come to the same end: equal requests, or faults of one kind about the same field.
Main exports: Breach.blamed, Candidate.Alike, Candidate.Alike.mapError_blamed_check, SameEnd,
  Candidate.Alike.accept, Candidate.Alike.built
-/
import TraceFilter.Proofs.BuildOutcome
import TraceFilter.Proofs.RequestEquality

namespace TraceFilter

theorem mapError_bind {ε ε' α β : Type} (rename : ε → ε') (first : Except ε α)
    (next : α → Except ε β) : (first >>= next).mapError rename =
      first.mapError rename >>= fun value => (next value).mapError rename := by
  cases first <;> rfl

/-- A mapping is plain when its keys are well chosen and all its values can be members of a set. -/
structure Entries.Plain (entries : Entries) : Prop extends entries.WellKeyed where
  valuesHashable : ∀ entry ∈ entries, entry.2.isHashable = true

/-! ### What a breach is blamed on -/

namespace Breach

/-- The field that a breach is blamed on, unless what is said about it cannot be written. -/
def blamed (breach : Breach) : Except Fault String :=
  (breach.rule.complaint breach.value).map fun _ => breach.rule.field

/-- Equal values are blamed alike for breaking a rule. -/
theorem blamed_eq_of_same (rule : Rule) {value other : Value} (equal : value.same other = true) :
    blamed ⟨rule, value⟩ = blamed ⟨rule, other⟩ := by
  have writable := Value.isWritable_eq_of_same equal
  cases rule with
  | serviceNameGiven | spanNameNotEmpty | annotationGiven | tagKeyGiven | tagValueGiven => rfl
  | endTsPositive | limitPositive | maxDurationNeedsMin | lookbackNotNegative =>
    simp only [blamed, Rule.complaint, Value.plain, Value.ifWritable, writable]
    split <;> rfl

end Breach

namespace Candidate

/-- Two candidates are alike when their names and bounds are the same, their bounds on durations are
equal, their annotations are equal one by one, and the same keys of their tags have equal values. -/
structure Alike (left right : Candidate) : Prop where
  serviceName : left.serviceName = right.serviceName
  spanName : left.spanName = right.spanName
  annotations : List.Forall₂ (fun note other => note.same other = true)
    left.annotations right.annotations
  tags : left.tags.Agrees right.tags
  minDuration : left.minDuration.same right.minDuration = true
  maxDuration : left.maxDuration.same right.maxDuration = true
  endTs : left.endTs = right.endTs
  lookback : left.lookback = right.lookback
  limit : left.limit = right.limit

/-! ### The checks up to the value that is blamed -/

theorem mapError_demand (rule : Rule) (value : Value) (met : Bool) :
    (rule.demand value met).mapError Breach.blamed =
      if met then .ok () else .error (Breach.blamed ⟨rule, value⟩) := by
  cases met <;> rfl

theorem checkAnnotations_of_same {notes others : List Value}
    (equal : List.Forall₂ (fun note other => note.same other = true) notes others) :
    (checkAnnotations notes).mapError Breach.blamed =
      (checkAnnotations others).mapError Breach.blamed := by
  induction equal with
  | nil => rfl
  | cons first _ ih =>
    rw [checkAnnotations, checkAnnotations, mapError_bind, mapError_bind, mapError_demand,
      mapError_demand, Value.truthy_eq_of_same first, Breach.blamed_eq_of_same _ first, ih]

/-- Whichever tag is at fault, and in its key or in its value, the same field is blamed. -/
theorem mapError_checkTags (tags : Entries) :
    (checkTags tags).mapError Breach.blamed =
      if tags.all fun tag => tag.1.truthy && tag.2.truthy then .ok ()
      else .error (.ok "binary_annotations") := by
  induction tags with
  | nil => rfl
  | cons tag rest ih =>
    obtain ⟨key, value⟩ := tag
    rw [checkTags, mapError_bind, mapError_bind, mapError_demand, mapError_demand, ih,
      List.all_cons]
    dsimp only
    cases key.truthy <;> cases value.truthy <;> rfl

theorem all_truthy_of_agrees {tags others : Entries} (agree : tags.Agrees others)
    (keyed : others.WellKeyed) (given : (tags.all fun tag => tag.1.truthy && tag.2.truthy) = true) :
    (others.all fun tag => tag.1.truthy && tag.2.truthy) = true := by
  rw [List.all_eq_true] at given ⊢
  intro other member
  obtain ⟨tag, own, keys, values⟩ := agree.symm.exists_of_mem keyed member
  rw [Value.truthy_eq_of_same keys, Value.truthy_eq_of_same values]
  exact given tag own

theorem checkTags_of_agrees {tags others : Entries} (agree : tags.Agrees others)
    (keyed : tags.WellKeyed) (keyedOthers : others.WellKeyed) :
    (checkTags tags).mapError Breach.blamed = (checkTags others).mapError Breach.blamed := by
  have given : (tags.all fun tag => tag.1.truthy && tag.2.truthy) =
      others.all fun tag => tag.1.truthy && tag.2.truthy := by
    rw [Bool.eq_iff_iff]
    exact ⟨all_truthy_of_agrees agree keyedOthers, all_truthy_of_agrees agree.symm keyed⟩
  rw [mapError_checkTags, mapError_checkTags, given]

variable {left right : Candidate}

/-- Alike candidates pass the checks with the same bounds, or are blamed alike for failing them. -/
theorem Alike.mapError_blamed_check (alike : left.Alike right) (keyed : left.tags.WellKeyed)
    (keyedRight : right.tags.WellKeyed) :
    left.check.mapError Breach.blamed = right.check.mapError Breach.blamed := by
  have notes := checkAnnotations_of_same alike.annotations
  have tags := checkTags_of_agrees alike.tags keyed keyedRight
  have minDuration := Value.isNull_eq_of_same alike.minDuration
  have maxDuration := Value.isNull_eq_of_same alike.maxDuration
  have blamed := Breach.blamed_eq_of_same .maxDurationNeedsMin alike.maxDuration
  simp only [check, mapError_bind, mapError_demand, alike.serviceName, alike.spanName,
    alike.endTs, alike.limit, alike.lookback, notes, tags, minDuration, maxDuration, blamed]

/-- Of two alike candidates either both can be written or neither. -/
theorem Alike.isWritable_iff (alike : left.Alike right) (keyed : left.tags.WellKeyed)
    (keyedRight : right.tags.WellKeyed) : left.IsWritable ↔ right.IsWritable := by
  have sameNotes : (Value.list left.annotations).same (.list right.annotations) = true :=
    Value.sameItems_iff.2 alike.annotations
  have sameTags : (Value.mapping left.tags).same (.mapping right.tags) = true :=
    (Entries.same_iff_agrees keyed keyedRight).2 alike.tags
  simp only [IsWritable, fields, List.forall_mem_cons, alike.serviceName, alike.spanName,
    alike.endTs, alike.lookback, alike.limit, Value.isWritable_eq_of_same sameNotes,
    Value.isWritable_eq_of_same sameTags, Value.isWritable_eq_of_same alike.minDuration,
    Value.isWritable_eq_of_same alike.maxDuration]

end Candidate

/-! ### The ends that alike candidates come to -/

/-- Two attempts at a request come to the same end when both give requests, which are equal, or both
are rejected for the same field, or both fail with the same fault. -/
inductive SameEnd : Except Fault Request → Except Fault Request → Prop where
  | given {request other : Request} (equal : request.equals other = .ok true) :
      SameEnd (.ok request) (.ok other)
  | rejected {violation other : Violation} (field : violation.field = other.field) :
      SameEnd (.error (.invalidArgument violation)) (.error (.invalidArgument other))
  | failed (fault : Fault) : SameEnd (.error fault) (.error fault)

namespace SameEnd

/-- Attempts that begin with the same step come to the same end if they do after that step. -/
theorem bind {α : Type} (first : Except Fault α) {next other : α → Except Fault Request}
    (later : ∀ value, SameEnd (next value) (other value)) :
    SameEnd (first >>= next) (first >>= other) := by
  cases first with
  | error fault => exact .failed fault
  | ok value => exact later value

/-- Attempts that came to the same end still do after a step that requests which were given pass or
fail together. -/
theorem bind_of_given {first second : Except Fault Request} (ends : SameEnd first second)
    {next : Request → Except Fault Request}
    (later : ∀ request other, first = .ok request → second = .ok other →
      request.equals other = .ok true → SameEnd (next request) (next other)) :
    SameEnd (first >>= next) (second >>= next) := by
  cases ends with
  | given equal => exact later _ _ rfl rfl equal
  | rejected field => exact .rejected field
  | failed fault => exact .failed fault

/-- Breaches that are blamed alike end an attempt in the same way. -/
theorem of_blamed {breach other : Breach} (same : breach.blamed = other.blamed) :
    SameEnd (.error breach.fault) (.error other.fault) := by
  unfold Breach.blamed at same
  unfold Breach.fault
  cases said : breach.rule.complaint breach.value with
  | ok message =>
    cases saidOther : other.rule.complaint other.value with
    | ok messageOther =>
      rw [said, saidOther] at same
      exact .rejected (Except.ok.inj same)
    | error fault =>
      rw [said, saidOther] at same
      cases same
  | error fault =>
    cases saidOther : other.rule.complaint other.value with
    | ok messageOther =>
      rw [said, saidOther] at same
      cases same
    | error faultOther =>
      rw [said, saidOther] at same
      cases same
      exact .failed fault

end SameEnd

theorem Request.equals_of_matches {left right : Request} (plain : left.tags.Plain)
    (plainRight : right.tags.Plain) (matching : left.Matches right) :
    left.equals right = .ok true := by
  apply equals_eq_ok_iff.2
  constructor
  · exact ⟨comparisonFault?_eq_none_iff.2 plain.valuesHashable,
      comparisonFault?_eq_none_iff.2 plainRight.valuesHashable⟩
  · exact (sameFields_iff plain.toWellKeyed plainRight.toWellKeyed).2 matching

namespace Candidate.Alike

variable {left right : Candidate}

theorem accept (alike : left.Alike right) (plain : left.tags.Plain)
    (plainRight : right.tags.Plain) : SameEnd left.accept right.accept := by
  have checks := alike.mapError_blamed_check plain.toWellKeyed plainRight.toWellKeyed
  unfold Candidate.accept
  cases first : left.check with
  | error breach =>
    cases second : right.check with
    | ok bounds =>
      rw [first, second] at checks
      cases checks
    | error other =>
      rw [first, second] at checks
      exact .of_blamed (Except.error.inj checks)
  -- With the checks passed, only the lower-casing of the names can fail, and they are the same.
  | ok bounds =>
    rw [first] at checks
    rw [mapError_eq_ok_iff.1 checks.symm, alike.serviceName, alike.spanName]
    cases lowerName right.serviceName with
    | error fault => exact .failed fault
    | ok serviceName =>
      cases lowerOptionalName right.spanName with
      | error fault => exact .failed fault
      | ok spanName =>
        apply SameEnd.given
        apply Request.equals_of_matches plain plainRight
        exact
          { serviceName := rfl
            spanName := rfl
            minDuration := alike.minDuration
            maxDuration := alike.maxDuration
            endTs := rfl
            lookback := rfl
            limit := rfl
            annotations := alike.annotations
            tags := alike.tags }

/-- Builds of alike candidates come to the same end: the same is recorded of both, and their
requests can both be written or both not. -/
theorem built (alike : left.Alike right) (plain : left.tags.Plain)
    (plainRight : right.tags.Plain) (threshold : Level) :
    SameEnd (left.built threshold) (right.built threshold) := by
  have shown : left.callArguments = right.callArguments := by
    simp only [callArguments, alike.serviceName, alike.endTs, alike.lookback, alike.limit]
  rw [Candidate.built, Candidate.built, recorded, recorded, shown]
  apply SameEnd.bind
  intro _
  apply (alike.accept plain plainRight).bind_of_given
  intro request other made madeOther equal
  have writable : request.isWritable = other.isWritable := by
    rw [Bool.eq_iff_iff, (accept_eq_ok_iff.1 made).2.isWritable_iff,
      (accept_eq_ok_iff.1 madeOther).2.isWritable_iff]
    exact alike.isWritable_iff plain.toWellKeyed plainRight.toWellKeyed
  rw [Request.written, Request.written, writable]
  split
  · exact .given equal
  · exact .failed .tooLong

end Candidate.Alike

end TraceFilter
