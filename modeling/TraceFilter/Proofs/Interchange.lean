/-
Module: TraceFilter.Proofs.Interchange
Purpose: Equal requests can stand in for each other: they have the same window, and drafts that
  start from them and undergo the same changes are built with the same end.
Main exports: Value.hasNoFloat, Value.readOptionalBound_of_same, Draft.Interchangeable,
  Draft.Interchangeable.apply, Draft.Interchangeable.run, Draft.Interchangeable.build,
  Request.equal_requests_interchange
-/
import TraceFilter.Proofs.AlikeCandidates
import TraceFilter.Proofs.ArgumentTypes
import TraceFilter.Proofs.WindowBounds

namespace TraceFilter

/-! ### Values without doubles -/

/-- Whether no double stands inside a value, at any depth. -/
def Value.hasNoFloat (value : Value) : Bool :=
  value.every fun leaf => leaf.kind != .float

/-- Whether no double stands inside a request. -/
def Request.hasNoFloat (request : Request) : Bool :=
  (Value.list request.annotations).hasNoFloat && (Value.mapping request.tags).hasNoFloat
    && request.minDuration.hasNoFloat && request.maxDuration.hasNoFloat

/-! ### Windows -/

namespace Value

/-- A number that is no double is read as the integer that it amounts to. -/
theorem readOptionalBound_of_quantity {value : Value} {place : Quantity}
    (noFloat : value.hasNoFloat = true) (placed : value.quantity? = some place) :
    ∃ number, place = .ofInt number ∧ Window.readOptionalBound value = .ok (some number) := by
  cases value with
  | bool truth =>
    cases placed
    exact ⟨truth.toInt, rfl, rfl⟩
  | int number =>
    cases placed
    exact ⟨number, rfl, rfl⟩
  | float number identity => cases noFloat
  | null | text | list | mapping => cases placed

/-- Equal values without doubles are read as the same bound, or refused for the same reason. -/
theorem readOptionalBound_of_same {left right : Value} (equal : left.same right = true)
    (noFloat : left.hasNoFloat = true) (noFloatRight : right.hasNoFloat = true) :
    Window.readOptionalBound left = Window.readOptionalBound right := by
  rw [same_iff_equalAs] at equal
  cases equal with
  | double => rfl
  | number place _ first second =>
    obtain ⟨number, rfl, reading⟩ := readOptionalBound_of_quantity noFloat first
    obtain ⟨other, places, readingRight⟩ := readOptionalBound_of_quantity noFloatRight second
    rw [reading, readingRight, Quantity.ofInt_inj.1 places]
  | null | text | list | mapping => rfl

end Value

/-- A request has a window, or some of its fields are reported as faulty. -/
theorem Window.ofRequest_ok_or_invalid (request : Request) :
    (∃ window, ofRequest request = .ok window) ∨
      ∃ report, ofRequest request = .error (.invalidFields report) := by
  rw [ofRequest_eq]
  split
  · exact .inl ⟨_, rfl⟩
  · exact .inr ⟨_, rfl⟩

/-- Requests that match and hold no doubles have the same window, or none for the same reasons. -/
theorem Request.Matches.window_eq {left right : Request} (matching : left.Matches right)
    (noFloat : left.hasNoFloat = true) (noFloatRight : right.hasNoFloat = true) :
    Window.ofRequest left = Window.ofRequest right := by
  simp only [hasNoFloat, Bool.and_eq_true] at noFloat noFloatRight
  have minDuration := Value.readOptionalBound_of_same matching.minDuration noFloat.1.2
    noFloatRight.1.2
  have maxDuration := Value.readOptionalBound_of_same matching.maxDuration noFloat.2 noFloatRight.2
  rw [Window.ofRequest_eq, Window.ofRequest_eq, matching.endTs, matching.lookback, minDuration,
    maxDuration]

/-! ### Interchangeable drafts -/

/-- A change is plain when the key and the value of a tag that it adds can be members of a set. -/
def Edit.Plain : Edit → Prop
  | .addTag key value => key.isHashable = true ∧ value.isHashable = true
  | _ => True

namespace Entries

variable {entries : Entries}

theorem plain_nil : Plain [] :=
  { wellKeyed_nil with valuesHashable := nofun }

theorem Plain.put {key value : Value} (plain : entries.Plain) (keyHashable : key.isHashable = true)
    (valueHashable : value.isHashable = true) : (entries.put key value).Plain := by
  refine { plain.toWellKeyed.put keyHashable value with valuesHashable := ?_ }
  have each := @forall_mem_put entries key value (fun _ => True) (·.isHashable = true)
    (fun entry member => ⟨trivial, plain.valuesHashable entry member⟩) trivial valueHashable
  exact fun entry member => (each entry member).2

end Entries

namespace Draft

/-- Two drafts are interchangeable when their parts are alike and their tags can be compared. -/
structure Interchangeable (left right : Draft) : Prop where
  alike : left.proposal.Alike right.proposal
  plain : left.tags.Plain
  plainRight : right.tags.Plain

namespace Interchangeable

variable {left right : Draft}

theorem empty : Interchangeable .empty .empty where
  alike :=
    { serviceName := rfl, spanName := rfl, annotations := .nil, tags := fun _ => .none
      minDuration := rfl, maxDuration := rfl, endTs := rfl, lookback := rfl, limit := rfl }
  plain := Entries.plain_nil
  plainRight := Entries.plain_nil

/-- Setting a field of both to the same value keeps drafts interchangeable. -/
theorem set (related : left.Interchangeable right) (field : Scalar) (value : Value) :
    (left.set field value).Interchangeable (right.set field value) := by
  obtain ⟨alike, plain, plainRight⟩ := related
  cases field with
  | serviceName => exact ⟨{ alike with serviceName := rfl }, plain, plainRight⟩
  | spanName => exact ⟨{ alike with spanName := rfl }, plain, plainRight⟩
  | minDuration => exact ⟨{ alike with minDuration := Value.same_self value }, plain, plainRight⟩
  | maxDuration => exact ⟨{ alike with maxDuration := Value.same_self value }, plain, plainRight⟩
  | endTs => exact ⟨{ alike with endTs := rfl }, plain, plainRight⟩
  | lookback => exact ⟨{ alike with lookback := rfl }, plain, plainRight⟩
  | limit => exact ⟨{ alike with limit := rfl }, plain, plainRight⟩

/-- A plain change can be applied to both of two interchangeable drafts, and they stay so. -/
theorem apply (related : left.Interchangeable right) {edit : Edit} (plainEdit : edit.Plain) :
    ∃ after other, left.apply edit = .ok after ∧ right.apply edit = .ok other ∧
      after.Interchangeable other := by
  obtain ⟨alike, plain, plainRight⟩ := related
  cases edit with
  | set field value =>
    exact ⟨_, _, rfl, rfl, set ⟨alike, plain, plainRight⟩ field value⟩
  | annotate note =>
    refine ⟨_, _, rfl, rfl, ?_, plain, plainRight⟩
    have last : List.Forall₂ (fun note other => note.same other = true) [note] [note] :=
      .cons (Value.same_self note) .nil
    exact { alike with annotations := List.rel_append alike.annotations last }
  | addTag key value =>
    have inserts (tags : Entries) : tags.insert key value = .ok (tags.put key value) :=
      if_pos plainEdit.1
    refine ⟨{ left with tags := left.tags.put key value },
      { right with tags := right.tags.put key value }, ?_, ?_, ?_⟩
    · rw [Draft.apply, inserts]
      rfl
    · rw [Draft.apply, inserts]
      rfl
    · have tags := alike.tags.put key value
      exact ⟨{ alike with tags }, plain.put plainEdit.1 plainEdit.2,
        plainRight.put plainEdit.1 plainEdit.2⟩
  | clear => exact ⟨_, _, rfl, rfl, empty⟩

/-- Interchangeable drafts stay so under any sequence of plain changes. -/
theorem run (related : left.Interchangeable right) {edits : List Edit}
    (plainEdits : ∀ edit ∈ edits, edit.Plain) :
    ∃ after other, edits.foldlM Draft.apply left = .ok after ∧
      edits.foldlM Draft.apply right = .ok other ∧ after.Interchangeable other := by
  induction edits generalizing left right with
  | nil => exact ⟨left, right, rfl, rfl, related⟩
  | cons edit rest ih =>
    rw [List.forall_mem_cons] at plainEdits
    obtain ⟨between, betweenRight, first, second, still⟩ := related.apply plainEdits.1
    obtain ⟨after, other, later, laterRight, related⟩ := ih still plainEdits.2
    refine ⟨after, other, ?_, ?_, related⟩
    · rw [List.foldlM_cons, first, ok_bind, later]
    · rw [List.foldlM_cons, second, ok_bind, laterRight]

/-- Interchangeable drafts are built with the same end, in whatever surroundings. -/
theorem build (related : left.Interchangeable right) (surroundings : Surroundings) :
    SameEnd (left.build surroundings).result (right.build surroundings).result := by
  obtain ⟨alike, plain, plainRight⟩ := related
  have atEnd : left.endTs = right.endTs := alike.endTs
  have reaches : left.lookback = right.lookback := alike.lookback
  have limited : left.limit = right.limit := alike.limit
  rw [result_build, result_build]
  -- Up to the checks a build reads the three bounds only, and these are the same in both drafts.
  simp only [settings, needsSettings, endTsOr, lookbackOr, limitOr, atEnd, reaches, limited]
  apply SameEnd.bind
  intro settings
  apply SameEnd.bind
  intro endTs
  apply SameEnd.bind
  intro lookback
  apply Candidate.Alike.built _ plain plainRight
  exact { alike with endTs := rfl, lookback := rfl, limit := rfl }

end Interchangeable

end Draft

namespace Request

variable {left right : Request}

theorem Matches.interchangeable (matching : left.Matches right) (plain : left.tags.Plain)
    (plainRight : right.tags.Plain) :
    (Draft.ofRequest left).Interchangeable (Draft.ofRequest right) where
  alike :=
    { serviceName := congrArg Value.text matching.serviceName
      spanName := congrArg Value.ofText? matching.spanName
      annotations := matching.annotations
      tags := matching.tags
      minDuration := matching.minDuration
      maxDuration := matching.maxDuration
      endTs := congrArg Value.int matching.endTs
      lookback := congrArg Value.int matching.lookback
      limit := congrArg Value.int matching.limit }
  plain := plain
  plainRight := plainRight

/-- Accepted requests without doubles that are equal can stand in for each other. They have the same
window, or none because of the same faulty fields. And whatever plain changes are made to drafts
that start from them, none of these fails, and in all surroundings the drafts are built with the
same end. -/
theorem equal_requests_interchange (accepted : left.Accepted) (acceptedRight : right.Accepted)
    (noFloat : left.hasNoFloat = true) (noFloatRight : right.hasNoFloat = true)
    (equal : left.equals right = .ok true) :
    ((∃ window, Window.ofRequest left = .ok window ∧ Window.ofRequest right = .ok window) ∨
      ∃ report, Window.ofRequest left = .error (.invalidFields report) ∧
        Window.ofRequest right = .error (.invalidFields report)) ∧
    ∀ edits : List Edit, (∀ edit ∈ edits, edit.Plain) →
      ∃ draft other, edits.foldlM Draft.apply (Draft.ofRequest left) = .ok draft ∧
        edits.foldlM Draft.apply (Draft.ofRequest right) = .ok other ∧
        ∀ surroundings,
          SameEnd (draft.build surroundings).result (other.build surroundings).result := by
  obtain ⟨comparable, fields⟩ := equals_eq_ok_iff.1 equal
  have plain : left.tags.Plain :=
    { accepted.wellKeyed with
      valuesHashable := comparisonFault?_eq_none_iff.1 comparable.1 }
  have plainRight : right.tags.Plain :=
    { acceptedRight.wellKeyed with
      valuesHashable := comparisonFault?_eq_none_iff.1 comparable.2 }
  have matching := (sameFields_iff plain.toWellKeyed plainRight.toWellKeyed).1 fields
  constructor
  · rw [matching.window_eq noFloat noFloatRight]
    rcases Window.ofRequest_ok_or_invalid right with ⟨window, made⟩ | ⟨report, failed⟩
    · exact .inl ⟨window, made, made⟩
    · exact .inr ⟨report, failed, failed⟩
  · intro edits plainEdits
    obtain ⟨draft, other, first, second, related⟩ :=
      (matching.interchangeable plain plainRight).run plainEdits
    exact ⟨draft, other, first, second, related.build⟩

/-- One request has the truth where the other has the number one, as the key of a tag and as a
bound. A tag under the number one replaces the same tag in both, at different places. -/
theorem equal_requests_interchange_reordered :
    let request (tags : Entries) (minDuration : Value) : Request :=
      { serviceName := "api", spanName := none, annotations := [], tags, minDuration
        maxDuration := .null, endTs := 5, lookback := 5, limit := 1 }
    let left := request [(.bool true, .text "a"), (.text "cache", .int 1)] (.bool true)
    let right := request [(.text "cache", .bool true), (.int 1, .text "a")] (.int 1)
    let edits : List Edit := [.addTag (.int 1) (.text "b"), .annotate (.text "slow"),
      .set .limit .null]
    left.Accepted ∧ right.Accepted ∧ left.equals right = .ok true ∧
      (∃ window, Window.ofRequest left = .ok window ∧ Window.ofRequest right = .ok window) ∧
      ∃ draft other, edits.foldlM Draft.apply (Draft.ofRequest left) = .ok draft ∧
        edits.foldlM Draft.apply (Draft.ofRequest right) = .ok other ∧
        ∀ surroundings,
          SameEnd (draft.build surroundings).result (other.build surroundings).result := by
  intro request left right edits
  have lowered : Text.lower "api" = "api" := by decide +kernel
  have wellFormed (tags : Entries) (minDuration : Value)
      (given : ∀ tag ∈ tags, tag.1.truthy = true ∧ tag.2.truthy = true) :
      (request tags minDuration).WellFormed :=
    { serviceName := ⟨by simp [request], lowered⟩, spanName := nofun, annotations := nofun
      tags := given, maxDuration := .inl rfl, endTs := by simp [request]
      lookback := by simp [request], limit := by simp [request] }
  have accepted : left.Accepted :=
    (wellFormed left.tags (.bool true) (by decide +kernel)).accepted ⟨by decide, by decide⟩ nofun
      nofun
  have acceptedRight : right.Accepted :=
    (wellFormed right.tags (.int 1) (by decide +kernel)).accepted ⟨by decide, by decide⟩ nofun
      nofun
  have fields : left.sameFields right = true := by decide +kernel
  have equal : left.equals right = .ok true := equals_eq_ok_iff.2 ⟨⟨rfl, rfl⟩, fields⟩
  have plainEdits : ∀ edit ∈ edits, edit.Plain := by
    simp [edits, Edit.Plain, Value.isHashable]
  have interchange := equal_requests_interchange accepted acceptedRight rfl rfl equal
  exact ⟨accepted, acceptedRight, equal, ⟨_, rfl, rfl⟩, interchange.2 edits plainEdits⟩

end Request

end TraceFilter
