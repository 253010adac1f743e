/-
Module: TraceFilter.Proofs.FirstViolation
Purpose: The rules of a request said on their own, as an ordered list of what is asked of which
  value and of what is reported when it is not met, and the proof that making a request reports the
  first of them that is broken and fails otherwise only for a name that is no text.
Main exports: Breach.Reports, Breach.fault_eq_invalidArgument_iff, Candidate.Meets,
  Candidate.possibleBreaches, BreachScan, Candidate.Becomes, Candidate.looksFor_check,
  Candidate.accept_eq_ok_iff, Candidate.accept_eq_error_iff, Candidate.first_violation_reported
-/
import TraceFilter.Proofs.WritableValues
import TraceFilter.Request.Validation

namespace TraceFilter

/-! ### What is reported of a breach -/

/-- What is reported of a breach: the message of its rule, the field that the rule is about, and the
value that breaks it. A message that tells the value needs its text. -/
inductive Breach.Reports : Breach → Violation → Prop where
  | serviceNameGiven (value : Value) :
      Reports ⟨.serviceNameGiven, value⟩ ⟨"service_name was empty", "service_name", value⟩
  | spanNameNotEmpty (value : Value) :
      Reports ⟨.spanNameNotEmpty, value⟩ ⟨"span_name was empty", "span_name", value⟩
  | endTsPositive {value : Value} {text : String} (written : value.plain = .ok text) :
      Reports ⟨.endTsPositive, value⟩
        ⟨"end_ts should be positive, in epoch milliseconds: was " ++ text, "end_ts", value⟩
  | limitPositive {value : Value} {text : String} (written : value.plain = .ok text) :
      Reports ⟨.limitPositive, value⟩ ⟨"limit should be positive: was " ++ text, "limit", value⟩
  | annotationGiven (value : Value) :
      Reports ⟨.annotationGiven, value⟩ ⟨"annotation was empty", "annotations", value⟩
  | tagKeyGiven (value : Value) :
      Reports ⟨.tagKeyGiven, value⟩ ⟨"binary annotation key was empty", "binary_annotations", value⟩
  | tagValueGiven (value : Value) :
      Reports ⟨.tagValueGiven, value⟩
        ⟨"binary annotation value was empty", "binary_annotations", value⟩
  | maxDurationNeedsMin {value : Value} {text : String} (written : value.plain = .ok text) :
      Reports ⟨.maxDurationNeedsMin, value⟩
        ⟨"max_duration requires min_duration: was " ++ text, "max_duration", value⟩
  | lookbackNotNegative {value : Value} {text : String} (written : value.plain = .ok text) :
      Reports ⟨.lookbackNotNegative, value⟩
        ⟨"lookback should not be negative: was " ++ text, "lookback", value⟩

namespace Breach

variable {breach : Breach} {violation : Violation}

theorem fault_of_complaint {message : String}
    (said : breach.rule.complaint breach.value = .ok message) :
    breach.fault = .invalidArgument ⟨message, breach.rule.field, breach.value⟩ := by
  rw [fault, said]

theorem Reports.fault_eq (reports : breach.Reports violation) :
    breach.fault = .invalidArgument violation := by
  cases reports with
  | serviceNameGiven | spanNameNotEmpty | annotationGiven | tagKeyGiven | tagValueGiven => rfl
  | endTsPositive written | limitPositive written | maxDurationNeedsMin written
  | lookbackNotNegative written => exact fault_of_complaint (by rw [Rule.complaint, written]; rfl)

/-- A breach is reported under the field of its rule. -/
theorem Reports.field_eq (reports : breach.Reports violation) :
    violation.field = breach.rule.field := by
  cases reports <;> rfl

/-- Something is reported of every breach by a value that can be written. -/
theorem exists_reports (writable : breach.value.isWritable = true) :
    ∃ violation, breach.Reports violation := by
  obtain ⟨rule, value⟩ := breach
  have written : value.plain = .ok value.bare := Value.ifWritable_of_writable writable value.bare
  cases rule with
  | serviceNameGiven => exact ⟨_, .serviceNameGiven value⟩
  | spanNameNotEmpty => exact ⟨_, .spanNameNotEmpty value⟩
  | endTsPositive => exact ⟨_, .endTsPositive written⟩
  | limitPositive => exact ⟨_, .limitPositive written⟩
  | annotationGiven => exact ⟨_, .annotationGiven value⟩
  | tagKeyGiven => exact ⟨_, .tagKeyGiven value⟩
  | tagValueGiven => exact ⟨_, .tagValueGiven value⟩
  | maxDurationNeedsMin => exact ⟨_, .maxDurationNeedsMin written⟩
  | lookbackNotNegative => exact ⟨_, .lookbackNotNegative written⟩

/-- A breach has no other fault than the violation that is reported of it, unless its value cannot
be written. -/
theorem reports_or_tooLong (breach : Breach) :
    (∃ violation, breach.Reports violation) ∨
      breach.value.isWritable = false ∧ breach.fault = .tooLong := by
  cases writable : breach.value.isWritable with
  | true => exact .inl (exists_reports writable)
  | false =>
    obtain ⟨rule, value⟩ := breach
    have long : value.plain = .error .tooLong := Value.ifWritable_of_long writable value.bare
    cases rule with
    | serviceNameGiven => exact .inl ⟨_, .serviceNameGiven value⟩
    | spanNameNotEmpty => exact .inl ⟨_, .spanNameNotEmpty value⟩
    | annotationGiven => exact .inl ⟨_, .annotationGiven value⟩
    | tagKeyGiven => exact .inl ⟨_, .tagKeyGiven value⟩
    | tagValueGiven => exact .inl ⟨_, .tagValueGiven value⟩
    | endTsPositive | limitPositive | maxDurationNeedsMin | lookbackNotNegative =>
      refine .inr ⟨rfl, ?_⟩
      simp only [fault, Rule.complaint, long, error_bind]

/-- The fault of a breach is the violation that is reported of it. -/
theorem fault_eq_invalidArgument_iff :
    breach.fault = .invalidArgument violation ↔ breach.Reports violation := by
  constructor
  · intro same
    rcases breach.reports_or_tooLong with ⟨reported, reports⟩ | ⟨_, tooLong⟩
    · rw [reports.fault_eq] at same
      cases same
      exact reports
    · rw [tooLong] at same
      cases same
  · exact Reports.fault_eq

end Breach

/-- What does not count as given can always be written. -/
theorem Value.isWritable_of_not_truthy {value : Value} (missing : ¬ value.truthy = true) :
    value.isWritable = true := by
  cases value with
  | null | bool | float | text => rfl
  | int number =>
    have zero : number = 0 := by simpa [truthy] using missing
    rw [isWritable_int, zero, Numeral.isWritable_zero]
  | list items =>
    cases items with
    | nil => rfl
    | cons => exact absurd rfl missing
  | mapping entries =>
    cases entries with
    | nil => rfl
    | cons => exact absurd rfl missing

/-! ### The rules as a list -/

namespace Candidate

/-- Whether a value meets a rule in a candidate. One rule looks at a second value. -/
def Meets (candidate : Candidate) : Rule → Value → Prop
  | .serviceNameGiven, value => value.truthy = true
  | .spanNameNotEmpty, value => value = .null ∨ value.truthy = true
  | .endTsPositive, value => ∃ number, value = .int number ∧ 0 < number
  | .limitPositive, value => ∃ number, value = .int number ∧ 0 < number
  | .annotationGiven, value => value.truthy = true
  | .tagKeyGiven, value => value.truthy = true
  | .tagValueGiven, value => value.truthy = true
  | .maxDurationNeedsMin, value => value = .null ∨ candidate.minDuration ≠ .null
  | .lookbackNotNegative, value => ∃ number, value = .int number ∧ 0 ≤ number

/-- Whether a possible breach does not occur. -/
def Avoids (candidate : Candidate) (possible : Breach) : Prop :=
  candidate.Meets possible.rule possible.value

/-- The possible breaches that are looked for before the lookback is. The key of a tag comes
before its value, and a tag before the next one. -/
def leadingBreaches (candidate : Candidate) : List Breach :=
  [⟨.serviceNameGiven, candidate.serviceName⟩, ⟨.spanNameNotEmpty, candidate.spanName⟩,
    ⟨.endTsPositive, candidate.endTs⟩, ⟨.limitPositive, candidate.limit⟩]
    ++ candidate.annotations.map (Breach.mk .annotationGiven)
    ++ candidate.tags.flatMap (fun tag => [⟨.tagKeyGiven, tag.1⟩, ⟨.tagValueGiven, tag.2⟩])
    ++ [⟨.maxDurationNeedsMin, candidate.maxDuration⟩]

/-- What a candidate without leading breaches looks like, field by field. -/
structure MeetsLeading (candidate : Candidate) : Prop where
  serviceName : candidate.serviceName.truthy = true
  spanName : candidate.spanName = .null ∨ candidate.spanName.truthy = true
  endTs : ∃ number, candidate.endTs = .int number ∧ 0 < number
  limit : ∃ number, candidate.limit = .int number ∧ 0 < number
  annotations : ∀ note ∈ candidate.annotations, note.truthy = true
  tags : ∀ tag ∈ candidate.tags, tag.1.truthy = true ∧ tag.2.truthy = true
  maxDuration : candidate.maxDuration = .null ∨ candidate.minDuration ≠ .null

theorem avoids_leading_iff {candidate : Candidate} :
    (∀ leading ∈ candidate.leadingBreaches, candidate.Avoids leading) ↔
      candidate.MeetsLeading := by
  simp only [leadingBreaches, List.forall_mem_append, List.forall_mem_cons, List.forall_mem_map,
    List.mem_flatMap, Avoids, Meets]
  constructor
  · rintro ⟨⟨⟨⟨serviceName, spanName, endTs, limit, _⟩, annotations⟩, tags⟩, maxDuration, _⟩
    refine ⟨serviceName, spanName, endTs, limit, annotations, fun tag member => ?_, maxDuration⟩
    exact ⟨tags ⟨.tagKeyGiven, tag.1⟩ ⟨tag, member, by simp⟩,
      tags ⟨.tagValueGiven, tag.2⟩ ⟨tag, member, by simp⟩⟩
  · rintro ⟨serviceName, spanName, endTs, limit, annotations, tags, maxDuration⟩
    refine ⟨⟨⟨⟨serviceName, spanName, endTs, limit, nofun⟩, annotations⟩, ?_⟩, maxDuration, nofun⟩
    rintro _ ⟨tag, member, possible⟩
    obtain ⟨keyGiven, valueGiven⟩ := tags tag member
    rcases List.mem_cons.1 possible with rfl | possible
    · exact keyGiven
    · rw [List.mem_singleton.1 possible]
      exact valueGiven

/-- All possible breaches of a candidate, in the order in which they are looked for. -/
def possibleBreaches (candidate : Candidate) : List Breach :=
  candidate.leadingBreaches ++ [⟨.lookbackNotNegative, candidate.lookback⟩]

end Candidate

/-- A scan of possible breaches from the first to the last: it gives the first that is not
avoided, or nothing when all are avoided. -/
inductive BreachScan (avoids : Breach → Prop) :
    List Breach → Option Breach → Prop where
  | exhausted : BreachScan avoids [] none
  | found (breach : Breach) (rest : List Breach) (broken : ¬ avoids breach) :
      BreachScan avoids (breach :: rest) (some breach)
  | passed (possible : Breach) (rest : List Breach) (outcome : Option Breach)
      (kept : avoids possible) (tail : BreachScan avoids rest outcome) :
      BreachScan avoids (possible :: rest) outcome

namespace BreachScan

variable {avoids : Breach → Prop} {leading trailing : List Breach}

/-- The scan cannot pick a later breach. -/
theorem deterministic {possible : List Breach} {first second : Option Breach}
    (one : BreachScan avoids possible first) (two : BreachScan avoids possible second) :
    first = second := by
  induction one with
  | exhausted =>
    cases two
    rfl
  | found breach rest broken =>
    cases two with
    | found _ _ _ => rfl
    | passed _ _ _ kept _ => exact absurd kept broken
  | passed possible rest outcome kept tail ih =>
    cases two with
    | found _ _ broken => exact absurd kept broken
    | passed _ _ _ _ otherTail => exact ih otherTail

/-- A scan comes to an end exactly when all possible breaches are avoided. -/
theorem none_iff {possible : List Breach} :
    BreachScan avoids possible none ↔ ∀ breach ∈ possible, avoids breach := by
  induction possible with
  | nil => exact ⟨fun _ _ member => absurd member List.not_mem_nil, fun _ => .exhausted⟩
  | cons first rest ih =>
    rw [List.forall_mem_cons, ← ih]
    constructor
    · intro scan
      cases scan with
      | passed _ _ _ kept tail => exact ⟨kept, tail⟩
    · rintro ⟨kept, tail⟩
      exact .passed first rest none kept tail

/-- What a scan finds is possible and not avoided. -/
theorem broken_of_some {possible : List Breach} {breach : Breach}
    (scan : BreachScan avoids possible (some breach)) :
    breach ∈ possible ∧ ¬ avoids breach := by
  induction possible with
  | nil => cases scan
  | cons first rest ih =>
    cases scan with
    | found _ _ broken => exact ⟨List.mem_cons_self, broken⟩
    | passed _ _ _ _ tail =>
      obtain ⟨member, broken⟩ := ih tail
      exact ⟨List.mem_cons_of_mem first member, broken⟩

/-- What is found among the leading breaches is found whatever follows. -/
theorem append_some {breach : Breach} (scan : BreachScan avoids leading (some breach)) :
    BreachScan avoids (leading ++ trailing) (some breach) := by
  induction leading with
  | nil => cases scan
  | cons first rest ih =>
    cases scan with
    | found _ _ broken => exact .found breach (rest ++ trailing) broken
    | passed _ _ _ kept tail => exact .passed first (rest ++ trailing) _ kept (ih tail)

/-- A scan goes on behind leading breaches that are all avoided. -/
theorem append_none {outcome : Option Breach} (scan : BreachScan avoids leading none)
    (next : BreachScan avoids trailing outcome) :
    BreachScan avoids (leading ++ trailing) outcome := by
  induction leading with
  | nil => exact next
  | cons first rest ih =>
    cases scan with
    | passed _ _ _ kept tail => exact .passed first (rest ++ trailing) outcome kept (ih tail)

theorem some_append_iff {breach : Breach} :
    BreachScan avoids (leading ++ trailing) (some breach) ↔
      BreachScan avoids leading (some breach) ∨
        (∀ possible ∈ leading, avoids possible) ∧
          BreachScan avoids trailing (some breach) := by
  induction leading with
  | nil =>
    refine ⟨fun scan => .inr ⟨fun _ member => absurd member List.not_mem_nil, scan⟩, ?_⟩
    rintro (found | ⟨_, scan⟩)
    · cases found
    · exact scan
  | cons first rest ih =>
    rw [List.forall_mem_cons]
    constructor
    · intro scan
      cases scan with
      | found _ _ broken => exact .inl (.found breach rest broken)
      | passed _ _ _ kept tail =>
        rcases ih.1 tail with found | ⟨avoided, later⟩
        · exact .inl (.passed first rest _ kept found)
        · exact .inr ⟨⟨kept, avoided⟩, later⟩
    · rintro (found | ⟨⟨kept, avoided⟩, later⟩)
      · exact found.append_some
      · exact .passed first (rest ++ trailing) _ kept (ih.2 (.inr ⟨avoided, later⟩))

theorem some_singleton_iff {possible breach : Breach} :
    BreachScan avoids [possible] (some breach) ↔
      ¬ avoids possible ∧ breach = possible := by
  constructor
  · intro scan
    cases scan with
    | found _ _ broken => exact ⟨broken, rfl⟩
    | passed _ _ _ _ tail => cases tail
  · rintro ⟨broken, rfl⟩
    exact .found breach [] broken

end BreachScan

/-! ### The checks as a scan -/

/-- The breach that an outcome reports. -/
def reported? {α : Type} : Except Breach α → Option Breach
  | .ok _ => none
  | .error breach => some breach

/-- An outcome looks for some possible breaches if it reports what a scan of them finds. -/
def LooksFor {α : Type} (avoids : Breach → Prop) (possible : List Breach)
    (outcome : Except Breach α) : Prop :=
  BreachScan avoids possible (reported? outcome)

namespace LooksFor

variable {α β : Type} {avoids : Breach → Prop}

/-- Two steps look for what the first looks for, and then for what the second looks for. -/
theorem bind {leading trailing : List Breach} {first : Except Breach α}
    {next : α → Except Breach β} (looksFirst : LooksFor avoids leading first)
    (looksNext : ∀ value, first = .ok value → LooksFor avoids trailing (next value)) :
    LooksFor avoids (leading ++ trailing) (first >>= next) := by
  cases outcome : first with
  | ok value =>
    rw [outcome] at looksFirst
    exact BreachScan.append_none looksFirst (looksNext value outcome)
  | error breach =>
    rw [outcome] at looksFirst
    exact BreachScan.append_some looksFirst

/-- A step that succeeds looks for nothing. -/
theorem ok (value : α) : LooksFor avoids [] (.ok value) :=
  BreachScan.exhausted

theorem error_iff {possible : List Breach} {outcome : Except Breach α}
    {breach : Breach} (looks : LooksFor avoids possible outcome) :
    outcome = .error breach ↔ BreachScan avoids possible (some breach) := by
  constructor
  · rintro rfl
    exact looks
  · intro scan
    have same : reported? outcome = some breach := looks.deterministic scan
    cases outcome with
    | ok value => simp [reported?] at same
    | error found => simpa [reported?] using same

theorem ok_iff {possible : List Breach} {outcome : Except Breach α}
    (looks : LooksFor avoids possible outcome) :
    (∃ value, outcome = .ok value) ↔ ∀ breach ∈ possible, avoids breach := by
  rw [← BreachScan.none_iff]
  constructor
  · rintro ⟨value, rfl⟩
    exact looks
  · intro scan
    have same : reported? outcome = none := looks.deterministic scan
    cases outcome with
    | ok value => exact ⟨value, rfl⟩
    | error found => simp [reported?] at same

end LooksFor

/-- A demand looks for the one breach that it is about. -/
theorem Rule.looksFor_demand {avoids : Breach → Prop} {rule : Rule} {value : Value} {met : Bool}
    (decides : met = true ↔ avoids ⟨rule, value⟩) :
    LooksFor avoids [⟨rule, value⟩] (rule.demand value met) := by
  cases met with
  | true => exact .passed _ [] none (decides.1 rfl) .exhausted
  | false => exact .found _ [] fun kept => Bool.false_ne_true (decides.2 kept)

/-- A demand for a reading looks for the one breach that it is about. -/
theorem Rule.looksFor_demandSome {avoids : Breach → Prop} {rule : Rule} {value : Value}
    {reading : Option Int} (decides : reading.isSome = true ↔ avoids ⟨rule, value⟩) :
    LooksFor avoids [⟨rule, value⟩] (rule.demandSome value reading) := by
  cases reading with
  | some number => exact .passed _ [] none (decides.1 rfl) .exhausted
  | none => exact .found _ [] fun kept => Bool.false_ne_true (decides.2 kept)

@[simp] theorem Value.integer?_eq_some_iff {value : Value} {number : Int} :
    value.integer? = some number ↔ value = .int number := by
  cases value <;> simp [Value.integer?]

theorem Value.positive?_eq_some_iff {value : Value} {number : Int} :
    value.positive? = some number ↔ value = .int number ∧ 0 < number := by
  simp [Value.positive?, Option.filter_eq_some_iff]

theorem Value.notNegative?_eq_some_iff {value : Value} {number : Int} :
    value.notNegative? = some number ↔ value = .int number ∧ 0 ≤ number := by
  simp [Value.notNegative?, Option.filter_eq_some_iff]

@[simp] theorem Value.isNull_iff {value : Value} : value.isNull = true ↔ value = .null := by
  cases value <;> simp [Value.isNull]

@[simp] theorem Value.isNull_eq_false_iff {value : Value} :
    value.isNull = false ↔ value ≠ .null := by
  cases value <;> simp [Value.isNull]

theorem Rule.demandSome_eq_ok_iff {rule : Rule} {value : Value} {reading : Option Int}
    {number : Int} : rule.demandSome value reading = .ok number ↔ reading = some number := by
  cases reading <;> simp [Rule.demandSome]

namespace Candidate

variable {candidate : Candidate}

/-- The annotations are looked at in order. -/
theorem looksFor_checkAnnotations (notes : List Value) :
    LooksFor candidate.Avoids (notes.map (Breach.mk .annotationGiven))
      (checkAnnotations notes) := by
  induction notes with
  | nil => exact .ok ()
  | cons note rest ih =>
    have looksNote : LooksFor candidate.Avoids [⟨.annotationGiven, note⟩]
        (Rule.annotationGiven.demand note note.truthy) := Rule.looksFor_demand Iff.rfl
    exact looksNote.bind fun _ _ => ih

/-- The tags are looked at in order, of each the key before the value. -/
theorem looksFor_checkTags (tags : Entries) :
    LooksFor candidate.Avoids
      (tags.flatMap fun tag => [⟨.tagKeyGiven, tag.1⟩, ⟨.tagValueGiven, tag.2⟩])
      (checkTags tags) := by
  induction tags with
  | nil => exact .ok ()
  | cons tag rest ih =>
    obtain ⟨key, value⟩ := tag
    have looksKey : LooksFor candidate.Avoids [⟨.tagKeyGiven, key⟩]
        (Rule.tagKeyGiven.demand key key.truthy) := Rule.looksFor_demand Iff.rfl
    have looksValue : LooksFor candidate.Avoids [⟨.tagValueGiven, value⟩]
        (Rule.tagValueGiven.demand value value.truthy) := Rule.looksFor_demand Iff.rfl
    exact looksKey.bind fun _ _ => looksValue.bind fun _ _ => ih

/-- The checks look for the possible breaches of a candidate, in their order. -/
theorem looksFor_check (candidate : Candidate) :
    LooksFor candidate.Avoids candidate.possibleBreaches candidate.check := by
  have inOrder : candidate.possibleBreaches =
      [⟨.serviceNameGiven, candidate.serviceName⟩] ++ ([⟨.spanNameNotEmpty, candidate.spanName⟩]
        ++ ([⟨.endTsPositive, candidate.endTs⟩] ++ ([⟨.limitPositive, candidate.limit⟩]
        ++ (candidate.annotations.map (Breach.mk .annotationGiven)
        ++ (candidate.tags.flatMap (fun tag => [⟨.tagKeyGiven, tag.1⟩, ⟨.tagValueGiven, tag.2⟩])
        ++ ([⟨.maxDurationNeedsMin, candidate.maxDuration⟩]
        ++ ([⟨.lookbackNotNegative, candidate.lookback⟩] ++ []))))))) := by
    simp [possibleBreaches, leadingBreaches]
  rw [inOrder]
  refine (Rule.looksFor_demand Iff.rfl).bind fun _ _ => ?_
  refine (Rule.looksFor_demand ?_).bind fun _ _ => ?_
  · simp [Avoids, Meets]
  refine (Rule.looksFor_demandSome ?_).bind fun _ _ => ?_
  · simp [Avoids, Meets, Option.isSome_iff_exists, Value.positive?_eq_some_iff]
  refine (Rule.looksFor_demandSome ?_).bind fun _ _ => ?_
  · simp [Avoids, Meets, Option.isSome_iff_exists, Value.positive?_eq_some_iff]
  refine (looksFor_checkAnnotations candidate.annotations).bind fun _ _ => ?_
  refine (looksFor_checkTags candidate.tags).bind fun _ _ => ?_
  refine (Rule.looksFor_demand ?_).bind fun _ _ => ?_
  · simp [Avoids, Meets]
  refine (Rule.looksFor_demandSome ?_).bind fun _ _ => .ok _
  simp [Avoids, Meets, Option.isSome_iff_exists, Value.notNegative?_eq_some_iff]

/-- The checks give the three integers as they were proposed. -/
theorem of_check_eq_ok {bounds : Bounds} (passed : candidate.check = .ok bounds) :
    candidate.endTs = .int bounds.endTs ∧ candidate.lookback = .int bounds.lookback ∧
      candidate.limit = .int bounds.limit := by
  simp only [check, bind_eq_ok_iff, Rule.demandSome_eq_ok_iff, Value.positive?_eq_some_iff,
    Value.notNegative?_eq_some_iff] at passed
  obtain ⟨_, _, _, _, endTs, ⟨endTsRead, _⟩, limit, ⟨limitRead, _⟩, _, _, _, _, _, _, lookback,
    ⟨lookbackRead, _⟩, gives⟩ := passed
  cases gives
  exact ⟨endTsRead, lookbackRead, limitRead⟩

end Candidate

/-! ### The request that a candidate becomes -/

/-- What a request holds of the candidate that it was made of: the names in lower case, and all else
as it was proposed. -/
structure Candidate.Becomes (candidate : Candidate) (request : Request) : Prop where
  serviceName : ∃ name, candidate.serviceName = .text name ∧ request.serviceName = Text.lower name
  spanName : ∃ name?, candidate.spanName = .ofText? name? ∧
    request.spanName = name?.map Text.lower
  annotations : request.annotations = candidate.annotations
  tags : request.tags = candidate.tags
  minDuration : request.minDuration = candidate.minDuration
  maxDuration : request.maxDuration = candidate.maxDuration
  endTs : candidate.endTs = .int request.endTs
  lookback : candidate.lookback = .int request.lookback
  limit : candidate.limit = .int request.limit

namespace Candidate

variable {candidate : Candidate}

theorem lowerName_eq_ok_iff {value : Value} {lowered : String} :
    lowerName value = .ok lowered ↔ ∃ name, value = .text name ∧ lowered = Text.lower name := by
  cases value <;> simp [lowerName, eq_comm]

theorem lowerOptionalName_eq_ok_iff {value : Value} {lowered : Option String} :
    lowerOptionalName value = .ok lowered ↔
      ∃ name?, value = .ofText? name? ∧ lowered = name?.map Text.lower := by
  cases value <;>
    simp [lowerOptionalName, lowerName, Value.ofText?, Option.exists, Except.map, eq_comm]

/-- A candidate is accepted exactly when it avoids all breaches, and as the request that it
becomes. -/
theorem accept_eq_ok_iff {request : Request} :
    candidate.accept = .ok request ↔
      (∀ breach ∈ candidate.possibleBreaches, candidate.Avoids breach) ∧
        candidate.Becomes request := by
  rw [← candidate.looksFor_check.ok_iff]
  simp only [accept, bind_eq_ok_iff, mapError_eq_ok_iff]
  constructor
  · rintro ⟨bounds, passed, serviceName, service, spanName, span, made⟩
    obtain ⟨endTs, lookback, limit⟩ := of_check_eq_ok passed
    cases made
    exact ⟨⟨bounds, passed⟩, lowerName_eq_ok_iff.1 service, lowerOptionalName_eq_ok_iff.1 span,
      rfl, rfl, rfl, rfl, endTs, lookback, limit⟩
  · rintro ⟨⟨bounds, passed⟩, becomes⟩
    obtain ⟨endTs, lookback, limit⟩ := of_check_eq_ok passed
    have sameEnd : bounds.endTs = request.endTs := by
      simpa [endTs] using becomes.endTs
    have sameLookback : bounds.lookback = request.lookback := by
      simpa [lookback] using becomes.lookback
    have sameLimit : bounds.limit = request.limit := by
      simpa [limit] using becomes.limit
    refine ⟨bounds, passed, request.serviceName, lowerName_eq_ok_iff.2 becomes.serviceName,
      request.spanName, lowerOptionalName_eq_ok_iff.2 becomes.spanName, ?_⟩
    rw [← becomes.annotations, ← becomes.tags, ← becomes.minDuration, ← becomes.maxDuration,
      sameEnd, sameLookback, sameLimit]
    rfl

/-- Whether the names of a candidate are texts; the span name may be left out. -/
def HasTextNames (candidate : Candidate) : Prop :=
  (∃ name, candidate.serviceName = .text name) ∧ ∃ name?, candidate.spanName = .ofText? name?

/-- The name that cannot be brought into lower case, if there is one. The service name has to be a
text, and so has the span name unless it is left out. -/
def unlowerable? (candidate : Candidate) : Option Value :=
  match candidate.serviceName, candidate.spanName with
  | .text _, .null => none
  | .text _, .text _ => none
  | .text _, other => some other
  | other, _ => some other

theorem unlowerable?_eq_none_iff : candidate.unlowerable? = none ↔ candidate.HasTextNames := by
  unfold unlowerable? HasTextNames
  cases candidate.serviceName <;> cases candidate.spanName <;>
    simp [Value.ofText?, Option.exists]

/-- The names of a candidate that passed the checks, brought into lower case one after the other. -/
theorem lowerNames_eq_error_iff {fault : Fault} {next : String → Option String → Request} :
    (do
      let serviceName ← lowerName candidate.serviceName
      let spanName ← lowerOptionalName candidate.spanName
      return next serviceName spanName) = .error fault ↔
      ∃ value, candidate.unlowerable? = some value ∧ fault = .noMember value.kind.name "lower" := by
  unfold unlowerable?
  cases candidate.serviceName <;> cases candidate.spanName <;>
    simp [lowerName, lowerOptionalName, Except.map, Value.kind, pure, Except.pure, eq_comm]

/-- A candidate is refused for the first breach that occurs, or else for a name that is no text. -/
theorem accept_eq_error_iff {fault : Fault} :
    candidate.accept = .error fault ↔
      (∃ breach, BreachScan candidate.Avoids candidate.possibleBreaches (some breach) ∧
        fault = breach.fault) ∨
      (∀ breach ∈ candidate.possibleBreaches, candidate.Avoids breach) ∧
        ∃ value, candidate.unlowerable? = some value ∧
          fault = .noMember value.kind.name "lower" := by
  simp only [← candidate.looksFor_check.ok_iff, ← candidate.looksFor_check.error_iff, accept]
  cases checked : candidate.check with
  | error breach => simp [eq_comm]
  | ok bounds =>
    simp only [mapError_ok, ok_bind]
    rw [lowerNames_eq_error_iff]
    simp

/-- The violation that a candidate is refused for is reported of the breach that the scan finds. -/
theorem accept_eq_invalidArgument_iff {violation : Violation} :
    candidate.accept = .error (.invalidArgument violation) ↔
      ∃ breach, BreachScan candidate.Avoids candidate.possibleBreaches (some breach) ∧
        breach.Reports violation := by
  simp [accept_eq_error_iff, ← Breach.fault_eq_invalidArgument_iff, eq_comm]

/-- A breach by a value that cannot be written has no other fault than that: the value counts as
given, so the rule is one of those that tell it. -/
theorem fault_of_long {breach : Breach} (broken : ¬ candidate.Avoids breach)
    (long : breach.value.isWritable = false) : breach.fault = .tooLong := by
  obtain ⟨rule, value⟩ := breach
  have given : value.truthy = true := by
    cases missing : value.truthy with
    | true => rfl
    | false =>
      rw [Value.isWritable_of_not_truthy (Bool.eq_false_iff.1 missing)] at long
      cases long
  rcases Breach.reports_or_tooLong ⟨rule, value⟩ with ⟨violation, reports⟩ | ⟨_, tooLong⟩
  · have unwritten {text : String} : value.plain ≠ .ok text := by
      rw [Value.plain, Value.ifWritable_of_long long]
      intro told
      cases told
    cases reports with
    | serviceNameGiven | annotationGiven | tagKeyGiven | tagValueGiven => exact absurd given broken
    | spanNameNotEmpty => exact absurd (.inr given) broken
    | endTsPositive written | limitPositive written | maxDurationNeedsMin written
    | lookbackNotNegative written => exact absurd written unwritten
  · exact tooLong

/-- Either a breach is found, or none occurs. -/
theorem found_or_avoided (candidate : Candidate) :
    (∃ breach, BreachScan candidate.Avoids candidate.possibleBreaches (some breach)) ∨
      ∀ breach ∈ candidate.possibleBreaches, candidate.Avoids breach := by
  cases checked : candidate.check with
  | error found => exact .inl ⟨found, candidate.looksFor_check.error_iff.1 checked⟩
  | ok bounds => exact .inr (candidate.looksFor_check.ok_iff.1 ⟨bounds, checked⟩)

/-- A violation is reported exactly if a breach is found by a value that can be written. -/
theorem exists_invalidArgument_iff :
    (∃ violation, candidate.accept = .error (.invalidArgument violation)) ↔
      ∃ breach, BreachScan candidate.Avoids candidate.possibleBreaches (some breach) ∧
        breach.value.isWritable = true := by
  simp only [accept_eq_invalidArgument_iff]
  constructor
  · rintro ⟨violation, breach, scan, reports⟩
    refine ⟨breach, scan, ?_⟩
    rw [← Bool.not_eq_false]
    intro long
    have tooLong := fault_of_long scan.broken_of_some.2 long
    rw [reports.fault_eq] at tooLong
    cases tooLong
  · rintro ⟨breach, scan, writable⟩
    obtain ⟨violation, reports⟩ := Breach.exists_reports writable
    exact ⟨violation, breach, scan, reports⟩

/-- When no breach occurs, a candidate can still fail for a name that is no text. -/
theorem exists_noMember (avoided : ∀ breach ∈ candidate.possibleBreaches, candidate.Avoids breach)
    (bare : ¬ candidate.HasTextNames) :
    ∃ owner, candidate.accept = .error (.noMember owner "lower") := by
  obtain ⟨value, found⟩ := Option.ne_none_iff_exists'.1 (mt unlowerable?_eq_none_iff.1 bare)
  exact ⟨value.kind.name, accept_eq_error_iff.2 (.inr ⟨avoided, value, found, rfl⟩)⟩

/-- A request is made exactly when no breach occurs and the names are texts. -/
theorem exists_request_iff : (∃ request, candidate.accept = .ok request) ↔
    (∀ breach ∈ candidate.possibleBreaches, candidate.Avoids breach) ∧
      candidate.HasTextNames := by
  constructor
  · rintro ⟨request, accepted⟩
    obtain ⟨avoided, becomes⟩ := accept_eq_ok_iff.1 accepted
    exact ⟨avoided, becomes.serviceName.imp fun _ same => same.1,
      becomes.spanName.imp fun _ same => same.1⟩
  · rintro ⟨avoided, texts⟩
    cases outcome : candidate.accept with
    | ok request => exact ⟨request, rfl⟩
    | error fault =>
      rcases accept_eq_error_iff.1 outcome with ⟨breach, scan, _⟩ | ⟨_, value, bare, _⟩
      · obtain ⟨member, broken⟩ := scan.broken_of_some
        exact absurd (avoided breach member) broken
      · rw [unlowerable?_eq_none_iff.2 texts] at bare
        cases bare

end Candidate

/-! ### Requests from all nine fields -/

namespace Candidate

/-- The named fields that propose a candidate, each of the nine once. -/
def fields (candidate : Candidate) : List (String × Value) := [
  ("service_name", candidate.serviceName),
  ("span_name", candidate.spanName),
  ("annotations", .list candidate.annotations),
  ("binary_annotations", .mapping candidate.tags),
  ("min_duration", candidate.minDuration),
  ("max_duration", candidate.maxDuration),
  ("end_ts", candidate.endTs),
  ("lookback", candidate.lookback),
  ("limit", candidate.limit)]

theorem annotationItems_list (notes : List Value) :
    (Value.list notes).annotationItems = .ok notes := by
  cases notes <;> rfl

theorem tagEntries_mapping (tags : Entries) : (Value.mapping tags).tagEntries = .ok tags := by
  cases tags <;> rfl

/-- The fields of a candidate propose that candidate. -/
theorem ofFields_fields (candidate : Candidate) : ofFields candidate.fields = .ok candidate := by
  have bound : ofFields candidate.fields = (do
      let annotations ← (Value.list candidate.annotations).annotationItems
      let tags ← (Value.mapping candidate.tags).tagEntries
      return { candidate with annotations, tags }) := rfl
  rw [bound, annotationItems_list, tagEntries_mapping]
  rfl

/-- A request made of all nine fields is the one that their candidate becomes. -/
theorem request_ofFields_fields (candidate : Candidate) :
    Request.ofFields candidate.fields = candidate.accept := by
  rw [Request.ofFields, ofFields_fields, ok_bind]

end Candidate

end TraceFilter
