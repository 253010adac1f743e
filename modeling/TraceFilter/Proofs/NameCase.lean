/-
Module: TraceFilter.Proofs.NameCase
Purpose: How far the letter case of a name matters to a request: not at all, but for a sigma that
  ends a word.
Main exports: Signature.bind_cons_eq_map, NameField, Request.ofFields_withName,
  Request.equals_withName_iff, Request.ToldApartBy, Request.name_case_matters_iff
-/
import TraceFilter.Proofs.LetterCase
import TraceFilter.Proofs.RequestEquality

namespace TraceFilter

/-! ### Fields that differ in one value -/

theorem lookup_append_cons {α : Type} {placed others : List (String × α)} {field : String}
    (unplaced : placed.lookup field = none) (value : α) (name : String) :
    (placed ++ (field, value) :: others).lookup name =
      if name = field then some value else (placed ++ others).lookup name := by
  rw [List.lookup_append, List.lookup_append, List.lookup_cons]
  by_cases here : name = field
  · rw [if_pos here, here, unplaced, BEq.rfl]
    rfl
  · rw [if_neg here, beq_eq_false_iff_ne.2 here]

namespace Signature

variable {signature : Signature} {arguments : List Value} {others : List (String × Value)}
  {field : String}

/-- Which parameters are missing depends on the names of the arguments alone. -/
theorem missingFault?_congr {namedOnly : Bool} {among : List Parameter}
    {given given' : List (String × Value)}
    (named : ∀ name, (given.lookup name).isNone = (given'.lookup name).isNone) :
    signature.missingFault? namedOnly among given =
      signature.missingFault? namedOnly among given' := by
  simp only [missingFault?, named]

/-- Another value under the name of an argument is bound to the parameter of that name, and makes no
other difference. -/
theorem bind_cons_eq_map (unplaced : (signature.placed arguments).lookup field = none)
    (value other : Value) :
    signature.bind arguments ((field, other) :: others) =
      (signature.bind arguments ((field, value) :: others)).map fun bound name =>
        if name = field then other else bound name := by
  have named (name : String) :
      ((signature.placed arguments ++ (field, other) :: others).lookup name).isNone =
        ((signature.placed arguments ++ (field, value) :: others).lookup name).isNone := by
    rw [lookup_append_cons unplaced, lookup_append_cons unplaced]
    split <;> rfl
  have unnamed : signature.namedFault? arguments ((field, other) :: others) =
      signature.namedFault? arguments ((field, value) :: others) := rfl
  simp only [bind, unnamed, missingFault?_congr named]
  split
  · rfl
  · refine congrArg Except.ok (funext fun name => ?_)
    simp only [lookup_append_cons unplaced]
    by_cases here : name = field
    · simp [here]
    · simp [here]

end Signature

/-! ### The two names of a request -/

/-- The fields of a request that are kept in lower case. -/
inductive NameField where
  | service
  | span
deriving DecidableEq, Repr, Inhabited

/-- The name of the field itself. -/
def NameField.title : NameField → String
  | .service => "service_name"
  | .span => "span_name"

/-- A candidate with another value for a name. -/
def Candidate.withName (candidate : Candidate) : NameField → Value → Candidate
  | .service, value => { candidate with serviceName := value }
  | .span, value => { candidate with spanName := value }

/-- What a candidate proposes for a name. -/
def Candidate.nameOf (candidate : Candidate) : NameField → Value
  | .service => candidate.serviceName
  | .span => candidate.spanName

/-- A request with another name. -/
def Request.withName (request : Request) : NameField → String → Request
  | .service, name => { request with serviceName := name }
  | .span, name => { request with spanName := some name }

/-- A name of a request, which the span need not have. -/
def Request.nameOf (request : Request) : NameField → Option String
  | .service => some request.serviceName
  | .span => request.spanName

namespace Candidate

variable {candidate : Candidate} {request : Request} {field : NameField} {name : String}

theorem nameOf_withName (value : Value) :
    (candidate.withName field value).nameOf field = value := by
  cases field <;> rfl

/-- Fields with another value for a name propose a candidate that differs in this value. -/
theorem ofFields_withName (field : NameField) (others : List (String × Value))
    (value other : Value) :
    ofFields ((field.title, other) :: others) =
      (ofFields ((field.title, value) :: others)).map fun candidate =>
        candidate.withName field other := by
  have unplaced : (Request.fieldSignature.placed [.null]).lookup field.title = none := by
    cases field <;> rfl
  unfold ofFields
  rw [Signature.bind_cons_eq_map unplaced value other]
  cases Request.fieldSignature.bind [.null] ((field.title, value) :: others) with
  | error fault => rfl
  | ok bound =>
    cases annotations : (bound "annotations").annotationItems <;>
      cases tags : (bound "binary_annotations").tagEntries <;>
        cases field <;>
          simp [NameField.title, withName, Except.map, annotations, tags, pure, Except.pure]

/-- A text that is accepted as a name is not empty, and the request has it in lower case. -/
theorem nameOf_of_accept (accepted : candidate.accept = .ok request)
    (held : candidate.nameOf field = .text name) :
    name ≠ "" ∧ request.nameOf field = some (Text.lower name) := by
  obtain ⟨avoided, becomes⟩ := accept_eq_ok_iff.1 accepted
  obtain ⟨meets, _⟩ := avoidsAll_iff.1 avoided
  cases field with
  | service =>
    obtain ⟨other, named, lowered⟩ := becomes.serviceName
    have truthy := meets.serviceName
    cases named.symm.trans held
    rw [named] at truthy
    exact ⟨Request.truthy_text_iff.1 truthy, congrArg some lowered⟩
  | span =>
    obtain ⟨other?, named, lowered⟩ := becomes.spanName
    have truthy : candidate.spanName.truthy = true := by
      rcases meets.spanName with absent | truthy
      · cases absent.symm.trans held
      · exact truthy
    cases other? with
    | none => cases named.symm.trans held
    | some other =>
      cases named.symm.trans held
      rw [named] at truthy
      exact ⟨Request.truthy_text_iff.1 truthy, lowered⟩

/-- An accepted candidate is accepted with any other name that is not empty. -/
theorem accept_withName_of_accept (accepted : candidate.accept = .ok request)
    (given : name ≠ "") :
    (candidate.withName field (.text name)).accept =
      .ok (request.withName field (Text.lower name)) := by
  obtain ⟨avoided, becomes⟩ := accept_eq_ok_iff.1 accepted
  obtain ⟨meets, lookback⟩ := avoidsAll_iff.1 avoided
  have truthy := Request.truthy_text_iff.2 given
  cases field with
  | service =>
    refine accept_eq_ok_iff.2 ⟨avoidsAll_iff.2 ⟨?_, lookback⟩, ?_⟩
    · exact { meets with serviceName := truthy }
    · exact { becomes with serviceName := ⟨name, rfl, rfl⟩ }
  | span =>
    refine accept_eq_ok_iff.2 ⟨avoidsAll_iff.2 ⟨?_, lookback⟩, ?_⟩
    · exact { meets with spanName := .inr truthy }
    · exact { becomes with spanName := ⟨some name, rfl, rfl⟩ }

end Candidate

namespace Request

variable {request : Request} {field : NameField} {name : String}

/-- The fields of a request make another request, different in a name only, if that name is given
another text that is not empty. -/
theorem ofFields_withName {others : List (String × Value)} {first second : String}
    (made : ofFields ((field.title, .text first) :: others) = .ok request) :
    first ≠ "" ∧ request.nameOf field = some (Text.lower first) ∧ (second ≠ "" →
      ofFields ((field.title, .text second) :: others) =
        .ok (request.withName field (Text.lower second))) := by
  obtain ⟨candidate, proposes, accepted⟩ := bind_eq_ok_iff.1 made
  have renamed (name : String) : Candidate.ofFields ((field.title, .text name) :: others) =
      .ok (candidate.withName field (.text name)) := by
    rw [Candidate.ofFields_withName field others (.text first), proposes]
    rfl
  have held : candidate.nameOf field = .text first := by
    rw [Except.ok.inj (proposes.symm.trans (renamed first)), Candidate.nameOf_withName]
  obtain ⟨given, lowered⟩ := Candidate.nameOf_of_accept accepted held
  refine ⟨given, lowered, fun otherGiven => ?_⟩
  rw [ofFields, renamed second]
  exact Candidate.accept_withName_of_accept accepted otherGiven

theorem withName_eq_self_iff : request.withName field name = request ↔
    request.nameOf field = some name := by
  cases field with
  | service =>
    constructor
    · intro same
      exact congrArg (some ∘ Request.serviceName) same.symm
    · rintro ⟨rfl⟩
      rfl
  | span =>
    constructor
    · intro same
      exact congrArg Request.spanName same.symm
    · intro held
      rw [withName, ← show request.spanName = some name from held]

/-- A request equals another that differs at most in a name exactly if it equals a copy of itself
and does not differ in the name either. -/
theorem equals_withName_iff : request.equals (request.withName field name) = .ok true ↔
    request.equals request = .ok true ∧ request.nameOf field = some name := by
  have comparable : (request.withName field name).comparisonFault? = request.comparisonFault? := by
    cases field <;> rfl
  have fields : request.sameFields (request.withName field name) = true ↔
      request.sameFields request = true ∧ request.nameOf field = some name := by
    cases field <;>
    · simp only [sameFields, withName, nameOf, tagSet, Bool.and_eq_true, beq_iff_eq,
        Option.some_inj]
      tauto
  rw [equals_eq_ok_iff, equals_eq_ok_iff, comparable, fields]
  exact and_assoc.symm

/-- Whether something tells two requests apart that differ at most in a name: they are one request
without it, and two that are not equal with it. A request that cannot be compared is not equal to a
copy of itself either. -/
structure ToldApartBy (clash : Prop) (request other : Request) : Prop where
  identical : other = request ↔ ¬ clash
  equal : request.equals other = .ok true ↔ request.equals request = .ok true ∧ ¬ clash
  compared : (∀ tag ∈ request.tags, tag.2.isHashable = true) →
    ∃ truth, request.equals other = .ok truth ∧ (truth = true ↔ ¬ clash)

theorem toldApartBy_withName {clash : Prop} (unlike : request.nameOf field = some name ↔ ¬ clash) :
    request.ToldApartBy clash (request.withName field name) where
  identical := by rw [withName_eq_self_iff, unlike]
  equal := by rw [equals_withName_iff, unlike]
  compared := by
    intro hashable
    have copy := equals_lookback hashable request.lookback request.lookback
    rw [beq_self_eq_true] at copy
    have comparable : (request.withName field name).comparisonFault? = none := by
      cases field <;> exact comparisonFault?_eq_none_iff.2 hashable
    have compared : request.equals (request.withName field name) =
        .ok (request.sameFields (request.withName field name)) :=
      equals_eq_ok_iff.2 ⟨⟨comparisonFault?_eq_none_iff.2 hashable, comparable⟩, rfl⟩
    refine ⟨_, compared, ?_⟩
    rw [← unlike, ← Except.ok.injEq, ← compared, equals_withName_iff]
    exact and_iff_right copy

/-- When the same letters of a name are typed in other cases, the request stays the same, unless a
capital sigma that ends a word is typed small or the other way round: then the two requests are not
equal. It is so for the name of the service and for that of the span, whatever the other fields. -/
theorem name_case_matters_iff {first second : String} (same : Text.SameLetters first second)
    (field : NameField) (others : List (String × Value)) (request : Request)
    (made : ofFields ((field.title, .text first) :: others) = .ok request) :
    ∃ other, ofFields ((field.title, .text second) :: others) = .ok other ∧
      request.ToldApartBy (Text.SigmaClash first second ∨ Text.SigmaClash second first) other := by
  obtain ⟨given, lowered, renamed⟩ := ofFields_withName made
  refine ⟨_, renamed (same.ne_empty given), toldApartBy_withName ?_⟩
  rw [lowered, Option.some_inj, Text.lower_eq_iff same, not_or]

/-- A capital sigma at the start of a word may be typed small: the request is the same. -/
theorem name_case_matters_iff_leading_sigma :
    let others : List (String × Value) :=
      [("end_ts", .int 5), ("lookback", .int 7), ("limit", .int 1)]
    Text.SameLetters "ΣΙΓΜΑ" "σιγμα" ∧
      ∃ request, Request.ofFields (("service_name", .text "ΣΙΓΜΑ") :: others) = .ok request ∧
        Request.ofFields (("service_name", .text "σιγμα") :: others) = .ok request := by
  intro others
  have same : Text.SameLetters "ΣΙΓΜΑ" "σιγμα" := by decide +kernel
  have lowered : Text.lower "ΣΙΓΜΑ" = Text.lower "σιγμα" := by decide +kernel
  obtain ⟨request, made⟩ : ∃ request,
      Request.ofFields (("service_name", .text "ΣΙΓΜΑ") :: others) = .ok request := ⟨_, rfl⟩
  obtain ⟨other, otherMade, apart⟩ :=
    name_case_matters_iff same .service others request made
  have identical : other = request :=
    apart.identical.2 (not_or.2 ((Text.lower_eq_iff same).1 lowered))
  rw [identical] at otherMade
  exact ⟨same, request, made, otherMade⟩

/-- A capital sigma at the end of a word may not: typed small, it makes another request. -/
theorem final_sigma_told_apart :
    let others : List (String × Value) :=
      [("end_ts", .int 5), ("lookback", .int 7), ("limit", .int 1)]
    let request (name : String) : Request :=
      { serviceName := name, spanName := none, annotations := [], tags := []
        minDuration := .null, maxDuration := .null, endTs := 5, lookback := 7, limit := 1 }
    Text.SameLetters "ΟΔΟΣ" "ΟΔΟσ" ∧
      Request.ofFields (("service_name", .text "ΟΔΟΣ") :: others) = .ok (request "οδος") ∧
      Request.ofFields (("service_name", .text "ΟΔΟσ") :: others) = .ok (request "οδοσ") ∧
      (request "οδος").equals (request "οδοσ") = .ok false := by
  intro others request
  have same : Text.SameLetters "ΟΔΟΣ" "ΟΔΟσ" := by decide +kernel
  have lowered : Text.lower "ΟΔΟΣ" = "οδος" ∧ Text.lower "ΟΔΟσ" = "οδοσ" := by decide +kernel
  have capital : Request.ofFields (("service_name", .text "ΟΔΟΣ") :: others) =
      .ok (request (Text.lower "ΟΔΟΣ")) := rfl
  have small : Request.ofFields (("service_name", .text "ΟΔΟσ") :: others) =
      .ok (request (Text.lower "ΟΔΟσ")) := rfl
  rw [lowered.1] at capital
  rw [lowered.2] at small
  exact ⟨same, capital, small, rfl⟩

end Request

end TraceFilter
