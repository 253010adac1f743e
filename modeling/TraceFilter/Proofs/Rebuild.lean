/-
Module: TraceFilter.Proofs.Rebuild
Purpose: A request put back into a draft is built again as it was, but for a lookback that reached
  behind the epoch, unless it cannot be written.
Main exports: Request.clamped, Request.Obtained.result_rebuild, Request.equals_lookback,
  Session.fetch_rebuilt, Request.rebuild_clamps_only_lookback
-/
import TraceFilter.Proofs.DirectConstruction
import TraceFilter.Proofs.ObtainedRequest
import TraceFilter.Proofs.PairSets
import TraceFilter.Session.Step

namespace TraceFilter

/-! ### Equality up to the lookback -/

theorem firstUnhashable?_eq_none_iff {values : List Value} :
    firstUnhashable? values = none ↔ ∀ value ∈ values, value.isHashable = true := by
  simp [firstUnhashable?]

namespace Request

variable {request : Request}

theorem comparisonFault?_eq_none_iff :
    request.comparisonFault? = none ↔ ∀ tag ∈ request.tags, tag.2.isHashable = true := by
  rw [comparisonFault?, firstUnhashable?_eq_none_iff, List.forall_mem_map]

/-- Two requests that differ at most in the lookback are equal exactly when they do not differ in it
either. -/
theorem equals_lookback (hashable : ∀ tag ∈ request.tags, tag.2.isHashable = true)
    (first second : Int) :
    { request with lookback := first }.equals { request with lookback := second } =
      .ok (first == second) := by
  have comparable (lookback : Int) : comparisonFault? { request with lookback } = none :=
    comparisonFault?_eq_none_iff.2 hashable
  have sameNotes := Value.sameItems_self request.annotations
  have sameTags := samePairSets_self request.tags
  have sameFields : Request.sameFields { request with lookback := first }
      { request with lookback := second } = (first == second) := by
    simp [Request.sameFields, tagSet, sameNotes, sameTags, Value.same_self]
  rw [equals, comparable, comparable, sameFields]
  rfl

/-! ### Rebuilding -/

/-- A request with a lookback that stays within the time range. -/
def clamped (request : Request) : Request :=
  { request with lookback := min request.lookback request.endTs }

@[simp] theorem clamped_clamped (request : Request) :
    request.clamped.clamped = request.clamped := by
  have within : min request.lookback request.endTs ≤ request.endTs := Int.min_le_right _ _
  simp only [clamped, Int.min_eq_left within]

theorem WellFormed.clamped (wellFormed : request.WellFormed) : request.clamped.WellFormed :=
  { wellFormed with lookback := Int.le_min.2 ⟨wellFormed.lookback, Int.le_of_lt wellFormed.endTs⟩ }

/-- A lookback that is clamped is no longer than the end, or as it was. -/
theorem isWritable_clamped (writable : request.isWritable = true) :
    request.clamped.isWritable = true := by
  have ends : (Value.int request.endTs).isWritable = true := isWritable_endTs writable
  have back : (Value.int request.lookback).isWritable = true := isWritable_lookback writable
  exact isWritable_reaching writable (Draft.isWritable_clamp back ends (Draft.clamp_int _ _))

/-- Whatever the surroundings, an obtained request is built again with its lookback clamped, if it
can be written then. -/
theorem Obtained.result_rebuild (obtained : request.Obtained) (surroundings : Surroundings) :
    ((Draft.ofRequest request).build surroundings).result = request.clamped.written := by
  -- A request sets the end and the limit, so that nothing has to be loaded or read off the clock.
  have endTsSet : (Draft.ofRequest request).endTs ≠ .null := nofun
  have limitSet : (Draft.ofRequest request).limit ≠ .null := nofun
  have clamps : Draft.clamp (.int request.lookback) (.int request.endTs) =
      .ok (.int (min request.lookback request.endTs)) := Draft.clamp_int _ _
  have accepted : request.clamped.stored.accept = .ok request.clamped :=
    obtained.wellFormed.clamped.accept_stored
  calc ((Draft.ofRequest request).build surroundings).result
      = request.clamped.stored.built surroundings.threshold := by
        rw [Draft.result_build_of_set endTsSet limitSet]
        exact congrArg (· >>= _) clamps
    _ = request.clamped.written := by
        cases writable : request.clamped.isWritable with
        | true =>
          rw [Candidate.built_eq_ok_iff.2 ⟨accepted, writable⟩, Request.written, if_pos writable]
        | false =>
          rw [Candidate.built_of_long accepted writable, Request.written, writable]
          rfl

end Request

/-! ### Rebuilding in a session -/

/-- A request that can be written can be shown. -/
theorem Stored.exists_view_of_writable {request : Request} (writable : request.isWritable = true) :
    ∃ view, (Stored.request request).view = .ok view := by
  rw [view, Request.plain_eq, if_pos writable]
  exact ⟨_, rfl⟩

namespace Session

variable {session : Session}

theorem fetch_store (name : String) (register : Register) :
    (session.store name register).fetch name = .ok register := by
  simp [fetch, store]

/-- A step that makes something, and can show it, leaves it in the register that it fills. -/
theorem fetch_made {next : Step} {target : String} {made : Observed Stored} {held : Stored}
    {view : View} (makes : session.outcome next = .making target made)
    (gives : made.result = .ok held) (shows : held.view = .ok view) :
    (session.step next).1.fetch target = .ok (.holding held) := by
  have filled : (session.outcome next).filled? = some (target, .holding held) := by
    simp [makes, Outcome.making, gives, shows]
  unfold step
  simp only [filled]
  exact fetch_store target _

theorem fetch_built {draft : Draft} {request : Request} {sketch target : String}
    (fetched : session.fetch sketch = .ok (.holding (.draft draft)))
    (gives : (draft.build session.surroundings).result = .ok request) :
    (session.step (.build sketch target)).1.fetch target =
      .ok (.holding (.request request)) := by
  have writable : request.isWritable = true := (Draft.accepted_of_buildWhere gives).1
  obtain ⟨view, shown⟩ := Stored.exists_view_of_writable writable
  refine fetch_made rfl ?_ shown
  rw [Observed.result_bind, Observed.result_ofExcept, fetchFor, fetched]
  show (draft.build session.surroundings >>= fun built => pure (Stored.request built)).result = _
  rw [Observed.result_bind, gives]
  rfl

/-- A draft that starts from a request, by whichever of the two steps, builds the request again with
its lookback clamped, if that can be written. -/
theorem fetch_rebuilt {request : Request} {source sketch target : String} {opening : Step}
    (obtained : request.Obtained) (writable : request.clamped.isWritable = true)
    (fetched : session.fetch source = .ok (.holding (.request request)))
    (opens : opening ∈ [Step.draftFrom source sketch, .toDraft source sketch]) :
    (session.run [opening, .build sketch target]).1.fetch target =
      .ok (.holding (.request request.clamped)) := by
  have opened : (session.step opening).1.fetch sketch =
      .ok (.holding (.draft (.ofRequest request))) := by
    simp only [List.mem_cons, List.not_mem_nil, or_false] at opens
    rcases opens with rfl | rfl
    · refine fetch_made rfl ?_ rfl
      rw [fetched]
      rfl
    · refine fetch_made rfl ?_ rfl
      rw [fetchFor, fetched]
      rfl
  show ((session.step opening).1.step (.build sketch target)).1.fetch target = _
  exact fetch_built opened ((obtained.result_rebuild _).trans (if_pos writable))

end Session

namespace Request

variable {request : Request}

/-- An obtained request is built again in any surroundings, from either kind of draft that starts
from it, with nothing changed but a lookback that is clamped, unless it cannot be written then. So
it equals what it is rebuilt as exactly when its lookback stays within the time range. A request
that was built can be written, and its lookback stays within; and there is nothing left to change
the second time. -/
theorem rebuild_clamps_only_lookback (obtained : request.Obtained) :
    let rebuilt : Request := { request with lookback := min request.lookback request.endTs }
    (∀ surroundings, ((Draft.ofRequest request).build surroundings).result =
      if rebuilt.isWritable then .ok rebuilt else .error .tooLong) ∧
    (rebuilt.isWritable = true → ∀ (session : Session) (source sketch target : String),
      session.fetch source = .ok (.holding (.request request)) →
      ∀ opening ∈ [Step.draftFrom source sketch, .toDraft source sketch],
        (session.run [opening, .build sketch target]).1.fetch target =
          .ok (.holding (.request rebuilt))) ∧
    ((∀ tag ∈ request.tags, tag.2.isHashable = true) →
      rebuilt.equals request = .ok (decide (request.lookback ≤ request.endTs)) ∧
        request.equals rebuilt = .ok (decide (request.lookback ≤ request.endTs))) ∧
    (request.isWritable = true → rebuilt.isWritable = true) ∧
    (request.Built → request.isWritable = true ∧ request.lookback ≤ request.endTs) ∧
    ∀ surroundings, ((Draft.ofRequest rebuilt).build surroundings).result =
      if rebuilt.isWritable then .ok rebuilt else .error .tooLong := by
  intro rebuilt
  refine ⟨obtained.result_rebuild, ?_, ?_, isWritable_clamped,
    fun built => ⟨built.isWritable, built.lookback_le_endTs⟩, ?_⟩
  · intro writable session source sketch target fetched opening opens
    exact Session.fetch_rebuilt obtained writable fetched opens
  · intro hashable
    have within : (min request.lookback request.endTs == request.lookback) =
        decide (request.lookback ≤ request.endTs) := by
      rw [Bool.eq_iff_iff, beq_iff_eq, decide_eq_true_iff]
      omega
    have equal := equals_lookback hashable
    constructor
    · exact (equal _ request.lookback).trans (congrArg Except.ok within)
    · rw [BEq.comm] at within
      exact (equal request.lookback _).trans (congrArg Except.ok within)
  · intro surroundings
    have again := obtained.wellFormed.clamped.obtained.result_rebuild surroundings
    rw [clamped_clamped] at again
    exact again

/-- A lookback behind the epoch is clamped, and no default is asked for on the way: the settings
would not load, and the clock has no reading. -/
theorem rebuild_clamps_lookback_behind_epoch :
    let given : List (String × Value) := [
      ("service_name", .text "ΟΔΟΣ"), ("end_ts", .int 5), ("lookback", .int 7), ("limit", .int 1),
      ("binary_annotations", .mapping [(.text "http.path", .text "/api")])]
    let request : Request :=
      { serviceName := "οδος", spanName := none, annotations := []
        tags := [(.text "http.path", .text "/api")]
        minDuration := .null, maxDuration := .null, endTs := 5, lookback := 7, limit := 1 }
    let surroundings : Surroundings :=
      { environment := ⟨some "seconds", some "ten"⟩, clock := .notANumber, threshold := .debug }
    request.Obtained ∧ Request.ofFields given = .ok request ∧
      ((Draft.ofRequest request).build surroundings).result =
        .ok { request with lookback := 5 } ∧
      Request.equals { request with lookback := 5 } request = .ok false := by
  intro given request surroundings
  have gives : Request.ofFields given = .ok request := by
    have lowered : Text.lower "ΟΔΟΣ" = "οδος" := by decide +kernel
    show Except.ok { request with serviceName := Text.lower "ΟΔΟΣ" } = _
    rw [lowered]
  have obtained : request.Obtained := .made given gives
  have hashable : ∀ tag ∈ request.tags, tag.2.isHashable = true := by
    simp [request, Value.isHashable]
  have law := rebuild_clamps_only_lookback obtained
  have writable : Request.isWritable { request with lookback := 5 } = true := by decide +kernel
  exact ⟨obtained, gives, (law.1 surroundings).trans (if_pos writable), (law.2.2.1 hashable).1⟩

/-- A request with an end of too many digits can be made, but is not built again. -/
theorem not_rebuilt_of_long_end {number : Int} (positive : 0 < number)
    (long : Numeral.isWritable number = false) (surroundings : Surroundings) :
    let request : Request :=
      { serviceName := "api", spanName := none, annotations := [], tags := []
        minDuration := .null, maxDuration := .null, endTs := number, lookback := 7, limit := 1 }
    request.Obtained ∧
      ((Draft.ofRequest request).build surroundings).result = .error .tooLong := by
  intro request
  have wellFormed : request.WellFormed :=
    { serviceName := ⟨(by decide : "api" ≠ ""), (by decide +kernel : Text.lower "api" = "api")⟩
      spanName := nofun
      annotations := nofun
      tags := nofun
      maxDuration := .inl rfl
      endTs := positive
      lookback := Int.natCast_nonneg 7
      limit := Int.one_pos }
  have unwritten : request.clamped.isWritable = false := by
    rw [Bool.eq_false_iff, ne_eq, isWritable, fieldsWritable_iff]
    intro writable
    have ends := writable ("end_ts", .int number) (by simp [fields, request, Request.clamped])
    rw [Value.isWritable_int, long] at ends
    cases ends
  refine ⟨wellFormed.obtained, ?_⟩
  rw [wellFormed.obtained.result_rebuild, Request.written, unwritten]
  rfl

/-- The least end of too many digits: a request with it is made, and refused when it is rebuilt. -/
theorem not_rebuilt_of_end_of_4301_digits :
    let request : Request :=
      { serviceName := "api", spanName := none, annotations := [], tags := []
        minDuration := .null, maxDuration := .null
        endTs := 10 ^ 4300, lookback := 7, limit := 1 }
    request.Obtained ∧
      ((Draft.ofRequest request).build ⟨.empty, .zero false, .warning⟩).result =
        .error .tooLong :=
  not_rebuilt_of_long_end (Int.pow_pos (by decide)) Numeral.isWritable_leastLong _

end Request

end TraceFilter
