/-
Module: TraceFilter.Proofs.WindowReading
Purpose: Which values a window reads as bounds, and that the window of a request fails for nothing
  but a bound on durations that cannot be read.
Main exports: Window.BoundReads, Window.readBound_eq_ok_iff, Window.Unreadable,
  Window.BlamesDurations, Window.Converts, Window.ofRequest_fails_only_for_durations
-/
import TraceFilter.Proofs.SettingsReading
import TraceFilter.Proofs.ValueEquivalence
import TraceFilter.Proofs.WindowBounds
import TraceFilter.Proofs.WrittenBounds

namespace TraceFilter

/-! ### Doubles that are integers -/

/-- A finite double is at the place of its units, and an integer is read off it. -/
theorem Binary64.exactly_of_quantity {x : Binary64} {units : Int}
    (finite : x.quantity = .exactly units) : x.units = units := by
  unfold quantity at finite
  split at finite
  · split at finite
    · cases finite
    · split at finite <;> cases finite
  · exact Quantity.exactly.inj finite

namespace Window

theorem isWithinWord_iff {number : Int} :
    isWithinWord number = true ↔ -wordLimit < number ∧ number < wordLimit := by
  simp [isWithinWord]

/-- A double is read as the integer at its place, if there is one and 64 bits can hold it. -/
theorem readDouble_eq_ok_iff {x : Binary64} {number : Int} :
    readDouble x = .ok number ↔
      x.quantity = .ofInt number ∧ -wordLimit < number ∧ number < wordLimit := by
  rw [← isWithinWord_iff, readDouble]
  cases place : x.quantity with
  | exactly units =>
    have same := Binary64.exactly_of_quantity place
    by_cases whole : x.isWhole = true
    · obtain ⟨integer, multiple⟩ : (Binary64.unitsPerOne : Int) ∣ units := by
        rw [← same]
        exact Int.dvd_of_emod_eq_zero (eq_of_beq whole)
      rw [Int.mul_comm] at multiple
      subst multiple
      have atInteger : Quantity.exactly (integer * Binary64.unitsPerOne) = .ofInt number ↔
          integer = number := Quantity.ofInt_inj
      rw [atInteger]
      simp only [Binary64.truncateUnits_ofInt, whole, Bool.not_true, Bool.false_eq_true, if_false]
      by_cases within : isWithinWord integer = true
      · rw [if_pos within, Except.ok.injEq, and_iff_left_of_imp]
        rintro rfl
        exact within
      · rw [if_neg within]
        refine iff_of_false (fun read => ?_) ?_
        · cases read
        · rintro ⟨rfl, fits⟩
          exact within fits
    · have broken : ∀ integer : Int, units ≠ integer * Binary64.unitsPerOne := by
        rintro integer rfl
        refine whole ?_
        rw [Binary64.isWhole, same, Int.mul_emod_left]
        rfl
      simp only [whole, Bool.not_false, if_true, Quantity.ofInt, Quantity.exactly.injEq]
      refine iff_of_false (fun read => ?_) fun read => broken number read.1
      cases read
  | undefined | belowAll | aboveAll =>
    refine iff_of_false (fun read => ?_) fun read => Quantity.noConfusion read.1
    cases read

/-! ### Values that are bounds -/

/-- The values that a window reads as bounds: integers of any size, truth values as one and zero,
doubles that are integers within 64 bits, and texts that a bound is written in. -/
inductive BoundReads : Value → Int → Prop where
  | int (number : Int) : BoundReads (.int number) number
  | bool (truth : Bool) : BoundReads (.bool truth) truth.toInt
  | float {x : Binary64} {identity : Nat} {number : Int} (whole : x.quantity = .ofInt number)
      (above : -wordLimit < number) (below : number < wordLimit) :
      BoundReads (.float x identity) number
  | text {characters : String} {number : Int}
      (written : Numeral.BoundWritten characters number) : BoundReads (.text characters) number

theorem readBound_eq_ok_iff {value : Value} {number : Int} :
    readBound value = .ok number ↔ BoundReads value number := by
  cases value with
  | int other =>
    constructor
    · intro read
      cases read
      exact .int _
    · intro reads
      cases reads
      rfl
  | bool truth =>
    constructor
    · intro read
      cases read
      exact .bool _
    · intro reads
      cases reads
      rfl
  | float x identity =>
    rw [readBound, readDouble_eq_ok_iff]
    constructor
    · rintro ⟨whole, above, below⟩
      exact .float whole above below
    · intro reads
      cases reads with
      | float whole above below => exact ⟨whole, above, below⟩
  | text characters =>
    rw [readBound, mapError_eq_ok_iff, Numeral.readAscii_eq_ok_iff]
    constructor
    · exact .text
    · intro reads
      cases reads with
      | text written => exact written
  | _ => exact iff_of_false nofun nofun

/-- A value that is to be a bound, and is not read as one. -/
def Unreadable (value : Value) : Prop :=
  value ≠ .null ∧ ∀ number, ¬ BoundReads value number

theorem readOptionalBound_of_ne_null {value : Value} (given : value ≠ .null) :
    readOptionalBound value = (readBound value).map some := by
  cases value with
  | null => exact absurd rfl given
  | _ => rfl

theorem readOptionalBound_eq_ok_iff {value : Value} {bound : Option Int} :
    readOptionalBound value = .ok bound ↔
      value = .null ∧ bound = none ∨ ∃ number, BoundReads value number ∧ bound = some number := by
  simp only [← readBound_eq_ok_iff]
  by_cases null : value = .null
  · subst null
    simp [readOptionalBound, readBound, eq_comm]
  · rw [readOptionalBound_of_ne_null null]
    cases readBound value <;> simp [null, Except.map, eq_comm]

/-- Reading a bound fails exactly for a value that is given and is no bound. -/
theorem exists_fault_iff {value : Value} :
    (∃ fault, readOptionalBound value = .error fault) ↔ Unreadable value := by
  rw [exists_eq_error_iff, Unreadable]
  simp only [readOptionalBound_eq_ok_iff, exists_or, not_or]
  simp

/-- A bound is left open exactly if none is given, and is what the value is read as otherwise. -/
structure ReadAs (value : Value) (bound : Option Int) : Prop where
  none_iff : bound = none ↔ value = .null
  reads : ∀ number ∈ bound, BoundReads value number

theorem readAs_of_readOptionalBound {value : Value} {bound : Option Int}
    (read : readOptionalBound value = .ok bound) : ReadAs value bound := by
  rcases readOptionalBound_eq_ok_iff.1 read with ⟨rfl, rfl⟩ | ⟨number, reads, rfl⟩
  · exact ⟨by simp, nofun⟩
  · refine ⟨iff_of_false nofun ?_, ?_⟩
    · rintro rfl
      cases reads
    · rintro _ ⟨rfl⟩
      exact reads

/-! ### Windows of requests -/

/-- What a report on the window of a request blames: its bounds on durations that cannot be read, in
order, and nothing else. -/
structure BlamesDurations (request : Request) (report : FieldReport) : Prop where
  title : report.title = Window.title
  nonempty : report.faults ≠ []
  ordered : (report.faults.map Prod.fst).Sublist ["min_duration", "max_duration"]
  minDuration : "min_duration" ∈ report.faults.map Prod.fst ↔ Unreadable request.minDuration
  maxDuration : "max_duration" ∈ report.faults.map Prod.fst ↔ Unreadable request.maxDuration

/-- What the window of a request is: its time range in microseconds, exactly, and its bounds on
durations as they are read. -/
structure Converts (request : Request) (window : Window) : Prop where
  startTs : window.startTs = (request.endTs - request.lookback) * 1000
  endTs : window.endTs = request.endTs * 1000
  minDuration : ReadAs request.minDuration window.minDuration
  maxDuration : ReadAs request.maxDuration window.maxDuration

variable {request : Request}

theorem converts_of_ofRequest {window : Window} (made : ofRequest request = .ok window) :
    Converts request window := by
  rw [ofRequest_eq] at made
  split at made
  · next least most =>
    cases made
    exact ⟨rfl, rfl, readAs_of_readOptionalBound least, readAs_of_readOptionalBound most⟩
  · cases made

/-- A window with the most but without the least of durations is of no request that was accepted. -/
theorem Converts.least_of_most {window : Window} (converts : Converts request window)
    (wellFormed : request.WellFormed) (bounded : window.maxDuration ≠ none) :
    window.minDuration ≠ none := by
  rw [ne_eq, converts.maxDuration.none_iff] at bounded
  rw [ne_eq, converts.minDuration.none_iff]
  rcases wellFormed.maxDuration with absent | least
  · exact absurd absent bounded
  · exact least

theorem faultOf_eq_nil_iff {α : Type} {field : String} {outcome : Except FieldFault α} :
    FieldReport.faultOf field outcome = [] ↔ ∃ value, outcome = .ok value := by
  cases outcome <;> simp [FieldReport.faultOf]

theorem exists_fault_ofRequest_iff :
    (∃ fault, ofRequest request = .error fault) ↔
      Unreadable request.minDuration ∨ Unreadable request.maxDuration := by
  rw [ofRequest_eq, ← exists_fault_iff, ← exists_fault_iff]
  cases readOptionalBound request.minDuration <;>
    cases readOptionalBound request.maxDuration <;> simp

theorem blamesDurations_of_ofRequest {fault : Fault} (failed : ofRequest request = .error fault) :
    ∃ report, fault = .invalidFields report ∧ BlamesDurations request report := by
  rw [ofRequest_eq] at failed
  split at failed
  · cases failed
  · next unread =>
    cases failed
    refine ⟨_, rfl, rfl, ?_, ?_, ?_, ?_⟩
    · rw [ne_eq, List.append_eq_nil_iff, faultOf_eq_nil_iff, faultOf_eq_nil_iff]
      rintro ⟨⟨minDuration, least⟩, maxDuration, most⟩
      exact unread minDuration maxDuration least most
    · rw [List.map_append]
      exact (Settings.names_faultOf_sublist _ _).append (Settings.names_faultOf_sublist _ _)
    · rw [← exists_fault_iff, List.map_append, List.mem_append, Settings.mem_faultOf_iff,
        Settings.mem_faultOf_iff]
      simp
    · rw [← exists_fault_iff, List.map_append, List.mem_append, Settings.mem_faultOf_iff,
        Settings.mem_faultOf_iff]
      simp

/-- The window of an accepted request, however it was obtained, fails for nothing but its bounds on
durations, and exactly if one that is given cannot be read as an integer. Else it holds the exact
time range, its bounds are open where those of the request are, and there is no most without a least
of durations. -/
theorem ofRequest_fails_only_for_durations (obtained : request.Obtained) :
    ((∃ window, ofRequest request = .ok window) ∨
      ∃ report, ofRequest request = .error (.invalidFields report) ∧
        BlamesDurations request report) ∧
    ((∃ fault, ofRequest request = .error fault) ↔
      Unreadable request.minDuration ∨ Unreadable request.maxDuration) ∧
    ∀ window, ofRequest request = .ok window →
      Converts request window ∧ (window.maxDuration ≠ none → window.minDuration ≠ none) := by
  refine ⟨?_, exists_fault_ofRequest_iff, ?_⟩
  · cases made : ofRequest request with
    | ok window => exact .inl ⟨window, rfl⟩
    | error fault =>
      obtain ⟨report, rfl, blames⟩ := blamesDurations_of_ofRequest made
      exact .inr ⟨report, rfl, blames⟩
  · intro window made
    have converts := converts_of_ofRequest made
    exact ⟨converts, converts.least_of_most obtained.wellFormed⟩

/-- A least duration in decorated digits and a truth value for the most make bounds of seven and of
one; with a fraction in place of the most, that one alone is blamed. -/
theorem ofRequest_fails_only_for_durations_of_texts :
    let given (most : Value) : List (String × Value) := [
      ("service_name", .text "Api"), ("min_duration", .text " +0_7.0\n"), ("max_duration", most),
      ("end_ts", .int 5), ("lookback", .int 2), ("limit", .int 10)]
    let request (most : Value) : Request :=
      { serviceName := "api", spanName := none, annotations := [], tags := []
        minDuration := .text " +0_7.0\n", maxDuration := most
        endTs := 5, lookback := 2, limit := 10 }
    Request.ofFields (given (.bool true)) = .ok (request (.bool true)) ∧
      Request.ofFields (given (.text "7.5")) = .ok (request (.text "7.5")) ∧
      Converts (request (.bool true)) ⟨3000, 5000, some 7, some 1⟩ ∧
      ∃ report, ofRequest (request (.text "7.5")) = .error (.invalidFields report) ∧
        BlamesDurations (request (.text "7.5")) report := by
  intro given request
  have makes : Request.ofFields (given (.bool true)) = .ok (request (.bool true)) := rfl
  have makesOther : Request.ofFields (given (.text "7.5")) = .ok (request (.text "7.5")) := rfl
  have read : ofRequest (request (.bool true)) = .ok ⟨3000, 5000, some 7, some 1⟩ := rfl
  obtain ⟨_, _, converts⟩ := ofRequest_fails_only_for_durations (.made _ makes)
  obtain ⟨⟨window, made⟩ | failed, _⟩ := ofRequest_fails_only_for_durations (.made _ makesOther)
  · cases made
  · exact ⟨makes, makesOther, (converts _ read).1, failed⟩

end Window

end TraceFilter
