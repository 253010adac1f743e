/-
Module: TraceFilter.Proofs.RowSelection
Purpose: The rows that the predicate of a window selects, read from either of its texts, are the
  rows whose start and duration the window itself lets through.
Main exports: Predicate.holds_iff, Window.Admits, Window.holds_iff_admits,
  Window.selects_iff_admits
-/
import TraceFilter.Proofs.ClauseReading
import TraceFilter.Proofs.WindowBounds
import TraceFilter.Window.Predicate

namespace TraceFilter

/-! ### Three truth values -/

namespace Truth

@[simp] theorem ofBool_eq_yes_iff {truth : Bool} : ofBool truth = .yes ↔ truth = true := by
  cases truth <;> decide

/-- A conjunction is true only if both sides are; nothing unknown makes it true. -/
theorem and_eq_yes_iff {left right : Truth} :
    left.and right = .yes ↔ left = .yes ∧ right = .yes := by
  cases left <;> cases right <;> decide

end Truth

namespace Condition

theorem truth_eq_yes_iff {condition : Condition} {row : SpanRow} :
    condition.truth row = .yes ↔
      ∃ number, row.number? condition.column = some number ∧
        condition.test.passes number = true := by
  unfold truth
  cases row.number? condition.column <;> simp

end Condition

/-- A predicate selects the rows for which each of its conditions is true. -/
theorem Predicate.holds_iff {predicate : Predicate} {row : SpanRow} :
    predicate.holds row = true ↔ ∀ condition ∈ predicate, condition.truth row = .yes := by
  have folded : predicate.truth row = .yes ↔
      ∀ condition ∈ predicate, condition.truth row = .yes := by
    induction predicate with
    | nil => simp [truth]
    | cons condition rest ih =>
      rw [List.forall_mem_cons, ← ih]
      exact Truth.and_eq_yes_iff
  rw [← folded]
  exact beq_iff_eq

namespace SpanRow

theorem number?_startTs (row : SpanRow) : row.number? .startTs = row.startTs := by
  unfold number? cell
  cases row.startTs <;> rfl

theorem number?_duration (row : SpanRow) : row.number? .duration = row.duration := by
  unfold number? cell
  cases row.duration <;> rfl

end SpanRow

/-! ### What a window lets through -/

namespace Window

variable {window : Window} {row : SpanRow}

theorem breaks_below_int (duration : Int) (bound? : Option Int) :
    breaks (.int duration) .below bound? = .ok (bound?.any fun bound => duration < bound) := by
  cases bound? with
  | none => rfl
  | some bound => exact Value.compare_below_int duration bound

theorem breaks_above_int (duration : Int) (bound? : Option Int) :
    breaks (.int duration) .above bound? = .ok (bound?.any fun bound => bound < duration) := by
  cases bound? with
  | none => rfl
  | some bound => exact Value.compare_above_int duration bound

/-- A window accepts the durations between its bounds, both included. -/
theorem accepts_int_iff {duration : Int} :
    window.accepts (.int duration) = .ok true ↔
      (∀ bound ∈ window.minDuration, bound ≤ duration) ∧
        ∀ bound ∈ window.maxDuration, duration ≤ bound := by
  have answer : window.accepts (.int duration) =
      .ok (!(window.minDuration.any fun bound => duration < bound)
        && !(window.maxDuration.any fun bound => bound < duration)) := by
    unfold accepts
    rw [breaks_below_int, breaks_above_int, ok_bind, ok_bind]
    cases window.minDuration.any fun bound => duration < bound <;> rfl
  rw [answer]
  simp [Option.any_eq_false]

/-- A window admits a row whose start it contains, and whose duration it accepts, unless it has no
bounds on durations. What is absent from the row is never let through. -/
def Admits (window : Window) (row : SpanRow) : Prop :=
  (∃ start, row.startTs = some start ∧ window.contains (.int start) = .ok true) ∧
    ((window.minDuration = none ∧ window.maxDuration = none) ∨
      ∃ duration, row.duration = some duration ∧ window.accepts (.int duration) = .ok true)

/-- The conditions of the predicate of a window, one by one. -/
theorem forall_mem_predicate {property : Condition → Prop} :
    (∀ condition ∈ window.predicate, property condition) ↔
      property ⟨.startTs, .between window.startTs window.endTs⟩ ∧
      (∀ bound ∈ window.minDuration, property ⟨.duration, .atLeast bound⟩) ∧
      ∀ bound ∈ window.maxDuration, property ⟨.duration, .atMost bound⟩ := by
  simp [predicate, or_imp, forall_and]

theorem contains_iff {timestamp : Int} :
    window.contains (.int timestamp) = .ok true ↔
      (Test.between window.startTs window.endTs).passes timestamp = true := by
  rw [contains_int]
  simp [Test.passes]

theorem holds_iff_admits (window : Window) (row : SpanRow) :
    window.predicate.holds row = true ↔ window.Admits row := by
  rw [Predicate.holds_iff, forall_mem_predicate]
  simp only [Condition.truth_eq_yes_iff, SpanRow.number?_startTs, SpanRow.number?_duration]
  unfold Admits
  simp only [contains_iff, accepts_int_iff]
  refine and_congr_right fun _ => ?_
  -- Without a duration the bounds have to be missing, with one they are met or missing.
  cases duration : row.duration with
  | none => simp [Option.eq_none_iff_forall_not_mem]
  | some held => simp +contextual [Test.passes]

theorem predicate_ne_nil (window : Window) : window.predicate ≠ [] :=
  List.cons_ne_nil _ _

/-- Both texts of the predicate of a window are read as the predicate. -/
theorem read?_render (window : Window) :
    Clause.read? (window.render none).parameters (window.render none).clause =
        some window.predicate ∧
      Clause.read? [] (window.render none).literal = some window.predicate :=
  ⟨Predicate.read?_clause window.predicate_ne_nil, Predicate.read?_literal window.predicate_ne_nil⟩

/-- The predicate of a window selects the rows that the window admits, and so do both of its texts,
read with the parameters or with the values in place. A row without a start is never selected, and
one without a duration only by a window without bounds on durations. -/
theorem selects_iff_admits (window : Window) (row : SpanRow) :
    let rendered := window.render none
    let selected := Clause.Selects rendered.parameters rendered.clause
    (window.predicate.holds row = true ↔ window.Admits row) ∧
    (selected row ↔ window.Admits row) ∧
    (Clause.Selects [] rendered.literal row ↔ selected row) ∧
    ¬ selected { row with startTs := none } ∧
    (selected { row with duration := none } ↔
      window.minDuration = none ∧ window.maxDuration = none ∧
        ∃ start, row.startTs = some start ∧ window.contains (.int start) = .ok true) := by
  intro rendered selected
  have selectedIff : ∀ row, selected row ↔ window.Admits row := by
    intro row
    rw [← holds_iff_admits]
    exact Clause.selects_iff window.read?_render.1
  refine ⟨window.holds_iff_admits row, selectedIff row, ?_, ?_, ?_⟩
  · rw [selectedIff, ← holds_iff_admits]
    exact Clause.selects_iff window.read?_render.2
  · rw [selectedIff]
    rintro ⟨⟨start, started, _⟩, _⟩
    cases started
  · rw [selectedIff]
    constructor
    · rintro ⟨within, ⟨noLeast, noMost⟩ | ⟨duration, held, _⟩⟩
      · exact ⟨noLeast, noMost, within⟩
      · cases held
    · rintro ⟨noLeast, noMost, within⟩
      exact ⟨within, .inl ⟨noLeast, noMost⟩⟩

end Window

end TraceFilter
