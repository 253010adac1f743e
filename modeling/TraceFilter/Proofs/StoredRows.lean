/-
Module: TraceFilter.Proofs.StoredRows
Purpose: Which rows are stored after any sequence of attempted insertions, and that a query of a
  window gives exactly those of them that the window admits, each once.
Main exports: SpanRow.IsComplete, SpanRow.SameSpan, SpanStore.Takes, SpanStore.attempt,
  SpanStore.accepted, SpanStore.rows_foldl_attempt, SpanStore.Consistent,
  SpanStore.stores_accepted_rows
-/
import TraceFilter.Proofs.RowSelection

namespace TraceFilter

namespace SpanRow

/-- A row is complete when no required cell is absent. -/
def IsComplete (row : SpanRow) : Prop :=
  row.traceId ≠ none ∧ row.id ≠ none ∧ row.name ≠ none

/-- Two rows are about the same span when trace and span are the same in both. -/
def SameSpan (row other : SpanRow) : Prop :=
  row.traceId = other.traceId ∧ row.id = other.id

instance (row : SpanRow) : Decidable row.IsComplete :=
  inferInstanceAs (Decidable (_ ∧ _ ∧ _))

instance (row other : SpanRow) : Decidable (row.SameSpan other) :=
  inferInstanceAs (Decidable (_ ∧ _))

end SpanRow

/-- A window fits when its bounds are integers of 64 bits. -/
structure Window.Fits (window : Window) : Prop where
  startTs : fitsCell window.startTs = true
  endTs : fitsCell window.endTs = true
  minDuration : ∀ bound ∈ window.minDuration, fitsCell bound = true
  maxDuration : ∀ bound ∈ window.maxDuration, fitsCell bound = true

/-- The values that the predicate of a window compares with are its bounds. -/
theorem Window.Fits.forall_operands {window : Window} (fitting : window.Fits) :
    ∀ condition ∈ window.predicate, condition.operands.all fitsCell = true := by
  rw [Window.forall_mem_predicate]
  simp only [Condition.operands, List.all_cons, List.all_nil, Bool.and_true, Bool.and_eq_true]
  exact ⟨⟨fitting.startTs, fitting.endTs⟩, fitting.minDuration, fitting.maxDuration⟩

/-- Whether a fault is that of a constraint of the table. -/
def Fault.isIntegrity : Fault → Bool
  | .notNull _ => true
  | .notUnique _ => true
  | _ => false

namespace SpanStore

variable {store : SpanStore} {row : SpanRow}

/-! ### Insertions that fail -/

theorem absenceFault?_eq_none_iff : absenceFault? row = none ↔ row.IsComplete := by
  unfold absenceFault?
  obtain ⟨traceId, id, name, parentId, debug, startTs, duration⟩ := row
  cases traceId <;> cases id <;> cases name <;>
    simp [SpanColumn.all, SpanColumn.nullable, SpanRow.cell, SpanRow.IsComplete]

/-- A complete row clashes with the rows about the same span. -/
theorem clashes_iff {other : SpanRow} (complete : row.IsComplete) :
    clashes SpanTable.spanOfTraceOnce row other = true ↔ row.SameSpan other := by
  obtain ⟨traceId, id, name, parentId, debug, startTs, duration⟩ := row
  obtain ⟨otherTraceId, otherId, otherName, _, _, _, _⟩ := other
  obtain ⟨hasTrace, hasId, _⟩ := complete
  cases traceId with
  | none => exact absurd rfl hasTrace
  | some trace =>
    cases id with
    | none => exact absurd rfl hasId
    | some span =>
      cases otherTraceId <;> cases otherId <;>
        simp [clashes, SpanTable.spanOfTraceOnce, SpanRow.cell, SpanRow.SameSpan]

theorem repetitionFault?_eq_none_iff (complete : row.IsComplete) :
    store.repetitionFault? row = none ↔ ∀ other ∈ store.rows, ¬ row.SameSpan other := by
  simp [repetitionFault?, SpanTable.uniqueConstraints, clashes_iff complete]

theorem isIntegrity_of_absence {fault : Fault} (lacking : absenceFault? row = some fault) :
    fault.isIntegrity = true := by
  obtain ⟨column, _, rfl⟩ := Option.map_eq_some_iff.1 lacking
  rfl

theorem isIntegrity_of_repetition {fault : Fault}
    (repeating : store.repetitionFault? row = some fault) : fault.isIntegrity = true := by
  obtain ⟨constraint, _, rfl⟩ := Option.map_eq_some_iff.1 repeating
  rfl

/-- A store takes a row that is complete and about another span than every stored row. -/
def Takes (store : SpanStore) (row : SpanRow) : Prop :=
  row.IsComplete ∧ ∀ other ∈ store.rows, ¬ row.SameSpan other

instance (store : SpanStore) (row : SpanRow) : Decidable (store.Takes row) :=
  inferInstanceAs (Decidable (_ ∧ _))

theorem insert_of_takes (fitting : fits row = true) (takes : store.Takes row) :
    store.insert row = .ok ⟨store.rows ++ [row]⟩ := by
  unfold insert
  rw [fitting, absenceFault?_eq_none_iff.2 takes.1,
    (repetitionFault?_eq_none_iff takes.1).2 takes.2]
  rfl

theorem insert_of_not_takes (fitting : fits row = true) (refused : ¬ store.Takes row) :
    ∃ fault, store.insert row = .error fault ∧ fault.isIntegrity = true := by
  unfold insert
  rw [fitting]
  cases lacking : absenceFault? row with
  | some fault => exact ⟨fault, rfl, isIntegrity_of_absence lacking⟩
  | none =>
    cases repeating : store.repetitionFault? row with
    | some fault => exact ⟨fault, rfl, isIntegrity_of_repetition repeating⟩
    | none =>
      have complete := absenceFault?_eq_none_iff.1 lacking
      exact absurd ⟨complete, (repetitionFault?_eq_none_iff complete).1 repeating⟩ refused

theorem not_takes_iff : ¬ store.Takes row ↔
    (row.traceId = none ∨ row.id = none ∨ row.name = none) ∨
      ∃ stored ∈ store.rows, stored.traceId = row.traceId ∧ stored.id = row.id := by
  unfold Takes SpanRow.IsComplete SpanRow.SameSpan
  simp only [eq_comm]
  grind

theorem not_takes_of_error {fault : Fault} (fitting : fits row = true)
    (failed : store.insert row = .error fault) : ¬ store.Takes row := by
  intro takes
  rw [insert_of_takes fitting takes] at failed
  cases failed

/-- The insertion of a row fails exactly when the store does not take it, and then with the fault of
a constraint. -/
theorem insert_eq_error_iff (fitting : fits row = true) :
    (∃ fault, store.insert row = .error fault ∧ fault.isIntegrity = true) ↔ ¬ store.Takes row := by
  constructor
  · intro ⟨fault, failed, _⟩
    exact not_takes_of_error fitting failed
  · exact insert_of_not_takes fitting

/-! ### Sequences of attempts -/

/-- The store after an attempt to insert a row. An insertion that fails leaves it as it was. -/
def attempt (store : SpanStore) (row : SpanRow) : SpanStore :=
  (store.insert row).toOption.getD store

theorem rows_attempt (fitting : fits row = true) : (store.attempt row).rows =
    if store.Takes row then store.rows ++ [row] else store.rows := by
  unfold attempt
  split
  · next takes =>
    rw [insert_of_takes fitting takes]
    rfl
  · next refused =>
    obtain ⟨fault, failed, _⟩ := insert_of_not_takes fitting refused
    rw [failed]
    rfl

/-- Rows that are all inserted, with no failure, are stored as by attempts. -/
theorem eq_foldl_attempt_of_insertAll {rows : List SpanRow} {after : SpanStore}
    (inserted : insertAll rows store = .ok after) : rows.foldl attempt store = after := by
  induction rows generalizing store with
  | nil =>
    cases inserted
    rfl
  | cons row rest ih =>
    obtain ⟨between, first, later⟩ := bind_eq_ok_iff.1 inserted
    rw [List.foldl_cons, attempt, first]
    exact ih later

/-- The rows among some that are accepted after others: those that are complete and about another
span than every row that was accepted earlier. -/
def accepted : List SpanRow → List SpanRow → List SpanRow
  | _, [] => []
  | earlier, row :: rest =>
    if row.IsComplete ∧ ∀ other ∈ earlier, ¬ row.SameSpan other then
      row :: accepted (earlier ++ [row]) rest
    else accepted earlier rest

theorem accepted_cons (store : SpanStore) (row : SpanRow) (rest : List SpanRow) :
    accepted store.rows (row :: rest) =
      if store.Takes row then row :: accepted (store.rows ++ [row]) rest
      else accepted store.rows rest := rfl

/-- Attempts add the accepted rows behind the stored ones. -/
theorem rows_foldl_attempt {attempted : List SpanRow}
    (fitting : ∀ row ∈ attempted, fits row = true) :
    (attempted.foldl attempt store).rows = store.rows ++ accepted store.rows attempted := by
  induction attempted generalizing store with
  | nil => exact (List.append_nil _).symm
  | cons row rest ih =>
    rw [List.forall_mem_cons] at fitting
    rw [List.foldl_cons, ih fitting.2, rows_attempt fitting.1, accepted_cons]
    split
    · rw [List.append_assoc, List.singleton_append]
    · rfl

/-! ### What holds of the stored rows -/

/-- A store is consistent when its rows are complete and about distinct spans. -/
structure Consistent (store : SpanStore) : Prop where
  complete : ∀ row ∈ store.rows, row.IsComplete
  distinct : store.rows.Pairwise fun row later => ¬ row.SameSpan later

theorem consistent_empty : empty.Consistent :=
  ⟨List.forall_mem_nil _, .nil⟩

/-- An attempt keeps a store consistent. -/
theorem Consistent.attempt (consistent : store.Consistent) (fitting : fits row = true) :
    (store.attempt row).Consistent := by
  have rows : (store.attempt row).rows = _ := rows_attempt fitting
  split at rows
  · next takes =>
    constructor
    · rw [rows, List.forall_mem_append, List.forall_mem_singleton]
      exact ⟨consistent.complete, takes.1⟩
    · rw [rows, List.pairwise_append]
      refine ⟨consistent.distinct, List.pairwise_singleton _ _, ?_⟩
      intro stored member last only same
      rw [List.mem_singleton.1 only] at same
      exact takes.2 stored member ⟨same.1.symm, same.2.symm⟩
  · constructor
    · rw [rows]
      exact consistent.complete
    · rw [rows]
      exact consistent.distinct

/-- Any attempts keep a store consistent. -/
theorem Consistent.foldl_attempt {attempted : List SpanRow} (consistent : store.Consistent)
    (fitting : ∀ row ∈ attempted, fits row = true) :
    (attempted.foldl SpanStore.attempt store).Consistent := by
  induction attempted generalizing store with
  | nil => exact consistent
  | cons row rest ih =>
    rw [List.forall_mem_cons] at fitting
    exact ih (consistent.attempt fitting.1) fitting.2

theorem Consistent.nodup (consistent : store.Consistent) : store.rows.Nodup := by
  apply consistent.distinct.imp
  intro row later apart same
  rw [same] at apart
  exact apart ⟨rfl, rfl⟩

/-! ### Queries -/

/-- A query with values that fit into cells gives the stored rows that the predicate selects. -/
theorem exists_select {predicate : Predicate}
    (fitting : ∀ condition ∈ predicate, condition.operands.all fitsCell = true) :
    ∃ selected, store.select predicate = .ok selected ∧
      selected.Perm (store.rows.filter predicate.holds) := by
  unfold select
  rw [List.all_eq_true.2 fitting, if_pos rfl]
  exact ⟨_, rfl, List.mergeSort_perm _ _⟩

/-- A query of a window gives the stored rows that the window admits, each once. -/
theorem Consistent.exists_select_window {window : Window} (consistent : store.Consistent)
    (fitting : window.Fits) : ∃ selected, store.select window.predicate = .ok selected ∧
      selected.Nodup ∧ ∀ row, row ∈ selected ↔ row ∈ store.rows ∧ window.Admits row := by
  obtain ⟨selected, selects, rearranged⟩ :=
    @exists_select store window.predicate fitting.forall_operands
  refine ⟨selected, selects, ?_, ?_⟩
  · exact rearranged.nodup_iff.2 (consistent.nodup.filter _)
  · intro row
    rw [rearranged.mem_iff, List.mem_filter, Window.holds_iff_admits]

/-- After any attempts to insert rows into an empty table, a further insertion fails with the fault
of a constraint exactly when a required cell is absent or the span is stored already; no other fault
occurs, and an insertion that fails leaves the stored rows as they were. So the accepted rows are
stored, in order, and for every window with bounds of 64 bits a query gives exactly those of them
that the window admits, each once. -/
theorem stores_accepted_rows {attempted : List SpanRow}
    (fitting : ∀ row ∈ attempted, fits row = true) :
    let store := attempted.foldl attempt empty
    (∀ row, fits row = true →
      ((∃ fault, store.insert row = .error fault ∧ fault.isIntegrity = true) ↔
        (row.traceId = none ∨ row.id = none ∨ row.name = none) ∨
          ∃ stored ∈ store.rows, stored.traceId = row.traceId ∧ stored.id = row.id) ∧
      ∀ fault, store.insert row = .error fault →
        fault.isIntegrity = true ∧ (store.attempt row).rows = store.rows) ∧
    store.rows = accepted [] attempted ∧
    ∀ window : Window, window.Fits → ∃ selected, store.select window.predicate = .ok selected ∧
      selected.Nodup ∧ ∀ row, row ∈ selected ↔ row ∈ store.rows ∧ window.Admits row := by
  intro store
  refine ⟨?_, rows_foldl_attempt fitting, ?_⟩
  · intro row fits
    constructor
    · rw [insert_eq_error_iff fits, not_takes_iff]
    · intro fault failed
      have refused := not_takes_of_error fits failed
      obtain ⟨_, same, integrity⟩ := insert_of_not_takes fits refused
      rw [failed] at same
      cases same
      exact ⟨integrity, by rw [rows_attempt fits, if_neg refused]⟩
  · intro window fits
    exact (consistent_empty.foldl_attempt fitting).exists_select_window fits

/-- A row that lacks its name does not reserve its span, and a row that repeats a stored span is not
stored. -/
theorem stores_accepted_rows_beside_refused :
    let row (traceId id : Int) (name : Option String) (startTs : Option Int) : SpanRow :=
      { traceId := some traceId, id := some id, name, parentId := none, debug := none, startTs
        duration := none }
    let attempted := [row 1 1 none (some 5), row 1 1 (some "get") (some 5),
      row 1 2 (some "get") none, row 1 1 (some "put") (some 6), row 2 1 (some "put") (some 6)]
    let store := attempted.foldl attempt empty
    let window : Window := { startTs := 0, endTs := 5, minDuration := none, maxDuration := none }
    (∀ row ∈ attempted, fits row = true) ∧
      store.rows = [row 1 1 (some "get") (some 5), row 1 2 (some "get") none,
        row 2 1 (some "put") (some 6)] ∧
      ∃ selected, store.select window.predicate = .ok selected ∧
        row 1 1 (some "get") (some 5) ∈ selected ∧ row 1 2 (some "get") none ∉ selected := by
  intro row attempted store window
  have fitting : ∀ row ∈ attempted, fits row = true := by decide +kernel
  have remaining : accepted [] attempted = [row 1 1 (some "get") (some 5),
      row 1 2 (some "get") none, row 2 1 (some "put") (some 6)] := by decide +kernel
  obtain ⟨_, rows, queries⟩ := stores_accepted_rows fitting
  rw [remaining] at rows
  obtain ⟨selected, selects, _, members⟩ := queries window ⟨by decide, by decide, nofun, nofun⟩
  refine ⟨fitting, rows, selected, selects, ?_, ?_⟩
  · rw [members, rows, ← Window.holds_iff_admits]
    decide +kernel
  · rw [members, rows, ← Window.holds_iff_admits]
    decide +kernel

end SpanStore

end TraceFilter
