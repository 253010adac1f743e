/-
Module: TraceFilter.Proofs.ClauseParameters
Purpose: The parameters in the text of a predicate: each has a name of its own, made of letters,
  digits and underscores, and sorting them by name loses none.
Main exports: Condition.parameterName_inj, Predicate.nodup_names_piecesAfter, sortParameters_perm
-/
import Mathlib
import TraceFilter.Spans.Rendering

namespace TraceFilter

/-! ### The names of parameters -/

theorem not_mem_toString {character : Char} (other : character.isDigit = false) (number : Nat) :
    character ∉ (toString number).toList := by
  have digits : (toString number).toList = Nat.toDigits 10 number := Nat.toList_repr
  rw [digits]
  intro mem
  have digit := Nat.isDigit_of_mem_toDigits (by decide) (by decide) mem
  rw [other] at digit
  cases digit

/-- What stands before and behind the last mark of a list is determined by the list. -/
theorem append_mark_inj {α : Type} {mark : α} {left right first second : List α}
    (notFirst : mark ∉ first) (notSecond : mark ∉ second)
    (same : left ++ mark :: first = right ++ mark :: second) : left = right ∧ first = second := by
  rcases List.append_eq_append_iff.1 same with ⟨middle, longer, rest⟩ | ⟨middle, longer, rest⟩
  · cases middle with
    | nil =>
      rw [List.append_nil] at longer
      exact ⟨longer.symm, (List.cons.inj rest).2⟩
    | cons head tail =>
      exact absurd (by simp [(List.cons.inj rest).2]) notFirst
  · cases middle with
    | nil =>
      rw [List.append_nil] at longer
      exact ⟨longer, (List.cons.inj rest).2.symm⟩
    | cons head tail =>
      exact absurd (by simp [(List.cons.inj rest).2]) notSecond

namespace Condition

theorem toList_parameterName (column : SpanColumn) (earlier : Nat) :
    (parameterName column earlier).toList =
      column.label.toList ++ '_' :: (toString (earlier + 1)).toList := by
  simp [parameterName, String.append_assoc]

/-- The number of a parameter stands behind the last underscore of its name. -/
theorem parameterName_inj {column other : SpanColumn} {earlier later : Nat}
    (same : parameterName column earlier = parameterName other later) :
    column = other ∧ earlier = later := by
  have lists := congrArg String.toList same
  rw [toList_parameterName, toList_parameterName] at lists
  have noUnderscore : ∀ number : Nat, '_' ∉ (toString number).toList := not_mem_toString rfl
  obtain ⟨labels, numbers⟩ := append_mark_inj (noUnderscore _) (noUnderscore _) lists
  constructor
  · revert labels
    cases column <;> cases other <;> decide
  · have reprs := congrArg String.toNat? (String.toList_inj.1 numbers)
    simpa [toString, Nat.toNat?_repr] using reprs

theorem space_not_mem_parameterName (column : SpanColumn) (earlier : Nat) :
    ' ' ∉ (parameterName column earlier).toList := by
  rw [toList_parameterName, List.mem_append, List.mem_cons]
  rintro (labelled | underscore | digit)
  · revert labelled
    cases column <;> decide
  · cases underscore
  · exact not_mem_toString rfl _ digit

/-- A condition numbers its parameters from those that come before. -/
theorem index_of_mem_pieces {table name : String} {value : Int} {earlier : Nat}
    {condition : Condition} (mem : .parameter name value ∈ condition.pieces table earlier) :
    ∃ index, name = parameterName condition.column index ∧
      earlier ≤ index ∧ index < earlier + condition.operands.length := by
  obtain ⟨column, test⟩ := condition
  cases test with
  | between low high =>
    simp [pieces] at mem
    obtain ⟨named, _⟩ | ⟨named, _⟩ := mem
    · exact ⟨earlier, named, Nat.le_refl _, by simp [operands]⟩
    · exact ⟨earlier + 1, named, by omega, by simp [operands]⟩
  | atLeast bound =>
    simp [pieces] at mem
    exact ⟨earlier, mem.1, Nat.le_refl _, by simp [operands]⟩
  | atMost bound =>
    simp [pieces] at mem
    exact ⟨earlier, mem.1, Nat.le_refl _, by simp [operands]⟩

end Condition

namespace Piece

/-- The names of the parameters among some pieces, in order. -/
def names (pieces : List Piece) : List String :=
  (pieces.filterMap parameter?).map Prod.fst

theorem names_append (pieces more : List Piece) :
    names (pieces ++ more) = names pieces ++ names more := by
  rw [names, List.filterMap_append, List.map_append]
  rfl

theorem mem_parameters_iff {pieces : List Piece} {name : String} {value : Int} :
    (name, value) ∈ pieces.filterMap parameter? ↔ .parameter name value ∈ pieces := by
  constructor
  · intro mem
    obtain ⟨piece, among, found⟩ := List.mem_filterMap.1 mem
    cases piece with
    | fixed text => cases found
    | parameter other held =>
      cases found
      exact among
  · intro mem
    exact List.mem_filterMap.2 ⟨_, mem, rfl⟩

theorem exists_of_mem_names {pieces : List Piece} {name : String} (mem : name ∈ names pieces) :
    ∃ value, .parameter name value ∈ pieces := by
  obtain ⟨⟨_, value⟩, among, rfl⟩ := List.mem_map.1 mem
  exact ⟨value, mem_parameters_iff.1 among⟩

end Piece

theorem Condition.nodup_names_pieces (table : String) (earlier : Nat) (condition : Condition) :
    (Piece.names (condition.pieces table earlier)).Nodup := by
  obtain ⟨column, test⟩ := condition
  cases test with
  | between low high =>
    have distinct : parameterName column earlier ≠ parameterName column (earlier + 1) := by
      intro same
      have := (parameterName_inj same).2
      omega
    show [parameterName column earlier, parameterName column (earlier + 1)].Nodup
    simpa using distinct
  | atLeast bound => exact List.nodup_singleton _
  | atMost bound => exact List.nodup_singleton _

namespace Predicate

variable {table : String}

theorem parameterCount_append (earlier : List Condition) (condition : Condition)
    (column : SpanColumn) :
    parameterCount (earlier ++ [condition]) column =
      parameterCount earlier column
        + if condition.column = column then condition.operands.length else 0 := by
  by_cases same : condition.column = column <;> simp [parameterCount, same]

theorem index_of_mem_piecesAfter {name : String} {value : Int} {conditions earlier : List Condition}
    (mem : .parameter name value ∈ piecesAfter table earlier conditions) :
    ∃ column index, name = Condition.parameterName column index ∧
      parameterCount earlier column ≤ index := by
  induction conditions generalizing earlier with
  | nil => cases mem
  | cons condition rest ih =>
    simp only [piecesAfter, List.mem_append] at mem
    obtain (joined | own) | further := mem
    · split at joined <;> simp at joined
    · obtain ⟨index, named, above, _⟩ := Condition.index_of_mem_pieces own
      exact ⟨condition.column, index, named, above⟩
    · obtain ⟨column, index, named, above⟩ := ih further
      rw [parameterCount_append] at above
      exact ⟨column, index, named, by omega⟩

/-- No two parameters share a name. -/
theorem nodup_names_piecesAfter (conditions earlier : List Condition) :
    (Piece.names (piecesAfter table earlier conditions)).Nodup := by
  induction conditions generalizing earlier with
  | nil => exact List.nodup_nil
  | cons condition rest ih =>
    have separator : Piece.names (if earlier.isEmpty then [] else [.fixed " AND "]) = [] := by
      split <;> rfl
    simp only [piecesAfter, Piece.names_append, separator, List.nil_append]
    refine List.nodup_append.2
      ⟨Condition.nodup_names_pieces _ _ _, ih (earlier ++ [condition]), ?_⟩
    intro name own other further same
    obtain ⟨_, amongOwn⟩ := Piece.exists_of_mem_names own
    obtain ⟨_, amongFurther⟩ := Piece.exists_of_mem_names further
    obtain ⟨index, named, _, below⟩ := Condition.index_of_mem_pieces amongOwn
    obtain ⟨column, second, namedOther, above⟩ := index_of_mem_piecesAfter amongFurther
    have both := Condition.parameterName_inj (named.symm.trans (same.trans namedOther))
    rw [parameterCount_append, if_pos both.1, ← both.1] at above
    omega

end Predicate

/-! ### The parameters in the order of their names -/

theorem insertParameter_perm (parameter : String × Int) (sorted : List (String × Int)) :
    (insertParameter parameter sorted).Perm (parameter :: sorted) := by
  induction sorted with
  | nil => exact .refl _
  | cons first rest ih =>
    unfold insertParameter
    split
    · exact .refl _
    · exact (ih.cons first).trans (.swap parameter first rest)

theorem sortParameters_perm (parameters : List (String × Int)) :
    (sortParameters parameters).Perm parameters := by
  have folded : ∀ sorted : List (String × Int),
      (parameters.foldl (fun sorted parameter => insertParameter parameter sorted) sorted).Perm
        (sorted ++ parameters) := by
    induction parameters with
    | nil => simp
    | cons parameter rest ih =>
      intro sorted
      rw [List.foldl_cons]
      refine (ih _).trans ?_
      refine ((insertParameter_perm parameter sorted).append_right rest).trans ?_
      exact List.perm_middle.symm
  exact folded []

end TraceFilter
