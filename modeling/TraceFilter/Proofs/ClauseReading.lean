/-
Module: TraceFilter.Proofs.ClauseReading
Purpose: What the text of a predicate means to a database: its words are read back as conditions,
  where the name of a parameter stands for its value. Every text of a predicate is read as that
  predicate.
Main exports: Clause.read?, Clause.Selects, Clause.read?_spelled, Predicate.read?_clause,
  Predicate.read?_literal
-/
import TraceFilter.Proofs.ClauseParameters

namespace TraceFilter

/-! ### Reading a clause -/

namespace Clause

/-- The words of a text: what stands between its spaces. -/
def words (text : String) : List String :=
  (text.toList.splitOn ' ').map String.ofList

/-- The number that a word stands for: the value of the parameter that it names, or a numeral. -/
def operand? (parameters : List (String × Int)) (word : String) : Option Int :=
  match parameters.find? fun parameter => ":" ++ parameter.1 == word with
  | some parameter => some parameter.2
  | none => word.toInt?

/-- The column of the span table that a word names. -/
def column? (word : String) : Option SpanColumn :=
  SpanColumn.all.find? fun column => SpanTable.qualified column == word

mutual

/-- Reads conditions with conjunctions between them. The conjunction behind the lower bound of a
range belongs to the range. -/
def conditions? (parameters : List (String × Int)) : List String → Option Predicate
  | column :: "BETWEEN" :: low :: "AND" :: high :: rest => do
    let condition := ⟨← column? column,
      .between (← operand? parameters low) (← operand? parameters high)⟩
    return condition :: (← more? parameters rest)
  | column :: ">=" :: bound :: rest => do
    let condition := ⟨← column? column, .atLeast (← operand? parameters bound)⟩
    return condition :: (← more? parameters rest)
  | column :: "<=" :: bound :: rest => do
    let condition := ⟨← column? column, .atMost (← operand? parameters bound)⟩
    return condition :: (← more? parameters rest)
  | _ => none

/-- Reads what follows a condition. -/
def more? (parameters : List (String × Int)) : List String → Option Predicate
  | [] => some []
  | "AND" :: rest => conditions? parameters rest
  | _ => none

end

/-- Reads a text under some parameters. -/
def read? (parameters : List (String × Int)) (text : String) : Option Predicate :=
  conditions? parameters (words text)

/-- Whether a text can be read and what is read selects a row. -/
def Selects (parameters : List (String × Int)) (text : String) (row : SpanRow) : Prop :=
  ∃ predicate, read? parameters text = some predicate ∧ predicate.holds row = true

end Clause

theorem Clause.selects_iff {parameters : List (String × Int)} {text : String}
    {predicate : Predicate} {row : SpanRow} (readable : read? parameters text = some predicate) :
    Selects parameters text row ↔ predicate.holds row = true := by
  rw [Selects, readable]
  simp

/-! ### The words of a predicate -/

/-- The text of a piece under a spelling of parameters. -/
def Piece.spelled (spell : String → Int → String) : Piece → String
  | .fixed text => text
  | .parameter name value => spell name value

theorem Piece.named_eq_spelled : Piece.named = Piece.spelled fun name _ => ":" ++ name := by
  funext piece
  cases piece <;> rfl

theorem Piece.inPlace_eq_spelled : Piece.inPlace = Piece.spelled fun _ value => toString value := by
  funext piece
  cases piece <;> rfl

/-- The words of a condition on the span table under a spelling of parameters. -/
def Condition.phrase (spell : String → Int → String) (earlier : Nat) (condition : Condition) :
    List String :=
  let column := SpanTable.qualified condition.column
  let name := parameterName condition.column
  match condition.test with
  | .between low high =>
    [column, "BETWEEN", spell (name earlier) low, "AND", spell (name (earlier + 1)) high]
  | .atLeast bound => [column, ">=", spell (name earlier) bound]
  | .atMost bound => [column, "<=", spell (name earlier) bound]

/-- The words of the conditions after some others, with the conjunctions. -/
def Predicate.phraseAfter (spell : String → Int → String) :
    List Condition → List Condition → List String
  | _, [] => []
  | earlier, condition :: rest =>
    (if earlier.isEmpty then [] else ["AND"])
      ++ condition.phrase spell (parameterCount earlier condition.column)
      ++ phraseAfter spell (earlier ++ [condition]) rest

/-- Words with a space before each. -/
def Clause.spaced (phrase : List String) : String :=
  String.join (phrase.map (" " ++ ·))

variable {spell : String → Int → String} {parameters : List (String × Int)}

namespace Clause

theorem spaced_cons (word : String) (rest : List String) :
    spaced (word :: rest) = " " ++ (word ++ spaced rest) := by
  rw [← String.append_assoc]
  exact String.join_cons

theorem spaced_append (phrase more : List String) :
    spaced (phrase ++ more) = spaced phrase ++ spaced more := by
  rw [spaced, List.map_append, String.join_append]
  rfl

theorem append_spaced (first : String) (rest : List String) :
    first ++ spaced rest = " ".intercalate (first :: rest) := by
  induction rest generalizing first with
  | nil => exact String.append_empty
  | cons word rest ih =>
    rw [spaced_cons, ih, String.intercalate_cons_of_ne_nil (List.cons_ne_nil word rest),
      String.append_assoc]

/-- Words without spaces are found again in their text. -/
theorem words_intercalate {phrase : List String} (nonempty : phrase ≠ [])
    (spaceless : ∀ word ∈ phrase, ' ' ∉ word.toList) :
    words (" ".intercalate phrase) = phrase := by
  have split : (" ".intercalate phrase).toList.splitOn ' ' = phrase.map String.toList := by
    rw [String.toList_intercalate]
    apply List.splitOn_intercalate
    · intro characters among
      obtain ⟨word, mem, rfl⟩ := List.mem_map.1 among
      exact spaceless word mem
    · simpa using nonempty
  rw [words, split, List.map_map]
  simp

theorem words_of_spaced {text : String} {phrase : List String} (nonempty : phrase ≠ [])
    (same : " " ++ text = spaced phrase) (spaceless : ∀ word ∈ phrase, ' ' ∉ word.toList) :
    words text = phrase := by
  cases phrase with
  | nil => exact absurd rfl nonempty
  | cons first rest =>
    rw [spaced_cons, String.append_right_inj, append_spaced] at same
    rw [same, words_intercalate nonempty spaceless]

end Clause

theorem Condition.spaced_phrase (earlier : Nat) (condition : Condition) :
    Clause.spaced (condition.phrase spell earlier) =
      " " ++ String.join ((condition.pieces SpanTable.name earlier).map (Piece.spelled spell)) := by
  obtain ⟨column, test⟩ := condition
  apply String.toList_inj.1
  cases test <;>
    simp [pieces, phrase, Clause.spaced, Piece.spelled, SpanTable.qualified, String.append_assoc]

namespace Predicate

theorem spaced_phraseAfter {earlier : List Condition} (later : earlier ≠ [])
    (conditions : List Condition) :
    Clause.spaced (phraseAfter spell earlier conditions) =
      String.join ((piecesAfter SpanTable.name earlier conditions).map (Piece.spelled spell)) := by
  induction conditions generalizing earlier with
  | nil => rfl
  | cons condition rest ih =>
    -- Some condition comes before, so that this one brings its conjunction along.
    have next := @ih (earlier ++ [condition]) (by simp)
    apply String.toList_inj.1
    simp [piecesAfter, phraseAfter, later, Clause.spaced_append, Clause.spaced_cons, next,
      Condition.spaced_phrase, Piece.spelled]

theorem words_pieces {first : Condition} {rest : List Condition}
    (spaceless : ∀ word ∈ phraseAfter spell [] (first :: rest), ' ' ∉ word.toList) :
    Clause.words (String.join ((pieces SpanTable.name (first :: rest)).map (Piece.spelled spell))) =
      phraseAfter spell [] (first :: rest) := by
  apply Clause.words_of_spaced _ _ spaceless
  · cases first with
    | mk column test => cases test <;> simp [phraseAfter, Condition.phrase]
  · simp [pieces, piecesAfter, phraseAfter, Clause.spaced_append, spaced_phraseAfter,
      Condition.spaced_phrase, String.append_assoc]

end Predicate

/-! ### Reading back -/

namespace Clause

/-- A spelling is read as some pieces mean it if every parameter among them is spelled as one word
that stands for its value. -/
def Spells (parameters : List (String × Int)) (spell : String → Int → String)
    (pieces : List Piece) : Prop :=
  ∀ name value, .parameter name value ∈ pieces →
    ' ' ∉ (spell name value).toList ∧ operand? parameters (spell name value) = some value

theorem Spells.of_cons {earlier rest : List Condition} {condition : Condition}
    (spells : Spells parameters spell
      (Predicate.piecesAfter SpanTable.name earlier (condition :: rest))) :
    Spells parameters spell (condition.pieces SpanTable.name
        (Predicate.parameterCount earlier condition.column)) ∧
      Spells parameters spell
        (Predicate.piecesAfter SpanTable.name (earlier ++ [condition]) rest) := by
  constructor
  · intro name value mem
    exact spells name value (List.mem_append_left _ (List.mem_append_right _ mem))
  · intro name value mem
    exact spells name value (List.mem_append_right _ mem)

theorem column?_qualified (column : SpanColumn) :
    column? (SpanTable.qualified column) = some column := by
  cases column <;> rfl

theorem space_not_mem_qualified (column : SpanColumn) :
    ' ' ∉ (SpanTable.qualified column).toList := by
  cases column <;> decide

/-- The words of a condition are read as the condition if its parameters are spelled well. -/
theorem conditions?_phrase_append {condition : Condition} {earlier : Nat}
    (spells : Spells parameters spell (condition.pieces SpanTable.name earlier))
    (rest : List String) :
    conditions? parameters (condition.phrase spell earlier ++ rest) =
      (more? parameters rest).map (condition :: ·) := by
  rw [Option.map_eq_bind]
  obtain ⟨column, test⟩ := condition
  cases test with
  | between low high =>
    simp [Spells, Condition.pieces, or_imp, forall_and] at spells
    simp [Condition.phrase, conditions?, column?_qualified, spells]
  | atLeast bound =>
    simp [Spells, Condition.pieces] at spells
    simp [Condition.phrase, conditions?, column?_qualified, spells]
  | atMost bound =>
    simp [Spells, Condition.pieces] at spells
    simp [Condition.phrase, conditions?, column?_qualified, spells]

theorem space_not_mem_phrase {condition : Condition} {earlier : Nat}
    (spells : Spells parameters spell (condition.pieces SpanTable.name earlier)) :
    ∀ word ∈ condition.phrase spell earlier, ' ' ∉ word.toList := by
  obtain ⟨column, test⟩ := condition
  cases test with
  | between low high =>
    simp [Spells, Condition.pieces, or_imp, forall_and] at spells
    simp [Condition.phrase, space_not_mem_qualified, spells]
  | atLeast bound =>
    simp [Spells, Condition.pieces] at spells
    simp [Condition.phrase, space_not_mem_qualified, spells]
  | atMost bound =>
    simp [Spells, Condition.pieces] at spells
    simp [Condition.phrase, space_not_mem_qualified, spells]

theorem space_not_mem_phraseAfter {earlier conditions : List Condition} {word : String}
    (spells : Spells parameters spell (Predicate.piecesAfter SpanTable.name earlier conditions))
    (mem : word ∈ Predicate.phraseAfter spell earlier conditions) : ' ' ∉ word.toList := by
  induction conditions generalizing earlier with
  | nil => cases mem
  | cons condition rest ih =>
    obtain ⟨own, further⟩ := spells.of_cons
    rcases List.mem_append.1 mem with first | later
    · rcases List.mem_append.1 first with joined | inside
      · split at joined
        · cases joined
        · rw [List.mem_singleton.1 joined]
          decide
      · exact space_not_mem_phrase own word inside
    · exact ih further later

theorem more?_phraseAfter {earlier conditions : List Condition} (later : earlier ≠ [])
    (spells : Spells parameters spell (Predicate.piecesAfter SpanTable.name earlier conditions)) :
    more? parameters (Predicate.phraseAfter spell earlier conditions) = some conditions := by
  induction conditions generalizing earlier with
  | nil => rfl
  | cons condition rest ih =>
    obtain ⟨own, further⟩ := spells.of_cons
    have next := ih (by simp) further
    simp only [Predicate.phraseAfter, List.isEmpty_iff, if_neg later]
    show conditions? parameters (condition.phrase spell _ ++ _) = _
    rw [conditions?_phrase_append own, next]
    rfl

theorem operand?_named {name : String} {value : Int} (distinct : (parameters.map Prod.fst).Nodup)
    (mem : (name, value) ∈ parameters) : operand? parameters (":" ++ name) = some value := by
  unfold operand?
  cases found : parameters.find? fun parameter => ":" ++ parameter.1 == ":" ++ name with
  | none =>
    have unnamed := List.find?_eq_none.1 found (name, value) mem
    simp at unnamed
  | some parameter =>
    -- What is found first bears the name, and no other parameter does.
    have named : parameter.1 = name := by
      simpa using List.find?_some found
    have same := List.inj_on_of_nodup_map distinct (List.mem_of_find?_eq_some found) mem named
    rw [same]

theorem conditions?_phraseAfter {predicate : Predicate} (nonempty : predicate ≠ [])
    (spells : Spells parameters spell (predicate.pieces SpanTable.name)) :
    conditions? parameters (Predicate.phraseAfter spell [] predicate) = some predicate := by
  cases predicate with
  | nil => exact absurd rfl nonempty
  | cons first rest =>
    obtain ⟨own, further⟩ := spells.of_cons
    show conditions? parameters (first.phrase spell _ ++ Predicate.phraseAfter spell _ rest) = _
    rw [conditions?_phrase_append own, more?_phraseAfter (by simp) further]
    rfl

/-- A predicate is read back from its text under any spelling of its parameters. -/
theorem read?_spelled {predicate : Predicate} (nonempty : predicate ≠ [])
    (spells : Spells parameters spell (predicate.pieces SpanTable.name)) :
    read? parameters
      (String.join ((predicate.pieces SpanTable.name).map (Piece.spelled spell))) =
        some predicate := by
  have phrase := conditions?_phraseAfter nonempty spells
  cases predicate with
  | nil => exact absurd rfl nonempty
  | cons first rest =>
    rw [read?, Predicate.words_pieces fun word mem => space_not_mem_phraseAfter spells mem]
    exact phrase

theorem spells_named {pieces : List Piece} (distinct : (Piece.names pieces).Nodup)
    (spaceless : ∀ name ∈ Piece.names pieces, ' ' ∉ name.toList) :
    Spells (sortParameters (pieces.filterMap Piece.parameter?)) (fun name _ => ":" ++ name)
      pieces := by
  intro name value mem
  have given := Piece.mem_parameters_iff.2 mem
  have sorted := sortParameters_perm (pieces.filterMap Piece.parameter?)
  constructor
  · have := spaceless name (List.mem_map.2 ⟨_, given, rfl⟩)
    simpa using this
  · exact operand?_named ((sorted.map Prod.fst).nodup_iff.2 distinct) (sorted.mem_iff.2 given)

theorem space_not_mem_int (number : Int) : ' ' ∉ (toString number).toList := by
  cases number with
  | ofNat size => exact not_mem_toString rfl size
  | negSucc size =>
    have text : (toString (Int.negSucc size)).toList = '-' :: (toString (size + 1)).toList :=
      String.toList_append
    rw [text, List.mem_cons]
    rintro (minus | digit)
    · cases minus
    · exact not_mem_toString rfl _ digit

theorem spells_inPlace (pieces : List Piece) :
    Spells [] (fun _ value => toString value) pieces := by
  intro name value _
  exact ⟨space_not_mem_int value, Int.toInt?_repr value⟩

end Clause

namespace Predicate

theorem spells_named (predicate : Predicate) :
    Clause.Spells (predicate.render SpanTable.name).parameters (fun name _ => ":" ++ name)
      (predicate.pieces SpanTable.name) := by
  apply Clause.spells_named
  · exact nodup_names_piecesAfter predicate []
  · intro name among
    obtain ⟨_, mem⟩ := Piece.exists_of_mem_names among
    obtain ⟨column, index, rfl, _⟩ := index_of_mem_piecesAfter mem
    exact Condition.space_not_mem_parameterName column index

/-- The text with named parameters is read as the predicate under the parameters. -/
theorem read?_clause {predicate : Predicate} (nonempty : predicate ≠ []) :
    let rendered := predicate.render SpanTable.name
    Clause.read? rendered.parameters rendered.clause = some predicate := by
  have spells := spells_named predicate
  rw [render] at spells ⊢
  rw [Piece.named_eq_spelled]
  exact Clause.read?_spelled nonempty spells

theorem read?_literal {predicate : Predicate} (nonempty : predicate ≠ []) :
    Clause.read? [] (predicate.render SpanTable.name).literal = some predicate := by
  rw [render, Piece.inPlace_eq_spelled]
  exact Clause.read?_spelled nonempty (Clause.spells_inPlace _)

example : Clause.read? []
    "zipkin_spans.start_ts BETWEEN 1 AND 5 AND zipkin_spans.duration >= -2" =
      some [⟨.startTs, .between 1 5⟩, ⟨.duration, .atLeast (-2)⟩] := by cbv

end Predicate

end TraceFilter
