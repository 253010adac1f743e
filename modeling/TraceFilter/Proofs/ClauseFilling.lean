/-
Module: TraceFilter.Proofs.ClauseFilling
Purpose: The names of parameters in a clause, found by reading it from left to right, and the values
  written in their places. With its parameters filled in, the clause of a predicate is its text
  with the values in place.
Main exports: Clause.tokens, Clause.names, Clause.fill, Clause.IsClosed, Predicate.fill_clause,
  Predicate.names_clause
-/
import TraceFilter.Proofs.ClauseParameters
import TraceFilter.Window.Predicate

namespace TraceFilter

/-! ### Reading the names of parameters -/

namespace Clause

/-- A part of a clause: a character that stands for itself, or the name of a parameter. -/
inductive Token where
  | character (c : Char)
  | parameter (name : String)
deriving DecidableEq, Repr, Inhabited

/-- Whether a character can stand in the name of a parameter. -/
def isNameChar (c : Char) : Bool :=
  c.isAlphanum || c == '_'

/-- The parts of a text. A colon starts the name of a parameter, which reaches as far as it can;
within quotes a colon stands for itself. -/
def tokens (quoted : Bool) : List Char → List Token
  | [] => []
  | c :: rest =>
    if c = '"' then .character c :: tokens (!quoted) rest
    else if c = ':' ∧ quoted = false then
      .parameter (String.ofList (rest.takeWhile isNameChar))
        :: tokens quoted (rest.dropWhile isNameChar)
    else .character c :: tokens quoted rest
termination_by text => text.length
decreasing_by
  · simp
  · exact Nat.lt_succ_of_le (List.length_dropWhile_le _ _)
  · simp

/-- The name of a part. -/
def Token.name? : Token → Option String
  | .character _ => none
  | .parameter name => some name

/-- The characters of a part where values stand for the names that have one. -/
def Token.filled (parameters : List (String × Int)) : Token → List Char
  | .character c => [c]
  | .parameter name =>
    match parameters.lookup name with
    | some value => (toString value).toList
    | none => ':' :: name.toList

/-- The names of parameters in a clause, in order. -/
def names (clause : String) : List String :=
  (tokens false clause.toList).filterMap Token.name?

/-- A clause where the values of its parameters are written in the places of their names. -/
def fill (parameters : List (String × Int)) (clause : String) : String :=
  String.ofList ((tokens false clause.toList).flatMap (Token.filled parameters))

/-! ### Texts that hold no names -/

/-- A text is closed if each of its characters stands for itself and what follows it is read as if
it came first. -/
def IsClosed (text : List Char) : Prop :=
  ∀ rest, tokens false (text ++ rest) = text.map .character ++ tokens false rest

theorem IsClosed.append {text more : List Char} (closed : IsClosed text) (further : IsClosed more) :
    IsClosed (text ++ more) := by
  intro rest
  rw [List.append_assoc, closed, further, List.map_append, List.append_assoc]

theorem ne_marks {allowed : Char → Bool} (noQuote : allowed '"' = false)
    (noColon : allowed ':' = false) {c : Char} (holds : allowed c = true) :
    c ≠ '"' ∧ c ≠ ':' := by
  constructor
  · rintro rfl
    rw [noQuote] at holds
    cases holds
  · rintro rfl
    rw [noColon] at holds
    cases holds

theorem isClosed_of_plain {text : List Char} (plain : ∀ c ∈ text, c ≠ '"' ∧ c ≠ ':') :
    IsClosed text := by
  intro rest
  induction text with
  | nil => rfl
  | cons c text ih =>
    obtain ⟨⟨noQuote, noColon⟩, others⟩ := List.forall_mem_cons.1 plain
    simp [tokens, noQuote, noColon, ih others]

/-- A quote that is written twice leaves a text within its quotes. -/
theorem tokens_quoted (name rest : List Char) :
    tokens true (name.flatMap (fun c => if c = '"' then [c, c] else [c]) ++ '"' :: rest) =
      (name.flatMap (fun c => if c = '"' then [c, c] else [c]) ++ ['"']).map .character
        ++ tokens false rest := by
  induction name with
  | nil => simp [tokens]
  | cons c name ih =>
    by_cases quote : c = '"'
    · simpa [tokens, quote] using ih
    · simpa [tokens, quote] using ih

theorem plain_of_isPlainName {name : List Char} (plain : isPlainName name = true) :
    ∀ c ∈ name, c ≠ '"' ∧ c ≠ ':' := by
  have plainChar : ∀ {c : Char}, isPlainNameChar c = true → c ≠ '"' ∧ c ≠ ':' :=
    ne_marks (by decide) (by decide)
  have kept := List.all_eq_true.1 (Bool.and_eq_true_iff.1 plain).2
  intro c mem
  rw [withoutLineBreak] at kept
  split at kept
  case isTrue broken =>
    obtain ⟨front, rfl⟩ := List.getLast?_eq_some_iff.1 broken
    rcases List.mem_append.1 mem with inside | last
    · exact plainChar (kept c (by simpa using inside))
    · rw [List.mem_singleton.1 last]
      decide
  case isFalse => exact plainChar (kept c mem)

theorem isClosed_statementName (name : String) : IsClosed (statementName name).toList := by
  unfold statementName
  split
  case isTrue =>
    intro rest
    simpa [tokens] using tokens_quoted name.toList rest
  case isFalse unquoted =>
    have plainName : isPlainName name.toList = true := by
      simp [needsQuotes] at unquoted
      exact unquoted.1.2
    exact isClosed_of_plain (plain_of_isPlainName plainName)

theorem isClosed_table (alias? : Option String) :
    IsClosed (((alias?.filter (!·.isEmpty)).map statementName).getD SpanTable.name).toList := by
  cases alias?.filter (!·.isEmpty) with
  | none => exact isClosed_of_plain (by simp [SpanTable.name])
  | some name => exact isClosed_statementName name

/-! ### Names that are read -/

/-- A name is read up to the first character that cannot stand in it. -/
theorem tokens_parameter {name : String} {rest : List Char}
    (made : ∀ c ∈ name.toList, isNameChar c = true)
    (ends : ∀ c ∈ rest.head?, isNameChar c = false) :
    tokens false (':' :: (name.toList ++ rest)) = .parameter name :: tokens false rest := by
  have stops : rest.takeWhile isNameChar = [] ∧ rest.dropWhile isNameChar = rest := by
    cases rest with
    | nil => exact ⟨rfl, rfl⟩
    | cons c others => simp [ends c rfl]
  simp [tokens, List.takeWhile_append_of_pos made, List.dropWhile_append_of_pos made, stops]

theorem isNameChar_of_mem_label (column : SpanColumn) :
    ∀ c ∈ column.label.toList, isNameChar c = true :=
  List.all_eq_true.1 (by cases column <;> rfl)

theorem isNameChar_of_mem_parameterName {column : SpanColumn} {earlier : Nat} {c : Char}
    (mem : c ∈ (Condition.parameterName column earlier).toList) : isNameChar c = true := by
  rw [Condition.toList_parameterName, List.mem_append, List.mem_cons] at mem
  rcases mem with labelled | rfl | digit
  · exact isNameChar_of_mem_label column c labelled
  · rfl
  · cases isDigit : c.isDigit with
    | true => simp [isNameChar, Char.isAlphanum, isDigit]
    | false => exact absurd digit (not_mem_toString isDigit _)

end Clause

/-! ### The pieces of a predicate -/

namespace Piece

/-- The parts that a piece is read as. -/
def tokens : Piece → List Clause.Token
  | .fixed text => text.toList.map .character
  | .parameter name _ => [.parameter name]

/-- The text of some pieces with named parameters. -/
def clause (pieces : List Piece) : String :=
  String.join (pieces.map named)

/-- Whether the text of some pieces carries no name on that stands before it. -/
def EndsName (pieces : List Piece) : Prop :=
  ∀ c ∈ (clause pieces).toList.head?, Clause.isNameChar c = false

/-- Some pieces are legible if their text is read as one piece after the other. -/
def Legible (pieces : List Piece) : Prop :=
  Clause.tokens false (clause pieces).toList = pieces.flatMap tokens

theorem toList_clause_cons (piece : Piece) (rest : List Piece) :
    (clause (piece :: rest)).toList = piece.named.toList ++ (clause rest).toList := by
  rw [clause, List.map_cons, String.join_cons, String.toList_append]
  rfl

theorem legible_nil : Legible [] := by
  simp [Legible, clause, Clause.tokens]

theorem Legible.fixed {text : String} {rest : List Piece} (legible : Legible rest)
    (closed : Clause.IsClosed text.toList) : Legible (.fixed text :: rest) := by
  unfold Legible
  rw [toList_clause_cons, List.flatMap_cons, ← legible]
  exact closed _

theorem Legible.parameter {name : String} {rest : List Piece} (legible : Legible rest)
    (value : Int) (ends : EndsName rest)
    (made : ∀ c ∈ name.toList, Clause.isNameChar c = true) :
    Legible (.parameter name value :: rest) := by
  unfold Legible
  rw [toList_clause_cons, List.flatMap_cons, ← legible, named, String.toList_append]
  exact Clause.tokens_parameter made ends

theorem endsName_conjunction (rest : List Piece) : EndsName (.fixed " AND " :: rest) := by
  unfold EndsName
  rw [toList_clause_cons]
  simp [named, Clause.isNameChar]

end Piece

theorem Clause.isClosed_conjunction : Clause.IsClosed " AND ".toList :=
  isClosed_of_plain (by simp)

section Legibility

variable {table : String}

theorem Condition.isClosed_front (closed : Clause.IsClosed table.toList) (column : SpanColumn)
    {sign : String} (plain : ∀ c ∈ sign.toList, c ≠ '"' ∧ c ≠ ':') :
    Clause.IsClosed (table ++ "." ++ column.label ++ sign).toList := by
  have dot : Clause.IsClosed ".".toList := Clause.isClosed_of_plain (by simp)
  have label : Clause.IsClosed column.label.toList := by
    apply Clause.isClosed_of_plain
    intro c mem
    exact Clause.ne_marks (by decide) (by decide) (Clause.isNameChar_of_mem_label column c mem)
  simp only [String.toList_append]
  exact ((closed.append dot).append label).append (Clause.isClosed_of_plain plain)

theorem Condition.legible_pieces_append (closed : Clause.IsClosed table.toList)
    (condition : Condition) (earlier : Nat) {rest : List Piece} (legible : Piece.Legible rest)
    (ends : Piece.EndsName rest) : Piece.Legible (condition.pieces table earlier ++ rest) := by
  obtain ⟨column, test⟩ := condition
  have made : ∀ index, ∀ c ∈ (parameterName column index).toList, Clause.isNameChar c = true :=
    fun _ _ mem => Clause.isNameChar_of_mem_parameterName mem
  have front : ∀ {sign : String}, (∀ c ∈ sign.toList, c ≠ '"' ∧ c ≠ ':') →
      Clause.IsClosed (table ++ "." ++ column.label ++ sign).toList :=
    isClosed_front closed column
  cases test with
  | between low high =>
    have last := legible.parameter high ends (made (earlier + 1))
    have both := (last.fixed Clause.isClosed_conjunction).parameter low
      (Piece.endsName_conjunction _) (made earlier)
    exact both.fixed (front (by simp))
  | atLeast bound => exact (legible.parameter bound ends (made earlier)).fixed (front (by simp))
  | atMost bound => exact (legible.parameter bound ends (made earlier)).fixed (front (by simp))

theorem Predicate.endsName_piecesAfter {earlier : List Condition} (later : earlier ≠ [])
    (conditions : List Condition) : Piece.EndsName (piecesAfter table earlier conditions) := by
  cases conditions with
  | nil => simp [piecesAfter, Piece.EndsName, Piece.clause]
  | cons condition rest =>
    rw [piecesAfter, if_neg (by simpa using later)]
    exact Piece.endsName_conjunction _

theorem Predicate.legible_piecesAfter (closed : Clause.IsClosed table.toList)
    (earlier conditions : List Condition) :
    Piece.Legible (piecesAfter table earlier conditions) := by
  induction conditions generalizing earlier with
  | nil => exact Piece.legible_nil
  | cons condition rest ih =>
    have own := Condition.legible_pieces_append closed condition
      (parameterCount earlier condition.column) (ih (earlier ++ [condition]))
      (endsName_piecesAfter (by simp) rest)
    rw [piecesAfter, List.append_assoc]
    split
    · exact own
    · exact own.fixed Clause.isClosed_conjunction

end Legibility

/-! ### The clause and its parameters -/

namespace Piece

theorem names_tokens (pieces : List Piece) :
    (pieces.flatMap tokens).filterMap Clause.Token.name? = names pieces := by
  induction pieces with
  | nil => rfl
  | cons piece rest ih =>
    rw [List.flatMap_cons, List.filterMap_append, ih]
    cases piece with
    | fixed text =>
      have nameless : (tokens (.fixed text)).filterMap Clause.Token.name? = [] := by
        simp [tokens, List.filterMap_map, Clause.Token.name?]
      rw [nameless]
      rfl
    | parameter name value => rfl

theorem filled_tokens {parameters : List (String × Int)} {pieces : List Piece}
    (given : ∀ name value, .parameter name value ∈ pieces →
      parameters.lookup name = some value) :
    (pieces.flatMap tokens).flatMap (Clause.Token.filled parameters) =
      (String.join (pieces.map inPlace)).toList := by
  rw [String.toList_join, List.flatMap_map, List.flatMap_assoc]
  apply List.flatMap_congr
  intro piece mem
  cases piece with
  | fixed text =>
    rw [tokens, List.flatMap_map]
    exact List.flatMap_singleton' _
  | parameter name value => simp [tokens, Clause.Token.filled, given name value mem, inPlace]

end Piece

/-- The value of a name is found if no other parameter has the name. -/
theorem lookup_eq_some_of_mem {parameters : List (String × Int)} {name : String} {value : Int}
    (distinct : (parameters.map Prod.fst).Nodup) (mem : (name, value) ∈ parameters) :
    parameters.lookup name = some value := by
  obtain ⟨before, after, rfl⟩ := List.append_of_mem mem
  refine List.lookup_eq_some_iff.2 ⟨before, after, rfl, ?_⟩
  intro other earlier
  rw [List.map_append, List.map_cons] at distinct
  have apart := (List.nodup_append.1 distinct).2.2 other.1 (List.mem_map_of_mem earlier) name
    List.mem_cons_self
  simpa using apart.symm

namespace Predicate

variable {table : String}

theorem mem_parameters_iff {predicate : Predicate} {name : String} {value : Int} :
    (name, value) ∈ (predicate.render table).parameters ↔
      .parameter name value ∈ predicate.pieces table :=
  (sortParameters_perm _).mem_iff.trans Piece.mem_parameters_iff

theorem perm_parameters (predicate : Predicate) (table : String) :
    ((predicate.render table).parameters.map Prod.fst).Perm
      (Piece.names (predicate.pieces table)) :=
  (sortParameters_perm _).map Prod.fst

theorem nodup_parameters (predicate : Predicate) (table : String) :
    ((predicate.render table).parameters.map Prod.fst).Nodup :=
  (predicate.perm_parameters table).nodup_iff.2 (nodup_names_piecesAfter predicate [])

/-- The names in a clause are those of the parameters in their places. -/
theorem names_clause (closed : Clause.IsClosed table.toList) (predicate : Predicate) :
    Clause.names (predicate.render table).clause = Piece.names (predicate.pieces table) := by
  have legible : Piece.Legible (predicate.pieces table) :=
    legible_piecesAfter closed [] predicate
  rw [← Piece.names_tokens, ← legible]
  rfl

/-- With its parameters filled in, the clause of a predicate is its text with the values in
place. -/
theorem fill_clause (closed : Clause.IsClosed table.toList) (predicate : Predicate) :
    let rendered := predicate.render table
    Clause.fill rendered.parameters rendered.clause = rendered.literal := by
  intro rendered
  have legible : Piece.Legible (predicate.pieces table) :=
    legible_piecesAfter closed [] predicate
  have filled := @Piece.filled_tokens rendered.parameters (predicate.pieces table)
    fun name value mem => lookup_eq_some_of_mem (predicate.nodup_parameters table)
      (mem_parameters_iff.2 mem)
  rw [← legible] at filled
  rw [Clause.fill]
  exact (congrArg String.ofList filled).trans String.ofList_toList

example : Clause.names "\"a:b\".start_ts BETWEEN :start_ts_1 AND :start_ts_2" =
    ["start_ts_1", "start_ts_2"] := by cbv

end Predicate

end TraceFilter
