/-
Module: TraceFilter.Proofs.WindowClauses
Purpose: The texts of a window determine it. With the values in place no two windows share a text,
  whatever the name of the table; with named parameters the text tells which bounds are set.
Main exports: Clause.spaced_append_inj, Predicate.literal_inj, Predicate.phrase_inj_of_clause,
  Window.literal_eq_iff, Window.clause_eq_iff, Window.render_determines_window
-/
import TraceFilter.Proofs.ClauseFilling
import TraceFilter.Proofs.RowSelection

namespace TraceFilter

/-! ### Words that are followed by a space -/

namespace Clause

/-- Whether the text after a word carries it on no further. -/
def EndsWord (rest : String) : Prop :=
  ∀ c ∈ rest.toList.head?, c = ' '

theorem takeWhile_word {word rest : String} (spaceless : ' ' ∉ word.toList)
    (ends : EndsWord rest) : (word ++ rest).toList.takeWhile (· != ' ') = word.toList := by
  have inside : ∀ c ∈ word.toList, (c != ' ') = true := by
    intro c mem
    exact bne_iff_ne.2 fun space => spaceless (space ▸ mem)
  rw [String.toList_append, List.takeWhile_append_of_pos inside]
  cases behind : rest.toList with
  | nil => simp
  | cons c others => simp [ends c (by simp [behind])]

/-- A word is told from the text after it. -/
theorem word_append_inj {word other rest more : String} (spaceless : ' ' ∉ word.toList)
    (others : ' ' ∉ other.toList) (ends : EndsWord rest) (endsOther : EndsWord more)
    (same : word ++ rest = other ++ more) : word = other ∧ rest = more := by
  have words : word = other := by
    apply String.toList_inj.1
    rw [← takeWhile_word spaceless ends, same, takeWhile_word others endsOther]
  subst words
  exact ⟨rfl, (String.append_right_inj word).1 same⟩

theorem endsWord_spaced_append (phrase : List String) {rest : String} (ends : EndsWord rest) :
    EndsWord (spaced phrase ++ rest) := by
  cases phrase with
  | nil => simpa [spaced, String.join] using ends
  | cons word others =>
    unfold EndsWord
    simp [spaced_cons]

/-- As many words on both sides are the same words. -/
theorem spaced_append_inj {phrase other : List String} {rest more : String}
    (length : phrase.length = other.length) (spaceless : ∀ word ∈ phrase, ' ' ∉ word.toList)
    (others : ∀ word ∈ other, ' ' ∉ word.toList) (ends : EndsWord rest) (endsOther : EndsWord more)
    (same : spaced phrase ++ rest = spaced other ++ more) : phrase = other ∧ rest = more := by
  induction phrase generalizing other with
  | nil =>
    obtain rfl := List.length_eq_zero_iff.1 length.symm
    exact ⟨rfl, (String.append_right_inj _).1 same⟩
  | cons word phrase ih =>
    cases other with
    | nil => cases length
    | cons first other =>
      obtain ⟨own, further⟩ := List.forall_mem_cons.1 spaceless
      obtain ⟨ownOther, furtherOther⟩ := List.forall_mem_cons.1 others
      rw [spaced_cons, spaced_cons] at same
      simp only [String.append_assoc, String.append_right_inj] at same
      obtain ⟨rfl, behind⟩ := word_append_inj own ownOther (endsWord_spaced_append phrase ends)
        (endsWord_spaced_append other endsOther) same
      obtain ⟨rfl, rests⟩ := ih (Nat.succ.inj length) further furtherOther behind
      exact ⟨rfl, rests⟩

end Clause

/-! ### The words of a text on any table -/

variable {spell : String → Int → String} {table : String}

namespace Condition

/-- The text of a condition under a spelling of parameters. -/
def text (table : String) (spell : String → Int → String) (earlier : Nat)
    (condition : Condition) : String :=
  String.join ((condition.pieces table earlier).map (Piece.spelled spell))

/-- The name of the table stands at the front. -/
theorem text_eq_append (table : String) (earlier : Nat) (condition : Condition) :
    condition.text table spell earlier = table ++ condition.text "" spell earlier := by
  obtain ⟨column, test⟩ := condition
  apply String.toList_inj.1
  cases test <;> simp [text, pieces, Piece.spelled, String.append_assoc]

theorem text_ne_empty {earlier : Nat} {condition : Condition} :
    condition.text table spell earlier ≠ "" := by
  obtain ⟨column, test⟩ := condition
  cases test <;> simp [text, pieces, Piece.spelled]

theorem two_le_length_phrase (earlier : Nat) (condition : Condition) :
    2 ≤ (condition.phrase spell earlier).length := by
  obtain ⟨column, test⟩ := condition
  cases test <;> simp [phrase]

/-- The column and the sign of a condition come first, and the sign tells how many words there
are. -/
theorem length_phrase_of_take {condition other : Condition} {earlier later : Nat}
    (fronts : (condition.phrase spell earlier).take 2 = (other.phrase spell later).take 2) :
    (condition.phrase spell earlier).length = (other.phrase spell later).length := by
  obtain ⟨column, test⟩ := condition
  obtain ⟨second, trial⟩ := other
  cases test <;> cases trial <;> simp [phrase] at fronts ⊢

section Words

variable {condition other : Condition} {earlier later : Nat} {rest more : String}

/-- The words of a condition are told from the text after them. -/
theorem phrase_append_inj
    (spaceless : ∀ word ∈ condition.phrase spell earlier, ' ' ∉ word.toList)
    (others : ∀ word ∈ other.phrase spell later, ' ' ∉ word.toList)
    (ends : Clause.EndsWord rest) (endsOther : Clause.EndsWord more)
    (same : Clause.spaced (condition.phrase spell earlier) ++ rest =
      Clause.spaced (other.phrase spell later) ++ more) :
    condition.phrase spell earlier = other.phrase spell later ∧ rest = more := by
  have split := same
  rw [← List.take_append_drop 2 (condition.phrase spell earlier),
    ← List.take_append_drop 2 (other.phrase spell later), Clause.spaced_append,
    Clause.spaced_append, String.append_assoc, String.append_assoc] at split
  have fronts := (Clause.spaced_append_inj (by simp [two_le_length_phrase])
    (fun word mem => spaceless word (List.mem_of_mem_take mem))
    (fun word mem => others word (List.mem_of_mem_take mem))
    (Clause.endsWord_spaced_append _ ends) (Clause.endsWord_spaced_append _ endsOther) split).1
  exact Clause.spaced_append_inj (length_phrase_of_take fronts) spaceless others ends endsOther same

/-- Texts on one table are as good as the words of the conditions. -/
theorem phrase_inj_of_text
    (spaceless : ∀ word ∈ condition.phrase spell earlier, ' ' ∉ word.toList)
    (others : ∀ word ∈ other.phrase spell later, ' ' ∉ word.toList)
    (ends : Clause.EndsWord rest) (endsOther : Clause.EndsWord more)
    (same : condition.text table spell earlier ++ rest = other.text table spell later ++ more) :
    condition.phrase spell earlier = other.phrase spell later ∧ rest = more := by
  apply phrase_append_inj spaceless others ends endsOther
  rw [text_eq_append table, text_eq_append table, String.append_assoc, String.append_assoc,
    String.append_right_inj] at same
  rw [spaced_phrase, spaced_phrase]
  show " " ++ condition.text SpanTable.name spell earlier ++ rest =
    " " ++ other.text SpanTable.name spell later ++ more
  rw [text_eq_append SpanTable.name, text_eq_append SpanTable.name]
  simp only [String.append_assoc, same]

end Words

end Condition

namespace Predicate

/-- The text of the conditions after some others under a spelling of parameters. -/
def textAfter (table : String) (spell : String → Int → String)
    (earlier conditions : List Condition) : String :=
  String.join ((piecesAfter table earlier conditions).map (Piece.spelled spell))

theorem textAfter_cons (table : String) (earlier : List Condition) (condition : Condition)
    (rest : List Condition) :
    textAfter table spell earlier (condition :: rest) =
      (if earlier.isEmpty then "" else " AND ")
        ++ (condition.text table spell (parameterCount earlier condition.column)
          ++ textAfter table spell (earlier ++ [condition]) rest) := by
  rw [textAfter, piecesAfter]
  split <;> simp [textAfter, Piece.spelled, Condition.text]

theorem endsWord_textAfter {earlier : List Condition} (later : earlier ≠ [])
    (conditions : List Condition) :
    Clause.EndsWord (textAfter table spell earlier conditions) := by
  cases conditions with
  | nil => simp [textAfter, piecesAfter, Clause.EndsWord]
  | cons condition rest =>
    rw [textAfter_cons, if_neg (by simpa using later)]
    simp [Clause.EndsWord]

theorem textAfter_eq_empty_iff {earlier conditions : List Condition} :
    textAfter table spell earlier conditions = "" ↔ conditions = [] := by
  cases conditions with
  | nil => simp [textAfter, piecesAfter]
  | cons condition rest => simp [textAfter_cons, Condition.text_ne_empty]

/-- Texts on one table hold the same words. -/
theorem phraseAfter_inj_of_text {earlier second conditions others : List Condition}
    (begun : earlier.isEmpty = second.isEmpty)
    (spaceless : ∀ word ∈ phraseAfter spell earlier conditions, ' ' ∉ word.toList)
    (spacelessOther : ∀ word ∈ phraseAfter spell second others, ' ' ∉ word.toList)
    (same : textAfter table spell earlier conditions = textAfter table spell second others) :
    phraseAfter spell earlier conditions = phraseAfter spell second others := by
  induction conditions generalizing earlier second others with
  | nil =>
    have empty := textAfter_eq_empty_iff.1 (same.symm.trans (textAfter_eq_empty_iff.2 rfl))
    rw [empty]
    rfl
  | cons condition rest ih =>
    cases others with
    | nil => cases textAfter_eq_empty_iff.1 (same.trans (textAfter_eq_empty_iff.2 rfl))
    | cons other more =>
      simp only [phraseAfter, List.forall_mem_append] at spaceless spacelessOther
      rw [textAfter_cons, textAfter_cons, begun, String.append_right_inj] at same
      obtain ⟨own, behind⟩ := Condition.phrase_inj_of_text spaceless.1.2 spacelessOther.1.2
        (endsWord_textAfter (by simp) rest) (endsWord_textAfter (by simp) more) same
      have begunLater : (earlier ++ [condition]).isEmpty = (second ++ [other]).isEmpty := by
        cases earlier <;> cases second <;> rfl
      have further := ih begunLater spaceless.2 spacelessOther.2 behind
      rw [phraseAfter, phraseAfter, begun, own, further]

/-- Predicates that are read from their words under the same parameters share no text. -/
theorem eq_of_text {parameters : List (String × Int)} {predicate other : Predicate}
    (nonempty : predicate ≠ []) (nonemptyOther : other ≠ [])
    (spells : Clause.Spells parameters spell (predicate.pieces SpanTable.name))
    (spellsOther : Clause.Spells parameters spell (other.pieces SpanTable.name))
    (same : textAfter table spell [] predicate = textAfter table spell [] other) :
    predicate = other := by
  have phrases := phraseAfter_inj_of_text rfl
    (fun word mem => Clause.space_not_mem_phraseAfter spells mem)
    (fun word mem => Clause.space_not_mem_phraseAfter spellsOther mem) same
  have read := Clause.conditions?_phraseAfter nonempty spells
  rw [phrases, Clause.conditions?_phraseAfter nonemptyOther spellsOther] at read
  exact (Option.some.inj read).symm

/-- The text with the values in place determines the predicate. -/
theorem literal_inj {predicate other : Predicate} (nonempty : predicate ≠ [])
    (nonemptyOther : other ≠ [])
    (same : (predicate.render table).literal = (other.render table).literal) :
    predicate = other := by
  simp only [render, Piece.inPlace_eq_spelled] at same
  exact eq_of_text nonempty nonemptyOther (Clause.spells_inPlace _) (Clause.spells_inPlace _) same

/-- The text with named parameters determines the words, where names stand for values. -/
theorem phrase_inj_of_clause {predicate other : Predicate}
    (same : (predicate.render table).clause = (other.render table).clause) :
    phraseAfter (fun name _ => ":" ++ name) [] predicate =
      phraseAfter (fun name _ => ":" ++ name) [] other := by
  simp only [render, Piece.named_eq_spelled] at same
  exact phraseAfter_inj_of_text rfl
    (fun word mem => Clause.space_not_mem_phraseAfter (spells_named predicate) mem)
    (fun word mem => Clause.space_not_mem_phraseAfter (spells_named other) mem) same

end Predicate

/-! ### The texts of a window -/

namespace Window

theorem predicate_inj {window other : Window} (same : window.predicate = other.predicate) :
    window = other := by
  obtain ⟨startTs, endTs, minDuration, maxDuration⟩ := window
  obtain ⟨otherStart, otherEnd, otherMin, otherMax⟩ := other
  cases minDuration <;> cases maxDuration <;> cases otherMin <;> cases otherMax <;>
    simp [predicate] at same ⊢ <;> simp [same]

/-- The text with the values in place determines the window. -/
theorem literal_eq_iff {alias? : Option String} {window other : Window} :
    (window.render alias?).literal = (other.render alias?).literal ↔ window = other := by
  constructor
  · intro same
    exact predicate_inj
      (Predicate.literal_inj window.predicate_ne_nil other.predicate_ne_nil same)
  · rintro rfl
    rfl

/-- Whether two windows have the same bounds set. -/
def BoundsAlike (window other : Window) : Prop :=
  window.minDuration.isSome = other.minDuration.isSome ∧
    window.maxDuration.isSome = other.maxDuration.isSome

/-- The text with named parameters tells which bounds are set, and nothing else. -/
theorem clause_eq_iff {alias? : Option String} {window other : Window} :
    (window.render alias?).clause = (other.render alias?).clause ↔ window.BoundsAlike other := by
  obtain ⟨startTs, endTs, minDuration, maxDuration⟩ := window
  obtain ⟨otherStart, otherEnd, otherMin, otherMax⟩ := other
  constructor
  · intro same
    have phrases := Predicate.phrase_inj_of_clause same
    cases minDuration <;> cases maxDuration <;> cases otherMin <;> cases otherMax <;>
      simp [predicate, Predicate.phraseAfter, Condition.phrase, BoundsAlike] at phrases ⊢
  · rintro ⟨leasts, mosts⟩
    cases minDuration <;> cases maxDuration <;> cases otherMin <;> cases otherMax <;>
      simp at leasts mosts <;>
      simp [render, predicate, Predicate.render, Predicate.pieces, Predicate.piecesAfter,
        Condition.pieces, Predicate.parameterCount, Condition.operands, Piece.named]

/-- The parameter of the only bound on durations bears one name, whichever bound it is. -/
theorem mem_parameters_of_lone_bound (alias? : Option String) (window : Window) (bound : Int) :
    ("duration_1", bound) ∈
        ({ window with minDuration := some bound, maxDuration := none }.render alias?).parameters ∧
      ("duration_1", bound) ∈
        ({ window with minDuration := none, maxDuration := some bound }.render
          alias?).parameters := by
  have named : "duration_1" = Condition.parameterName .duration 0 := by decide
  rw [named]
  constructor <;>
    apply Predicate.mem_parameters_iff.2 <;>
    simp [predicate, Predicate.pieces, Predicate.piecesAfter, Condition.pieces,
      Predicate.parameterCount]

/-- The texts of a window determine it. The text with the values in place is the clause with each
name replaced by the value of its parameter, and the parameters bear the names that occur in the
clause, each once. Two windows share the text with the values in place, and likewise the clause
with its parameters, if and only if they are the same window. The clause alone tells which bounds
are set: a lone minimum is never written like a lone maximum, though the parameter of either bears
the same name. -/
theorem render_determines_window (alias? : Option String) (window other : Window) :
    let rendered := window.render alias?
    let compared := other.render alias?
    Clause.fill rendered.parameters rendered.clause = rendered.literal ∧
    (rendered.parameters.map Prod.fst).Perm (Clause.names rendered.clause) ∧
    (Clause.names rendered.clause).Nodup ∧
    (rendered.literal = compared.literal ↔ window = other) ∧
    (rendered.clause = compared.clause ∧ rendered.parameters = compared.parameters ↔
      window = other) ∧
    (rendered.clause = compared.clause ↔ window.BoundsAlike other) ∧
    (∀ least most : Int,
      let lower := { window with minDuration := some least, maxDuration := none }.render alias?
      let upper := { other with minDuration := none, maxDuration := some most }.render alias?
      ("duration_1", least) ∈ lower.parameters ∧ ("duration_1", most) ∈ upper.parameters ∧
        lower.clause ≠ upper.clause ∧ lower.literal ≠ upper.literal) := by
  intro rendered compared
  have closed := Clause.isClosed_table alias?
  have filled : ∀ window : Window, Clause.fill (window.render alias?).parameters
      (window.render alias?).clause = (window.render alias?).literal :=
    fun window => Predicate.fill_clause closed window.predicate
  have names : Clause.names rendered.clause = Piece.names _ :=
    Predicate.names_clause closed window.predicate
  refine ⟨filled window, ?_, ?_, literal_eq_iff, ?_, clause_eq_iff, ?_⟩
  · rw [names]
    exact window.predicate.perm_parameters _
  · rw [names]
    exact Predicate.nodup_names_piecesAfter window.predicate []
  · constructor
    · rintro ⟨clauses, parameters⟩
      apply (@literal_eq_iff alias? _ _).1
      rw [← filled window, ← filled other]
      exact congrArg₂ Clause.fill parameters clauses
    · rintro rfl
      exact ⟨rfl, rfl⟩
  · intro least most lower upper
    have clauses : lower.clause ≠ upper.clause := by
      intro same
      cases (clause_eq_iff.1 same).1
    have literals : lower.literal ≠ upper.literal := by
      intro same
      cases congrArg minDuration (literal_eq_iff.1 same)
    exact ⟨(mem_parameters_of_lone_bound alias? window least).1,
      (mem_parameters_of_lone_bound alias? other most).2, clauses, literals⟩

end Window

end TraceFilter
