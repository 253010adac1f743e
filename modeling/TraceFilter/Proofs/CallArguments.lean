/-
Module: TraceFilter.Proofs.CallArguments
Purpose: The arguments in the record of a call: long ones are cut off once and for all at a fixed
  place, and what is recorded of them stands on one line and is read back from it.
Main exports: Observation.truncate_truncate, Observation.CutOff,
  Observation.truncateArguments_cut_off, Observation.quotedTexts_textEntries,
  Observation.RecordsCall, Observation.recorded_arguments_read_back
-/
import Mathlib.Data.List.Forall2
import TraceFilter.Proofs.QuotedText
import TraceFilter.Proofs.WritableValues

namespace TraceFilter.Observation

/-! ### Cutting texts off -/

section Truncation

variable {text : String}

theorem length_truncationMark : truncationMark.toList.length = 15 := rfl

theorem truncate_of_short (short : text.toList.length ≤ maxArgumentLength) :
    truncate text = text :=
  if_neg (Nat.not_lt.2 short)

theorem toList_truncate_of_long (long : maxArgumentLength < text.toList.length) :
    (truncate text).toList = text.toList.take maxArgumentLength ++ truncationMark.toList := by
  rw [truncate, if_pos long, String.toList_append, String.toList_ofList]

theorem length_truncate_of_long (long : maxArgumentLength < text.toList.length) :
    (truncate text).toList.length = maxArgumentLength + 15 := by
  rw [toList_truncate_of_long long, List.length_append, length_truncationMark,
    List.length_take_of_le (Nat.le_of_lt long)]

/-- What a text is cut off behind stays where it is. -/
theorem take_truncate (text : String) :
    (truncate text).toList.take maxArgumentLength = text.toList.take maxArgumentLength := by
  rcases Nat.lt_or_ge maxArgumentLength text.toList.length with long | short
  · rw [toList_truncate_of_long long]
    exact List.take_left' (List.length_take_of_le (Nat.le_of_lt long))
  · rw [truncate_of_short short]

/-- A text that was cut off is longer than what is shown of a text, but cutting it off again changes
nothing: the mark comes off and is put back. -/
theorem truncate_truncate (text : String) : truncate (truncate text) = truncate text := by
  rcases Nat.lt_or_ge maxArgumentLength text.toList.length with long | short
  · have still : maxArgumentLength < (truncate text).toList.length := by
      rw [length_truncate_of_long long]
      decide
    apply String.toList_inj.1
    rw [toList_truncate_of_long still, take_truncate, toList_truncate_of_long long]
  · rw [truncate_of_short short, truncate_of_short short]

end Truncation

/-- What is shown of a text: all of it up to a length of 200, and else as much, behind which a mark
of 15 characters stands. -/
structure CutOff (text shown : String) : Prop where
  bounded : shown.toList.length ≤ 215
  front : shown.toList.take (min 200 text.toList.length) =
    text.toList.take (min 200 text.toList.length)
  whole : text.toList.length ≤ 200 → shown = text
  marked : 200 < text.toList.length →
    shown = String.ofList (text.toList.take 200) ++ "... (truncated)" ∧ 200 < shown.toList.length

theorem cutOff_truncate (text : String) : CutOff text (truncate text) := by
  have front : (truncate text).toList.take 200 = text.toList.take 200 := take_truncate text
  rcases Nat.lt_or_ge 200 text.toList.length with long | short
  · have length : (truncate text).toList.length = 215 := length_truncate_of_long long
    exact
      { bounded := Nat.le_of_eq length
        front := by rw [Nat.min_eq_left (Nat.le_of_lt long), front]
        whole := fun short => absurd long (Nat.not_lt.2 short)
        marked := fun _ => ⟨if_pos long, by rw [length]; decide⟩ }
  · have whole : truncate text = text := truncate_of_short short
    exact
      { bounded := by rw [whole]; exact Nat.le_trans short (by decide)
        front := by rw [whole]
        whole := fun _ => whole
        marked := fun long => absurd short (Nat.not_le.2 long) }

/-- An integer of more than 4300 digits has no text, so it cannot be cut off either. -/
theorem not_truncated_of_integer_of_4301_digits :
    ¬ ∃ shown, truncateArguments [("end_ts", .int (10 ^ 4300))] = .ok shown := by
  have long : fieldsWritable [("end_ts", .int (10 ^ 4300))] = false := by
    rw [fieldsWritable, List.all_cons, Value.isWritable_int, Numeral.isWritable_leastLong]
    rfl
  rw [truncateArguments_eq, long]
  nofun

/-- Arguments are shown exactly when all of them can be written. Of each argument, under its name
and in its place, a text is then shown that is cut off at a fixed place. Showing what is shown once
more changes nothing. -/
theorem truncateArguments_cut_off (arguments : List (String × Value)) :
    ((∃ argument ∈ arguments, argument.2.isWritable = false) →
      truncateArguments arguments = .error .tooLong) ∧
    ((∀ argument ∈ arguments, argument.2.isWritable = true) →
      ∃ shown, truncateArguments arguments = .ok shown ∧
        shown.map Prod.fst = arguments.map Prod.fst ∧
        List.Forall₂ (fun argument output =>
          ∃ text, argument.2.plain = .ok text ∧ CutOff text output.2) arguments shown ∧
        truncateArguments (shown.map fun output => (output.1, .text output.2)) = .ok shown) := by
  rw [truncateArguments_eq]
  constructor
  · rintro ⟨argument, member, long⟩
    refine if_neg fun writable => ?_
    rw [fieldsWritable_iff.1 writable argument member] at long
    cases long
  · intro writable
    refine ⟨_, if_pos (fieldsWritable_iff.2 writable), ?_, ?_, ?_⟩
    · rw [List.map_map]
      rfl
    · rw [List.forall₂_map_right_iff, List.forall₂_same]
      intro argument member
      exact ⟨_, Value.ifWritable_of_writable (writable argument member) _, cutOff_truncate _⟩
    · have texts : fieldsWritable ((arguments.map fun argument =>
          (argument.1, truncate argument.2.bare)).map fun output => (output.1, .text output.2)) =
            true := by
        rw [fieldsWritable_iff, List.forall_mem_map]
        exact fun _ _ => rfl
      rw [truncateArguments_eq, if_pos texts, List.map_map, List.map_map]
      have again (argument : String × Value) :
          truncate (Value.text (truncate argument.2.bare)).bare = truncate argument.2.bare :=
        truncate_truncate _
      simp [again]

/-- A list of integers is shown, and one with an integer of more than 4300 digits is not. -/
theorem truncateArguments_cut_off_of_integers :
    (∃ shown, truncateArguments [("end_ts", .list [.int 5])] = .ok shown ∧
      shown.map Prod.fst = ["end_ts"]) ∧
    truncateArguments [("end_ts", .list [.int (10 ^ 4300)])] = .error .tooLong := by
  constructor
  · obtain ⟨shown, made, names, _⟩ :=
      (truncateArguments_cut_off [("end_ts", .list [.int 5])]).2 (by decide +kernel)
    exact ⟨shown, made, names⟩
  · exact (truncateArguments_cut_off [("end_ts", .list [.int (10 ^ 4300)])]).1 (by decide +kernel)

/-! ### The text of named texts -/

/-- Named texts, one after another. -/
def flattened (pairs : List (String × String)) : List String :=
  pairs.flatMap fun pair => [pair.1, pair.2]

theorem flattened_inj {pairs others : List (String × String)}
    (same : flattened pairs = flattened others) : pairs = others := by
  induction pairs generalizing others with
  | nil =>
    cases others with
    | nil => rfl
    | cons other rest => cases same
  | cons pair rest ih =>
    cases others with
    | nil => cases same
    | cons other more =>
      obtain ⟨names, same⟩ := List.cons.inj same
      obtain ⟨texts, same⟩ := List.cons.inj same
      rw [ih same, Prod.ext names texts]

/-- The characters of a named text. -/
def pairChars (pair : String × String) : List Char :=
  Text.quotedChars pair.1.toList ++ (": ".toList ++ Text.quotedChars pair.2.toList)

theorem readTexts_pairChars (pair : String × String) (rest : List Char) :
    Text.readTexts .outside (pairChars pair ++ rest) =
      pair.1.toList :: pair.2.toList :: Text.readTexts .outside rest := by
  have colon : ∀ c ∈ ": ".toList, ¬ Text.IsMark c := by simp [Text.IsMark]
  rw [pairChars, List.append_assoc, Text.readTexts_quotedChars, List.append_assoc,
    Text.readTexts_append_of_unmarked colon, Text.readTexts_quotedChars]

theorem isPrintable_pairChars (pair : String × String) :
    ∀ c ∈ pairChars pair, Text.isPrintable c = true := by
  have colon : ": ".toList.all Text.isPrintable = true := by decide +kernel
  rw [pairChars, List.forall_mem_append, List.forall_mem_append]
  exact ⟨fun _ => Text.isPrintable_of_mem_quotedChars, List.all_eq_true.1 colon,
    fun _ => Text.isPrintable_of_mem_quotedChars⟩

/-- Commas stand between named texts. -/
theorem toList_spelledEntries_cons (pair next : String × String) (rest : List (String × String)) :
    (Value.spelledEntries (textEntries (pair :: next :: rest))).toList =
      pairChars pair ++
        (", ".toList ++ (Value.spelledEntries (textEntries (next :: rest))).toList) := by
  simp [textEntries, Value.spelledEntries, Value.spelled, Text.quoted, pairChars]

theorem toList_spelledEntries_singleton (pair : String × String) :
    (Value.spelledEntries (textEntries [pair])).toList = pairChars pair := by
  simp [textEntries, Value.spelledEntries, Value.spelled, Text.quoted, pairChars]

theorem readTexts_spelledEntries (pairs : List (String × String)) (rest : List Char) :
    Text.readTexts .outside ((Value.spelledEntries (textEntries pairs)).toList ++ rest) =
      (flattened pairs).map String.toList ++ Text.readTexts .outside rest := by
  have comma : ∀ c ∈ ", ".toList, ¬ Text.IsMark c := by simp [Text.IsMark]
  induction pairs with
  | nil => rfl
  | cons pair others ih =>
    cases others with
    | nil =>
      rw [toList_spelledEntries_singleton, readTexts_pairChars]
      rfl
    | cons next more =>
      rw [toList_spelledEntries_cons, List.append_assoc, readTexts_pairChars, List.append_assoc,
        Text.readTexts_append_of_unmarked comma, ih]
      rfl

theorem toList_spelled_textEntries (pairs : List (String × String)) :
    (Value.mapping (textEntries pairs)).spelled.toList =
      ['\x7b'] ++ ((Value.spelledEntries (textEntries pairs)).toList ++ ['\x7d']) := by
  simp [Value.spelled]

/-- Named texts are read back, in order, from their text as a mapping. -/
theorem quotedTexts_textEntries (pairs : List (String × String)) :
    Text.quotedTexts (Value.mapping (textEntries pairs)).spelled = flattened pairs := by
  have braces : ∀ c ∈ ['\x7b', '\x7d'], ¬ Text.IsMark c := by simp [Text.IsMark]
  rw [List.forall_mem_cons] at braces
  rw [Text.quotedTexts, toList_spelled_textEntries,
    Text.readTexts_append_of_unmarked (List.forall_mem_singleton.2 braces.1),
    readTexts_spelledEntries, ← List.append_nil ['\x7d'],
    Text.readTexts_append_of_unmarked braces.2]
  simp [Text.readTexts]

theorem isPrintable_spelledEntries (pairs : List (String × String)) :
    ∀ c ∈ (Value.spelledEntries (textEntries pairs)).toList, Text.isPrintable c = true := by
  have comma : ", ".toList.all Text.isPrintable = true := by decide +kernel
  induction pairs with
  | nil => nofun
  | cons pair others ih =>
    cases others with
    | nil =>
      rw [toList_spelledEntries_singleton]
      exact isPrintable_pairChars pair
    | cons next more =>
      rw [toList_spelledEntries_cons, List.forall_mem_append, List.forall_mem_append]
      exact ⟨isPrintable_pairChars pair, List.all_eq_true.1 comma, ih⟩

/-- The text of named texts as a mapping is printable. -/
theorem isPrintable_spelled_textEntries (pairs : List (String × String)) :
    ∀ c ∈ (Value.mapping (textEntries pairs)).spelled.toList, Text.isPrintable c = true := by
  have braces : ['\x7b', '\x7d'].all Text.isPrintable = true := by decide +kernel
  rw [List.all_eq_true, List.forall_mem_cons] at braces
  rw [toList_spelled_textEntries, List.forall_mem_append, List.forall_mem_append]
  exact ⟨List.forall_mem_singleton.2 braces.1, isPrintable_spelledEntries pairs, braces.2⟩

theorem spelled_textEntries_inj {pairs others : List (String × String)} :
    (Value.mapping (textEntries pairs)).spelled = (Value.mapping (textEntries others)).spelled ↔
      pairs = others := by
  constructor
  · intro same
    have texts := congrArg Text.quotedTexts same
    rw [quotedTexts_textEntries, quotedTexts_textEntries] at texts
    exact flattened_inj texts
  · intro same
    rw [same]

/-! ### Records of calls -/

/-- Under a threshold that lets all through, a call is recorded with a text for its arguments. -/
def RecordsCall (logger callee : String) (arguments : List (String × Value)) (text : String) :
    Prop :=
  recordNamedCall .debug logger callee arguments =
    ⟨.ok (), [.record .debug logger ("Call: " ++ callee ++ " | Args: " ++ text)]⟩

/-- No argument has the name of a parameter of the recorder. -/
def FreelyNamed (arguments : List (String × Value)) : Prop :=
  ∀ argument ∈ arguments, argument.1 ≠ "logger" ∧ argument.1 ≠ "func_name"

variable {logger callee text : String} {arguments : List (String × Value)}

theorem recordCall_debug : recordCall .debug logger callee arguments = (do
    let message ← .ofExcept (callMessage callee arguments)
    Observed.record .debug .debug logger message) := rfl

theorem namedFault?_eq_none_iff {first second : Value} :
    recordCallSignature.namedFault? [first, second] arguments = none ↔ FreelyNamed arguments := by
  rw [Signature.namedFault?, List.findSome?_eq_none_iff]
  refine forall₂_congr fun argument _ => ?_
  have taken : (recordCallSignature.placed [first, second]).any (·.1 == argument.1) = true ↔
      argument.1 = "logger" ∨ argument.1 = "func_name" := by
    simp [recordCallSignature, Signature.placed, Parameter.required, @eq_comm String argument.1]
  rw [← not_or, ← taken]
  by_cases repeated : (recordCallSignature.placed [first, second]).any (·.1 == argument.1) = true
  · rw [if_pos repeated]
    exact iff_of_false nofun fun free => free repeated
  · rw [if_neg repeated]
    exact iff_of_true rfl repeated

theorem exists_bound_iff :
    (∃ bound, recordCallSignature.bind [.text logger, .text callee] arguments = .ok bound) ↔
      FreelyNamed arguments := by
  rw [← @namedFault?_eq_none_iff arguments (.text logger) (.text callee), Signature.bind]
  cases recordCallSignature.namedFault? [.text logger, .text callee] arguments with
  | none => simp [recordCallSignature, Signature.countFault?, Signature.missingFault?,
      Signature.placed, Parameter.required]
  | some fault => simp

/-- A call is recorded unless an argument has a name that is taken or cannot be written, and there
is one text that its arguments are recorded with. -/
theorem recordsCall_iff :
    RecordsCall logger callee arguments text ↔
      FreelyNamed arguments ∧ ∃ shown, truncateArguments arguments = .ok shown ∧
        text = (Value.mapping (textEntries shown)).spelled := by
  rw [RecordsCall, recordNamedCall, ← @exists_bound_iff logger callee]
  cases recordCallSignature.bind [.text logger, .text callee] arguments with
  | error fault => simp [Observed.fail, Observed.ofExcept]
  | ok bound =>
    show recordCall .debug logger callee arguments = _ ↔ _
    rw [recordCall_debug, callMessage_eq]
    cases truncateArguments arguments with
    | error fault =>
      show (⟨.error fault, []⟩ : Observed Unit) = _ ↔ _
      simp
    | ok shown =>
      show (⟨.ok (), [.record .debug logger ("Call: " ++ callee ++ " | Args: "
        ++ (Value.mapping (textEntries shown)).spelled)]⟩ : Observed Unit) = _ ↔ _
      simp [eq_comm]

/-- A call is recorded, unless one of its arguments has the name of a parameter of the recorder or
cannot be written, with a text of printable characters on one line. The names and the texts of its
arguments, long ones cut off, are read back from there, so that two calls are recorded with the same
text exactly if their arguments are shown alike. A call of which an argument cannot be written
leaves no record. -/
theorem recorded_arguments_read_back (logger callee : String)
    (arguments : List (String × Value)) :
    ((∃ text, RecordsCall logger callee arguments text) ↔
      (∀ argument ∈ arguments, argument.1 ≠ "logger" ∧ argument.1 ≠ "func_name") ∧
        ∀ argument ∈ arguments, argument.2.isWritable = true) ∧
    ((∀ argument ∈ arguments, argument.1 ≠ "logger" ∧ argument.1 ≠ "func_name") →
      (∃ argument ∈ arguments, argument.2.isWritable = false) →
      recordNamedCall .debug logger callee arguments = .fail .tooLong) ∧
    ∀ text, RecordsCall logger callee arguments text →
      (∀ c ∈ text.toList, Text.isPrintable c = true ∧ c ∉ Text.lineBreaks) ∧
      (∃ shown, truncateArguments arguments = .ok shown ∧
        Text.quotedTexts text = flattened shown) ∧
      ∀ (otherLogger otherCallee otherText : String) (others : List (String × Value)),
        RecordsCall otherLogger otherCallee others otherText →
        (text = otherText ↔ truncateArguments arguments = truncateArguments others) := by
  simp only [recordsCall_iff]
  refine ⟨?_, ?_, ?_⟩
  · rw [truncateArguments_eq, ← fieldsWritable_iff]
    cases fieldsWritable arguments <;> simp [FreelyNamed]
  · rintro free ⟨argument, member, long⟩
    obtain ⟨bound, bind⟩ := (@exists_bound_iff logger callee arguments).2 free
    have refused : fieldsWritable arguments = false := by
      rw [Bool.eq_false_iff, ne_eq, fieldsWritable_iff]
      intro writable
      rw [writable argument member] at long
      cases long
    rw [recordNamedCall, bind]
    show recordCall .debug logger callee arguments = _
    rw [recordCall_debug, callMessage_eq, truncateArguments_eq, refused]
    rfl
  · rintro text ⟨_, shown, made, rfl⟩
    refine ⟨?_, ⟨shown, made, quotedTexts_textEntries _⟩, ?_⟩
    · intro c mem
      have printable := isPrintable_spelled_textEntries _ c mem
      exact ⟨printable, Text.not_mem_lineBreaks_of_isPrintable printable⟩
    · rintro _ _ otherText others ⟨_, otherShown, otherMade, rfl⟩
      rw [spelled_textEntries_inj, made, otherMade, Except.ok.injEq]

/-- An argument that imitates two of them is told apart from them, and its line break is not
recorded as one. -/
theorem recorded_arguments_read_back_of_imitation :
    let forged : List (String × Value) := [("service_name", .text "a', 'limit': '1\n")]
    let genuine : List (String × Value) := [("service_name", .text "a"), ("limit", .int 1)]
    ∃ text other, RecordsCall "api" "build" forged text ∧
      RecordsCall "api" "build" genuine other ∧ text ≠ other ∧ '\n' ∉ text.toList ∧
      Text.quotedTexts text = ["service_name", "a', 'limit': '1\n"] := by
  intro forged genuine
  obtain ⟨records, _, reads⟩ := recorded_arguments_read_back "api" "build" forged
  obtain ⟨text, recorded⟩ := records.2 (by decide)
  obtain ⟨other, recordedOther⟩ := (recorded_arguments_read_back "api" "build" genuine).1.2
    ⟨by decide, by decide +kernel⟩
  obtain ⟨printable, ⟨shown, made, texts⟩, apart⟩ := reads text recorded
  have forgedShown : truncateArguments forged = .ok [("service_name", "a', 'limit': '1\n")] := rfl
  refine ⟨text, other, recorded, recordedOther, ?_, ?_, ?_⟩
  · rw [ne_eq, apart _ _ _ _ recordedOther, forgedShown, truncateArguments_eq]
    have writable : fieldsWritable genuine = true := by decide +kernel
    rw [if_pos writable]
    simp [genuine]
  · intro mem
    exact (printable _ mem).2 (by decide)
  · rw [forgedShown] at made
    cases made
    exact texts

end TraceFilter.Observation
