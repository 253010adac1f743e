/-
Module: TraceFilter.Proofs.WrittenIntegers
Purpose: The texts that a configuration may write an integer with, as a grammar with the number that
  each of them denotes, and that exactly these are read, as this number.
Main exports: Numeral.DigitsWritten, Numeral.digits?_eq_some_iff, Numeral.SignWritten,
  Numeral.Denotes, Numeral.readAnyScript_eq_ok_iff
-/
import Mathlib.Data.Nat.Digits.Defs
import TraceFilter.Numeral.AnyScript

namespace TraceFilter.Numeral

open Text

/-! ### Digits in groups -/

/-- Decimal digits in a row, with one underscore or none between two of them. -/
inductive DigitsWritten : List Char → List Nat → Prop where
  | last {c : Char} {value : Nat} (digit : digitValue? c = some value) :
      DigitsWritten [c] [value]
  | next {c : Char} {value : Nat} {rest : List Char} {values : List Nat}
      (digit : digitValue? c = some value) (later : DigitsWritten rest values) :
      DigitsWritten (c :: rest) (value :: values)
  | grouped {c : Char} {value : Nat} {rest : List Char} {values : List Nat}
      (digit : digitValue? c = some value) (later : DigitsWritten rest values) :
      DigitsWritten (c :: '_' :: rest) (value :: values)

/-- What may stand behind a digit: the end, further digits, or an underscore and further digits. -/
inductive DigitsFollow : List Char → List Nat → Prop where
  | nothing : DigitsFollow [] []
  | next {rest : List Char} {values : List Nat} (later : DigitsWritten rest values) :
      DigitsFollow rest values
  | grouped {rest : List Char} {values : List Nat} (later : DigitsWritten rest values) :
      DigitsFollow ('_' :: rest) values

theorem not_digitsWritten_nil {values : List Nat} : ¬ DigitsWritten [] values := nofun

theorem digitsWritten_cons_iff {c : Char} {rest : List Char} {values : List Nat} :
    DigitsWritten (c :: rest) values ↔
      ∃ value others, digitValue? c = some value ∧ DigitsFollow rest others ∧
        values = value :: others := by
  constructor
  · intro written
    cases written with
    | last digit => exact ⟨_, _, digit, .nothing, rfl⟩
    | next digit later => exact ⟨_, _, digit, .next later, rfl⟩
    | grouped digit later => exact ⟨_, _, digit, .grouped later, rfl⟩
  · rintro ⟨value, others, digit, follow, rfl⟩
    cases follow with
    | nothing => exact .last digit
    | next later => exact .next digit later
    | grouped later => exact .grouped digit later

theorem ne_nil_of_digitsWritten {body : List Char} {digits : List Nat}
    (written : DigitsWritten body digits) : body ≠ [] := by
  rintro rfl
  exact not_digitsWritten_nil written

theorem digitsFollow_nil_iff {values : List Nat} : DigitsFollow [] values ↔ values = [] := by
  constructor
  · intro follow
    cases follow with
    | nothing => rfl
    | next later => exact absurd later not_digitsWritten_nil
  · rintro rfl
    exact .nothing

theorem digitsFollow_cons_iff {c : Char} {rest : List Char} {values : List Nat} :
    DigitsFollow (c :: rest) values ↔
      DigitsWritten (c :: rest) values ∨ c = '_' ∧ DigitsWritten rest values := by
  constructor
  · intro follow
    cases follow with
    | next later => exact .inl later
    | grouped later => exact .inr ⟨rfl, later⟩
  · rintro (later | ⟨rfl, later⟩)
    · exact .next later
    · exact .grouped later

/-- The flag of the reader says which of the two forms it expects, so both are read together. -/
theorem digitsFrom?_eq_some_iff {text : List Char} {values : List Nat} :
    (digitsFrom? digitValue? false text = some values ↔ DigitsWritten text values) ∧
      (digitsFrom? digitValue? true text = some values ↔ DigitsFollow text values) := by
  induction text generalizing values with
  | nil => simp [digitsFrom?, not_digitsWritten_nil, digitsFollow_nil_iff, eq_comm]
  | cons c rest ih =>
    simp only [digitsFrom?, digitsFollow_cons_iff, digitsWritten_cons_iff]
    cases digit : digitValue? c with
    | some value =>
      -- An underscore is no digit, so only a digit can stand here.
      have unbroken : c ≠ '_' := by
        rintro rfl
        cases digit
      simp [ih, unbroken, eq_comm]
    | none =>
      by_cases underscore : c = '_'
      · simp [underscore, ih]
      · simp [underscore]

/-- Reading digits accepts the grammar and gives the values of the digits. -/
theorem digits?_eq_some_iff {text : List Char} {values : List Nat} :
    digits? digitValue? text = some values ↔ DigitsWritten text values :=
  digitsFrom?_eq_some_iff.1

/-- The number of some digits by place value, the last digit counting once. -/
theorem ofDigits_eq (digits : List Nat) : ofDigits digits = Nat.ofDigits 10 digits.reverse := by
  rw [Nat.ofDigits_eq_foldr, List.foldr_reverse]
  simp only [ofDigits, Nat.cast_id, Nat.add_comm]

theorem isBodyChar_of_digitsWritten {body : List Char} {digits : List Nat}
    (written : DigitsWritten body digits) : ∀ c ∈ body, isBodyChar c = true := by
  have underscore : isBodyChar '_' = true := by decide
  induction written with
  | last digit => simp [isBodyChar, digit]
  | next digit later ih => simpa [isBodyChar, digit] using ih
  | grouped digit later ih => simpa [isBodyChar, digit] using ih

/-! ### Signs -/

/-- A sign in front of a number, which may be left out. -/
inductive SignWritten : List Char → Sign → Prop where
  | absent : SignWritten [] .plus
  | plus : SignWritten ['+'] .plus
  | minus : SignWritten ['-'] .minus

theorem exists_signWritten (text : List Char) :
    ∃ signs, SignWritten signs (splitSign text).1 ∧ text = signs ++ (splitSign text).2 := by
  unfold splitSign
  split
  · exact ⟨_, .plus, rfl⟩
  · exact ⟨_, .minus, rfl⟩
  · exact ⟨_, .absent, rfl⟩

/-- A digit ends the sign. -/
theorem splitSign_of_digit {c : Char} {value : Nat} {rest : List Char}
    (digit : digitValue? c = some value) : splitSign (c :: rest) = (.plus, c :: rest) := by
  unfold splitSign
  split
  · rename_i front
    injection front with plus
    subst plus
    cases digit
  · rename_i front
    injection front with minus
    subst minus
    cases digit
  · rfl

/-! ### Integers with white space around -/

/-- An integer as a configuration may write it: white space around, a sign or none, and digits, of
which there are not too many. It denotes the number of its digits by place value, with its sign. -/
inductive Denotes : String → Int → Prop where
  | intro {before signs body after : List Char} {sign : Sign} {digits : List Nat}
      (leading : ∀ c ∈ before, isWhiteSpace c = true) (signed : SignWritten signs sign)
      (written : DigitsWritten body digits) (short : digits.length ≤ maxDigits)
      (trailing : ∀ c ∈ after, isWhiteSpace c = true) :
      Denotes (String.ofList (before ++ (signs ++ (body ++ after))))
        (sign.apply (Nat.ofDigits 10 digits.reverse))

/-- No blank is a digit of any script. -/
theorem digitValue?_eq_none_of_isBlank {c : Char} (blank : isBlank c = true) :
    digitValue? c = none := by
  have apart : ∀ range ∈ separatorRange :: whiteSpaceRanges, ∀ digits ∈ digitRanges,
      range.last < digits.first ∨ digits.last < range.first := by decide +kernel
  obtain ⟨range, member, inRange⟩ := isBlank_iff.1 blank
  obtain ⟨from_first, to_last⟩ := CodeRange.holds_iff.1 inRange
  have outside : digitRanges.find? (CodeRange.holds c) = none := by
    rw [List.find?_eq_none]
    intro digits digitRange holds
    obtain ⟨reached, within⟩ := CodeRange.holds_iff.1 holds
    rcases apart range member digits digitRange with before | after <;> omega
  rw [digitValue?, outside]
  rfl

/-- Neither a sign nor a digit is taken for white space, so the sign is split off as written. -/
theorem splitSign_dropWhile {signs body after : List Char} {sign : Sign} {digits : List Nat}
    (signed : SignWritten signs sign) (written : DigitsWritten body digits) :
    splitSign ((signs ++ (body ++ after)).dropWhile isWhiteSpace) = (sign, body ++ after) := by
  cases signed with
  | plus => rfl
  | minus => rfl
  | absent =>
    obtain ⟨c, rest, rfl⟩ := List.exists_cons_of_ne_nil (ne_nil_of_digitsWritten written)
    obtain ⟨value, _, digit, _⟩ := digitsWritten_cons_iff.1 written
    have visible : ¬ isWhiteSpace c = true := by
      intro white
      rw [digitValue?_eq_none_of_isBlank (isBlank_of_isWhiteSpace white)] at digit
      cases digit
    rw [List.nil_append, List.cons_append, List.dropWhile_cons_of_neg visible]
    exact splitSign_of_digit digit

theorem not_isBodyChar_of_isWhiteSpace {c : Char} (white : isWhiteSpace c = true) :
    isBodyChar c = false := by
  have visible : isWhiteSpace '_' = false := by decide
  have unbroken : c ≠ '_' := by
    rintro rfl
    rw [visible] at white
    cases white
  simp [isBodyChar, digitValue?_eq_none_of_isBlank (isBlank_of_isWhiteSpace white), unbroken]

/-- White space ends the body of a numeral. -/
theorem span_body {body after : List Char} {digits : List Nat}
    (written : DigitsWritten body digits) (trailing : ∀ c ∈ after, isWhiteSpace c = true) :
    (body ++ after).takeWhile isBodyChar = body ∧
      (body ++ after).dropWhile isBodyChar = after := by
  rw [List.takeWhile_append_of_pos (isBodyChar_of_digitsWritten written),
    List.dropWhile_append_of_pos (isBodyChar_of_digitsWritten written)]
  cases after with
  | nil => simp
  | cons c rest =>
    have ends : ¬ isBodyChar c = true := by
      simp [not_isBodyChar_of_isWhiteSpace (trailing c List.mem_cons_self)]
    simp [List.takeWhile_cons_of_neg ends, List.dropWhile_cons_of_neg ends]

/-- What the reader asks for, once the sign is split off. -/
theorem readAnyScript_eq_ok_iff_of_splitSign {text : String} {sign : Sign} {unsigned : List Char}
    (front : splitSign (text.toList.dropWhile isWhiteSpace) = (sign, unsigned)) {number : Int} :
    readAnyScript text = .ok number ↔
      ∃ digits, DigitsWritten (unsigned.takeWhile isBodyChar) digits ∧ digits.length ≤ maxDigits ∧
        (∀ c ∈ unsigned.dropWhile isBodyChar, isWhiteSpace c = true) ∧
        number = sign.apply (Nat.ofDigits 10 digits.reverse) := by
  rw [readAnyScript, front]
  simp only [← digits?_eq_some_iff]
  cases digits? digitValue? (unsigned.takeWhile isBodyChar) with
  | none => simp
  | some digits =>
    simp only [Option.some.injEq, exists_eq_left', ← Nat.not_lt, ← List.all_eq_true, ← ofDigits_eq]
    by_cases long : maxDigits < digits.length
    · rw [if_pos long]
      simp [long]
    · rw [if_neg long]
      by_cases trailing : (unsigned.dropWhile isBodyChar).all isWhiteSpace = true
      · rw [if_pos trailing]
        simp [long, trailing, eq_comm]
      · rw [if_neg trailing]
        simp [trailing]

/-- A text is read as an integer exactly if it denotes this integer. -/
theorem readAnyScript_eq_ok_iff {text : String} {number : Int} :
    readAnyScript text = .ok number ↔ Denotes text number := by
  constructor
  · intro read
    obtain ⟨signs, signed, rest⟩ := exists_signWritten (text.toList.dropWhile isWhiteSpace)
    rcases front : splitSign (text.toList.dropWhile isWhiteSpace) with ⟨sign, unsigned⟩
    rw [front] at signed rest
    obtain ⟨digits, written, short, trailing, rfl⟩ :=
      (readAnyScript_eq_ok_iff_of_splitSign front).1 read
    have leading : ∀ c ∈ text.toList.takeWhile isWhiteSpace, isWhiteSpace c = true :=
      List.all_eq_true.1 List.all_takeWhile
    have parts : text = String.ofList (text.toList.takeWhile isWhiteSpace ++ (signs ++
        (unsigned.takeWhile isBodyChar ++ unsigned.dropWhile isBodyChar))) := by
      rw [List.takeWhile_append_dropWhile, ← rest, List.takeWhile_append_dropWhile,
        String.ofList_toList]
    rw [parts]
    exact .intro leading signed written short trailing
  · intro denotes
    cases denotes with
    | @intro before signs body after sign digits leading signed written short trailing =>
    have front : splitSign ((String.ofList (before ++ (signs ++ (body ++ after)))).toList.dropWhile
        isWhiteSpace) = (sign, body ++ after) := by
      rw [String.toList_ofList, List.dropWhile_append_of_pos leading]
      exact splitSign_dropWhile signed written
    obtain ⟨bodyTaken, restLeft⟩ := span_body written trailing
    rw [readAnyScript_eq_ok_iff_of_splitSign front, bodyTaken, restLeft]
    exact ⟨digits, written, short, trailing, rfl⟩

/-- A written integer has a digit, which is no blank. -/
theorem Denotes.exists_visible {text : String} {number : Int} (denotes : Denotes text number) :
    ∃ c ∈ text.toList, isBlank c = false := by
  cases denotes with
  | @intro before signs body after sign digits leading signed written short trailing =>
    obtain ⟨c, rest, rfl⟩ := List.exists_cons_of_ne_nil (ne_nil_of_digitsWritten written)
    obtain ⟨value, _, digit, _⟩ := digitsWritten_cons_iff.1 written
    refine ⟨c, by simp, ?_⟩
    rw [Bool.eq_false_iff]
    intro blank
    rw [digitValue?_eq_none_of_isBlank blank] at digit
    cases digit

end TraceFilter.Numeral
