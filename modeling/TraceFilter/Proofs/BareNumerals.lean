/-
Module: TraceFilter.Proofs.BareNumerals
Purpose: Which texts are bare numerals, and which become one when their underscores are taken out:
  ASCII digits in groups, with at most a minus sign in front.
Main exports: Numeral.asciiDigitValue?_eq_some_iff, Numeral.WellCounted, Numeral.readBare_eq_ok_iff,
  Numeral.PlainWritten, Numeral.plainWritten_iff, Numeral.InnerSign, Numeral.readBare_signed_iff
-/
import TraceFilter.Numeral.Ascii
import TraceFilter.Proofs.WrittenIntegers

namespace TraceFilter.Numeral

open Text

/-! ### ASCII digits -/

/-- The ASCII digits are the digits that are ASCII. -/
theorem asciiDigitValue?_eq_some_iff {c : Char} {value : Nat} :
    asciiDigitValue? c = some value ↔ digitValue? c = some value ∧ c.toNat < 0x80 := by
  have bounds : ('0' ≤ c ∧ c ≤ '9') ↔ 0x30 ≤ c.toNat ∧ c.toNat ≤ 0x39 := by
    simp only [Char.le_def, UInt32.le_iff_toNat_le]
    rfl
  have others : ∀ range ∈ digitRanges.tail, 0x80 ≤ range.first := by decide +kernel
  have ranges : digitRanges = ⟨0x30, 0x39⟩ :: digitRanges.tail := rfl
  rw [digitValue?, ranges]
  by_cases digit : 0x30 ≤ c.toNat ∧ c.toNat ≤ 0x39
  · have found : CodeRange.holds c ⟨0x30, 0x39⟩ = true := CodeRange.holds_iff.2 digit
    have value : (c.toNat - 0x30) % 10 = c.toNat - 0x30 := Nat.mod_eq_of_lt (by omega)
    rw [asciiDigitValue?, if_pos (bounds.2 digit), List.find?_cons_of_pos found, Option.map_some,
      value]
    exact (and_iff_left (by omega)).symm
  · have missed : ¬ CodeRange.holds c ⟨0x30, 0x39⟩ = true := mt CodeRange.holds_iff.1 digit
    rw [asciiDigitValue?, if_neg (mt bounds.1 digit), List.find?_cons_of_neg missed]
    refine iff_of_false nofun ?_
    rintro ⟨found, ascii⟩
    obtain ⟨range, among, _⟩ := Option.map_eq_some_iff.1 found
    have above := others range (List.mem_of_find?_eq_some among)
    have reached := (CodeRange.holds_iff.1 (List.find?_some among)).1
    omega

theorem isAsciiDigit_iff {c : Char} :
    isAsciiDigit c = true ↔ ∃ value, digitValue? c = some value ∧ c.toNat < 0x80 := by
  simp only [isAsciiDigit, Option.isSome_iff_exists, asciiDigitValue?_eq_some_iff]

/-- Digits in groups are read among the ASCII digits as among all, if they are all ASCII. -/
theorem digitsFrom?_ascii_iff {afterDigit : Bool} {text : List Char} {values : List Nat} :
    digitsFrom? asciiDigitValue? afterDigit text = some values ↔
      digitsFrom? digitValue? afterDigit text = some values ∧ ∀ c ∈ text, c.toNat < 0x80 := by
  induction text generalizing afterDigit values with
  | nil => simp [digitsFrom?]
  | cons c rest ih =>
    simp only [digitsFrom?, List.forall_mem_cons]
    cases digit : asciiDigitValue? c with
    | some value =>
      obtain ⟨any, ascii⟩ := asciiDigitValue?_eq_some_iff.1 digit
      simp only [any, ascii, true_and, Option.map_eq_some_iff, ih]
      constructor
      · rintro ⟨others, ⟨read, plain⟩, same⟩
        exact ⟨⟨others, read, same⟩, plain⟩
      · rintro ⟨⟨others, read, same⟩, plain⟩
        exact ⟨others, ⟨read, plain⟩, same⟩
    | none =>
      by_cases underscore : c = '_'
      · subst underscore
        have unread : digitValue? '_' = none := rfl
        cases afterDigit <;> simp [unread, ih]
      · -- Only a digit of another script could still stand here, and it is not ASCII.
        simp only [underscore, false_and, if_false, reduceCtorEq, false_iff]
        cases any : digitValue? c with
        | none => simp
        | some value =>
          rintro ⟨_, ascii, _⟩
          rw [asciiDigitValue?_eq_some_iff.2 ⟨any, ascii⟩] at digit
          cases digit

/-- Underscores can be taken out of a text and its digits be read then, or it can be read as digits
in groups. -/
theorem digitsFrom?_eq_some_iff_filter {afterDigit : Bool} {text : List Char} {values : List Nat} :
    digitsFrom? asciiDigitValue? afterDigit text = some values ↔
      hasStrayUnderscore (!afterDigit) text = false ∧
        (text.filter (· != '_')).mapM asciiDigitValue? = some values := by
  induction text generalizing afterDigit values with
  | nil => cases afterDigit <;> simp [digitsFrom?, hasStrayUnderscore]
  | cons c rest ih =>
    simp only [digitsFrom?, hasStrayUnderscore]
    by_cases underscore : c = '_'
    · subst underscore
      have unread : asciiDigitValue? '_' = none := rfl
      cases afterDigit <;> simp [unread, ih]
    · cases digit : asciiDigitValue? c with
      | some value =>
        simp [underscore, digit, ih, Option.bind_eq_some_iff, Option.map_eq_some_iff, and_assoc]
      | none => simp [underscore, digit]

/-! ### Bare numerals -/

theorem mapM_asciiDigitValue?_cons_iff {c : Char} {rest : List Char} {digits : List Nat} :
    (c :: rest).mapM asciiDigitValue? = some digits ↔
      ∃ value others, asciiDigitValue? c = some value ∧
        rest.mapM asciiDigitValue? = some others ∧ value :: others = digits := by
  simp [Option.bind_eq_some_iff]

/-- All of a text are ASCII digits if nothing is left behind the first of them. -/
theorem mapM_asciiDigitValue?_iff {text : List Char} {digits : List Nat} :
    text.mapM asciiDigitValue? = some digits ↔
      (text.takeWhile isAsciiDigit).filterMap asciiDigitValue? = digits ∧
        (text.dropWhile isAsciiDigit).isEmpty = true := by
  induction text generalizing digits with
  | nil => simp
  | cons c rest ih =>
    cases digit : asciiDigitValue? c with
    | some value =>
      have plain : isAsciiDigit c = true := by simp [isAsciiDigit, digit]
      rw [mapM_asciiDigitValue?_cons_iff, List.takeWhile_cons_of_pos plain,
        List.dropWhile_cons_of_pos plain, List.filterMap_cons_some digit]
      simp [digit, ih, and_comm]
    | none =>
      have other : ¬ isAsciiDigit c = true := by simp [isAsciiDigit, digit]
      rw [mapM_asciiDigitValue?_cons_iff, List.dropWhile_cons_of_neg other]
      simp [digit]

/-- What makes digits those of a number that is written out: there are some but not too many, and
the first is a zero only if it is alone. -/
structure WellCounted (digits : List Nat) : Prop where
  nonempty : digits ≠ []
  leading : digits.head? = some 0 → digits = [0]
  short : digits.length ≤ maxDigits

theorem readBare_eq_ok_iff {text : List Char} {number : Int} :
    readBare text = .ok number ↔
      ∃ digits, (splitMinus text).2.mapM asciiDigitValue? = some digits ∧ WellCounted digits ∧
        number = (splitMinus text).1.apply (Nat.ofDigits 10 digits.reverse) := by
  simp only [readBare, mapM_asciiDigitValue?_iff, and_assoc, exists_eq_left', ← ofDigits_eq]
  generalize (splitMinus text).2.dropWhile isAsciiDigit = rest
  generalize ((splitMinus text).2.takeWhile isAsciiDigit).filterMap asciiDigitValue? = digits
  split
  · exact iff_of_false nofun fun ⟨_, counted, _⟩ => counted.nonempty rfl
  · exact iff_of_false nofun fun ⟨_, counted, _⟩ => by cases counted.leading rfl
  · next nonempty alone =>
    have counted : WellCounted digits ↔ digits.length ≤ maxDigits := by
      refine ⟨WellCounted.short, fun short => ⟨nonempty, fun leading => ?_, short⟩⟩
      obtain ⟨_ | ⟨second, others⟩, rfl⟩ := List.head?_eq_some_iff.1 leading
      · rfl
      · exact absurd rfl (alone second others)
    rw [counted, ← Nat.not_lt]
    by_cases long : maxDigits < digits.length
    · simp [long]
    · cases ends : rest.isEmpty <;> simp [long, eq_comm]

/-! ### Underscores -/

/-- Without underscores only the empty text can have a stray one, for it has none before it. -/
theorem hasStrayUnderscore_of_mapM {afterUnderscore : Bool} {text : List Char} {digits : List Nat}
    (read : text.mapM asciiDigitValue? = some digits) :
    hasStrayUnderscore afterUnderscore text = (afterUnderscore && digits.isEmpty) := by
  induction text generalizing afterUnderscore digits with
  | nil =>
    cases read
    simp [hasStrayUnderscore]
  | cons c rest ih =>
    obtain ⟨value, others, digit, later, rfl⟩ := mapM_asciiDigitValue?_cons_iff.1 read
    have unbroken : c ≠ '_' := by
      rintro rfl
      cases digit
    rw [hasStrayUnderscore, if_neg unbroken, ih later]
    simp

/-- A text whose underscores are taken out, if none is stray, holds digits exactly if it is written
with digits in groups. -/
theorem mapM_unmarked_iff {afterDigit : Bool} {text : List Char} {digits : List Nat}
    (nonempty : digits ≠ []) :
    (if hasStrayUnderscore (!afterDigit) text then text else text.filter (· != '_')).mapM
        asciiDigitValue? = some digits ↔
      digitsFrom? asciiDigitValue? afterDigit text = some digits := by
  rw [digitsFrom?_eq_some_iff_filter]
  cases stray : hasStrayUnderscore (!afterDigit) text with
  | true =>
    refine iff_of_false (fun read => ?_) nofun
    rw [if_pos rfl] at read
    rw [hasStrayUnderscore_of_mapM read, List.isEmpty_eq_false_iff.2 nonempty,
      Bool.and_false] at stray
    cases stray
  | false => simp

theorem splitMinus_of_ne {text : List Char} (unsigned : ∀ rest, text ≠ '-' :: rest) :
    splitMinus text = (.plus, text) := by
  unfold splitMinus
  split
  · exact absurd rfl (unsigned _)
  · rfl

/-- Underscores are not taken out from before a minus sign. -/
theorem dropUnderscores_ne_minus {text : List Char} (unsigned : ∀ rest, text ≠ '-' :: rest)
    (rest : List Char) : dropUnderscores text ≠ '-' :: rest := by
  unfold dropUnderscores
  split
  · exact unsigned rest
  · next unbroken =>
    cases text with
    | nil => nofun
    | cons c others =>
      have visible : c ≠ '_' := by
        rintro rfl
        exact unbroken rfl
      rw [List.filter_cons_of_pos (by simpa using visible)]
      rintro ⟨rfl, _⟩
      exact unsigned others rfl

/-! ### Digits behind a sign -/

/-- The digits of a bound: ASCII digits with single underscores between them. -/
structure PlainWritten (body : List Char) (digits : List Nat) : Prop where
  written : DigitsWritten body digits
  ascii : ∀ c ∈ body, c.toNat < 0x80
  counted : WellCounted digits

/-- Digits are what is left of a text without its underscores, if they are those of a bound. -/
theorem plainWritten_iff {text : List Char} {digits : List Nat} :
    PlainWritten text digits ↔
      (dropUnderscores text).mapM asciiDigitValue? = some digits ∧ WellCounted digits := by
  have grouped (nonempty : digits ≠ []) :
      (dropUnderscores text).mapM asciiDigitValue? = some digits ↔
        DigitsWritten text digits ∧ ∀ c ∈ text, c.toNat < 0x80 := by
    rw [← digits?_eq_some_iff, digits?, ← digitsFrom?_ascii_iff]
    exact @mapM_unmarked_iff false text digits nonempty
  constructor
  · intro plain
    exact ⟨(grouped plain.counted.nonempty).2 ⟨plain.written, plain.ascii⟩, plain.counted⟩
  · rintro ⟨read, counted⟩
    obtain ⟨written, ascii⟩ := (grouped counted.nonempty).1 read
    exact ⟨written, ascii, counted⟩

theorem dropUnderscores_minus (rest : List Char) :
    dropUnderscores ('-' :: rest) =
      '-' :: (if hasStrayUnderscore false rest then rest else rest.filter (· != '_')) := by
  have kept : ¬ '-' = '_' := by decide
  rw [dropUnderscores, hasStrayUnderscore, if_neg kept]
  split
  · rfl
  · rw [List.filter_cons_of_pos (by decide)]

/-- Behind a minus sign one underscore may come before the digits, for the sign is none. -/
theorem plainWritten_behind_minus_iff {rest : List Char} {digits : List Nat} :
    (if hasStrayUnderscore false rest then rest else rest.filter (· != '_')).mapM
        asciiDigitValue? = some digits ∧ WellCounted digits ↔
      PlainWritten rest digits ∨ ∃ core, rest = '_' :: core ∧ PlainWritten core digits := by
  have followed (nonempty : digits ≠ []) :
      (if hasStrayUnderscore false rest then rest else rest.filter (· != '_')).mapM
          asciiDigitValue? = some digits ↔
        DigitsFollow rest digits ∧ ∀ c ∈ rest, c.toNat < 0x80 := by
    rw [← digitsFrom?_eq_some_iff.2, ← digitsFrom?_ascii_iff]
    exact @mapM_unmarked_iff true rest digits nonempty
  constructor
  · rintro ⟨read, counted⟩
    obtain ⟨follow, ascii⟩ := (followed counted.nonempty).1 read
    cases follow with
    | nothing => exact absurd rfl counted.nonempty
    | next later => exact .inl ⟨later, ascii, counted⟩
    | grouped later => exact .inr ⟨_, rfl, later, (List.forall_mem_cons.1 ascii).2, counted⟩
  · rintro (plain | ⟨core, rfl, plain⟩)
    · exact ⟨(followed plain.counted.nonempty).2 ⟨.next plain.written, plain.ascii⟩, plain.counted⟩
    · have ascii : ∀ c ∈ '_' :: core, c.toNat < 0x80 :=
        List.forall_mem_cons.2 ⟨by decide, plain.ascii⟩
      exact ⟨(followed plain.counted.nonempty).2 ⟨.grouped plain.written, ascii⟩, plain.counted⟩

theorem not_plainWritten_minus {rest : List Char} {digits : List Nat} :
    ¬ PlainWritten ('-' :: rest) digits := by
  intro plain
  obtain ⟨value, _, digit, _⟩ := digitsWritten_cons_iff.1 plain.written
  cases digit

/-- What may stand between the zeros in front of a number and its digits: nothing, or a minus sign
where none came before. An underscore may follow that one. -/
inductive InnerSign : Sign → List Char → Sign → Prop where
  | absent {sign : Sign} : InnerSign sign [] sign
  | minus : InnerSign .plus ['-'] .minus
  | marked : InnerSign .plus ['-', '_'] .minus

section Signed

variable {text rest : List Char} {number : Int}

/-- Without a minus sign in front, a bare numeral is written plainly. -/
theorem readBare_unsigned_iff (unsigned : ∀ rest, text ≠ '-' :: rest) :
    readBare (dropUnderscores text) = .ok number ↔
      ∃ digits, PlainWritten text digits ∧
        number = Sign.plus.apply (Nat.ofDigits 10 digits.reverse) := by
  rw [readBare_eq_ok_iff, splitMinus_of_ne (dropUnderscores_ne_minus unsigned)]
  simp only [plainWritten_iff, and_assoc]

/-- A minus sign that is put back before a number without underscores is read as its sign. -/
theorem readBare_minus_iff :
    readBare ('-' :: dropUnderscores text) = .ok number ↔
      ∃ digits, PlainWritten text digits ∧
        number = Sign.minus.apply (Nat.ofDigits 10 digits.reverse) := by
  rw [readBare_eq_ok_iff]
  simp only [plainWritten_iff, and_assoc]
  rfl

/-- A minus sign that was left in front of a number is read as its sign. -/
theorem readBare_dropUnderscores_minus_iff :
    readBare (dropUnderscores ('-' :: rest)) = .ok number ↔
      ∃ core digits, (rest = core ∨ rest = '_' :: core) ∧ PlainWritten core digits ∧
        number = Sign.minus.apply (Nat.ofDigits 10 digits.reverse) := by
  rw [readBare_eq_ok_iff, dropUnderscores_minus]
  simp only [splitMinus]
  constructor
  · rintro ⟨digits, read, counted, rfl⟩
    rcases plainWritten_behind_minus_iff.1 ⟨read, counted⟩ with plain | ⟨core, rfl, plain⟩
    · exact ⟨rest, digits, .inl rfl, plain, rfl⟩
    · exact ⟨core, digits, .inr rfl, plain, rfl⟩
  · rintro ⟨core, digits, front, plain, rfl⟩
    have behind : PlainWritten rest digits ∨
        ∃ core, rest = '_' :: core ∧ PlainWritten core digits := by
      rcases front with rfl | rfl
      · exact .inl plain
      · exact .inr ⟨core, rfl, plain⟩
    obtain ⟨read, counted⟩ := plainWritten_behind_minus_iff.2 behind
    exact ⟨digits, read, counted, rfl⟩

/-- A minus sign in front, if there was one, is put back before the digits. -/
theorem readBare_signed_iff {outer : Sign} :
    readBare (if outer = .minus then '-' :: dropUnderscores text else dropUnderscores text) =
        .ok number ↔
      ∃ inner core sign digits, InnerSign outer inner sign ∧ PlainWritten core digits ∧
        text = inner ++ core ∧ number = sign.apply (Nat.ofDigits 10 digits.reverse) := by
  cases outer with
  | minus =>
    rw [if_pos rfl, readBare_minus_iff]
    constructor
    · rintro ⟨digits, plain, value⟩
      exact ⟨[], text, .minus, digits, .absent, plain, rfl, value⟩
    · rintro ⟨_, core, _, digits, inner, plain, rfl, value⟩
      cases inner
      exact ⟨digits, plain, value⟩
  | plus =>
    rw [if_neg Sign.noConfusion]
    by_cases signed : ∃ rest, text = '-' :: rest
    · obtain ⟨rest, rfl⟩ := signed
      rw [readBare_dropUnderscores_minus_iff]
      constructor
      · rintro ⟨core, digits, rfl | rfl, plain, value⟩
        · exact ⟨['-'], _, .minus, digits, .minus, plain, rfl, value⟩
        · exact ⟨['-', '_'], core, .minus, digits, .marked, plain, rfl, value⟩
      · rintro ⟨_, core, _, digits, inner, plain, front, value⟩
        cases inner with
        | absent =>
          cases front
          exact absurd plain not_plainWritten_minus
        | minus =>
          cases front
          exact ⟨_, digits, .inl rfl, plain, value⟩
        | marked =>
          cases front
          exact ⟨core, digits, .inr rfl, plain, value⟩
    · rw [not_exists] at signed
      rw [readBare_unsigned_iff signed]
      constructor
      · rintro ⟨digits, plain, value⟩
        exact ⟨[], text, .plus, digits, .absent, plain, rfl, value⟩
      · rintro ⟨_, core, _, digits, inner, plain, rfl, value⟩
        cases inner with
        | absent => exact ⟨digits, plain, value⟩
        | minus => exact absurd rfl (signed _)
        | marked => exact absurd rfl (signed _)

end Signed

end TraceFilter.Numeral
