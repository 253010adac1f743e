/-
Module: TraceFilter.Proofs.WrittenBounds
Purpose: The texts that a bound of a window may be written with, as a grammar with the integer that
  each of them denotes, and that exactly these are read, as this integer.
Main exports: Numeral.ZerosWritten, Numeral.FractionWritten, Numeral.UnsignedWritten,
  Numeral.BoundWritten, Numeral.tidy_eq_ok_iff, Numeral.readAscii_eq_ok_iff
-/
import TraceFilter.Proofs.BareNumerals
import TraceFilter.Proofs.PolicyNames

namespace TraceFilter.Numeral

open Text

/-! ### A fraction of zeros -/

/-- What may follow the digits of a bound: nothing, or a point with one zero or more. -/
inductive FractionWritten : List Char → Prop where
  | absent : FractionWritten []
  | zeros {rest : List Char} (nonempty : rest ≠ []) (zero : ∀ c ∈ rest, c = '0') :
      FractionWritten ('.' :: rest)

theorem isZeroFraction_iff {text : List Char} :
    isZeroFraction text = true ↔ text ≠ [] ∧ FractionWritten text := by
  unfold isZeroFraction
  split
  · next zeros =>
    simp only [Bool.and_eq_true, Bool.not_eq_true', List.isEmpty_eq_false_iff, List.all_eq_true,
      beq_iff_eq]
    constructor
    · rintro ⟨nonempty, zero⟩
      exact ⟨List.cons_ne_nil _ _, .zeros nonempty zero⟩
    · rintro ⟨_, written⟩
      cases written with
      | zeros nonempty zero => exact ⟨nonempty, zero⟩
  · next other =>
    refine iff_of_false nofun ?_
    rintro ⟨present, written⟩
    cases written with
    | absent => exact present rfl
    | zeros _ _ => exact other _ rfl

theorem dropZeroFraction_append {text fraction : List Char} (whole : ∀ c ∈ text, c ≠ '.')
    (written : FractionWritten fraction) : dropZeroFraction (text ++ fraction) = text := by
  have before : ∀ c ∈ text, (c != '.') = true := by simpa using whole
  rw [dropZeroFraction, List.dropWhile_append_of_pos before, List.takeWhile_append_of_pos before]
  cases written with
  | absent => simp [isZeroFraction]
  | zeros nonempty zero =>
    rw [List.dropWhile_cons_of_neg (by decide), List.takeWhile_cons_of_neg (by decide),
      if_pos (isZeroFraction_iff.2 ⟨List.cons_ne_nil _ _, .zeros nonempty zero⟩), List.append_nil]

theorem exists_fractionWritten (text : List Char) :
    ∃ fraction, FractionWritten fraction ∧ text = dropZeroFraction text ++ fraction := by
  unfold dropZeroFraction
  split
  · next zero =>
    exact ⟨_, (isZeroFraction_iff.1 zero).2, List.takeWhile_append_dropWhile.symm⟩
  · exact ⟨[], .absent, (List.append_nil text).symm⟩

/-! ### Zeros in front -/

/-- A character that may stand among the zeros in front of a number. -/
def IsFilling (c : Char) : Prop := c = '0' ∨ c = '_'

/-- What may stand in front of a number: nothing, or zeros with any underscores between and behind
them. -/
inductive ZerosWritten : List Char → Prop where
  | absent : ZerosWritten []
  | zeros {rest : List Char} (filling : ∀ c ∈ rest, IsFilling c) : ZerosWritten ('0' :: rest)

/-- Where a number can start behind zeros: at another digit, at a minus sign, or at a last zero. -/
inductive StartsNumber : List Char → Prop where
  | digit {c : Char} {rest : List Char} (leading : isLeadingDigit c = true) :
      StartsNumber (c :: rest)
  | minus {rest : List Char} : StartsNumber ('-' :: rest)
  | zero : StartsNumber ['0']
  | fraction {rest : List Char} : StartsNumber ('0' :: '.' :: rest)

theorem not_isFilling_of_isLeadingDigit {c : Char} (leading : isLeadingDigit c = true) :
    ¬ IsFilling c := by
  rintro (rfl | rfl) <;> cases leading

theorem dropZerosAfter_cons {c last : Char} (filling : IsFilling c) (rest : List Char) :
    dropZerosAfter last (c :: rest) = dropZerosAfter c rest :=
  if_pos filling

theorem dropZerosAfter_append {front number : List Char} {last : Char}
    (filling : ∀ c ∈ front, IsFilling c) (starts : StartsNumber number) :
    dropZerosAfter last (front ++ number) = some number := by
  induction front generalizing last with
  | nil =>
    cases starts with
    | @digit c rest leading =>
      have other : ¬ (c = '0' ∨ c = '_') := not_isFilling_of_isLeadingDigit leading
      rw [List.nil_append, dropZerosAfter, if_neg other, if_pos (.inl leading)]
    | minus => rfl
    | zero => rfl
    | fraction => rfl
  | cons c rest ih =>
    obtain ⟨first, others⟩ := List.forall_mem_cons.1 filling
    rw [List.cons_append, dropZerosAfter_cons first, ih others]

theorem dropZeros_append {front number : List Char} (zeros : ZerosWritten front)
    (starts : StartsNumber number) (behind : ∀ rest, number = '-' :: rest → front ≠ []) :
    dropZeros (front ++ number) = some number := by
  cases zeros with
  | zeros filling => exact dropZerosAfter_append filling starts
  | absent =>
    cases starts with
    | @digit c rest leading =>
      have nonzero : c ≠ '0' := fun zero => not_isFilling_of_isLeadingDigit leading (.inl zero)
      rw [List.nil_append, dropZeros, if_neg nonzero, if_pos leading]
    | minus => exact absurd rfl (behind _ rfl)
    | zero => rfl
    | fraction => rfl

theorem exists_front_of_dropZerosAfter {text number : List Char} {last : Char}
    (filling : IsFilling last) (gives : dropZerosAfter last text = some number) :
    ∃ front, (∀ c ∈ front, IsFilling c) ∧ last :: text = front ++ number := by
  induction text generalizing last with
  | nil =>
    cases gives
    exact ⟨[], nofun, rfl⟩
  | cons c rest ih =>
    rw [dropZerosAfter] at gives
    split at gives
    · next more =>
      obtain ⟨front, others, parts⟩ := ih more gives
      exact ⟨last :: front, List.forall_mem_cons.2 ⟨filling, others⟩, by rw [parts]; rfl⟩
    · split at gives
      · cases gives
        exact ⟨[last], List.forall_mem_singleton.2 filling, rfl⟩
      · split at gives
        · cases gives
          exact ⟨[], nofun, rfl⟩
        · cases gives

theorem exists_zerosWritten {unsigned number : List Char}
    (gives : dropZeros unsigned = some number) :
    ∃ front, ZerosWritten front ∧ unsigned = front ++ number := by
  cases unsigned with
  | nil => cases gives
  | cons c rest =>
    rw [dropZeros] at gives
    split at gives
    · next zero =>
      obtain ⟨front, filling, parts⟩ := exists_front_of_dropZerosAfter (.inl zero) gives
      subst zero
      cases front with
      | nil => exact ⟨[], .absent, parts⟩
      | cons first others =>
        cases parts
        exact ⟨_, .zeros (List.forall_mem_cons.1 filling).2, rfl⟩
    · split at gives
      · cases gives
        exact ⟨[], .absent, rfl⟩
      · cases gives

/-! ### A number behind its sign -/

/-- A number as a bound may be written behind the sign `outer`: zeros in front, which alone may have
a minus sign behind them, digits, and a fraction of zeros. -/
inductive UnsignedWritten (outer : Sign) : List Char → Int → Prop where
  | intro {front inner core fraction : List Char} {sign : Sign} {digits : List Nat}
      (zeros : ZerosWritten front) (signed : InnerSign outer inner sign)
      (behind : inner ≠ [] → front ≠ []) (plain : PlainWritten core digits)
      (whole : FractionWritten fraction) :
      UnsignedWritten outer (front ++ (inner ++ core ++ fraction))
        (sign.apply (Nat.ofDigits 10 digits.reverse))

section Parts

variable {outer sign : Sign} {front inner core fraction : List Char} {digits : List Nat}

/-- Neither a point nor white space stands between digits. -/
theorem PlainWritten.of_mem (plain : PlainWritten core digits) {c : Char} (member : c ∈ core) :
    c ≠ '.' ∧ isWhiteSpace c = false := by
  have body := isBodyChar_of_digitsWritten plain.written c member
  constructor
  · rintro rfl
    exact absurd body (by decide)
  · rw [Bool.eq_false_iff]
    intro white
    rw [not_isBodyChar_of_isWhiteSpace white] at body
    cases body

theorem InnerSign.of_mem (signed : InnerSign outer inner sign) {c : Char} (member : c ∈ inner) :
    c ≠ '.' ∧ isWhiteSpace c = false := by
  have marks : c = '-' ∨ c = '_' := by
    cases signed with
    | absent => cases member
    | minus => exact .inl (List.mem_singleton.1 member)
    | marked => exact (List.mem_cons.1 member).imp_right List.mem_singleton.1
  rcases marks with rfl | rfl <;> decide

theorem SignWritten.not_isWhiteSpace (signed : SignWritten inner sign) {c : Char}
    (member : c ∈ inner) : isWhiteSpace c = false := by
  cases signed with
  | absent => cases member
  | plus =>
    cases List.mem_singleton.1 member
    decide
  | minus =>
    cases List.mem_singleton.1 member
    decide

theorem eq_zero_of_digitValue? {c : Char} (ascii : c.toNat < 0x80)
    (digit : digitValue? c = some 0) : c = '0' := by
  have plain := asciiDigitValue?_eq_some_iff.2 ⟨digit, ascii⟩
  unfold asciiDigitValue? at plain
  split at plain
  · next bounds =>
    have above : 0x30 ≤ c.toNat := bounds.1
    have same : c.toNat - 0x30 = 0 := Option.some.inj plain
    exact Char.toNat_inj.1 (show c.toNat = 0x30 by omega)
  · cases plain

theorem startsNumber_of_plain (plain : PlainWritten core digits)
    (whole : FractionWritten fraction) : StartsNumber (core ++ fraction) := by
  obtain ⟨c, rest, rfl⟩ := List.exists_cons_of_ne_nil (ne_nil_of_digitsWritten plain.written)
  obtain ⟨value, others, digit, follow, rfl⟩ := digitsWritten_cons_iff.1 plain.written
  have ascii := (List.forall_mem_cons.1 plain.ascii).1
  by_cases zero : value = 0
  · subst zero
    obtain rfl := eq_zero_of_digitValue? ascii digit
    cases plain.counted.leading rfl
    cases follow with
    | nothing =>
      cases whole with
      | absent => exact .zero
      | zeros _ _ => exact .fraction
    | next later => cases later
    | grouped later => cases later
  · refine .digit ?_
    have nonzero : c ≠ '0' := by
      rintro rfl
      exact zero (Option.some.inj digit).symm
    simp [isLeadingDigit, isAsciiDigit_iff.2 ⟨value, digit, ascii⟩, nonzero]

theorem startsNumber_of_inner (signed : InnerSign outer inner sign)
    (plain : PlainWritten core digits) (whole : FractionWritten fraction) :
    StartsNumber (inner ++ core ++ fraction) := by
  cases signed with
  | absent => exact startsNumber_of_plain plain whole
  | minus => exact .minus
  | marked => exact .minus

end Parts

/-- The text of a number is written like a bound exactly if it is tidied into a bare numeral. -/
theorem unsignedWritten_iff {outer : Sign} {unsigned : List Char} {number : Int} :
    UnsignedWritten outer unsigned number ↔
      ∃ rest, dropZeros unsigned = some rest ∧
        readBare (if outer = .minus then '-' :: dropUnderscores (dropZeroFraction rest)
          else dropUnderscores (dropZeroFraction rest)) = .ok number := by
  constructor
  · intro written
    cases written with
    | @intro front inner core fraction sign digits zeros signed behind plain whole =>
    refine ⟨inner ++ core ++ fraction,
      dropZeros_append zeros (startsNumber_of_inner signed plain whole) ?_, ?_⟩
    · intro rest shown
      cases signed with
      | absent =>
        obtain ⟨c, others, rfl⟩ :=
          List.exists_cons_of_ne_nil (ne_nil_of_digitsWritten plain.written)
        cases shown
        exact absurd plain not_plainWritten_minus
      | minus => exact behind (List.cons_ne_nil _ _)
      | marked => exact behind (List.cons_ne_nil _ _)
    · have point : ∀ c ∈ inner ++ core, c ≠ '.' :=
        List.forall_mem_append.2 ⟨fun c member => (signed.of_mem member).1,
          fun c member => (plain.of_mem member).1⟩
      rw [dropZeroFraction_append point whole]
      exact readBare_signed_iff.2 ⟨inner, core, sign, digits, signed, plain, rfl, rfl⟩
  · rintro ⟨rest, cleared, read⟩
    obtain ⟨inner, core, sign, digits, signed, plain, parts, rfl⟩ := readBare_signed_iff.1 read
    obtain ⟨front, zeros, rfl⟩ := exists_zerosWritten cleared
    obtain ⟨fraction, whole, shown⟩ := exists_fractionWritten rest
    rw [parts] at shown
    subst shown
    refine .intro zeros signed ?_ plain whole
    rintro nonempty rfl
    cases signed with
    | absent => exact nonempty rfl
    | minus => cases cleared
    | marked => cases cleared

namespace UnsignedWritten

variable {outer : Sign} {signs unsigned : List Char} {number : Int}

/-- A digit comes first: the zero in front, or the first digit of the number. -/
theorem exists_digit (written : UnsignedWritten outer unsigned number) :
    ∃ c rest value, unsigned = c :: rest ∧ digitValue? c = some value := by
  cases written with
  | @intro front inner core fraction sign digits zeros signed behind plain whole =>
  cases zeros with
  | zeros filling => exact ⟨'0', _, 0, rfl, rfl⟩
  | absent =>
    cases signed with
    | absent =>
      obtain ⟨c, rest, rfl⟩ := List.exists_cons_of_ne_nil (ne_nil_of_digitsWritten plain.written)
      obtain ⟨value, _, digit, _⟩ := digitsWritten_cons_iff.1 plain.written
      exact ⟨c, _, value, rfl, digit⟩
    | minus => exact absurd rfl (behind (List.cons_ne_nil _ _))
    | marked => exact absurd rfl (behind (List.cons_ne_nil _ _))

theorem not_isWhiteSpace (written : UnsignedWritten outer unsigned number) :
    ∀ c ∈ unsigned, isWhiteSpace c = false := by
  cases written with
  | @intro front inner core fraction sign digits zeros signed behind plain whole =>
  simp only [List.forall_mem_append]
  refine ⟨?_, ⟨fun c member => (signed.of_mem member).2, fun c member => (plain.of_mem member).2⟩,
    ?_⟩
  · cases zeros with
    | absent => nofun
    | zeros filling =>
      refine List.forall_mem_cons.2 ⟨by decide, fun c member => ?_⟩
      rcases filling c member with rfl | rfl <;> decide
  · cases whole with
    | absent => nofun
    | zeros _ zero =>
      refine List.forall_mem_cons.2 ⟨by decide, fun c member => ?_⟩
      rw [zero c member]
      decide

theorem splitSign_append (written : UnsignedWritten outer unsigned number)
    (signed : SignWritten signs outer) : splitSign (signs ++ unsigned) = (outer, unsigned) := by
  cases signed with
  | plus => rfl
  | minus => rfl
  | absent =>
    obtain ⟨c, rest, value, rfl, digit⟩ := written.exists_digit
    exact splitSign_of_digit digit

end UnsignedWritten

/-! ### A number with white space around -/

/-- A bound as it may be written: white space around, a sign or none, and a number. -/
inductive BoundWritten : String → Int → Prop where
  | intro {before signs unsigned after : List Char} {outer : Sign} {number : Int}
      (leading : ∀ c ∈ before, isWhiteSpace c = true) (signed : SignWritten signs outer)
      (written : UnsignedWritten outer unsigned number)
      (trailing : ∀ c ∈ after, isWhiteSpace c = true) :
      BoundWritten (String.ofList (before ++ ((signs ++ unsigned) ++ after))) number

/-- A text is tidied into a bare numeral exactly if a bound may be written so. -/
theorem tidy_eq_ok_iff {text : String} {number : Int} :
    (tidy text.toList).map readBare = some (.ok number) ↔ BoundWritten text number := by
  have read {trimmed : List Char} (cut : trim isWhiteSpace text.toList = trimmed) :
      (tidy text.toList).map readBare = some (.ok number) ↔
        UnsignedWritten (splitSign trimmed).1 (splitSign trimmed).2 number := by
    rw [tidy, cut, unsignedWritten_iff]
    simp [Option.map_eq_some_iff]
  constructor
  · intro tidied
    have written := (read rfl).1 tidied
    obtain ⟨before, after, parts, leading, trailing⟩ := @exists_around_trim isWhiteSpace text.toList
    obtain ⟨signs, signed, shown⟩ := exists_signWritten (trim isWhiteSpace text.toList)
    rw [← @String.ofList_toList text, parts, shown]
    exact .intro leading signed written trailing
  · intro bound
    cases bound with
    | @intro before signs unsigned after outer _ leading signed written trailing =>
    have kept : ∀ c ∈ signs ++ unsigned, isWhiteSpace c = false :=
      List.forall_mem_append.2 ⟨fun c => signed.not_isWhiteSpace, written.not_isWhiteSpace⟩
    rw [read (by rw [String.toList_ofList, trim_around leading kept trailing]),
      written.splitSign_append signed]
    exact written

/-! ### Bare numerals among the written bounds -/

/-- There is nothing to take out of a run of digits. -/
theorem dropUnderscores_of_mapM {text : List Char} {digits : List Nat}
    (read : text.mapM asciiDigitValue? = some digits) : dropUnderscores text = text := by
  have whole : text.filter (· != '_') = text := by
    induction text generalizing digits with
    | nil => rfl
    | cons c rest ih =>
      obtain ⟨value, others, digit, later, rfl⟩ := mapM_asciiDigitValue?_cons_iff.1 read
      have unbroken : (c != '_') = true := by
        rw [bne_iff_ne]
        rintro rfl
        cases digit
      rw [List.filter_cons, if_pos unbroken, ih later]
  rw [dropUnderscores, whole, ite_self]

theorem exists_signWritten_splitMinus (text : List Char) :
    ∃ signs, SignWritten signs (splitMinus text).1 ∧ text = signs ++ (splitMinus text).2 := by
  unfold splitMinus
  split
  · exact ⟨_, .minus, rfl⟩
  · exact ⟨_, .absent, rfl⟩

/-- A bare numeral is one of the forms of a bound. -/
theorem boundWritten_of_readBare {text : String} {number : Int}
    (read : readBare text.toList = .ok number) : BoundWritten text number := by
  obtain ⟨digits, plain, counted, rfl⟩ := readBare_eq_ok_iff.1 read
  obtain ⟨signs, signed, parts⟩ := exists_signWritten_splitMinus text.toList
  have core : PlainWritten (splitMinus text.toList).2 digits := by
    rw [plainWritten_iff, dropUnderscores_of_mapM plain]
    exact ⟨plain, counted⟩
  have written : UnsignedWritten (splitMinus text.toList).1
      ([] ++ ([] ++ (splitMinus text.toList).2 ++ [])) _ :=
    .intro .absent .absent (fun nonempty => nonempty) core .absent
  have bound := @BoundWritten.intro [] signs _ [] _ _ nofun signed written nofun
  simpa [← parts] using bound

/-! ### Runs that are too long -/

/-- The ASCII digits that a bare numeral is judged by. -/
def bareRun (text : List Char) : List Char :=
  (splitMinus text).2.takeWhile isAsciiDigit

/-- A text with a run of too many digits does not start with a zero. -/
theorem long_bareRun_of_tooMany {text : List Char} {count : Nat}
    (refused : readBare text = .error (.tooManyDigits count)) :
    maxDigits < (bareRun text).length ∧ ∀ rest, bareRun text ≠ '0' :: rest := by
  have shorter := List.length_filterMap_le asciiDigitValue? (bareRun text)
  simp only [readBare] at refused
  rw [← bareRun] at refused
  split at refused
  · cases refused
  · cases refused
  · next nonempty alone =>
    split at refused
    · next long =>
      refine ⟨Nat.lt_of_lt_of_le long shorter, fun rest zero => ?_⟩
      have first : asciiDigitValue? '0' = some 0 := rfl
      rw [zero, List.filterMap_cons_some first] at long alone
      cases others : rest.filterMap asciiDigitValue? with
      | nil =>
        rw [others] at long
        exact absurd long (by decide)
      | cons second later => exact alone second later (congrArg (0 :: ·) others)
    · split at refused <;> cases refused

/-- A run that starts with digits in groups is no longer than they are. -/
theorem length_takeWhile_le {core tail : List Char} {digits : List Nat}
    (written : DigitsWritten core digits) (ends : tail.takeWhile isAsciiDigit = []) :
    ((core ++ tail).takeWhile isAsciiDigit).length ≤ digits.length := by
  induction written with
  | @last c value digit =>
    rw [List.singleton_append, List.takeWhile_cons, ends]
    split <;> simp
  | @next c value rest values digit later ih =>
    rw [List.cons_append, List.takeWhile_cons]
    split
    · exact Nat.succ_le_succ ih
    · exact Nat.zero_le _
  | @grouped c value rest values digit later ih =>
    have broken : ¬ isAsciiDigit '_' = true := by decide
    rw [List.cons_append, List.cons_append, List.takeWhile_cons,
      List.takeWhile_cons_of_neg broken]
    split <;> simp

theorem not_isAsciiDigit_of_isWhiteSpace {c : Char} (white : isWhiteSpace c = true) :
    ¬ isAsciiDigit c = true := by
  intro plain
  obtain ⟨value, digit, _⟩ := isAsciiDigit_iff.1 plain
  rw [digitValue?_eq_none_of_isBlank (isBlank_of_isWhiteSpace white)] at digit
  cases digit

theorem takeWhile_of_white {after : List Char} (trailing : ∀ c ∈ after, isWhiteSpace c = true) :
    after.takeWhile isAsciiDigit = [] := by
  cases after with
  | nil => rfl
  | cons c rest =>
    have white := trailing c List.mem_cons_self
    exact List.takeWhile_cons_of_neg (not_isAsciiDigit_of_isWhiteSpace white)

/-- The run of a number that is written like a bound starts with a zero, or ends with a digit that
is still counted. -/
theorem UnsignedWritten.run_cases {outer : Sign} {unsigned after : List Char} {number : Int}
    (written : UnsignedWritten outer unsigned number)
    (trailing : ∀ c ∈ after, isWhiteSpace c = true) :
    ((unsigned ++ after).takeWhile isAsciiDigit).length ≤ maxDigits ∨
      ∃ rest, (unsigned ++ after).takeWhile isAsciiDigit = '0' :: rest := by
  cases written with
  | @intro front inner core fraction sign digits zeros signed behind plain whole =>
  cases zeros with
  | zeros filling => exact .inr ⟨_, rfl⟩
  | absent =>
    cases signed with
    | minus => exact absurd rfl (behind (List.cons_ne_nil _ _))
    | marked => exact absurd rfl (behind (List.cons_ne_nil _ _))
    | absent =>
      have ends : (fraction ++ after).takeWhile isAsciiDigit = [] := by
        cases whole with
        | absent => exact takeWhile_of_white trailing
        | zeros _ _ => rfl
      have counted := Nat.le_trans (length_takeWhile_le plain.written ends) plain.counted.short
      rw [List.nil_append, List.nil_append, List.append_assoc]
      exact .inl counted

/-- A bare numeral has at most a minus sign before its run; behind anything else there is none. -/
theorem bareRun_cases {before signs unsigned after : List Char} {outer : Sign} {number : Int}
    (leading : ∀ c ∈ before, isWhiteSpace c = true) (signed : SignWritten signs outer)
    (written : UnsignedWritten outer unsigned number) :
    bareRun (before ++ ((signs ++ unsigned) ++ after)) = [] ∨
      bareRun (before ++ ((signs ++ unsigned) ++ after)) =
        (unsigned ++ after).takeWhile isAsciiDigit := by
  cases before with
  | cons c rest =>
    have white := leading c List.mem_cons_self
    have unlike : ∀ others, c :: rest ++ ((signs ++ unsigned) ++ after) ≠ '-' :: others := by
      rintro others ⟨rfl, _⟩
      exact absurd white (by decide)
    rw [bareRun, splitMinus_of_ne unlike]
    exact .inl (List.takeWhile_cons_of_neg (not_isAsciiDigit_of_isWhiteSpace white))
  | nil =>
    cases signed with
    | plus => exact .inl rfl
    | minus => exact .inr rfl
    | absent =>
      obtain ⟨c, rest, value, rfl, digit⟩ := written.exists_digit
      have unlike : ∀ others, [] ++ (([] ++ c :: rest) ++ after) ≠ '-' :: others := by
        rintro others ⟨rfl, _⟩
        cases digit
      rw [bareRun, splitMinus_of_ne unlike]
      exact .inr rfl

/-- What is written like a bound has no run of too many digits, unless a zero comes first. -/
theorem BoundWritten.ne_tooMany {text : String} {number : Int} (written : BoundWritten text number)
    (count : Nat) : readBare text.toList ≠ .error (.tooManyDigits count) := by
  intro refused
  obtain ⟨long, nonzero⟩ := long_bareRun_of_tooMany refused
  cases written with
  | @intro before signs unsigned after outer _ leading signed written trailing =>
  rw [String.toList_ofList] at long nonzero
  rcases @bareRun_cases before signs unsigned after outer _ leading signed written with
    absent | run
  · rw [absent] at long
    exact Nat.not_lt_zero _ long
  · rw [run] at long nonzero
    rcases written.run_cases trailing with short | ⟨rest, zero⟩
    · exact Nat.not_lt.2 short long
    · exact nonzero rest zero

/-- A text is read as a bound exactly if it is written like one, as the integer that is written. -/
theorem readAscii_eq_ok_iff {text : String} {number : Int} :
    readAscii text = .ok number ↔ BoundWritten text number := by
  rw [← tidy_eq_ok_iff]
  unfold readAscii
  cases bare : readBare text.toList with
  | ok other =>
    have tidied := tidy_eq_ok_iff.2 (boundWritten_of_readBare bare)
    rw [tidied]
    simp
  | error refusal =>
    cases refusal with
    | malformed =>
      simp only
      rcases (tidy text.toList).map readBare with _ | _ | _ <;> simp
    | tooManyDigits count =>
      refine iff_of_false nofun fun tidied => ?_
      exact (tidy_eq_ok_iff.1 tidied).ne_tooMany count bare

end TraceFilter.Numeral
