/-
Module: TraceFilter.Proofs.LetterCase
Purpose: When two texts that are the same letter by letter, up to case, have the same lower case:
  always, unless a capital sigma that ends a word in one of them stands against a small one in the
  other.
Main exports: Text.letterClass_lowerShift, Text.SameLetters, Text.SigmaClash, Text.lower_eq_iff
-/
import Mathlib.Data.List.Forall2
import TraceFilter.Proofs.LowerCase

namespace TraceFilter.Text

/-! ### A letter counts for its neighbours as its lower case does -/

/-- The code points of letters with a case that are not passed over. -/
def CasedCode (code : Nat) : Prop :=
  ∃ range ∈ casedRanges, range.first ≤ code ∧ code ≤ range.last

/-- Whether a table of ranges holds all code points of a run: one range holds the run as a whole, or
else each member is in some range, which the gaps between letters of one run make necessary. -/
def CaseRun.isWithin (ranges : List CodeRange) (run : CaseRun) : Bool :=
  ranges.any (fun range => Nat.ble range.first run.first && Nat.ble run.last range.last)
    || (List.range (run.last + 1 - run.first)).all fun place =>
        place % run.step != 0 || ranges.any fun range =>
          Nat.ble range.first (run.first + place) && Nat.ble (run.first + place) range.last

/-- The run that a run moves to. -/
def CaseRun.image (run : CaseRun) : CaseRun :=
  { run with first := run.target, last := run.target + (run.last - run.first) }

theorem CaseRun.casedCode_of_holds {run : CaseRun} (within : run.isWithin casedRanges = true)
    {code : Nat} (member : run.holds code = true) : CasedCode code := by
  obtain ⟨from_first, to_last, inStep⟩ := CaseRun.holds_iff.1 member
  rcases Bool.or_eq_true_iff.1 within with whole | single
  · obtain ⟨range, cased, spans⟩ := List.any_eq_true.1 whole
    simp only [Bool.and_eq_true, Nat.ble_eq] at spans
    exact ⟨range, cased, Nat.le_trans spans.1 from_first, Nat.le_trans to_last spans.2⟩
  · have place : code - run.first ∈ List.range (run.last + 1 - run.first) := by
      rw [List.mem_range]
      omega
    have reached : run.first + (code - run.first) = code := by omega
    have inSome := List.all_eq_true.1 single _ place
    simp only [inStep, reached, bne_self_eq_false, Bool.false_or] at inSome
    obtain ⟨range, cased, spans⟩ := List.any_eq_true.1 inSome
    simp only [Bool.and_eq_true, Nat.ble_eq] at spans
    exact ⟨range, cased, spans⟩

theorem CaseRun.image_holds_move {run : CaseRun} {code : Nat} (member : run.holds code = true) :
    run.image.holds (run.move code) = true := by
  obtain ⟨from_first, to_last, inStep⟩ := CaseRun.holds_iff.1 member
  refine CaseRun.holds_iff.2 ⟨?_, ?_, ?_⟩
  · simp [image, move]
  · simp only [image, move]
    omega
  · simpa [image, move] using inStep

/-- All letters that are moved have a case, before and after. -/
theorem isWithin_of_mem {run : CaseRun} (moves : run ∈ lowerRuns) :
    run.isWithin casedRanges = true ∧ run.image.isWithin casedRanges = true := by
  have all : lowerRuns.all (fun run =>
      run.isWithin casedRanges && run.image.isWithin casedRanges) = true := by
    decide +kernel
  exact Bool.and_eq_true_iff.1 (List.all_eq_true.1 all run moves)

/-- What a character means for a sigma nearby: whether it is passed over, and whether it has a
case. -/
def letterClass (c : Char) : Bool × Bool :=
  (isCaseIgnorable c, isCasedLetter c)

theorem letterClass_of_casedCode {c : Char} (cased : CasedCode c.toNat) :
    letterClass c = (false, true) := by
  have apart : casedRanges.all (fun range => caseIgnorableRanges.all fun other =>
      Nat.blt range.last other.first || Nat.blt other.last range.first) = true := by
    decide +kernel
  obtain ⟨range, member, from_first, to_last⟩ := cased
  have hasCase : isCasedLetter c = true :=
    List.any_eq_true.2 ⟨range, member, CodeRange.holds_iff.2 ⟨from_first, to_last⟩⟩
  have counts : isCaseIgnorable c = false := by
    rw [Bool.eq_false_iff]
    intro ignorable
    obtain ⟨other, otherMember, holds⟩ := List.any_eq_true.1 ignorable
    obtain ⟨reached, passed⟩ := CodeRange.holds_iff.1 holds
    have disjoint := List.all_eq_true.1 (List.all_eq_true.1 apart range member) other otherMember
    simp only [Bool.or_eq_true, Nat.blt_eq] at disjoint
    omega
  rw [letterClass, hasCase, counts]

theorem toNat_ofNat_of_casedCode {code : Nat} (cased : CasedCode code) :
    (Char.ofNat code).toNat = code := by
  have scalar : ∀ range ∈ casedRanges,
      range.last < 0xd800 ∨ 0xdfff < range.first ∧ range.last < 0x110000 := by decide +kernel
  obtain ⟨range, member, from_first, to_last⟩ := cased
  have valid : code.isValidChar := by
    rcases scalar range member with low | ⟨past, inside⟩
    · exact .inl (Nat.lt_of_le_of_lt to_last low)
    · exact .inr ⟨Nat.lt_of_lt_of_le past from_first, Nat.lt_of_le_of_lt to_last inside⟩
  rw [Char.ofNat, dif_pos valid]
  rfl

/-- A letter of a run moves to a letter with a case. -/
theorem casedCode_move {run : CaseRun} (moves : run ∈ lowerRuns) {code : Nat}
    (member : run.holds code = true) : CasedCode (run.move code) :=
  CaseRun.casedCode_of_holds (isWithin_of_mem moves).2 (CaseRun.image_holds_move member)

/-- Lower-casing keeps what a character means for a sigma nearby. -/
theorem letterClass_lowerShift (c : Char) : letterClass (lowerShift c) = letterClass c := by
  rcases lowerShift_cases c with ⟨run, moves, member, moved⟩ | ⟨_, alone⟩
  · have cased := casedCode_move moves member
    rw [letterClass_of_casedCode (CaseRun.casedCode_of_holds (isWithin_of_mem moves).1 member),
      moved]
    apply letterClass_of_casedCode
    rw [toNat_ofNat_of_casedCode cased]
    exact cased
  · rw [alone]

/-! ### Texts that are the same letter by letter -/

/-- Two characters are the same letter if they have the same lower case, each on its own. -/
def SameLetter (c d : Char) : Prop :=
  lower (String.singleton c) = lower (String.singleton d)

/-- Two texts have the same letters if they have as many characters, each the same letter as the one
in its place in the other. -/
def SameLetters (first second : String) : Prop :=
  List.Forall₂ SameLetter first.toList second.toList

instance : DecidableRel SameLetter := fun c d =>
  inferInstanceAs (Decidable (lower (String.singleton c) = lower (String.singleton d)))

instance (first second : String) : Decidable (SameLetters first second) :=
  inferInstanceAs (Decidable (List.Forall₂ SameLetter first.toList second.toList))

theorem SameLetters.ne_empty {first second : String} (same : SameLetters first second)
    (given : first ≠ "") : second ≠ "" := by
  rintro rfl
  have none : first.toList = [] := List.forall₂_nil_right_iff.1 same
  exact given (String.toList_eq_nil_iff.1 none)

theorem lower_singleton (c : Char) : lower (String.singleton c) = String.ofList (lowerChar c) := by
  have alone : lowerFrom false [c] = lowerChar c := by
    by_cases sigma : c = 'Σ'
    · subst sigma
      decide +kernel
    · rw [lowerFrom, if_neg sigma]
      exact List.append_nil _
  rw [lower, String.toList_singleton, alone]

theorem sameLetter_iff {c d : Char} : SameLetter c d ↔ lowerChar c = lowerChar d := by
  rw [SameLetter, lower_singleton, lower_singleton, String.ofList_inj]

theorem SameLetter.symm {c d : Char} (same : SameLetter c d) : SameLetter d c :=
  Eq.symm same

/-- Only the dotted capital I becomes two characters. -/
theorem length_lowerChar (c : Char) : (lowerChar c).length = if c = 'İ' then 2 else 1 := by
  unfold lowerChar
  split <;> rfl

theorem SameLetter.letterClass_eq {c d : Char} (same : SameLetter c d) :
    letterClass c = letterClass d := by
  rw [sameLetter_iff] at same
  have lengths := congrArg List.length same
  rw [length_lowerChar, length_lowerChar] at lengths
  by_cases dotted : c = 'İ' <;> by_cases otherDotted : d = 'İ'
  · rw [dotted, otherDotted]
  · simp [dotted, otherDotted] at lengths
  · simp [dotted, otherDotted] at lengths
  · rw [lowerChar, lowerChar, if_neg dotted, if_neg otherDotted, List.singleton_inj] at same
    rw [← letterClass_lowerShift c, same, letterClass_lowerShift d]

/-- The run of the capital sigma. -/
def sigmaRun : CaseRun := ⟨0x3a3, 0x3ab, 1, 0x3c3⟩

theorem sigmaRun_of_move {run : CaseRun} (moves : run ∈ lowerRuns) {code : Nat}
    (member : run.holds code = true) (sigma : run.move code = 0x3c3) : code = 0x3a3 := by
  have only : ∀ run ∈ lowerRuns, run = sigmaRun ∨ 0x3c3 < run.target ∨
      run.target + (run.last - run.first) < 0x3c3 := by decide +kernel
  obtain ⟨from_first, to_last, _⟩ := CaseRun.holds_iff.1 member
  rw [CaseRun.move] at sigma
  rcases only run moves with rfl | past | before
  · simp only [sigmaRun] at sigma from_first
    omega
  · omega
  · omega

/-- Only the capital sigma has the small one as its lower case, besides the small one itself. -/
theorem eq_sigma_of_lowerChar {c : Char} (lowered : lowerChar c = ['σ']) : c = 'Σ' ∨ c = 'σ' := by
  by_cases dotted : c = 'İ'
  · rw [lowerChar, if_pos dotted] at lowered
    cases lowered
  rw [lowerChar, if_neg dotted, List.singleton_inj] at lowered
  rcases lowerShift_cases c with ⟨run, moves, member, moved⟩ | ⟨_, alone⟩
  · have target : run.move c.toNat = 0x3c3 := by
      rw [← toNat_ofNat_of_casedCode (casedCode_move moves member)]
      exact congrArg Char.toNat (moved.symm.trans lowered)
    exact .inl (Char.toNat_inj.1 (sigmaRun_of_move moves member target))
  · exact .inr (alone.symm.trans lowered)

/-! ### What stands around a sigma -/

/-- Whether the last letter that counts has a case, after one more character. -/
def casedNext (afterCased : Bool) (c : Char) : Bool :=
  if isCaseIgnorable c then afterCased else isCasedLetter c

/-- The lower case of a character in its place: what comes after it matters to a capital sigma. -/
def lowerAt (afterCased : Bool) (c : Char) (rest : List Char) : List Char :=
  if c = 'Σ' then (if afterCased && !startsCased rest then ['ς'] else ['σ']) else lowerChar c

theorem lowerFrom_cons (afterCased : Bool) (c : Char) (rest : List Char) :
    lowerFrom afterCased (c :: rest) =
      lowerAt afterCased c rest ++ lowerFrom (casedNext afterCased c) rest := rfl

theorem length_lowerAt (afterCased : Bool) (c : Char) (rest : List Char) :
    (lowerAt afterCased c rest).length = (lowerChar c).length := by
  by_cases sigma : c = 'Σ'
  · rw [lowerAt, if_pos sigma, length_lowerChar, sigma]
    split <;> rfl
  · rw [lowerAt, if_neg sigma]

theorem SameLetter.casedNext_eq {c d : Char} (same : SameLetter c d) (afterCased : Bool) :
    casedNext afterCased c = casedNext afterCased d := by
  obtain ⟨ignorable, cased⟩ := Prod.mk.inj same.letterClass_eq
  rw [casedNext, casedNext, ignorable, cased]

theorem startsCased_eq_of_sameLetters {chars others : List Char}
    (same : List.Forall₂ SameLetter chars others) : startsCased chars = startsCased others := by
  induction same with
  | nil => rfl
  | cons first _ ih =>
    obtain ⟨ignorable, cased⟩ := Prod.mk.inj first.letterClass_eq
    rw [startsCased, startsCased, ignorable, cased, ih]

theorem startsCased_eq_foldr (chars : List Char) :
    startsCased chars = chars.foldr (fun c later => casedNext later c) false := by
  induction chars with
  | nil => rfl
  | cons c rest ih => rw [startsCased, ih, List.foldr_cons, casedNext]

/-- Reading on from the front finds the letter that reading backwards starts with. -/
theorem foldl_casedNext (chars : List Char) :
    chars.foldl casedNext false = startsCased chars.reverse := by
  rw [startsCased_eq_foldr, List.foldr_reverse]

/-! ### Sigmas that end words -/

/-- A capital sigma that ends a word in the first text stands against a small one in the second;
`afterCased` says whether the last letter before the texts that counts has a case. -/
def ClashesFrom (afterCased : Bool) (chars others : List Char) : Prop :=
  ∃ before after before' after',
    chars = before ++ 'Σ' :: after ∧ others = before' ++ 'σ' :: after' ∧
    before.length = before'.length ∧ before.foldl casedNext afterCased = true ∧
    startsCased after = false

theorem not_clashesFrom_nil {afterCased : Bool} {others : List Char} :
    ¬ ClashesFrom afterCased [] others := by
  rintro ⟨before, after, _, _, absent, _⟩
  simp at absent

/-- Two texts clash in their first letter or behind it. -/
theorem clashesFrom_cons_iff {afterCased : Bool} {c d : Char} {rest others : List Char} :
    ClashesFrom afterCased (c :: rest) (d :: others) ↔
      (c = 'Σ' ∧ d = 'σ' ∧ afterCased = true ∧ startsCased rest = false) ∨
        ClashesFrom (casedNext afterCased c) rest others := by
  constructor
  · rintro ⟨before, after, before', after', first, second, together, cased, ends⟩
    cases before with
    | nil =>
      obtain rfl := List.length_eq_zero_iff.1 together.symm
      obtain ⟨rfl, rfl⟩ := List.cons_eq_cons.1 first
      obtain ⟨rfl, rfl⟩ := List.cons_eq_cons.1 second
      exact .inl ⟨rfl, rfl, cased, ends⟩
    | cons x earlier =>
      obtain ⟨y, earlier', rfl⟩ := List.exists_cons_of_length_eq_add_one together.symm
      obtain ⟨rfl, rfl⟩ := List.cons_eq_cons.1 first
      obtain ⟨rfl, rfl⟩ := List.cons_eq_cons.1 second
      exact .inr ⟨earlier, after, earlier', after', rfl, rfl, Nat.succ.inj together, cased, ends⟩
  · rintro (⟨rfl, rfl, cased, ends⟩ |
      ⟨before, after, before', after', rfl, rfl, together, cased, ends⟩)
    · exact ⟨[], rest, [], others, rfl, rfl, rfl, cased, ends⟩
    · exact ⟨c :: before, after, d :: before', after', rfl, rfl, congrArg (· + 1) together, cased,
        ends⟩

/-- A capital sigma has the lower case of the same letter in another text, but for a small sigma
where the capital one ends a word. -/
theorem lowerAt_sigma_eq_iff {afterCased : Bool} {d : Char} {rest others : List Char}
    (same : SameLetter 'Σ' d) (context : startsCased rest = startsCased others) :
    lowerAt afterCased 'Σ' rest = lowerAt afterCased d others ↔
      ¬ (d = 'σ' ∧ afterCased = true ∧ startsCased rest = false) := by
  have capital : lowerChar 'Σ' = ['σ'] := by decide +kernel
  have small : lowerAt afterCased 'σ' others = ['σ'] := by
    have unmoved : lowerChar 'σ' = ['σ'] := by decide +kernel
    rw [lowerAt, if_neg (by decide), unmoved]
  rcases eq_sigma_of_lowerChar ((sameLetter_iff.1 same).symm.trans capital) with rfl | rfl
  · rw [lowerAt, lowerAt, context]
    simp
  · rw [small, lowerAt, if_pos rfl]
    cases afterCased <;> cases startsCased rest <;> simp

/-- In one place, the same letters have the same lower case unless they clash there. -/
theorem lowerAt_eq_iff {afterCased : Bool} {c d : Char} {rest others : List Char}
    (same : SameLetter c d) (context : startsCased rest = startsCased others) :
    lowerAt afterCased c rest = lowerAt afterCased d others ↔
      ¬ (c = 'Σ' ∧ d = 'σ' ∧ afterCased = true ∧ startsCased rest = false) ∧
        ¬ (d = 'Σ' ∧ c = 'σ' ∧ afterCased = true ∧ startsCased others = false) := by
  by_cases sigma : c = 'Σ'
  · subst sigma
    simp [lowerAt_sigma_eq_iff same context]
  · by_cases otherSigma : d = 'Σ'
    · subst otherSigma
      rw [eq_comm, lowerAt_sigma_eq_iff same.symm context.symm]
      simp
    · rw [lowerAt, lowerAt, if_neg sigma, if_neg otherSigma, sameLetter_iff.1 same]
      simp [sigma, otherSigma]

theorem lowerFrom_eq_iff_of_sameLetters {chars others : List Char}
    (same : List.Forall₂ SameLetter chars others) {afterCased : Bool} :
    lowerFrom afterCased chars = lowerFrom afterCased others ↔
      ¬ ClashesFrom afterCased chars others ∧ ¬ ClashesFrom afterCased others chars := by
  induction same generalizing afterCased with
  | nil => simp [not_clashesFrom_nil]
  | @cons c d rest others first later ih =>
    have lengths : (lowerAt afterCased c rest).length = (lowerAt afterCased d others).length := by
      rw [length_lowerAt, length_lowerAt, sameLetter_iff.1 first]
    have apart : lowerFrom afterCased (c :: rest) = lowerFrom afterCased (d :: others) ↔
        lowerAt afterCased c rest = lowerAt afterCased d others ∧
          lowerFrom (casedNext afterCased c) rest = lowerFrom (casedNext afterCased d) others := by
      rw [lowerFrom_cons, lowerFrom_cons]
      constructor
      · intro equal
        exact List.append_inj equal lengths
      · rintro ⟨here, behind⟩
        rw [here, behind]
    rw [apart, lowerAt_eq_iff first (startsCased_eq_of_sameLetters later), clashesFrom_cons_iff,
      clashesFrom_cons_iff, first.casedNext_eq, ih, not_or, not_or]
    exact and_and_and_comm

/-- A capital sigma that ends a word in the first text stands in the place of a small one in the
second. A word ends where the last letter before that counts has a case, and the first after has
none. -/
def SigmaClash (first second : String) : Prop :=
  ∃ before after before' after', first.toList = before ++ 'Σ' :: after ∧
    second.toList = before' ++ 'σ' :: after' ∧ before.length = before'.length ∧
    startsCased before.reverse = true ∧ startsCased after = false

theorem sigmaClash_iff {first second : String} :
    SigmaClash first second ↔ ClashesFrom false first.toList second.toList := by
  simp only [SigmaClash, ClashesFrom, foldl_casedNext]

/-- Texts with the same letters have the same lower case unless a sigma that ends a word is a
capital in one of them and small in the other. -/
theorem lower_eq_iff {first second : String} (same : SameLetters first second) :
    lower first = lower second ↔ ¬ SigmaClash first second ∧ ¬ SigmaClash second first := by
  rw [lower, lower, String.ofList_inj, lowerFrom_eq_iff_of_sameLetters same, sigmaClash_iff,
    sigmaClash_iff]

end TraceFilter.Text
