/-
Module: TraceFilter.Proofs.LowerCase
Purpose: Lower-casing a text a second time changes nothing, over the whole table of letters and the
  rule for the final sigma, and it never empties a text.
Main exports: Text.IsLowered, Text.isLowered_of_mem_lowerFrom, Text.lowerFrom_eq_self,
  Text.lower_lower, Text.lower_eq_empty_iff
-/
import TraceFilter.Text.LowerCase

namespace TraceFilter.Text

/-! ### The table moves no letter twice -/

/-- Whether one can tell from two runs that no member of the second moves into the first: it moves
past either end, or between the letters of a run that takes every second place, or is the only
member and moves elsewhere. -/
def CaseRun.staysOut (other run : CaseRun) : Bool :=
  Nat.blt (run.target + (run.last - run.first)) other.first || Nat.blt other.last run.target
    || (run.step == 2 && other.step == 2 && (run.target + other.first) % 2 == 1)
    || (run.first == run.last && !other.holds run.target)

theorem CaseRun.holds_iff {run : CaseRun} {code : Nat} : run.holds code = true ↔
    run.first ≤ code ∧ code ≤ run.last ∧ (code - run.first) % run.step = 0 := by
  simp [holds, and_assoc]

theorem CaseRun.not_holds_move {run other : CaseRun} {code : Nat} (out : other.staysOut run = true)
    (member : run.holds code = true) : other.holds (run.move code) = false := by
  rw [Bool.eq_false_iff]
  intro inside
  obtain ⟨from_first, to_last, inStep⟩ := CaseRun.holds_iff.1 member
  simp only [staysOut, Bool.or_eq_true, Nat.blt_eq, Bool.and_eq_true, beq_iff_eq,
    Bool.not_eq_true'] at out
  rcases out with ((past | before) | ⟨⟨step, otherStep⟩, odd⟩) | ⟨only, elsewhere⟩
  · have reached := (CaseRun.holds_iff.1 inside).1
    simp only [move] at reached
    omega
  · have reached := (CaseRun.holds_iff.1 inside).2.1
    simp only [move] at reached
    omega
  · -- The member is an even number of places into its run, and lands an odd number into the other.
    obtain ⟨reached, _, even⟩ := CaseRun.holds_iff.1 inside
    rw [step] at inStep
    rw [otherStep] at even
    simp only [move] at reached even
    omega
  · have same : code = run.first := by omega
    rw [move, same, Nat.sub_self, Nat.add_zero, elsewhere] at inside
    exact Bool.false_ne_true inside

/-- The run of the dotted capital I, whose lower case is two characters. -/
def dottedRun : CaseRun := ⟨0x130, 0x130, 1, 0x69⟩

/-- Every run of letters with another lower case. -/
def movingRuns : List CaseRun := dottedRun :: lowerRuns

/-- No run of the table moves into a run. -/
theorem staysOut_of_mem {other run : CaseRun} (otherMoves : other ∈ movingRuns)
    (moves : run ∈ lowerRuns) : other.staysOut run = true := by
  have all : movingRuns.all (fun other => lowerRuns.all other.staysOut) = true := by
    decide +kernel
  exact List.all_eq_true.1 (List.all_eq_true.1 all other otherMoves) run moves

theorem not_holds_zero {run : CaseRun} (moves : run ∈ movingRuns) : run.holds 0 = false := by
  have all : movingRuns.all (fun run => !run.holds 0) = true := by
    decide +kernel
  have nowhere : (!run.holds 0) = true := List.all_eq_true.1 all run moves
  simpa using nowhere

/-! ### Characters in lower case -/

/-- A character is in lower case when no run moves it. -/
def IsLowered (c : Char) : Prop :=
  ∀ run ∈ movingRuns, run.holds c.toNat = false

instance (c : Char) : Decidable (IsLowered c) :=
  inferInstanceAs (Decidable (∀ run ∈ movingRuns, run.holds c.toNat = false))

/-- A letter is moved by a run that holds it, or left alone since none does. -/
theorem lowerShift_cases (c : Char) :
    (∃ run ∈ lowerRuns, run.holds c.toNat = true ∧ lowerShift c = Char.ofNat (run.move c.toNat)) ∨
      (∀ run ∈ lowerRuns, run.holds c.toNat = false) ∧ lowerShift c = c := by
  unfold lowerShift
  cases found : lowerRuns.find? (CaseRun.holds c.toNat) with
  | some run => exact .inl ⟨run, List.mem_of_find?_eq_some found, List.find?_some found, rfl⟩
  | none =>
    refine .inr ⟨fun run moves => ?_, rfl⟩
    exact Bool.eq_false_iff.2 (List.find?_eq_none.1 found run moves)

theorem IsLowered.lowerShift_eq {c : Char} (lowered : IsLowered c) : lowerShift c = c := by
  rcases lowerShift_cases c with ⟨run, moves, member, _⟩ | ⟨_, alone⟩
  · rw [lowered run (List.mem_cons_of_mem dottedRun moves)] at member
    cases member
  · exact alone

theorem IsLowered.ne_dotted {c : Char} (lowered : IsLowered c) : c ≠ 'İ' := by
  rintro rfl
  exact absurd (lowered dottedRun List.mem_cons_self) (by decide)

theorem IsLowered.ne_sigma {c : Char} (lowered : IsLowered c) : c ≠ 'Σ' := by
  rintro rfl
  exact absurd lowered (by decide +kernel)

/-- A code point is that of its character, or it has none and stands for the null. -/
theorem toNat_ofNat_cases (code : Nat) :
    (Char.ofNat code).toNat = code ∨ (Char.ofNat code).toNat = 0 := by
  by_cases valid : code.isValidChar
  · rw [Char.ofNat, dif_pos valid]
    exact .inl rfl
  · rw [Char.ofNat, dif_neg valid]
    exact .inr rfl

/-- What the table gives is in lower case, be it moved or left alone. The dotted capital I is left
alone by it without being so. -/
theorem isLowered_lowerShift {c : Char} (undotted : c ≠ 'İ') : IsLowered (lowerShift c) := by
  intro other otherMoves
  rcases lowerShift_cases c with ⟨run, moves, member, moved⟩ | ⟨unheld, alone⟩
  · rw [moved]
    rcases toNat_ofNat_cases (run.move c.toNat) with code | code
    · rw [code]
      exact CaseRun.not_holds_move (staysOut_of_mem otherMoves moves) member
    · rw [code]
      exact not_holds_zero otherMoves
  · rw [alone]
    rcases List.mem_cons.1 otherMoves with rfl | moves
    · rw [Bool.eq_false_iff]
      intro dotted
      obtain ⟨from_first, to_last, _⟩ := CaseRun.holds_iff.1 dotted
      have code : c.toNat = 'İ'.toNat := Nat.le_antisymm to_last from_first
      exact undotted (Char.toNat_inj.1 code)
    · exact unheld other moves

theorem isLowered_of_mem_lowerChar {c lowered : Char} (member : lowered ∈ lowerChar c) :
    IsLowered lowered := by
  unfold lowerChar at member
  split at member
  · have parts : IsLowered 'i' ∧ IsLowered '\u0307' := by decide +kernel
    rw [List.mem_cons, List.mem_singleton] at member
    rcases member with rfl | rfl
    · exact parts.1
    · exact parts.2
  · rename_i undotted
    rw [List.mem_singleton] at member
    subst member
    exact isLowered_lowerShift undotted

theorem lowerChar_eq_self {c : Char} (lowered : IsLowered c) : lowerChar c = [c] := by
  rw [lowerChar, if_neg lowered.ne_dotted, lowered.lowerShift_eq]

/-! ### Texts in lower case -/

/-- Whatever form a sigma takes, each character of a lower-cased text is in lower case. -/
theorem isLowered_of_mem_lowerFrom {afterCased : Bool} {chars : List Char} {lowered : Char}
    (member : lowered ∈ lowerFrom afterCased chars) : IsLowered lowered := by
  induction chars generalizing afterCased with
  | nil => exact absurd member List.not_mem_nil
  | cons c rest ih =>
    rw [lowerFrom, List.mem_append] at member
    rcases member with here | later
    · split at here
      · have forms : IsLowered 'ς' ∧ IsLowered 'σ' := by decide +kernel
        split at here
        · rw [List.mem_singleton.1 here]
          exact forms.1
        · rw [List.mem_singleton.1 here]
          exact forms.2
      · exact isLowered_of_mem_lowerChar here
    · exact ih later

/-- Lower-casing keeps a text in lower case as it is, for it has no capital sigma to rewrite. -/
theorem lowerFrom_eq_self {afterCased : Bool} {chars : List Char}
    (lowered : ∀ c ∈ chars, IsLowered c) : lowerFrom afterCased chars = chars := by
  induction chars generalizing afterCased with
  | nil => rfl
  | cons c rest ih =>
    have first : IsLowered c := lowered c List.mem_cons_self
    have others : ∀ other ∈ rest, IsLowered other :=
      fun other member => lowered other (List.mem_cons_of_mem c member)
    rw [lowerFrom, if_neg first.ne_sigma, lowerChar_eq_self first, ih others]
    rfl

/-- Lower-casing is idempotent. -/
@[simp] theorem lower_lower (text : String) : lower (lower text) = lower text := by
  unfold lower
  rw [String.toList_ofList, lowerFrom_eq_self]
  intro c member
  exact isLowered_of_mem_lowerFrom member

theorem lowerChar_ne_nil (c : Char) : lowerChar c ≠ [] := by
  unfold lowerChar
  split <;> exact List.cons_ne_nil _ _

theorem lowerFrom_eq_nil_iff {afterCased : Bool} {chars : List Char} :
    lowerFrom afterCased chars = [] ↔ chars = [] := by
  constructor
  · intro empty
    cases chars with
    | nil => rfl
    | cons c rest =>
      rw [lowerFrom, List.append_eq_nil_iff] at empty
      have here := empty.1
      split at here
      · split at here <;> exact absurd here (List.cons_ne_nil _ _)
      · exact absurd here (lowerChar_ne_nil c)
  · rintro rfl
    rfl

/-- Lower-casing empties no text. -/
@[simp] theorem lower_eq_empty_iff {text : String} : lower text = "" ↔ text = "" := by
  rw [lower, ← String.toList_eq_nil_iff, String.toList_ofList, lowerFrom_eq_nil_iff,
    String.toList_eq_nil_iff]

end TraceFilter.Text
