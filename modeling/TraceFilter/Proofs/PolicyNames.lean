/-
Module: TraceFilter.Proofs.PolicyNames
Purpose: The texts that a configuration may name a policy with: blanks around its name, and each
  letter of the name in either of its two ASCII cases, for no other letter is lower-cased to one of
  them.
Main exports: Text.trim_around, Text.IsPlain, Text.lowerFrom_eq_iff, EndTsPolicy.Spelled,
  Settings.readPolicy_text_eq_ok_iff
-/
import TraceFilter.Proofs.LowerCase
import TraceFilter.Settings.Basic
import TraceFilter.Text.Blank

namespace TraceFilter

namespace Text

/-! ### Blanks around a text -/

section Trimming

variable {cut : Char → Bool}

theorem dropWhile_eq_self {text : List Char} (kept : ∀ c ∈ text, cut c = false) :
    text.dropWhile cut = text := by
  cases text with
  | nil => rfl
  | cons c rest => simp [kept c List.mem_cons_self]

/-- Trimming cuts a part off each end. -/
theorem exists_around_trim (text : List Char) :
    ∃ before after, text = before ++ (trim cut text ++ after) ∧
      (∀ c ∈ before, cut c = true) ∧ ∀ c ∈ after, cut c = true := by
  refine ⟨text.takeWhile cut, ((text.dropWhile cut).reverse.takeWhile cut).reverse, ?_, ?_, ?_⟩
  · rw [trim, trimEnd, ← List.reverse_append, List.takeWhile_append_dropWhile, List.reverse_reverse,
      List.takeWhile_append_dropWhile]
  · exact List.all_eq_true.1 List.all_takeWhile
  · intro c member
    exact List.all_eq_true.1 List.all_takeWhile c (List.mem_reverse.1 member)

/-- Trimming gives back a text that holds nothing to cut, whatever was put around it. -/
theorem trim_around {before core after : List Char} (leading : ∀ c ∈ before, cut c = true)
    (kept : ∀ c ∈ core, cut c = false) (trailing : ∀ c ∈ after, cut c = true) :
    trim cut (before ++ (core ++ after)) = core := by
  have cutEnd : trimEnd cut (core ++ after) = core := by
    rw [trimEnd, List.reverse_append, List.dropWhile_append_of_pos, dropWhile_eq_self,
      List.reverse_reverse]
    · simpa using kept
    · simpa using trailing
  rw [trim, List.dropWhile_append_of_pos leading]
  cases core with
  | nil =>
    rw [List.nil_append, ← List.append_nil after, List.dropWhile_append_of_pos trailing]
    rfl
  | cons c rest =>
    have first : ¬ cut c = true := by simp [kept c List.mem_cons_self]
    rw [List.cons_append, List.dropWhile_cons_of_neg first, ← List.cons_append, cutEnd]

end Trimming

/-! ### Lower-casing onto ASCII letters -/

/-- An ASCII character that no character outside ASCII is lower-cased to. The letter k is not plain,
since it is the lower case of the Kelvin sign. -/
def IsPlain (c : Char) : Prop :=
  0 < c.toNat ∧ c.toNat < 0x80 ∧ c ≠ 'k'

instance (c : Char) : Decidable (IsPlain c) :=
  inferInstanceAs (Decidable (_ ∧ _))

theorem toNat_toLower (c : Char) :
    c.toLower.toNat = if 0x41 ≤ c.toNat ∧ c.toNat ≤ 0x5a then c.toNat + 0x20 else c.toNat := by
  have bounds : (c.val ≥ 'A'.val ∧ c.val ≤ 'Z'.val) ↔ 0x41 ≤ c.toNat ∧ c.toNat ≤ 0x5a := by
    simp only [ge_iff_le, UInt32.le_iff_toNat_le]
    rfl
  unfold Char.toLower
  by_cases capital : 0x41 ≤ c.toNat ∧ c.toNat ≤ 0x5a
  · rw [dif_pos (bounds.2 capital), if_pos capital]
    have fits : c.val.toNat + 0x20 < 2 ^ 32 := by
      have upper : c.val.toNat ≤ 0x5a := capital.2
      omega
    show (c.val + 0x20).toNat = c.val.toNat + 0x20
    rw [UInt32.toNat_add]
    exact Nat.mod_eq_of_lt fits
  · rw [dif_neg (fun h => capital (bounds.1 h)), if_neg capital]

/-- The run of the ASCII capitals. -/
def asciiRun : CaseRun := ⟨0x41, 0x5a, 1, 0x61⟩

/-- The run of the Kelvin sign. -/
def kelvinRun : CaseRun := ⟨0x212a, 0x212a, 1, 0x6b⟩

/-- Only the capitals of ASCII and the Kelvin sign move into ASCII. -/
theorem asciiRun_or_outside {run : CaseRun} (moves : run ∈ lowerRuns) :
    run = asciiRun ∨ 0x80 ≤ run.first ∧ (run = kelvinRun ∨ 0x80 ≤ run.target) := by
  have all : ∀ run ∈ lowerRuns,
      run = asciiRun ∨ 0x80 ≤ run.first ∧ (run = kelvinRun ∨ 0x80 ≤ run.target) := by
    decide +kernel
  exact all run moves

/-- Any other letter that is moved is outside ASCII, and is moved to k or to another one outside. -/
theorem not_isPlain_move {run : CaseRun} (moves : run ∈ lowerRuns) (foreign : run ≠ asciiRun)
    {code : Nat} (member : run.holds code = true) :
    0x80 ≤ code ∧ ¬ IsPlain (Char.ofNat (run.move code)) := by
  obtain ⟨from_first, to_last, _⟩ := CaseRun.holds_iff.1 member
  rcases asciiRun_or_outside moves with same | ⟨outside, target⟩
  · exact absurd same foreign
  · refine ⟨Nat.le_trans outside from_first, ?_⟩
    rintro ⟨positive, ascii, unlikeKelvin⟩
    rcases target with rfl | target
    · have only : code = 0x212a := Nat.le_antisymm to_last from_first
      rw [only] at unlikeKelvin
      exact unlikeKelvin rfl
    · rcases toNat_ofNat_cases (run.move code) with same | null
      · rw [same, CaseRun.move] at ascii
        omega
      · omega

/-- The table moves a letter to a plain character exactly if ASCII does. -/
theorem lowerShift_eq_iff {c d : Char} (plain : IsPlain d) : lowerShift c = d ↔ c.toLower = d := by
  have lowered := toNat_toLower c
  rcases lowerShift_cases c with ⟨run, moves, member, moved⟩ | ⟨unheld, alone⟩
  · rw [moved]
    by_cases capital : run = asciiRun
    · -- Both move an ASCII capital by the same distance.
      subst capital
      obtain ⟨from_first, to_last, _⟩ := CaseRun.holds_iff.1 member
      rw [if_pos ⟨from_first, to_last⟩] at lowered
      have distance : asciiRun.move c.toNat = c.toNat + 0x20 := by
        simp only [CaseRun.move, asciiRun] at from_first ⊢
        omega
      have same : Char.ofNat (asciiRun.move c.toNat) = c.toLower := by
        rw [distance, ← lowered, Char.ofNat_toNat]
      rw [same]
    · obtain ⟨outside, foreign⟩ := not_isPlain_move moves capital member
      rw [if_neg (by omega)] at lowered
      refine iff_of_false ?_ ?_
      · rintro rfl
        exact foreign plain
      · rintro rfl
        have ascii := plain.2.1
        omega
  · have small : ¬ (0x41 ≤ c.toNat ∧ c.toNat ≤ 0x5a) := by
      rintro ⟨from_first, to_last⟩
      have member : asciiRun.holds c.toNat = true :=
        CaseRun.holds_iff.2 ⟨from_first, to_last, Nat.mod_one _⟩
      exact Bool.eq_false_iff.1 (unheld asciiRun (by decide)) member
    rw [if_neg small] at lowered
    rw [alone, Char.toNat_inj.1 lowered]

/-- The two letters with a rule of their own, the capital sigma and the dotted capital I, become
something that is not plain, and ASCII leaves them as they are. -/
theorem exists_not_isPlain {c : Char} (special : c = 'Σ' ∨ c = 'İ') (afterCased : Bool)
    (rest : List Char) :
    (∃ d ∈ lowerFrom afterCased (c :: rest), ¬ IsPlain d) ∧ ¬ IsPlain c.toLower := by
  rcases special with rfl | rfl
  · have foreign : ¬ IsPlain 'ς' ∧ ¬ IsPlain 'σ' ∧ ¬ IsPlain 'Σ'.toLower := by decide
    refine ⟨?_, foreign.2.2⟩
    rw [lowerFrom, if_pos rfl]
    split
    · exact ⟨'ς', List.mem_cons_self, foreign.1⟩
    · exact ⟨'σ', List.mem_cons_self, foreign.2.1⟩
  · have foreign : ¬ IsPlain '\u0307' ∧ ¬ IsPlain 'İ'.toLower := by decide
    rw [lowerFrom, if_neg (by decide), lowerChar, if_pos rfl]
    exact ⟨⟨'\u0307', List.mem_cons_of_mem 'i' List.mem_cons_self, foreign.1⟩, foreign.2⟩

/-- A text is lower-cased to plain characters exactly if lower-casing its ASCII letters gives them:
neither the dotted capital I nor a sigma is among the letters of such a text. -/
theorem lowerFrom_eq_iff {afterCased : Bool} {chars name : List Char}
    (plain : ∀ d ∈ name, IsPlain d) :
    lowerFrom afterCased chars = name ↔ chars.map Char.toLower = name := by
  induction chars generalizing afterCased name with
  | nil => rfl
  | cons c rest ih =>
    by_cases special : c = 'Σ' ∨ c = 'İ'
    · obtain ⟨⟨d, member, foreign⟩, unlowered⟩ := exists_not_isPlain special afterCased rest
      refine iff_of_false ?_ ?_
      · rintro rfl
        exact foreign (plain d member)
      · rintro rfl
        exact unlowered (plain c.toLower List.mem_cons_self)
    · rw [not_or] at special
      rw [lowerFrom, if_neg special.1, lowerChar, if_neg special.2, List.map_cons]
      cases name with
      | nil => simp
      | cons d others =>
        simp only [List.cons_append, List.nil_append, List.cons.injEq]
        rw [lowerShift_eq_iff (plain d List.mem_cons_self),
          ih fun other member => plain other (List.mem_cons_of_mem d member)]

/-- A blank is no capital, so it is in lower case already. -/
theorem toLower_of_isBlank {c : Char} (blank : isBlank c = true) : c.toLower = c := by
  have apart : ∀ range ∈ separatorRange :: whiteSpaceRanges,
      range.last < 0x41 ∨ 0x5a < range.first := by decide
  obtain ⟨range, member, holds⟩ := isBlank_iff.1 blank
  obtain ⟨from_first, to_last⟩ := CodeRange.holds_iff.1 holds
  have lowered := toNat_toLower c
  rw [if_neg (by rcases apart range member with before | after <;> omega)] at lowered
  exact Char.toNat_inj.1 lowered

/-- Only an ASCII character has an ASCII character as its ASCII lower case. -/
theorem ascii_of_toLower {c : Char} (ascii : c.toLower.toNat < 0x80) : c.toNat < 0x80 := by
  rw [toNat_toLower] at ascii
  split at ascii <;> omega

end Text

/-! ### Names of policies -/

namespace EndTsPolicy

open Text

/-- A text names a policy: blanks around, and between them the name of the policy with each of its
letters in one of the two ASCII cases. -/
inductive Spelled (policy : EndTsPolicy) : String → Prop where
  | intro {before core after : List Char} (leading : ∀ c ∈ before, isBlank c = true)
      (named : core.map Char.toLower = policy.name.toList)
      (trailing : ∀ c ∈ after, isBlank c = true) :
      Spelled policy (String.ofList (before ++ (core ++ after)))

/-- The names are made of plain letters and of no blanks. -/
theorem plain_of_mem_name {policy : EndTsPolicy} :
    ∀ c ∈ policy.name.toList, IsPlain c ∧ isBlank c = false := by
  have all : policy.name.toList.all (fun c => decide (IsPlain c) && !isBlank c) = true := by
    cases policy <;> decide +kernel
  intro c member
  simpa using List.all_eq_true.1 all c member

theorem ofName?_eq_some_iff {name : String} {policy : EndTsPolicy} :
    ofName? name = some policy ↔ name = policy.name := by
  constructor
  · intro found
    unfold ofName? at found
    have same : (policy.name == name) = true := by
      simpa using List.find?_some found
    exact (eq_of_beq same).symm
  · rintro rfl
    cases policy <;> rfl

/-- No blank is a letter of a name, in whichever case. -/
theorem not_isBlank_of_named {policy : EndTsPolicy} {core : List Char}
    (named : core.map Char.toLower = policy.name.toList) : ∀ c ∈ core, isBlank c = false := by
  intro c member
  rw [Bool.eq_false_iff]
  intro blank
  have letter : c.toLower ∈ policy.name.toList := named ▸ List.mem_map_of_mem member
  rw [toLower_of_isBlank blank] at letter
  rw [(plain_of_mem_name c letter).2] at blank
  cases blank

/-- A text that names a policy has a letter of the name, which is no blank. -/
theorem Spelled.exists_visible {policy : EndTsPolicy} {content : String}
    (spelled : policy.Spelled content) : ∃ c ∈ content.toList, isBlank c = false := by
  cases spelled with
  | @intro before core after leading named trailing =>
    cases core with
    | nil => cases policy <;> cases named
    | cons c rest =>
      exact ⟨c, by simp, not_isBlank_of_named named c List.mem_cons_self⟩

/-- A text that names a policy has no character outside ASCII but for the blanks around the name. -/
theorem Spelled.ascii_or_blank {policy : EndTsPolicy} {content : String}
    (spelled : policy.Spelled content) :
    ∀ c ∈ content.toList, isBlank c = true ∨ c.toNat < 0x80 := by
  obtain ⟨leading, named, trailing⟩ := spelled
  intro c member
  rw [String.toList_ofList, List.mem_append, List.mem_append] at member
  rcases member with front | letter | back
  · exact .inl (leading c front)
  · have lowered : c.toLower ∈ policy.name.toList := named ▸ List.mem_map_of_mem letter
    exact .inr (ascii_of_toLower (plain_of_mem_name _ lowered).1.2.1)
  · exact .inl (trailing c back)

end EndTsPolicy

namespace Settings

open Text

/-- A text, trimmed and lower-cased, is the name of a policy exactly if it spells it. -/
theorem policyName_eq_iff {content : String} {policy : EndTsPolicy} :
    policyName content = policy.name ↔ policy.Spelled content := by
  rw [policyName, ← String.toList_inj, String.toList_ofList,
    lowerFrom_eq_iff fun c member => (EndTsPolicy.plain_of_mem_name c member).1]
  constructor
  · intro named
    obtain ⟨before, after, parts, leading, trailing⟩ := exists_around_trim content.toList
    rw [← String.ofList_toList (s := content), parts]
    exact .intro leading named trailing
  · rintro ⟨leading, named, trailing⟩
    rw [String.toList_ofList,
      trim_around leading (EndTsPolicy.not_isBlank_of_named named) trailing, named]

theorem readPolicy_text_eq_ok_iff {content : String} {policy : EndTsPolicy} :
    readPolicy (.text content) = .ok policy ↔ policy.Spelled content := by
  rw [← policyName_eq_iff, ← EndTsPolicy.ofName?_eq_some_iff]
  have named : (Value.text content).text?.bind (EndTsPolicy.ofName? ∘ policyName) =
      EndTsPolicy.ofName? (policyName content) := rfl
  rw [readPolicy, named]
  cases EndTsPolicy.ofName? (policyName content) <;> simp

end Settings

end TraceFilter
