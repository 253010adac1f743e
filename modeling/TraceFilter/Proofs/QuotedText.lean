/-
Module: TraceFilter.Proofs.QuotedText
Purpose: A quoted text holds printable characters alone, and a reader that goes through a line once
  finds the texts that were quoted in it, whatever marks, backslashes and controls they hold.
Main exports: Text.isPrintable_of_mem_quotedChars, Text.lineBreaks, Text.Reading, Text.readTexts,
  Text.readTexts_escapeChar, Text.readTexts_quotedChars, Text.quotedTexts
-/
import Mathlib.Tactic.Ring
import TraceFilter.Text.Quoted

namespace TraceFilter.Text

/-! ### What a quoted text consists of -/

theorem isPrintable_of_ascii {c : Char} (above : 0x20 ≤ c.toNat) (below : c.toNat ≤ 0x7e) :
    isPrintable c = true :=
  List.any_eq_true.2 ⟨⟨0x20, 0x7e⟩, List.mem_cons_self, CodeRange.holds_iff.2 ⟨above, below⟩⟩

theorem isPrintable_hexDigit {n : Nat} (below : n < 16) : isPrintable (hexDigit n) = true := by
  have ascii : ∀ n < 16, 0x20 ≤ (hexDigit n).toNat ∧ (hexDigit n).toNat ≤ 0x7e := by decide
  exact isPrintable_of_ascii (ascii n below).1 (ascii n below).2

theorem isPrintable_of_mem_hexDigits {width n : Nat} {c : Char} (mem : c ∈ hexDigits width n) :
    isPrintable c = true := by
  induction width generalizing n with
  | zero => cases mem
  | succ width ih =>
    rcases List.mem_append.1 mem with front | last
    · exact ih front
    · rw [List.mem_singleton.1 last]
      exact isPrintable_hexDigit (Nat.mod_lt _ (by decide))

theorem isPrintable_of_mem_escapeCode {code : Nat} {c : Char} (mem : c ∈ escapeCode code) :
    isPrintable c = true := by
  unfold escapeCode at mem
  split_ifs at mem <;>
  · simp only [List.mem_cons] at mem
    rcases mem with rfl | rfl | digit
    · exact isPrintable_of_ascii (by decide) (by decide)
    · exact isPrintable_of_ascii (by decide) (by decide)
    · exact isPrintable_of_mem_hexDigits digit

theorem toNat_lt (c : Char) : c.toNat < 0x110000 := by
  rcases c.valid with low | high
  · exact Nat.lt_trans low (by decide)
  · exact high.2

/-- The marks that a quoted text can stand in. -/
def IsMark (mark : Char) : Prop := mark = '\'' ∨ mark = '"'

instance (mark : Char) : Decidable (IsMark mark) :=
  inferInstanceAs (Decidable (mark = '\'' ∨ mark = '"'))

theorem isMark_quoteMark (text : List Char) : IsMark (quoteMark text) := by
  unfold quoteMark
  split
  · exact .inr rfl
  · exact .inl rfl

theorem IsMark.isPrintable {mark : Char} (isMark : IsMark mark) : isPrintable mark = true := by
  rcases isMark with rfl | rfl <;> exact isPrintable_of_ascii (by decide) (by decide)

theorem IsMark.ne_backslash {mark : Char} (isMark : IsMark mark) : '\\' ≠ mark := by
  rcases isMark with rfl | rfl <;> decide

/-- The characters that an escape consists of, but for a mark and the digits of a number. -/
theorem isPrintable_of_mem_escape {letters : List Char} {letter : Char}
    (listed : letters ⊆ ['\\', 'n', 'r', 't']) (mem : letter ∈ letters) :
    isPrintable letter = true := by
  have all : ['\\', 'n', 'r', 't'].all isPrintable = true := by decide +kernel
  exact List.all_eq_true.1 all letter (listed mem)

theorem isPrintable_of_mem_escapeChar {mark c shown : Char} (isMark : IsMark mark)
    (mem : shown ∈ escapeChar mark c) : isPrintable shown = true := by
  unfold escapeChar at mem
  split_ifs at mem with escaped newline carriage tab printable
  · have backslash : isPrintable '\\' = true :=
      isPrintable_of_mem_escape (List.Subset.refl _) List.mem_cons_self
    rcases List.mem_cons.1 mem with rfl | same
    · exact backslash
    · rw [List.mem_singleton.1 same]
      rcases escaped with rfl | rfl
      · exact isMark.isPrintable
      · exact backslash
  · exact isPrintable_of_mem_escape (by simp) mem
  · exact isPrintable_of_mem_escape (by simp) mem
  · exact isPrintable_of_mem_escape (by simp) mem
  · rw [List.mem_singleton.1 mem]
    exact printable
  · exact isPrintable_of_mem_escapeCode mem

/-- Nothing but printable characters stands in a quoted text. -/
theorem isPrintable_of_mem_quotedChars {text : List Char} {c : Char} (mem : c ∈ quotedChars text) :
    isPrintable c = true := by
  have isMark := isMark_quoteMark text
  simp only [quotedChars, List.cons_append, List.mem_cons, List.mem_append, List.mem_flatMap,
    List.not_mem_nil, or_false] at mem
  rcases mem with rfl | ⟨original, _, shown⟩ | rfl
  · exact isMark.isPrintable
  · exact isPrintable_of_mem_escapeChar isMark shown
  · exact isMark.isPrintable

/-- The characters that end a line. -/
def lineBreaks : List Char :=
  ['\n', '\x0b', '\x0c', '\r', '\x1c', '\x1d', '\x1e', '\x85', '\u2028', '\u2029']

theorem not_mem_lineBreaks_of_isPrintable {c : Char} (printable : isPrintable c = true) :
    c ∉ lineBreaks := by
  have all : lineBreaks.all (fun c => !isPrintable c) = true := by decide +kernel
  intro mem
  have unprintable := List.all_eq_true.1 all c mem
  rw [printable] at unprintable
  cases unprintable

/-! ### Reading quoted texts -/

/-- Where the reader of a line is: outside of quoted texts, or inside of one with what it read of it
so far, there perhaps behind a backslash or within the digits of a number, with how many of them are
left. -/
inductive Reading where
  | outside
  | inside (mark : Char) (text : List Char)
  | escaped (mark : Char) (text : List Char)
  | coded (mark : Char) (text : List Char) (left code : Nat)
deriving DecidableEq, Repr, Inhabited

/-- The character that one character behind a backslash stands for, unless it announces a number. -/
def escapedChar? (c : Char) : Option Char :=
  if c = 'n' then some '\n'
  else if c = 'r' then some '\r'
  else if c = 't' then some '\t'
  else if c = 'x' ∨ c = 'u' ∨ c = 'U' then none
  else some c

/-- How many digits the number has that a character announces. -/
def codeWidth (c : Char) : Nat :=
  if c = 'x' then 2 else if c = 'u' then 4 else 8

/-- The number of a lower-case hexadecimal digit. -/
def hexValue (c : Char) : Nat :=
  if c.isDigit then c.toNat - '0'.toNat else c.toNat - 'a'.toNat + 10

/-- Reads the quoted texts of a line, in order. -/
def readTexts : Reading → List Char → List (List Char)
  | _, [] => []
  | .outside, c :: rest => readTexts (if IsMark c then .inside c [] else .outside) rest
  | .inside mark text, c :: rest =>
    if c = mark then text :: readTexts .outside rest
    else readTexts (if c = '\\' then .escaped mark text else .inside mark (text ++ [c])) rest
  | .escaped mark text, c :: rest =>
    match escapedChar? c with
    | some plain => readTexts (.inside mark (text ++ [plain])) rest
    | none => readTexts (.coded mark text (codeWidth c) 0) rest
  | .coded mark text left code, c :: rest =>
    let code := 16 * code + hexValue c
    readTexts (if left = 1 then .inside mark (text ++ [Char.ofNat code])
      else .coded mark text (left - 1) code) rest

/-- The quoted texts of a line. -/
def quotedTexts (line : String) : List String :=
  (readTexts .outside line.toList).map String.ofList

/-! ### Reading one character back -/

section Inside

variable {mark : Char} {text rest : List Char}

theorem hexValue_hexDigit {n : Nat} (below : n < 16) : hexValue (hexDigit n) = n := by
  have all : ∀ n < 16, hexValue (hexDigit n) = n := by decide
  exact all n below

/-- Some digits of a number are read as its remainder, before as many more as are left. -/
theorem readTexts_hexDigits {width n left code : Nat} (more : 0 < left) :
    readTexts (.coded mark text (width + left) code) (hexDigits width n ++ rest) =
      readTexts (.coded mark text left (16 ^ width * code + n % 16 ^ width)) rest := by
  induction width generalizing n left code rest with
  | zero => simp [hexDigits, Nat.mod_one]
  | succ width ih =>
    have several : left + 1 ≠ 1 := by omega
    have value : 16 * (16 ^ width * code + n / 16 % 16 ^ width) + n % 16 =
        16 ^ (width + 1) * code + n % 16 ^ (width + 1) := by
      rw [pow_succ', Nat.mod_mul]
      ring
    rw [hexDigits, List.append_assoc, Nat.add_right_comm, Nat.add_assoc,
      ih (Nat.succ_pos left), List.singleton_append, readTexts, if_neg several,
      hexValue_hexDigit (Nat.mod_lt _ (by decide)), value]
    rfl

/-- A number that its digits have room for is read as its character. -/
theorem readTexts_code {width : Nat} {c : Char} (room : c.toNat < 16 ^ (width + 1)) :
    readTexts (.coded mark text (width + 1) 0) (hexDigits (width + 1) c.toNat ++ rest) =
      readTexts (.inside mark (text ++ [c])) rest := by
  have value : 16 * (16 ^ width * 0 + c.toNat / 16 % 16 ^ width) + c.toNat % 16 = c.toNat := by
    rw [pow_succ] at room
    rw [Nat.mod_eq_of_lt (Nat.div_lt_of_lt_mul (by omega))]
    omega
  rw [hexDigits, List.append_assoc, readTexts_hexDigits Nat.one_pos, List.singleton_append,
    readTexts, if_pos rfl, hexValue_hexDigit (Nat.mod_lt _ (by decide)), value, Char.ofNat_toNat]

theorem readTexts_backslash (isMark : IsMark mark) :
    readTexts (.inside mark text) ('\\' :: rest) = readTexts (.escaped mark text) rest := by
  rw [readTexts, if_neg isMark.ne_backslash, if_pos rfl]

theorem readTexts_escaped {c plain : Char} (stands : escapedChar? c = some plain) :
    readTexts (.escaped mark text) (c :: rest) =
      readTexts (.inside mark (text ++ [plain])) rest := by
  rw [readTexts, stands]

theorem readTexts_announced {c : Char} (announces : escapedChar? c = none) :
    readTexts (.escaped mark text) (c :: rest) =
      readTexts (.coded mark text (codeWidth c) 0) rest := by
  rw [readTexts, announces]

/-- A character is read from its number behind the letter that announces as many digits. -/
theorem readTexts_announcedCode (isMark : IsMark mark) {announced c : Char} {width : Nat}
    (announces : escapedChar? announced = none) (wide : codeWidth announced = width + 1)
    (room : c.toNat < 16 ^ (width + 1)) :
    readTexts (.inside mark text)
        ('\\' :: announced :: hexDigits (width + 1) c.toNat ++ rest) =
      readTexts (.inside mark (text ++ [c])) rest := by
  rw [List.cons_append, List.cons_append, readTexts_backslash isMark,
    readTexts_announced announces, wide]
  exact readTexts_code room

/-- A character is read from the one that stands for it behind a backslash. -/
theorem readTexts_letter (isMark : IsMark mark) {letter c : Char}
    (stands : escapedChar? letter = some c) :
    readTexts (.inside mark text) (['\\', letter] ++ rest) =
      readTexts (.inside mark (text ++ [c])) rest := by
  rw [List.cons_append, List.singleton_append, readTexts_backslash isMark,
    readTexts_escaped stands]

theorem readTexts_escapeCode (isMark : IsMark mark) (c : Char) :
    readTexts (.inside mark text) (escapeCode c.toNat ++ rest) =
      readTexts (.inside mark (text ++ [c])) rest := by
  unfold escapeCode
  split_ifs with short medium
  · exact readTexts_announcedCode isMark rfl rfl short
  · exact readTexts_announcedCode isMark rfl rfl medium
  · exact readTexts_announcedCode isMark rfl rfl (Nat.lt_trans (toNat_lt c) (by decide))

/-- Whatever form a character takes inside of marks, it is read back from it. -/
theorem readTexts_escapeChar (isMark : IsMark mark) (c : Char) :
    readTexts (.inside mark text) (escapeChar mark c ++ rest) =
      readTexts (.inside mark (text ++ [c])) rest := by
  unfold escapeChar
  split_ifs with escaped newline carriage tab printable
  · have stands : escapedChar? c = some c := by
      rcases escaped with rfl | rfl
      · rcases isMark with rfl | rfl <;> rfl
      · rfl
    exact readTexts_letter isMark stands
  · rw [newline]
    exact readTexts_letter isMark rfl
  · rw [carriage]
    exact readTexts_letter isMark rfl
  · rw [tab]
    exact readTexts_letter isMark rfl
  · rw [not_or] at escaped
    rw [List.singleton_append, readTexts, if_neg escaped.1, if_neg escaped.2]
  · exact readTexts_escapeCode isMark c

/-- The characters between two marks are read up to the second mark. -/
theorem readTexts_flatMap_escapeChar (isMark : IsMark mark) (characters : List Char) :
    readTexts (.inside mark text) (characters.flatMap (escapeChar mark) ++ mark :: rest) =
      (text ++ characters) :: readTexts .outside rest := by
  induction characters generalizing text with
  | nil => rw [List.flatMap_nil, List.nil_append, readTexts, if_pos rfl, List.append_nil]
  | cons c characters ih =>
    rw [List.flatMap_cons, List.append_assoc, readTexts_escapeChar isMark, ih, List.append_assoc,
      List.singleton_append]

end Inside

/-! ### Reading texts back -/

/-- A quoted text is read back, whatever follows it. -/
theorem readTexts_quotedChars (text rest : List Char) :
    readTexts .outside (quotedChars text ++ rest) = text :: readTexts .outside rest := by
  have isMark := isMark_quoteMark text
  rw [quotedChars, List.append_assoc, List.cons_append, readTexts, if_pos isMark,
    List.singleton_append, readTexts_flatMap_escapeChar isMark, List.nil_append]

/-- What holds no mark is passed over. -/
theorem readTexts_append_of_unmarked {between rest : List Char}
    (unmarked : ∀ c ∈ between, ¬ IsMark c) :
    readTexts .outside (between ++ rest) = readTexts .outside rest := by
  induction between with
  | nil => rfl
  | cons c between ih =>
    obtain ⟨plain, further⟩ := List.forall_mem_cons.1 unmarked
    rw [List.cons_append, readTexts, if_neg plain, ih further]

example : quotedTexts "'a': \"it's\", '\\x00\\'\\\"'" = ["a", "it's", "\x00'\""] := by cbv

end TraceFilter.Text
