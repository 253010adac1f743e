/-
Module: TraceFilter.Text.Blank
Purpose: The two classes of blank characters and the removal of blanks around a text.
Main exports: Text.isWhiteSpace, Text.isBlank, Text.trim
-/
import TraceFilter.Text.CodeRange

namespace TraceFilter.Text

/-- The characters with the Unicode property `White_Space`. -/
def whiteSpaceRanges : List CodeRange := [
    ⟨0x09, 0x0d⟩, ⟨0x20, 0x20⟩, ⟨0x85, 0x85⟩, ⟨0xa0, 0xa0⟩, ⟨0x1680, 0x1680⟩,
    ⟨0x2000, 0x200a⟩, ⟨0x2028, 0x2029⟩, ⟨0x202f, 0x202f⟩, ⟨0x205f, 0x205f⟩, ⟨0x3000, 0x3000⟩]

/-- The four information separators, which count as blank around a name but not around a number. -/
def separatorRange : CodeRange := ⟨0x1c, 0x1f⟩

/-- White space: what may surround a numeral. -/
def isWhiteSpace (c : Char) : Bool :=
  whiteSpaceRanges.any (CodeRange.holds c)

/-- Blank: white space and the information separators, what may surround a name. -/
def isBlank (c : Char) : Bool :=
  isWhiteSpace c || separatorRange.holds c

/-- Removes the characters of a class from the end of a text. -/
def trimEnd (cut : Char → Bool) (text : List Char) : List Char :=
  (text.reverse.dropWhile cut).reverse

/-- Removes the characters of a class from both ends of a text. -/
def trim (cut : Char → Bool) (text : List Char) : List Char :=
  trimEnd cut (text.dropWhile cut)

theorem isBlank_of_isWhiteSpace {c : Char} (h : isWhiteSpace c = true) : isBlank c = true := by
  simp [isBlank, h]

theorem isBlank_iff {c : Char} :
    isBlank c = true ↔ ∃ range ∈ separatorRange :: whiteSpaceRanges, range.holds c = true := by
  simp [isBlank, isWhiteSpace, or_comm]

end TraceFilter.Text
