/-
Module: TraceFilter.Text.LowerCase
Purpose: Full lower-casing of a text, one letter to several where Unicode says so, with the sigma
  that ends a word written in its final form.
Main exports: Text.lowerChar, Text.lowerFrom, Text.lower
-/
import TraceFilter.Text.CaseMap

namespace TraceFilter.Text

/-- The lower case of a letter that has one elsewhere in the code space. -/
def lowerShift (c : Char) : Char :=
  match lowerRuns.find? (CaseRun.holds c.toNat) with
  | some run => Char.ofNat (run.move c.toNat)
  | none => c

/-- The lower case of a character on its own. The dotted capital I is the one letter that becomes
two characters. -/
def lowerChar (c : Char) : List Char :=
  if c = 'İ' then ['i', '\u0307'] else [lowerShift c]

/-- Whether the next letter that counts, if there is one, has a case. -/
def startsCased : List Char → Bool
  | [] => false
  | c :: rest => if isCaseIgnorable c then startsCased rest else isCasedLetter c

/-- Lower-cases a text; `afterCased` says whether the last letter before it that counts has a
case. A capital sigma after such a letter and before none takes the final form. -/
def lowerFrom (afterCased : Bool) : List Char → List Char
  | [] => []
  | c :: rest =>
    let here :=
      if c = 'Σ' then (if afterCased && !startsCased rest then ['ς'] else ['σ']) else lowerChar c
    let afterNext := if isCaseIgnorable c then afterCased else isCasedLetter c
    here ++ lowerFrom afterNext rest

/-- The lower case of a text. -/
def lower (text : String) : String :=
  String.ofList (lowerFrom false text.toList)

end TraceFilter.Text
