import Desugar.Text.IdentifierRanges

/-!
# Identifiers

An identifier is a nonempty text that starts with a letter of any script, `_` or `$`, and goes on
with letters, digits, marks, `_` or `$`.
-/

namespace Desugar.Text

/-- Whether a character can start an identifier. -/
def isIdentifierStart (c : Char) : Bool :=
  c == '_' || c == '$' || identifierStart.holds c

/-- Whether a character can stand in an identifier after its start. -/
def isIdentifierPart (c : Char) : Bool :=
  isIdentifierStart c || identifierContinue.holds c

/-- Whether the characters form an identifier. -/
def isIdentifierChars : List Char → Bool
  | [] => false
  | c :: cs => isIdentifierStart c && cs.all isIdentifierPart

/-- Whether the text is an identifier. -/
def isIdentifier (s : String) : Bool := isIdentifierChars s.toList

theorem isIdentifierPart_of_start {c : Char} (h : isIdentifierStart c = true) :
    isIdentifierPart c = true := by
  simp [isIdentifierPart, h]

/-- Every character of an identifier can stand in one. -/
theorem isIdentifierPart_of_mem {cs : List Char} (h : isIdentifierChars cs = true) {c : Char}
    (hc : c ∈ cs) : isIdentifierPart c = true := by
  cases cs with
  | nil => simp at hc
  | cons d ds =>
    simp only [isIdentifierChars, Bool.and_eq_true, List.all_eq_true] at h
    rcases List.mem_cons.1 hc with rfl | hc
    · exact isIdentifierPart_of_start h.1
    · exact h.2 c hc

end Desugar.Text
