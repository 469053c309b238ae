import KeywordFilter.Unicode.Category

/-!
# Identifiers

A keyword in an expression is an identifier: a start character and then part characters. Ignorable
characters may stand inside an identifier, never at its start, and are no part of the keyword that
it names.
-/

set_option autoImplicit false

namespace KeywordFilter.Unicode

/-- Control characters other than the blanks of ASCII. U+0085 is a blank too. -/
def control : CharClass := [⟨0x0, 0x8⟩, ⟨0xE, 0x1B⟩, ⟨0x7F, 0x9F⟩]

/-- Characters that an identifier may hold and that its keyword leaves out. -/
def isIgnorable (c : Char) : Bool :=
  control.contains c || format.contains c

/-- Whether an identifier may start with the character; `digits` admits decimal digits. -/
def isIdentifierStart (digits : Bool) (c : Char) : Bool :=
  letter.contains c || digits && decimalDigit.contains c

def isIdentifierPart (c : Char) : Bool :=
  letter.contains c || decimalDigit.contains c || mark.contains c || isIgnorable c

def IsIdentifier (digits : Bool) : List Char → Prop
  | [] => False
  | c :: rest => isIdentifierStart digits c = true ∧ ∀ d ∈ rest, isIdentifierPart d = true

instance (digits : Bool) (text : List Char) : Decidable (IsIdentifier digits text) :=
  match text with
  | [] => inferInstanceAs (Decidable False)
  | c :: rest => inferInstanceAs
      (Decidable (isIdentifierStart digits c = true ∧ ∀ d ∈ rest, isIdentifierPart d = true))

end KeywordFilter.Unicode
