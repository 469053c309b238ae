import KeywordFilter.Unicode.CharClass

/-!
# Blank characters

The characters that separate words: the space separators, the line and paragraph separators, and
the control characters that Unicode counts as white space or as separators of information.
-/

set_option autoImplicit false

namespace KeywordFilter.Unicode

def blank : CharClass := [
  ⟨0x9, 0xD⟩, ⟨0x1C, 0x20⟩, ⟨0x85, 0x85⟩, ⟨0xA0, 0xA0⟩, ⟨0x1680, 0x1680⟩, ⟨0x2000, 0x200A⟩,
  ⟨0x2028, 0x2029⟩, ⟨0x202F, 0x202F⟩, ⟨0x205F, 0x205F⟩, ⟨0x3000, 0x3000⟩]

def isBlank (c : Char) : Bool :=
  blank.contains c

end KeywordFilter.Unicode
