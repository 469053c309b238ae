import KeywordFilter.KeywordSet
import KeywordFilter.Settings
import KeywordFilter.Unicode.Identifier

/-!
# Keywords

Words are compared in folded form: lower-cased, and spelled in ASCII where accents are ignored. A
suite may declare the keywords that it knows; such a vocabulary holds folded words.
-/

set_option autoImplicit false

namespace KeywordFilter

namespace Keyword

/-- The folded form of a word. The ASCII spelling is not lower-cased again. -/
def foldChars (settings : FullSettings) (word : List Char) : List Char :=
  if settings.ignoreAccents then Unicode.transliterate settings.spellings (Unicode.lower word)
  else Unicode.lower word

def fold (settings : FullSettings) (word : String) : String :=
  String.ofList (foldChars settings word.toList)

/-- The keyword that an identifier names: its text without ignorable characters, folded. -/
def ofIdentifier (settings : FullSettings) (text : List Char) : String :=
  String.ofList (foldChars settings (text.filter (!Unicode.isIgnorable ·)))

def foldSet (settings : FullSettings) (words : List String) : KeywordSet :=
  KeywordSet.ofList (words.map (fold settings))

end Keyword

/-- The keywords that may be used, in folded form; `none` admits every keyword. -/
abbrev Vocabulary := Option KeywordSet

namespace Vocabulary

def ofWords (settings : FullSettings) (words : Option (List String)) : Vocabulary :=
  words.map (Keyword.foldSet settings)

def allows (vocabulary : Vocabulary) (keyword : String) : Bool :=
  vocabulary.all fun known => decide (keyword ∈ known)

end Vocabulary

end KeywordFilter
