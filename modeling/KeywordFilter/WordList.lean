import KeywordFilter.FilterError
import KeywordFilter.Keyword
import KeywordFilter.Tree.Basic

/-!
# Conditions on a list of words

A list of words is the simple way to describe a condition: the set of keywords has to hold all of
the words, or any of them.
-/

set_option autoImplicit false

namespace KeywordFilter

namespace WordList

/-- The folded form of a word that the vocabulary has. An error names the word as it was listed. -/
def check (settings : FullSettings) (vocabulary : Vocabulary) (word : String) :
    Except FilterError String :=
  let keyword := Keyword.fold settings word
  if vocabulary.allows keyword then .ok keyword else .error (.unknownKeyword word)

def build (quantifier : Quantifier) (settings : FullSettings) (vocabulary : Option (List String))
    (words : List String) : Except FilterError Predicate :=
  if words.isEmpty then .error .emptyList
  else do
    let folded ← words.mapM (check settings (Vocabulary.ofWords settings vocabulary))
    pure (.listed quantifier (KeywordSet.ofList folded) folded)

end WordList

end KeywordFilter
