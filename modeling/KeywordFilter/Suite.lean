import KeywordFilter.Filter

/-!
# Tests of a suite

A test is described by its keywords, as words of one text. A filter selects the tests whose folded
keywords it accepts.
-/

set_option autoImplicit false

namespace KeywordFilter

/-- A test that is known by an identity of type `ι`, with its keywords, if it has any. -/
structure TestCase (ι : Type) where
  id : ι
  keywords : Option String
  deriving DecidableEq, Repr

def TestCase.words {ι : Type} (test : TestCase ι) : List String :=
  Text.words (test.keywords.getD "")

/-- Whether a filter selects a test; without a filter every test is selected. -/
def selects {ι : Type} (filter : Option Filter) (test : TestCase ι) : Bool :=
  filter.all fun filter => filter.accepts (filter.foldKeywords test.words)

def selectTests {ι : Type} (filter : Option Filter) (tests : List (TestCase ι)) :
    List (TestCase ι) :=
  tests.filter (selects filter)

end KeywordFilter
