import KeywordFilter.Text.Words
import KeywordFilter.Unicode.Lowercase
import KeywordFilter.Unicode.Transliteration

/-!
# Settings

What a keyword may look like, and when two keywords count as the same one.
-/

set_option autoImplicit false

namespace KeywordFilter

/-- The switches of an environment, all of them off by default: whether the keywords of an expression
may start with a decimal digit, and whether keywords are compared by their ASCII spelling. -/
structure Settings where
  numericKeywords : Bool := false
  ignoreAccents : Bool := false
  deriving DecidableEq, Repr

/-- Settings with the table of spellings that they go by, the excerpt unless another one is named. -/
structure FullSettings extends Settings where
  spellings : Unicode.Spellings := .excerpt
  deriving DecidableEq, Repr

-- the switches say nothing of the table
instance : Coe Settings FullSettings where
  coe settings := { settings with spellings := .excerpt }

namespace Settings

def isOn (value : String) : Bool :=
  ["1", "true", "yes", "on"].contains (String.ofList (Unicode.lower (Text.trim value.toList)))

/-- The settings that an environment gives; a variable that is not set is off. -/
def ofEnvironment (environment : String → Option String) : Settings where
  numericKeywords := (environment "KWFILTER_ALLOW_NUMERIC_KEYWORDS").any isOn
  ignoreAccents := (environment "KWFILTER_IGNORE_ACCENT").any isOn

end Settings

end KeywordFilter
