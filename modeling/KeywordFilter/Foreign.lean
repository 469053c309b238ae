import KeywordFilter.Text.Decimal
import KeywordFilter.Text.Quoted
import KeywordFilter.Tree.Evaluation
import KeywordFilter.Tree.Normalization
import KeywordFilter.Tree.Rendering

/-!
# Foreign leaves

The plain values that a tree from outside may hold in place of a condition, how they are shown, and
what is said when one of them is in the way.
-/

set_option autoImplicit false

namespace KeywordFilter

/-- A plain value that is no condition. -/
inductive Foreign where
  | text (content : String)
  | null
  | integer (value : Int)
  deriving DecidableEq, Repr

namespace Foreign

def display : Foreign → String
  | .text content => content
  | .null => "None"
  | .integer value => Text.signedDecimal value

/-- The value in a message; only a text differs from its display. -/
def quoted : Foreign → String
  | .text content => Text.quote content
  | value => value.display

def kindName : Foreign → String
  | .text _ => "str"
  | .null => "NoneType"
  | .integer _ => "int"

end Foreign

def Tree.kindName : Tree Foreign → String
  | .literal _ => "Literal"
  | .not _ => "Not"
  | .group _ => "Group"
  | .binary .and _ _ => "And"
  | .binary .or _ _ => "Or"
  | .listed .all _ _ => "MatchAllOf"
  | .listed .any _ _ => "MatchAnyOf"
  | .foreign value => value.kindName

def EvaluationError.message : EvaluationError Foreign → String
  | .foreign value => "not a keyword predicate: " ++ value.quoted
  | .noResult => "no result"

def Tree.NormalizationError.message : Tree.NormalizationError Foreign → String
  | .notBinary tree => "'" ++ tree.kindName ++ "' object has no attribute 'left'"
  | .foreignOperand value => "'" ++ value.kindName ++ "' object has no attribute 'precedence'"

end KeywordFilter
