import KeywordFilter.Text.Decimal
import KeywordFilter.Text.Quoted

/-! # Why a filter cannot be built -/

set_option autoImplicit false

namespace KeywordFilter

/-- Why a filter cannot be built. The token of a malformed expression is what stands at the
position, and empty at the end of the text. -/
inductive FilterError where
  | emptyExpression
  | emptyList
  | unknownKeyword (keyword : String)
  | malformed (text : String) (position : Nat) (token : String)
  | unknownMode (mode : String)
  deriving DecidableEq, Repr

def FilterError.message : FilterError → String
  | emptyExpression => "no keyword expression given"
  | emptyList => "no keywords given"
  | unknownKeyword keyword => "invalid keyword: " ++ keyword
  | malformed text position token =>
    "bad keyword expression " ++ Text.quote text ++ ": unexpected "
      ++ (if token = "" then "end of expression" else Text.quote token)
      ++ " at position " ++ Text.decimal position
  | unknownMode mode => "unknown keyword match mode: " ++ Text.quote mode

end KeywordFilter
