import KeywordFilter.Expression.Reading
import KeywordFilter.FilterError

/-!
# From text to condition

The tokens of a text are read from left to right. Each goes to the grammar first and then, if it is
a keyword, to the vocabulary, so the leftmost problem is the one that is reported.
-/

set_option autoImplicit false

namespace KeywordFilter

namespace Expression

/-- Reads one more token of `text` and checks it against the vocabulary. -/
def advance (text : String) (vocabulary : Vocabulary) (reading : Reading) (lexeme : Lexeme) :
    Except FilterError Reading :=
  match reading.feed? lexeme.token with
  | none => .error (.malformed text lexeme.position (String.ofList lexeme.source))
  | some next =>
    match lexeme.token with
    | .keyword value => if vocabulary.allows value then .ok next else .error (.unknownKeyword value)
    | _ => .ok next

def ofScan (text : String) (vocabulary : Vocabulary) (scan : Scan) :
    Except FilterError Predicate := do
  let reading ← scan.lexemes.foldlM (advance text vocabulary) Reading.start
  match scan.stop, reading.result? with
  | .finish, some predicate => .ok predicate
  | stop, _ => .error (.malformed text scan.position (String.ofList stop.source))

/-- The condition that an expression describes. The words of the vocabulary are as declared, and
`none` admits every keyword. -/
def parse (settings : FullSettings) (vocabulary : Option (List String)) (text : Option String) :
    Except FilterError Predicate :=
  match text with
  | none => .error .emptyExpression
  | some text =>
    if Text.isBlankText text then .error .emptyExpression
    else ofScan text (Vocabulary.ofWords settings vocabulary) (Scan.ofText settings text)

end Expression

end KeywordFilter
