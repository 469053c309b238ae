import KeywordFilter.Keyword
import KeywordFilter.Tree.Basic

/-!
# Tokens of an expression

An expression is made of keywords, the operators `&`, `|` and `!`, and parentheses, with spaces and
tabs between them where the author likes. A keyword is the longest identifier at its place. Scanning
stops at the end of the text or at the first character that starts no token.
-/

set_option autoImplicit false

namespace KeywordFilter

/-- A token; a keyword is in folded form. -/
inductive Token where
  | keyword (value : String)
  | connective (op : Connective)
  | not
  | opening
  | closing
  deriving DecidableEq, Repr

def Token.ofSymbol? (c : Char) : Option Token :=
  if c = '&' then some (.connective .and)
  else if c = '|' then some (.connective .or)
  else if c = '!' then some .not
  else if c = '(' then some .opening
  else if c = ')' then some .closing
  else none

/-- A token with the characters that it covers and the number of characters before them. -/
structure Lexeme where
  token : Token
  source : List Char
  position : Nat
  deriving DecidableEq, Repr

/-- Why scanning ends: the text is over, or a character starts no token. -/
inductive Stop where
  | finish
  | unreadable (c : Char)
  deriving DecidableEq, Repr

def Stop.source : Stop → List Char
  | finish => []
  | unreadable c => [c]

/-- The tokens of a text, up to the place where scanning ends. -/
structure Scan where
  lexemes : List Lexeme
  stop : Stop
  position : Nat
  deriving DecidableEq, Repr

namespace Scan

def cons (lexeme : Lexeme) (scan : Scan) : Scan :=
  { scan with lexemes := lexeme :: scan.lexemes }

def isSpacing (c : Char) : Bool :=
  c = ' ' || c = '\t'

def tokens (scan : Scan) : List Token :=
  scan.lexemes.map (·.token)

@[simp] theorem tokens_cons (lexeme : Lexeme) (scan : Scan) :
    (scan.cons lexeme).tokens = lexeme.token :: scan.tokens := rfl

@[simp] theorem stop_cons (lexeme : Lexeme) (scan : Scan) :
    (scan.cons lexeme).stop = scan.stop := rfl

/-- Scans what follows the first `position` characters of a text. -/
def scanFrom (settings : FullSettings) (position : Nat) : List Char → Scan
  | [] => ⟨[], .finish, position⟩
  | c :: rest =>
    if isSpacing c then scanFrom settings (position + 1) rest
    else
      match Token.ofSymbol? c with
      | some token => (scanFrom settings (position + 1) rest).cons ⟨token, [c], position⟩
      | none =>
        if Unicode.isIdentifierStart settings.numericKeywords c then
          let source := c :: rest.takeWhile Unicode.isIdentifierPart
          let others := rest.dropWhile Unicode.isIdentifierPart
          (scanFrom settings (position + source.length) others).cons
            ⟨.keyword (Keyword.ofIdentifier settings source), source, position⟩
        else ⟨[], .unreadable c, position⟩
termination_by text => text.length
decreasing_by
  · simp
  · simp
  · have hRest := (List.dropWhile_suffix Unicode.isIdentifierPart (l := rest)).length_le
    rw [List.length_cons]
    omega

def ofText (settings : FullSettings) (text : String) : Scan :=
  scanFrom settings 0 text.toList

section
variable {settings : FullSettings} {c : Char}

theorem scanFrom_nil (position : Nat) :
    scanFrom settings position [] = ⟨[], .finish, position⟩ := by
  rw [scanFrom]

theorem scanFrom_spacing (hSpacing : isSpacing c = true) (position : Nat) (rest : List Char) :
    scanFrom settings position (c :: rest) = scanFrom settings (position + 1) rest := by
  rw [scanFrom, if_pos hSpacing]

theorem scanFrom_symbol {token : Token} (hSpacing : ¬ isSpacing c = true)
    (hToken : Token.ofSymbol? c = some token) (position : Nat) (rest : List Char) :
    scanFrom settings position (c :: rest) =
      (scanFrom settings (position + 1) rest).cons ⟨token, [c], position⟩ := by
  rw [scanFrom, if_neg hSpacing]
  simp only [hToken]

theorem scanFrom_identifier (hSpacing : ¬ isSpacing c = true) (hToken : Token.ofSymbol? c = none)
    (hStart : Unicode.isIdentifierStart settings.numericKeywords c = true) (position : Nat)
    (rest : List Char) :
    scanFrom settings position (c :: rest) =
      (scanFrom settings (position + (c :: rest.takeWhile Unicode.isIdentifierPart).length)
        (rest.dropWhile Unicode.isIdentifierPart)).cons
          ⟨.keyword (Keyword.ofIdentifier settings (c :: rest.takeWhile Unicode.isIdentifierPart)),
            c :: rest.takeWhile Unicode.isIdentifierPart, position⟩ := by
  rw [scanFrom, if_neg hSpacing]
  simp only [hToken, hStart, if_true]

theorem scanFrom_unreadable (hSpacing : ¬ isSpacing c = true) (hToken : Token.ofSymbol? c = none)
    (hStart : ¬ Unicode.isIdentifierStart settings.numericKeywords c = true) (position : Nat)
    (rest : List Char) :
    scanFrom settings position (c :: rest) = ⟨[], .unreadable c, position⟩ := by
  rw [scanFrom, if_neg hSpacing]
  simp only [hToken]
  rw [if_neg hStart]

end

theorem scanFrom_position (settings : FullSettings) (position other : Nat) (text : List Char) :
    (scanFrom settings position text).tokens = (scanFrom settings other text).tokens ∧
      (scanFrom settings position text).stop = (scanFrom settings other text).stop := by
  fun_induction scanFrom settings position text generalizing other with
  | case1 => simp [scanFrom, tokens]
  | case2 position c rest hSpacing ih =>
    rw [scanFrom_spacing hSpacing]
    exact ih (other + 1)
  | case3 position c rest hSpacing token hToken ih =>
    obtain ⟨hTokens, hStop⟩ := ih (other + 1)
    rw [scanFrom_symbol hSpacing hToken, tokens_cons, tokens_cons, hTokens]
    exact ⟨rfl, hStop⟩
  | case4 position c rest hSpacing hToken hStart source others ih =>
    obtain ⟨hTokens, hStop⟩ := ih (other + source.length)
    rw [scanFrom_identifier hSpacing hToken hStart, tokens_cons, tokens_cons, hTokens]
    exact ⟨rfl, hStop⟩
  | case5 position c rest hSpacing hToken hStart =>
    rw [scanFrom_unreadable hSpacing hToken hStart]
    exact ⟨rfl, rfl⟩

end Scan

end KeywordFilter
