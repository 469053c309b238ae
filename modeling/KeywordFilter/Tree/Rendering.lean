import KeywordFilter.Tree.Basic

/-!
# Text of a tree

Operators stand between their operands, and parentheses stand exactly where the tree has a group.
`Tree.render` works through a list of pieces, so that its depth does not grow with the tree.
-/

set_option autoImplicit false

namespace KeywordFilter

def Connective.text : Connective → String
  | .and => " & "
  | .or => " | "

def Quantifier.text : Quantifier → String
  | .all => "all of"
  | .any => "any of"

def Quantifier.listText (quantifier : Quantifier) (words : List String) : String :=
  quantifier.text ++ " (" ++ " ".intercalate words ++ ")"

namespace Tree

variable {α : Type}

/-- Something to write: a text as it is, or the text of a tree. -/
inductive Piece (α : Type) where
  | text (text : String)
  | tree (tree : Tree α)

/-- The number of rounds that a tree takes. -/
def renderCost : Tree α → Nat
  | literal _ => 1
  | not operand => operand.renderCost + 2
  | group operand => operand.renderCost + 3
  | binary _ left right => left.renderCost + right.renderCost + 2
  | listed .. => 1
  | foreign _ => 1

def Piece.cost : Piece α → Nat
  | .text _ => 1
  | .tree whole => whole.renderCost

def Piece.totalCost : List (Piece α) → Nat
  | [] => 0
  | piece :: pieces => piece.cost + totalCost pieces

/-- Writes the pieces behind `written`, from the first to the last. -/
def renderPieces (foreignText : α → String) : List (Piece α) → String → String
  | [], written => written
  | .text text :: rest, written => renderPieces foreignText rest (written ++ text)
  | .tree (literal keyword) :: rest, written => renderPieces foreignText rest (written ++ keyword)
  | .tree (not operand) :: rest, written =>
    renderPieces foreignText (.text "!" :: .tree operand :: rest) written
  | .tree (group operand) :: rest, written =>
    renderPieces foreignText (.text "(" :: .tree operand :: .text ")" :: rest) written
  | .tree (binary op left right) :: rest, written =>
    renderPieces foreignText (.tree left :: .text op.text :: .tree right :: rest) written
  | .tree (listed quantifier _ shown) :: rest, written =>
    renderPieces foreignText rest (written ++ quantifier.listText shown)
  | .tree (foreign value) :: rest, written =>
    renderPieces foreignText rest (written ++ foreignText value)
termination_by pieces => Piece.totalCost pieces
decreasing_by all_goals simp only [Piece.totalCost, Piece.cost, renderCost]; omega

def inorder (foreignText : α → String) : Tree α → String
  | literal keyword => keyword
  | not operand => "!" ++ operand.inorder foreignText
  | group operand => "(" ++ operand.inorder foreignText ++ ")"
  | binary op left right => left.inorder foreignText ++ op.text ++ right.inorder foreignText
  | listed quantifier _ shown => quantifier.listText shown
  | foreign value => foreignText value

/-- The text of a tree; `foreignText` gives the text of its foreign leaves. -/
def render (foreignText : α → String) (tree : Tree α) : String :=
  renderPieces foreignText [.tree tree] ""

end Tree

def Predicate.text (predicate : Predicate) : String :=
  predicate.render Empty.elim

end KeywordFilter
