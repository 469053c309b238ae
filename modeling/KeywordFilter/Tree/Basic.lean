import KeywordFilter.KeywordSet

/-!
# Trees of conditions

A condition on a set of keywords is a tree. Conditions that the library builds itself are
`Predicate`s: trees without foreign leaves. A tree that a caller puts together may also have leaves
that are no conditions at all, of whatever type `α` the caller has; rendering, evaluation and
normalization say what becomes of them.
-/

set_option autoImplicit false

namespace KeywordFilter

inductive Connective where
  | and
  | or
  deriving DecidableEq, Repr

/-- How tightly an operator binds; a higher number binds tighter. -/
def Connective.precedence : Connective → Nat
  | .and => 1
  | .or => 0

inductive Quantifier where
  | all
  | any
  deriving DecidableEq, Repr

/-- A tree of conditions whose foreign leaves are of type `α`. A group stands for parentheses; a
list asks for all or any of its `keys`, and `shown` are the words as they were listed. -/
inductive Tree (α : Type) where
  | literal (keyword : String)
  | not (operand : Tree α)
  | group (operand : Tree α)
  | binary (op : Connective) (left right : Tree α)
  | listed (quantifier : Quantifier) (keys : KeywordSet) (shown : List String)
  | foreign (value : α)
  deriving DecidableEq

/-- A condition: a tree without foreign leaves. -/
abbrev Predicate := Tree Empty

namespace Tree

variable {α : Type}

/-- The tree without the words that are only shown. Two trees mean the same condition, written the
same way, when their bare trees are equal. -/
def bare : Tree α → Tree α
  | literal keyword => literal keyword
  | not operand => not operand.bare
  | group operand => group operand.bare
  | binary op left right => binary op left.bare right.bare
  | listed quantifier keys _ => listed quantifier keys []
  | foreign value => foreign value

end Tree

end KeywordFilter
