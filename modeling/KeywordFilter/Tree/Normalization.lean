import KeywordFilter.Tree.Basic

/-!
# Normalization

Where binary nodes are built strictly from left to right, an operator that binds tighter than the
one before it receives too much as its left operand: in `a | b & c` the conjunction is built over
`a | b`. Hanging it at the right place restores the binding: it takes over the right operand of its
left operand, and goes in there as far down as the nodes bind less tightly.
-/

set_option autoImplicit false

namespace KeywordFilter

namespace Tree

variable {α : Type}

/-- Joins two operands by an operator that binds only the end of the left one. -/
def attach (op : Connective) (left right : Tree α) : Tree α :=
  match left with
  | binary other first last =>
    if other.precedence < op.precedence then binary other first (attach op last right)
    else binary op left right
  | _ => binary op left right

/-- The end of the left operand that the operator binds. -/
def hinge (op : Connective) : Tree α → Tree α
  | binary other first last =>
    if other.precedence < op.precedence then hinge op last else binary other first last
  | tree => tree

/-- Why a tree cannot be normalized: it is no binary node, or its operator would bind a foreign
leaf, of which it is not known how tightly it binds. -/
inductive NormalizationError (α : Type) where
  | notBinary (tree : Tree α)
  | foreignOperand (value : α)

def normalize : Tree α → Except (NormalizationError α) (Tree α)
  | binary op left right =>
    match hinge op left with
    | foreign value => .error (.foreignOperand value)
    | _ => .ok (attach op left right)
  | tree => .error (.notBinary tree)

@[simp] theorem attach_or (left right : Tree α) : attach .or left right = binary .or left right := by
  cases left <;> simp [attach, Connective.precedence]

@[simp] theorem attach_and_or (first last right : Tree α) :
    attach .and (binary .or first last) right = binary .or first (attach .and last right) := by
  simp [attach, Connective.precedence]

@[simp] theorem attach_and_and (first last right : Tree α) :
    attach .and (binary .and first last) right = binary .and (binary .and first last) right := by
  simp [attach]

theorem normalize_binary (op : Connective) (left right : Predicate) :
    normalize (binary op left right) = .ok (attach op left right) := by
  simp only [normalize]
  split
  · next value _ => exact value.elim
  · rfl

end Tree

end KeywordFilter
