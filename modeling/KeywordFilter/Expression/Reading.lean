import KeywordFilter.Expression.Token
import KeywordFilter.Tree.Normalization

/-!
# Reading an expression

An expression is one or more terms with binary operators between them; a term is a keyword, a
negated term, or an expression in parentheses. A `Reading` takes the tokens one by one. It refuses
a token as soon as no expression goes on with it, and it builds the tree on the way: each binary
node is attached to what was read before it, so that `&` binds tighter than `|`.
-/

set_option autoImplicit false

namespace KeywordFilter

/-- A place inside an expression where a term is to follow, behind what was read of the expression
with an operator, if anything was read, and behind so many negations. -/
structure Place where
  left : Option (Predicate × Connective) := none
  negations : Nat := 0
  deriving DecidableEq

def negated (count : Nat) (operand : Predicate) : Predicate :=
  Nat.repeat Tree.not count operand

namespace Place

/-- The binary node that a term completes, as its operator and operands, if an operator waits for
the term. -/
def node? (place : Place) (term : Predicate) : Option (Connective × Predicate × Predicate) :=
  place.left.map fun (left, op) => (op, left, negated place.negations term)

def complete (place : Place) (term : Predicate) : Predicate :=
  match place.node? term with
  | some (op, left, right) => Tree.attach op left right
  | none => negated place.negations term

end Place

/-- How far an expression has been read: a term is to follow, or one has ended, and `whole` is what
was read since the last open parenthesis. The places in `outer` are those of the parentheses that
are still open, the innermost first. -/
inductive Reading where
  | beforeTerm (place : Place) (outer : List Place)
  | afterTerm (whole : Predicate) (outer : List Place)
  deriving DecidableEq

namespace Reading

def start : Reading :=
  beforeTerm {} []

def feed? : Reading → Token → Option Reading
  | beforeTerm place outer, .keyword value =>
    some (afterTerm (place.complete (.literal value)) outer)
  | beforeTerm place outer, .not =>
    some (beforeTerm { place with negations := place.negations + 1 } outer)
  | beforeTerm place outer, .opening => some (beforeTerm {} (place :: outer))
  | afterTerm whole outer, .connective op => some (beforeTerm { left := some (whole, op) } outer)
  | afterTerm whole (place :: outer), .closing =>
    some (afterTerm (place.complete (.group whole)) outer)
  -- two terms in a row, an operator without a left operand, or a parenthesis that closes nothing
  | _, _ => none

def result? : Reading → Option Predicate
  | afterTerm whole [] => some whole
  | _ => none

end Reading

end KeywordFilter
