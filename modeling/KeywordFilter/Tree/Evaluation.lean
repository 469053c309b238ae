import KeywordFilter.Tree.Basic

/-!
# Evaluation

`Tree.evaluate` tells whether a set of keywords meets a condition. It keeps a stack of tasks and a
stack of results instead of calling itself for the operands, so that its depth does not grow with
the tree. The right operand of a binary node is looked at only when the left one leaves the answer
open, and a foreign leaf stops the evaluation only when it is reached.
-/

set_option autoImplicit false

namespace KeywordFilter

/-- The left result that settles the answer of an operator. -/
def Connective.decisive : Connective → Bool
  | .and => false
  | .or => true

def Quantifier.accepts (quantifier : Quantifier) (keys keywords : KeywordSet) : Bool :=
  match quantifier with
  | .all => keys.isSubset keywords
  | .any => keys.meets keywords

/-- Why an evaluation has no answer: it reached a leaf that is no condition, or it needed a result
that no task had left. -/
inductive EvaluationError (α : Type) where
  | foreign (value : α)
  | noResult
  deriving DecidableEq, Repr

namespace Tree

variable {α : Type}

/-- What is still to be done: to find the answer of a tree, to negate the last result, or to go on
to the right operand unless the last result is decisive. -/
inductive Task (α : Type) where
  | visit (tree : Tree α)
  | negate
  | resume (op : Connective) (right : Tree α)

def evaluateCost : Tree α → Nat
  | literal _ => 1
  | not operand => operand.evaluateCost + 2
  | group operand => operand.evaluateCost + 1
  | binary _ left right => left.evaluateCost + right.evaluateCost + 2
  | listed .. => 1
  | foreign _ => 1

def Task.cost : Task α → Nat
  | visit tree => tree.evaluateCost
  | negate => 1
  | resume _ right => right.evaluateCost + 1

def Task.totalCost : List (Task α) → Nat
  | [] => 0
  | task :: tasks => task.cost + totalCost tasks

/-- Works off the tasks from the first to the last and gives the result on top at the end. -/
def runTasks (keywords : KeywordSet) :
    List (Task α) → List Bool → Except (EvaluationError α) Bool
  | [], result :: _ => .ok result
  | [], [] => .error .noResult
  | .visit (literal keyword) :: tasks, results =>
    runTasks keywords tasks (decide (keyword ∈ keywords) :: results)
  | .visit (not operand) :: tasks, results =>
    runTasks keywords (.visit operand :: .negate :: tasks) results
  | .visit (group operand) :: tasks, results =>
    runTasks keywords (.visit operand :: tasks) results
  | .visit (binary op left right) :: tasks, results =>
    runTasks keywords (.visit left :: .resume op right :: tasks) results
  | .visit (listed quantifier keys _) :: tasks, results =>
    runTasks keywords tasks (quantifier.accepts keys keywords :: results)
  | .visit (foreign value) :: _, _ => .error (.foreign value)
  | .negate :: tasks, result :: results => runTasks keywords tasks ((!result) :: results)
  | .negate :: _, [] => .error .noResult
  -- a decisive result stays where it is and becomes that of the whole node
  | .resume op right :: tasks, result :: results =>
    if result = op.decisive then runTasks keywords tasks (result :: results)
    else runTasks keywords (.visit right :: tasks) results
  | .resume _ _ :: _, [] => .error .noResult
termination_by tasks => Task.totalCost tasks
decreasing_by all_goals simp only [Task.totalCost, Task.cost, evaluateCost]; omega

def evaluate (tree : Tree α) (keywords : KeywordSet) : Except (EvaluationError α) Bool :=
  runTasks keywords [.visit tree] []

/-- What a tree means for a set of keywords: the answer, or the first foreign leaf that is reached
when operands are looked at from left to right and only as far as needed. -/
def meaning (keywords : KeywordSet) : Tree α → Except α Bool
  | literal keyword => .ok (decide (keyword ∈ keywords))
  | not operand => (operand.meaning keywords).map (!·)
  | group operand => operand.meaning keywords
  | binary op left right => do
    let result ← left.meaning keywords
    if result = op.decisive then pure result else right.meaning keywords
  | listed quantifier keys _ => .ok (quantifier.accepts keys keywords)
  | foreign value => .error value

end Tree

def Predicate.accepts (predicate : Predicate) (keywords : KeywordSet) : Bool :=
  match predicate.evaluate keywords with
  | .ok answer => answer
  | .error _ => false

end KeywordFilter
