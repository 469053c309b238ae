import KeywordFilter.Tree.Evaluation

/-!
# The answer of an evaluation

Working off the tasks of a tree leaves its meaning on top of the results, whatever is to be done
after it and whatever lies below (`runTasks_visit`). For conditions the answers of the operands
make up the answer of a tree as the operators have it.
-/

set_option autoImplicit false

namespace KeywordFilter

namespace Tree

variable {α : Type}

theorem runTasks_visit (keywords : KeywordSet) (tree : Tree α) (tasks : List (Task α))
    (results : List Bool) :
    runTasks keywords (.visit tree :: tasks) results =
      (tree.meaning keywords).mapError .foreign >>=
        fun answer => runTasks keywords tasks (answer :: results) := by
  induction tree generalizing tasks results with
  | literal keyword => rw [runTasks, meaning]; rfl
  | not operand ih =>
    rw [runTasks, ih, meaning]
    cases operand.meaning keywords with
    | error value => rfl
    | ok answer =>
      change runTasks keywords (.negate :: tasks) (answer :: results) = _
      rw [runTasks]
      rfl
  | group operand ih => rw [runTasks, ih, meaning]
  | binary op left right ihLeft ihRight =>
    rw [runTasks, ihLeft, meaning]
    cases left.meaning keywords with
    | error value => rfl
    | ok result =>
      change runTasks keywords (.resume op right :: tasks) (result :: results) =
        (if result = op.decisive then pure result else right.meaning keywords).mapError .foreign >>= _
      rw [runTasks]
      by_cases hDecisive : result = op.decisive
      · rw [if_pos hDecisive, if_pos hDecisive]
        rfl
      · rw [if_neg hDecisive, if_neg hDecisive, ihRight]
  | listed quantifier keys shown => rw [runTasks, meaning]; rfl
  | foreign value => rw [runTasks, meaning]; rfl

/-- The evaluation finds the meaning of a tree, or the foreign leaf that leaves it without one. -/
theorem evaluate_eq_meaning (tree : Tree α) (keywords : KeywordSet) :
    tree.evaluate keywords = (tree.meaning keywords).mapError .foreign := by
  rw [evaluate, runTasks_visit]
  cases tree.meaning keywords with
  | error value => rfl
  | ok answer =>
    change runTasks keywords [] [answer] = .ok answer
    rw [runTasks]

end Tree

namespace Predicate

theorem meaning_eq_accepts (predicate : Predicate) (keywords : KeywordSet) :
    predicate.meaning keywords = .ok (predicate.accepts keywords) := by
  have hEvaluate := Tree.evaluate_eq_meaning predicate keywords
  unfold accepts
  cases hMeaning : predicate.meaning keywords with
  | error value => exact value.elim
  | ok answer =>
    rw [hMeaning] at hEvaluate
    rw [hEvaluate]
    rfl

theorem accepts_eq_of_meaning {predicate : Predicate} {keywords : KeywordSet} {answer : Bool}
    (h : predicate.meaning keywords = .ok answer) : predicate.accepts keywords = answer := by
  rw [meaning_eq_accepts] at h
  exact Except.ok.inj h

@[simp] theorem accepts_literal (keyword : String) (keywords : KeywordSet) :
    accepts (.literal keyword) keywords = decide (keyword ∈ keywords) :=
  accepts_eq_of_meaning rfl

@[simp] theorem accepts_not (operand : Predicate) (keywords : KeywordSet) :
    accepts (.not operand) keywords = !operand.accepts keywords := by
  apply accepts_eq_of_meaning
  rw [Tree.meaning, meaning_eq_accepts]
  rfl

@[simp] theorem accepts_group (operand : Predicate) (keywords : KeywordSet) :
    accepts (.group operand) keywords = operand.accepts keywords := by
  apply accepts_eq_of_meaning
  rw [Tree.meaning, meaning_eq_accepts]

@[simp] theorem accepts_and (left right : Predicate) (keywords : KeywordSet) :
    accepts (.binary .and left right) keywords =
      (left.accepts keywords && right.accepts keywords) := by
  apply accepts_eq_of_meaning
  rw [Tree.meaning, meaning_eq_accepts, meaning_eq_accepts]
  cases left.accepts keywords <;> rfl

@[simp] theorem accepts_or (left right : Predicate) (keywords : KeywordSet) :
    accepts (.binary .or left right) keywords =
      (left.accepts keywords || right.accepts keywords) := by
  apply accepts_eq_of_meaning
  rw [Tree.meaning, meaning_eq_accepts, meaning_eq_accepts]
  cases left.accepts keywords <;> rfl

@[simp] theorem accepts_listed (quantifier : Quantifier) (keys : KeywordSet) (shown : List String)
    (keywords : KeywordSet) :
    accepts (.listed quantifier keys shown) keywords = quantifier.accepts keys keywords :=
  accepts_eq_of_meaning rfl

end Predicate

end KeywordFilter
