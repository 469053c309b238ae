import KeywordFilter.Proofs.Tree.Evaluation
import Mathlib.Logic.Relation

/-!
# The loop of an evaluation

`Yields` derives what comes of a tree from what comes of its operands, and asks for an operand only
where it is looked at. The loop finds the same (`evaluate_short_circuits`). It goes from state to state
in rounds (`Round`), each of which makes the rest cheaper, so that every run ends. On the way there is
a result wherever a task takes one: a task that is visited leaves a result for those behind it
(`LoopState.Supplied`).
-/

set_option autoImplicit false

namespace KeywordFilter.Tree

variable {α : Type} {keywords : KeywordSet}

/-- What comes of a tree: an answer, or the first foreign leaf that is looked at. -/
inductive Yields (keywords : KeywordSet) : Tree α → Except α Bool → Prop where
  | literal {keyword : String} {answer : Bool} :
    (answer = true ↔ keyword ∈ keywords) → Yields keywords (literal keyword) (.ok answer)
  | not {operand : Tree α} {answer : Bool} :
    Yields keywords operand (.ok answer) → Yields keywords (not operand) (.ok !answer)
  | notForeign {operand : Tree α} {value : α} :
    Yields keywords operand (.error value) → Yields keywords (not operand) (.error value)
  | group {operand : Tree α} {outcome : Except α Bool} :
    Yields keywords operand outcome → Yields keywords (group operand) outcome
  | andLeft {left right : Tree α} :
    Yields keywords left (.ok false) → Yields keywords (binary .and left right) (.ok false)
  | andRight {left right : Tree α} {outcome : Except α Bool} :
    Yields keywords left (.ok true) → Yields keywords right outcome →
      Yields keywords (binary .and left right) outcome
  | orLeft {left right : Tree α} :
    Yields keywords left (.ok true) → Yields keywords (binary .or left right) (.ok true)
  | orRight {left right : Tree α} {outcome : Except α Bool} :
    Yields keywords left (.ok false) → Yields keywords right outcome →
      Yields keywords (binary .or left right) outcome
  | leftForeign {op : Connective} {left right : Tree α} {value : α} :
    Yields keywords left (.error value) → Yields keywords (binary op left right) (.error value)
  | all {keys : KeywordSet} {shown : List String} {answer : Bool} :
    (answer = true ↔ ∀ key ∈ keys, key ∈ keywords) →
      Yields keywords (listed .all keys shown) (.ok answer)
  | any {keys : KeywordSet} {shown : List String} {answer : Bool} :
    (answer = true ↔ ∃ key ∈ keys, key ∈ keywords) →
      Yields keywords (listed .any keys shown) (.ok answer)
  | foreign (value : α) : Yields keywords (foreign value) (.error value)

theorem yields_meaning (tree : Tree α) : Yields keywords tree (tree.meaning keywords) := by
  induction tree with
  | literal keyword => exact .literal decide_eq_true_iff
  | not operand ih =>
    rw [meaning]
    cases hOperand : operand.meaning keywords with
    | error value => exact .notForeign (hOperand ▸ ih)
    | ok answer => exact .not (hOperand ▸ ih)
  | group operand ih => exact .group ih
  | binary op left right ihLeft ihRight =>
    rw [meaning]
    cases hLeft : left.meaning keywords with
    | error value => exact .leftForeign (hLeft ▸ ihLeft)
    | ok answer =>
      rw [hLeft] at ihLeft
      -- the four ways of the left answer to meet the operator
      cases op with
      | and =>
        cases answer with
        | false => exact .andLeft ihLeft
        | true => exact .andRight ihLeft ihRight
      | or =>
        cases answer with
        | false => exact .orRight ihLeft ihRight
        | true => exact .orLeft ihLeft
  | listed quantifier keys shown =>
    cases quantifier with
    | all => exact .all KeywordSet.isSubset_iff
    | any => exact .any KeywordSet.meets_iff
  | foreign value => exact .foreign value

theorem Yields.meaning_eq {tree : Tree α} {outcome : Except α Bool}
    (h : Yields keywords tree outcome) : tree.meaning keywords = outcome := by
  induction h with
  | literal hAnswer =>
    rw [meaning]
    apply congrArg Except.ok
    rw [Bool.eq_iff_iff, hAnswer, decide_eq_true_iff]
  | not _ ih => rw [meaning, ih]; rfl
  | notForeign _ ih => rw [meaning, ih]; rfl
  | group _ ih => rw [meaning, ih]
  | andLeft _ ih => rw [meaning, ih]; rfl
  | andRight _ _ ihLeft ihRight => rw [meaning, ihLeft, ← ihRight]; rfl
  | orLeft _ ih => rw [meaning, ih]; rfl
  | orRight _ _ ihLeft ihRight => rw [meaning, ihLeft, ← ihRight]; rfl
  | leftForeign _ ih => rw [meaning, ih]; rfl
  | all hAnswer =>
    rw [meaning]
    apply congrArg Except.ok
    rw [Bool.eq_iff_iff, hAnswer]
    exact KeywordSet.isSubset_iff
  | any hAnswer =>
    rw [meaning]
    apply congrArg Except.ok
    rw [Bool.eq_iff_iff, hAnswer]
    exact KeywordSet.meets_iff
  | foreign value => rfl

theorem yields_iff {tree : Tree α} {outcome : Except α Bool} :
    Yields keywords tree outcome ↔ tree.meaning keywords = outcome := by
  constructor
  · exact Yields.meaning_eq
  · intro h
    rw [← h]
    exact yields_meaning tree

/-- Where the loop stands: what is still to be done, and the results so far. -/
structure LoopState (α : Type) where
  tasks : List (Task α)
  results : List Bool

def LoopState.start (tree : Tree α) : LoopState α :=
  ⟨[.visit tree], []⟩

inductive Round (keywords : KeywordSet) : LoopState α → LoopState α → Prop where
  | literal {keyword : String} {tasks : List (Task α)} {results : List Bool} :
    Round keywords ⟨.visit (literal keyword) :: tasks, results⟩
      ⟨tasks, decide (keyword ∈ keywords) :: results⟩
  | not {operand : Tree α} {tasks : List (Task α)} {results : List Bool} :
    Round keywords ⟨.visit (not operand) :: tasks, results⟩
      ⟨.visit operand :: .negate :: tasks, results⟩
  | group {operand : Tree α} {tasks : List (Task α)} {results : List Bool} :
    Round keywords ⟨.visit (group operand) :: tasks, results⟩ ⟨.visit operand :: tasks, results⟩
  | binary {op : Connective} {left right : Tree α} {tasks : List (Task α)} {results : List Bool} :
    Round keywords ⟨.visit (binary op left right) :: tasks, results⟩
      ⟨.visit left :: .resume op right :: tasks, results⟩
  | listed {quantifier : Quantifier} {keys : KeywordSet} {shown : List String}
      {tasks : List (Task α)} {results : List Bool} :
    Round keywords ⟨.visit (listed quantifier keys shown) :: tasks, results⟩
      ⟨tasks, quantifier.accepts keys keywords :: results⟩
  | negate {tasks : List (Task α)} {result : Bool} {results : List Bool} :
    Round keywords ⟨.negate :: tasks, result :: results⟩ ⟨tasks, (!result) :: results⟩
  | settled {op : Connective} {right : Tree α} {tasks : List (Task α)} {results : List Bool} :
    Round keywords ⟨.resume op right :: tasks, op.decisive :: results⟩
      ⟨tasks, op.decisive :: results⟩
  | unsettled {op : Connective} {right : Tree α} {tasks : List (Task α)} {result : Bool}
      {results : List Bool} : result ≠ op.decisive →
    Round keywords ⟨.resume op right :: tasks, result :: results⟩ ⟨.visit right :: tasks, results⟩

namespace LoopState

variable {state next : LoopState α}

/-- Whether the loop takes a result now: for a task that waits for one, or as the answer. -/
def TakesResult : LoopState α → Prop
  | ⟨.visit _ :: _, _⟩ => False
  | _ => True

/-- With so many results at hand, every task and the answer will find one. -/
def SuppliedBy : List (Task α) → Nat → Prop
  | [], count => 0 < count
  | .visit _ :: tasks, count => SuppliedBy tasks (count + 1)
  | .negate :: tasks, count => 0 < count ∧ SuppliedBy tasks count
  | .resume _ _ :: tasks, count => 0 < count ∧ SuppliedBy tasks count

def Supplied (state : LoopState α) : Prop :=
  SuppliedBy state.tasks state.results.length

theorem supplied_start (tree : Tree α) : (start tree).Supplied :=
  Nat.zero_lt_one

theorem Supplied.results_ne_nil (h : state.Supplied) (hTakes : state.TakesResult) :
    state.results ≠ [] := by
  obtain ⟨tasks, results⟩ := state
  apply List.ne_nil_of_length_pos
  cases tasks with
  | nil => exact h
  | cons task tasks =>
    cases task with
    | visit tree => exact hTakes.elim
    | negate => exact h.1
    | resume op right => exact h.1

def outcome (keywords : KeywordSet) (state : LoopState α) : Except (EvaluationError α) Bool :=
  runTasks keywords state.tasks state.results

end LoopState

open LoopState

namespace Round

variable {state next : LoopState α}

theorem outcome_eq (h : Round keywords state next) :
    state.outcome keywords = next.outcome keywords := by
  unfold outcome
  cases h with
  | unsettled hResult => rw [runTasks, if_neg hResult]
  | settled => rw [runTasks, if_pos rfl]
  | _ => rw [runTasks]

theorem supplied (h : Round keywords state next) (hState : state.Supplied) : next.Supplied := by
  cases h with
  | literal => exact hState
  | not => exact ⟨Nat.succ_pos _, hState⟩
  | group => exact hState
  | binary => exact ⟨Nat.succ_pos _, hState⟩
  | listed => exact hState
  | negate => exact hState.2
  | settled => exact hState.2
  | unsettled => exact hState.2

theorem cost_lt (h : Round keywords state next) :
    Task.totalCost next.tasks < Task.totalCost state.tasks := by
  cases h <;> simp only [Task.totalCost, Task.cost, evaluateCost] <;> omega

theorem wellFounded :
    WellFounded fun next state : LoopState α => Round keywords state next := by
  apply Subrelation.wf (r := InvImage (· < ·) fun state : LoopState α => Task.totalCost state.tasks)
  · intro next state h
    exact h.cost_lt
  · exact InvImage.wf _ Nat.lt_wfRel.wf

end Round

/-- The loop goes on unless it is done or a foreign leaf is in the way. -/
theorem LoopState.Supplied.progress {state : LoopState α} (h : state.Supplied) :
    (∃ next, Round keywords state next) ∨ (∃ answer results, state = ⟨[], answer :: results⟩) ∨
      ∃ value tasks results, state = ⟨.visit (.foreign value) :: tasks, results⟩ := by
  obtain ⟨tasks, results⟩ := state
  cases tasks with
  | nil =>
    obtain ⟨answer, others, rfl⟩ := List.exists_cons_of_length_pos h
    exact .inr (.inl ⟨answer, others, rfl⟩)
  | cons task tasks =>
    cases task with
    | visit tree =>
      cases tree with
      | literal => exact .inl ⟨_, .literal⟩
      | not => exact .inl ⟨_, .not⟩
      | group => exact .inl ⟨_, .group⟩
      | binary => exact .inl ⟨_, .binary⟩
      | listed => exact .inl ⟨_, .listed⟩
      | foreign value => exact .inr (.inr ⟨value, tasks, results, rfl⟩)
    | negate =>
      obtain ⟨result, others, rfl⟩ := List.exists_cons_of_length_pos h.1
      exact .inl ⟨_, .negate⟩
    | resume op right =>
      obtain ⟨result, others, rfl⟩ := List.exists_cons_of_length_pos h.1
      by_cases hResult : result = op.decisive
      · subst hResult
        exact .inl ⟨_, .settled⟩
      · exact .inl ⟨_, .unsettled hResult⟩

abbrev Passes (keywords : KeywordSet) (tree : Tree α) (state : LoopState α) : Prop :=
  Relation.ReflTransGen (Round keywords) (start tree) state

theorem Passes.kept {tree : Tree α} {state : LoopState α} (h : Passes keywords tree state) :
    state.Supplied ∧ state.outcome keywords = tree.evaluate keywords := by
  induction h with
  | refl => exact ⟨supplied_start tree, rfl⟩
  | tail _ hRound ih => exact ⟨hRound.supplied ih.1, hRound.outcome_eq.symm.trans ih.2⟩

theorem mapError_foreign_inj {outcome other : Except α Bool} :
    outcome.mapError EvaluationError.foreign = other.mapError .foreign ↔ outcome = other := by
  constructor
  · intro h
    cases outcome with
    | error value =>
      cases other with
      | error value' =>
        cases h
        rfl
      | ok answer => cases h
    | ok answer =>
      cases other with
      | error value => cases h
      | ok answer' =>
        cases h
        rfl
  · intro h
    rw [h]

/-- The evaluation finds what its tree yields, an answer or the first foreign leaf that is looked at,
and nothing else. Its loop ends, finds a result whenever it takes one, and stops only with the outcome
at hand. -/
theorem evaluate_short_circuits (tree : Tree α) (keywords : KeywordSet) :
    (∀ outcome : Except α Bool,
      tree.evaluate keywords = outcome.mapError .foreign ↔ Yields keywords tree outcome) ∧
    tree.evaluate keywords ≠ .error .noResult ∧
    (WellFounded fun next state : LoopState α => Round keywords state next) ∧
    ∀ state : LoopState α, Passes keywords tree state →
      (state.TakesResult → state.results ≠ []) ∧
      ((∃ next, Round keywords state next) ∨
        (∃ answer results, state = ⟨[], answer :: results⟩ ∧
          tree.evaluate keywords = .ok answer) ∨
        ∃ value tasks results, state = ⟨.visit (.foreign value) :: tasks, results⟩ ∧
          tree.evaluate keywords = .error (.foreign value)) := by
  refine ⟨?_, ?_, Round.wellFounded, ?_⟩
  · intro outcome
    rw [yields_iff, evaluate_eq_meaning, mapError_foreign_inj]
  · rw [evaluate_eq_meaning]
    cases tree.meaning keywords <;> exact nofun
  · intro state hPasses
    obtain ⟨hSupplied, hOutcome⟩ := hPasses.kept
    refine ⟨hSupplied.results_ne_nil, ?_⟩
    rcases hSupplied.progress with hNext | ⟨answer, results, rfl⟩ | ⟨value, tasks, results, rfl⟩
    · exact .inl hNext
    · refine .inr (.inl ⟨answer, results, rfl, ?_⟩)
      rw [← hOutcome, outcome, runTasks]
    · refine .inr (.inr ⟨value, tasks, results, rfl, ?_⟩)
      rw [← hOutcome, outcome, runTasks]

end KeywordFilter.Tree
