import KeywordFilter.Expression.Token
import KeywordFilter.Tree.Normalization

/-!
# Two grammars of expressions

The flat grammar knows no precedence: an expression is a chain of terms with operators between them.
`Phrase.Derives` is its language. `Phrase.Folds` adds the tree that comes of joining the terms from
left to right, where each binary node is normalized as soon as it is built.

The stratified grammar has a level of its own for each operator, and `Level.Assigns` reads its trees
off the derivations. Both grammars have the same trees (`folds_iff_assigns`).
-/

set_option autoImplicit false

namespace KeywordFilter

def AllKeywords (P : String → Prop) (tokens : List Token) : Prop :=
  ∀ value, .keyword value ∈ tokens → P value

section
variable {P : String → Prop}

@[simp] theorem allKeywords_nil : AllKeywords P [] := by
  intro value h
  cases h

@[simp] theorem allKeywords_append {before after : List Token} :
    AllKeywords P (before ++ after) ↔ AllKeywords P before ∧ AllKeywords P after := by
  simp only [AllKeywords, List.mem_append, or_imp, forall_and]

@[simp] theorem allKeywords_cons {token : Token} {rest : List Token} :
    AllKeywords P (token :: rest) ↔
      (∀ value, token = .keyword value → P value) ∧ AllKeywords P rest := by
  simp only [AllKeywords, List.mem_cons, or_imp, forall_and, eq_comm]

end

inductive Phrase where
  | expression
  | term
  deriving DecidableEq, Repr

namespace Phrase

/-- The token sequences of the flat grammar. -/
inductive Derives : Phrase → List Token → Prop where
  | keyword (value : String) : Derives term [.keyword value]
  | not {tokens : List Token} : Derives term tokens → Derives term (.not :: tokens)
  | group {tokens : List Token} :
    Derives expression tokens → Derives term (.opening :: (tokens ++ [.closing]))
  | single {tokens : List Token} : Derives term tokens → Derives expression tokens
  | chain (op : Connective) {before after : List Token} :
    Derives expression before → Derives term after →
      Derives expression (before ++ .connective op :: after)

/-- The trees of the flat grammar: a chain is folded from left to right, and each binary node is
normalized at once. -/
inductive Folds : Phrase → List Token → Predicate → Prop where
  | keyword (value : String) : Folds term [.keyword value] (.literal value)
  | not {tokens : List Token} {operand : Predicate} :
    Folds term tokens operand → Folds term (.not :: tokens) (.not operand)
  | group {tokens : List Token} {operand : Predicate} :
    Folds expression tokens operand →
      Folds term (.opening :: (tokens ++ [.closing])) (.group operand)
  | single {tokens : List Token} {tree : Predicate} :
    Folds term tokens tree → Folds expression tokens tree
  | chain {op : Connective} {before after : List Token} {left right tree : Predicate} :
    Folds expression before left → Folds term after right →
      Tree.normalize (.binary op left right) = .ok tree →
        Folds expression (before ++ .connective op :: after) tree

end Phrase

/-- The levels of the stratified grammar, the loosest first. -/
inductive Level where
  | disjunction
  | conjunction
  | term
  deriving DecidableEq, Repr

/-- The trees of the stratified grammar. Both operators are left-associative, and `&` binds tighter
than `|`. -/
inductive Level.Assigns : Level → List Token → Predicate → Prop where
  | keyword (value : String) : Assigns term [.keyword value] (.literal value)
  | not {tokens : List Token} {operand : Predicate} :
    Assigns term tokens operand → Assigns term (.not :: tokens) (.not operand)
  | group {tokens : List Token} {operand : Predicate} :
    Assigns disjunction tokens operand →
      Assigns term (.opening :: (tokens ++ [.closing])) (.group operand)
  | ofTerm {tokens : List Token} {tree : Predicate} :
    Assigns term tokens tree → Assigns conjunction tokens tree
  | and {before after : List Token} {left right : Predicate} :
    Assigns conjunction before left → Assigns term after right →
      Assigns conjunction (before ++ .connective .and :: after) (.binary .and left right)
  | ofConjunction {tokens : List Token} {tree : Predicate} :
    Assigns conjunction tokens tree → Assigns disjunction tokens tree
  | or {before after : List Token} {left right : Predicate} :
    Assigns disjunction before left → Assigns conjunction after right →
      Assigns disjunction (before ++ .connective .or :: after) (.binary .or left right)

open Phrase Level

theorem Level.Assigns.attach_and {tokens : List Token} {left : Predicate}
    (h : Assigns conjunction tokens left) (right : Predicate) :
    Tree.attach .and left right = .binary .and left right := by
  cases h with
  | ofTerm h => cases h <;> rfl
  | and => exact Tree.attach_and_and ..

theorem Level.Assigns.attach {before after : List Token} {left right : Predicate}
    (hLeft : Assigns disjunction before left) (hRight : Assigns term after right)
    (op : Connective) :
    Assigns disjunction (before ++ .connective op :: after) (Tree.attach op left right) := by
  cases op with
  | or =>
    rw [Tree.attach_or]
    exact .or hLeft (.ofTerm hRight)
  | and =>
    cases hLeft with
    | ofConjunction hLeft =>
      rw [hLeft.attach_and]
      exact .ofConjunction (.and hLeft hRight)
    | or hFirst hLast =>
      -- the `&` goes to the last conjunction and leaves the rest of the chain alone
      rw [Tree.attach_and_or, hLast.attach_and, List.append_assoc]
      exact .or hFirst (.and hLast hRight)

def Phrase.level : Phrase → Level
  | expression => .disjunction
  | term => .term

theorem Phrase.Folds.assigns {phrase : Phrase} {tokens : List Token} {tree : Predicate}
    (h : Folds phrase tokens tree) : Assigns phrase.level tokens tree := by
  induction h with
  | keyword value => exact .keyword value
  | not _ ih => exact .not ih
  | group _ ih => exact .group ih
  | single _ ih => exact .ofConjunction (.ofTerm ih)
  | chain _ _ hTree ihLeft ihRight =>
    rw [Tree.normalize_binary] at hTree
    cases hTree
    exact ihLeft.attach ihRight _

/-- What a derivation of each level is good for in the flat grammar. A conjunction may also go on a
chain behind a `|`: its own operators are then folded after that one. -/
def Level.Chains : Level → List Token → Predicate → Prop
  | disjunction, tokens, tree => Folds expression tokens tree
  | conjunction, tokens, tree =>
    Folds expression tokens tree ∧
      ∀ {before : List Token} {left : Predicate}, Folds expression before left →
        Folds expression (before ++ .connective .or :: tokens) (.binary .or left tree)
  | term, tokens, tree => Folds .term tokens tree

theorem Phrase.Folds.attach {before after : List Token} {left right : Predicate}
    (hLeft : Folds expression before left) (hRight : Folds term after right) (op : Connective) :
    Folds expression (before ++ .connective op :: after) (Tree.attach op left right) :=
  .chain hLeft hRight (Tree.normalize_binary op left right)

theorem Level.Assigns.chains {level : Level} {tokens : List Token} {tree : Predicate}
    (h : Assigns level tokens tree) : level.Chains tokens tree := by
  induction h with
  | keyword value => exact Folds.keyword value
  | not _ ih => exact Folds.not ih
  | group _ ih => exact Folds.group ih
  | ofTerm _ ih =>
    refine ⟨.single ih, ?_⟩
    intro before left hLeft
    simpa using hLeft.attach ih .or
  | and hLeft _ ihLeft ihRight =>
    obtain ⟨ihFirst, ihBehind⟩ := ihLeft
    refine ⟨?_, ?_⟩
    · simpa [hLeft.attach_and] using ihFirst.attach ihRight .and
    · intro before left hBefore
      have h := (ihBehind hBefore).attach ihRight .and
      simpa [hLeft.attach_and] using h
  | ofConjunction _ ih => exact ih.1
  | or _ _ ihLeft ihRight => exact ihRight.2 ihLeft

/-- The left-to-right fold gives an expression the tree of the stratified grammar. -/
theorem folds_iff_assigns {tokens : List Token} {tree : Predicate} :
    Folds expression tokens tree ↔ Assigns disjunction tokens tree :=
  ⟨Folds.assigns, Assigns.chains⟩

theorem Phrase.Folds.derives {phrase : Phrase} {tokens : List Token} {tree : Predicate}
    (h : Folds phrase tokens tree) : Derives phrase tokens := by
  induction h with
  | keyword value => exact .keyword value
  | not _ ih => exact .not ih
  | group _ ih => exact .group ih
  | single _ ih => exact .single ih
  | chain _ _ _ ihLeft ihRight => exact .chain _ ihLeft ihRight

theorem Phrase.Derives.exists_folds {phrase : Phrase} {tokens : List Token}
    (h : Derives phrase tokens) : ∃ tree, Folds phrase tokens tree := by
  induction h with
  | keyword value => exact ⟨_, .keyword value⟩
  | not _ ih =>
    obtain ⟨operand, hOperand⟩ := ih
    exact ⟨_, .not hOperand⟩
  | group _ ih =>
    obtain ⟨operand, hOperand⟩ := ih
    exact ⟨_, .group hOperand⟩
  | single _ ih =>
    obtain ⟨tree, hTree⟩ := ih
    exact ⟨tree, .single hTree⟩
  | chain op _ _ ihLeft ihRight =>
    obtain ⟨left, hLeft⟩ := ihLeft
    obtain ⟨right, hRight⟩ := ihRight
    exact ⟨_, hLeft.attach hRight op⟩

end KeywordFilter
