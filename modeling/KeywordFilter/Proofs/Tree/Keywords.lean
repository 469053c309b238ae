import KeywordFilter.Proofs.Grammar
import KeywordFilter.Proofs.Tree.Evaluation

/-!
# The keywords of a tree

What a tree means for a set of keywords depends only on which of its own keywords the set holds
(`Tree.meaning_congr`). A tree that was read from tokens has the keywords that stand among the tokens.
-/

set_option autoImplicit false

namespace KeywordFilter

theorem Quantifier.accepts_congr {keys first second : KeywordSet}
    (h : ∀ word ∈ keys, word ∈ first ↔ word ∈ second) (quantifier : Quantifier) :
    quantifier.accepts keys first = quantifier.accepts keys second := by
  rw [Bool.eq_iff_iff]
  cases quantifier with
  | all =>
    rw [accepts, accepts, KeywordSet.isSubset_iff, KeywordSet.isSubset_iff]
    exact forall₂_congr h
  | any =>
    rw [accepts, accepts, KeywordSet.meets_iff, KeywordSet.meets_iff]
    exact exists_congr fun word => and_congr_right (h word)

namespace Tree

variable {α : Type}

def keywords : Tree α → List String
  | literal keyword => [keyword]
  | not operand => operand.keywords
  | group operand => operand.keywords
  | binary _ left right => left.keywords ++ right.keywords
  | listed _ keys _ => keys.toList
  | foreign _ => []

/-- Sets that hold the same keywords of a tree are alike to it. -/
theorem meaning_congr {tree : Tree α} {first second : KeywordSet}
    (h : ∀ word ∈ tree.keywords, word ∈ first ↔ word ∈ second) :
    tree.meaning first = tree.meaning second := by
  induction tree with
  | literal keyword =>
    rw [meaning, meaning, decide_eq_decide.mpr (h keyword (List.mem_singleton_self keyword))]
  | not operand ih => rw [meaning, meaning, ih h]
  | group operand ih => rw [meaning, meaning, ih h]
  | binary op left right ihLeft ihRight =>
    have hLeft := ihLeft fun word hWord => h word (List.mem_append_left _ hWord)
    have hRight := ihRight fun word hWord => h word (List.mem_append_right _ hWord)
    rw [meaning, meaning, hLeft, hRight]
  | listed quantifier keys shown => rw [meaning, meaning, quantifier.accepts_congr h]
  | foreign value => rw [meaning, meaning]

end Tree

theorem Predicate.accepts_congr {predicate : Predicate} {first second : KeywordSet}
    (h : ∀ word ∈ predicate.keywords, word ∈ first ↔ word ∈ second) :
    predicate.accepts first = predicate.accepts second := by
  apply accepts_eq_of_meaning
  rw [Tree.meaning_congr h, meaning_eq_accepts]

theorem Level.Assigns.allKeywords_iff {level : Level} {tokens : List Token} {tree : Predicate}
    (h : level.Assigns tokens tree) {P : String → Prop} :
    AllKeywords P tokens ↔ ∀ word ∈ tree.keywords, P word := by
  induction h with
  | keyword value => simp [Tree.keywords]
  | not _ ih => simp [Tree.keywords, ih]
  | group _ ih => simp [Tree.keywords, ih]
  | ofTerm _ ih => exact ih
  | and _ _ ihLeft ihRight => simp [Tree.keywords, ihLeft, ihRight, or_imp, forall_and]
  | ofConjunction _ ih => exact ih
  | or _ _ ihLeft ihRight => simp [Tree.keywords, ihLeft, ihRight, or_imp, forall_and]

end KeywordFilter
