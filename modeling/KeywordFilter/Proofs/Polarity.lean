import KeywordFilter.Proofs.Equality
import KeywordFilter.Proofs.ListFilter
import KeywordFilter.Proofs.Tree.Normalization
import Mathlib.Algebra.Ring.Parity

/-!
# Polarity

A keyword under an even number of negations can only help a set to meet a condition, and one under an
odd number can only hinder it (`Tree.follows_answer`). This is one statement about both polarities,
since each negation turns the one into the other. Lists and expressions without `!` have no negations,
so their filters lose no test to which keywords are added (`answers_follow_polarity`).
-/

set_option autoImplicit false

namespace KeywordFilter

inductive Polarity where
  | positive
  | negative
  deriving DecidableEq, Repr

namespace Polarity

def flip : Polarity → Polarity
  | positive => negative
  | negative => positive

/-- The numbers of negations that leave a keyword with the polarity. -/
def Admits : Polarity → Nat → Prop
  | positive, count => Even count
  | negative, count => Odd count

/-- The second answer is at least the first one, or at most. -/
def Follows : Polarity → Bool → Bool → Prop
  | positive, answer, other => answer = true → other = true
  | negative, answer, other => other = true → answer = true

theorem admits_succ {polarity : Polarity} {count : Nat} :
    polarity.Admits (count + 1) ↔ polarity.flip.Admits count := by
  cases polarity with
  | positive => exact Nat.even_add_one.trans Nat.not_even_iff_odd
  | negative => exact Nat.odd_add_one.trans Nat.not_odd_iff_even

theorem follows_refl (polarity : Polarity) (answer : Bool) : polarity.Follows answer answer := by
  cases polarity <;> exact id

theorem Follows.not {polarity : Polarity} {answer other : Bool}
    (h : polarity.flip.Follows answer other) : polarity.Follows (!answer) (!other) := by
  cases polarity <;> cases answer <;> cases other <;> simp_all [Follows, flip]

end Polarity

def Connective.join : Connective → Bool → Bool → Bool
  | .and, left, right => left && right
  | .or, left, right => left || right

theorem Polarity.Follows.join {polarity : Polarity} {left right left' right' : Bool}
    (hLeft : polarity.Follows left left') (hRight : polarity.Follows right right')
    (op : Connective) : polarity.Follows (op.join left right) (op.join left' right') := by
  cases polarity <;> cases op <;>
    simp only [Polarity.Follows, Connective.join, Bool.and_eq_true, Bool.or_eq_true] at *
  · exact And.imp hLeft hRight
  · exact Or.imp hLeft hRight
  · exact And.imp hLeft hRight
  · exact Or.imp hLeft hRight

theorem Quantifier.accepts_mono {first second : KeywordSet} (h : ∀ word ∈ first, word ∈ second)
    (quantifier : Quantifier) (keys : KeywordSet) :
    quantifier.accepts keys first = true → quantifier.accepts keys second = true := by
  cases quantifier with
  | all =>
    rw [accepts, accepts, KeywordSet.isSubset_iff, KeywordSet.isSubset_iff]
    exact fun hKeys word hWord => h word (hKeys word hWord)
  | any =>
    rw [accepts, accepts, KeywordSet.meets_iff, KeywordSet.meets_iff]
    rintro ⟨word, hWord, hFirst⟩
    exact ⟨word, hWord, h word hFirst⟩

namespace Tree

variable {α : Type}

/-- For each occurrence of a keyword, as a literal or among the keys of a list, the number of negations
above it. -/
def negationsAbove (keyword : String) : Tree α → List Nat
  | literal other => if other = keyword then [0] else []
  | not operand => (operand.negationsAbove keyword).map (· + 1)
  | group operand => operand.negationsAbove keyword
  | binary _ left right => left.negationsAbove keyword ++ right.negationsAbove keyword
  | listed _ keys _ => if keyword ∈ keys then [0] else []
  | foreign _ => []

/-- The answer of a tree, with a foreign leaf counting as a condition that is never met. -/
def answer (keywords : KeywordSet) : Tree α → Bool
  | literal keyword => decide (keyword ∈ keywords)
  | not operand => !operand.answer keywords
  | group operand => operand.answer keywords
  | binary op left right => op.join (left.answer keywords) (right.answer keywords)
  | listed quantifier keys _ => quantifier.accepts keys keywords
  | foreign _ => false

theorem meaning_of_foreigns {tree : Tree α} (h : tree.foreigns = []) (keywords : KeywordSet) :
    tree.meaning keywords = .ok (tree.answer keywords) := by
  induction tree with
  | literal keyword => rfl
  | not operand ih =>
    rw [meaning, ih h]
    rfl
  | group operand ih => exact ih h
  | binary op left right ihLeft ihRight =>
    obtain ⟨hLeft, hRight⟩ := List.append_eq_nil_iff.mp h
    rw [meaning, ihLeft hLeft, ihRight hRight, answer]
    cases op <;> cases left.answer keywords <;> rfl
  | listed quantifier keys shown => rfl
  | foreign value => cases h

theorem evaluate_of_foreigns {tree : Tree α} (h : tree.foreigns = []) (keywords : KeywordSet) :
    tree.evaluate keywords = .ok (tree.answer keywords) := by
  rw [evaluate_eq_meaning, meaning_of_foreigns h]
  rfl

/-- All keywords that the second set has and the first one lacks have the polarity. -/
def Gains (polarity : Polarity) (first second : KeywordSet) (tree : Tree α) : Prop :=
  ∀ word ∈ second, word ∉ first → ∀ count ∈ tree.negationsAbove word, polarity.Admits count

section
variable {polarity : Polarity} {first second : KeywordSet}

theorem Gains.not {operand : Tree α} (h : Gains polarity first second (not operand)) :
    Gains polarity.flip first second operand := by
  intro word hSecond hFirst count hCount
  exact Polarity.admits_succ.mp (h word hSecond hFirst _ (List.mem_map_of_mem hCount))

theorem gains_binary {op : Connective} {left right : Tree α} :
    Gains polarity first second (binary op left right) ↔
      Gains polarity first second left ∧ Gains polarity first second right := by
  simp only [Gains, negationsAbove, List.mem_append, or_imp, forall_and]

theorem mem_first_of_gains {tree : Tree α} (h : Gains .negative first second tree) {word : String}
    (hCount : 0 ∈ tree.negationsAbove word) (hSecond : word ∈ second) : word ∈ first := by
  by_contra hFirst
  exact Nat.not_odd_zero (h word hSecond hFirst 0 hCount)

theorem follows_answer (hSubset : ∀ word ∈ first, word ∈ second) {tree : Tree α}
    (h : Gains polarity first second tree) :
    polarity.Follows (tree.answer first) (tree.answer second) := by
  induction tree generalizing polarity with
  | literal keyword =>
    cases polarity with
    | positive => simpa [answer, Polarity.Follows] using hSubset keyword
    | negative =>
      have hCount : 0 ∈ (literal keyword : Tree α).negationsAbove keyword := by
        simp [negationsAbove]
      simpa [answer, Polarity.Follows] using mem_first_of_gains h hCount
  | not operand ih => exact (ih h.not).not
  | group operand ih => exact ih h
  | binary op left right ihLeft ihRight =>
    obtain ⟨hLeft, hRight⟩ := gains_binary.mp h
    exact (ihLeft hLeft).join (ihRight hRight) op
  | listed quantifier keys shown =>
    cases polarity with
    | positive => exact quantifier.accepts_mono hSubset keys
    | negative =>
      have hKeys : ∀ word ∈ keys, word ∈ first ↔ word ∈ second := by
        intro word hWord
        have hCount : 0 ∈ (listed quantifier keys shown : Tree α).negationsAbove word := by
          simp [negationsAbove, hWord]
        exact ⟨hSubset word, mem_first_of_gains h hCount⟩
      rw [answer, answer, quantifier.accepts_congr hKeys]
      exact Polarity.follows_refl _ _
  | foreign value => exact Polarity.follows_refl _ _

end

theorem gains_insert {polarity : Polarity} {tree : Tree α} {keyword : String}
    (h : ∀ count ∈ tree.negationsAbove keyword, polarity.Admits count) (keywords : KeywordSet) :
    Gains polarity keywords (keywords.insert keyword) tree := by
  intro word hSecond hFirst count hCount
  rcases KeywordSet.mem_insert.mp hSecond with rfl | hMem
  · exact h count hCount
  · exact absurd hMem hFirst

theorem follows_answer_insert (polarity : Polarity) {tree : Tree α} {keyword : String}
    (h : ∀ count ∈ tree.negationsAbove keyword, polarity.Admits count) (keywords : KeywordSet) :
    polarity.Follows (tree.answer keywords) (tree.answer (keywords.insert keyword)) :=
  follows_answer (fun _ hWord => KeywordSet.mem_insert.mpr (.inr hWord)) (gains_insert h keywords)

theorem answer_insert {tree : Tree α} {keyword : String} (h : tree.negationsAbove keyword = [])
    (keywords : KeywordSet) :
    tree.answer (keywords.insert keyword) = tree.answer keywords := by
  have hNone : ∀ polarity : Polarity, ∀ count ∈ tree.negationsAbove keyword,
      polarity.Admits count := by
    intro polarity count hCount
    rw [h] at hCount
    cases hCount
  rw [Bool.eq_iff_iff]
  exact ⟨follows_answer_insert .negative (hNone .negative) keywords,
    follows_answer_insert .positive (hNone .positive) keywords⟩

end Tree

theorem Predicate.foreigns_eq_nil (predicate : Predicate) : predicate.foreigns = [] :=
  List.eq_nil_iff_forall_not_mem.mpr fun value _ => value.elim

theorem Predicate.accepts_eq_answer (predicate : Predicate) (keywords : KeywordSet) :
    predicate.accepts keywords = predicate.answer keywords :=
  accepts_eq_of_meaning (Tree.meaning_of_foreigns predicate.foreigns_eq_nil keywords)

def Tree.Unnegated {α : Type} (tree : Tree α) : Prop :=
  ∀ word, ∀ count ∈ tree.negationsAbove word, count = 0

theorem Tree.Unnegated.binary {α : Type} {left right : Tree α} (hLeft : left.Unnegated)
    (hRight : right.Unnegated) (op : Connective) : (Tree.binary op left right).Unnegated :=
  fun word => List.forall_mem_append.mpr ⟨hLeft word, hRight word⟩

theorem eq_zero_of_mem_leaf {present : Prop} [Decidable present] {count : Nat}
    (h : count ∈ if present then [0] else []) : count = 0 := by
  split at h
  · exact List.mem_singleton.mp h
  · cases h

theorem Level.Assigns.unnegated {level : Level} {tokens : List Token} {tree : Predicate}
    (h : level.Assigns tokens tree) (hTokens : Token.not ∉ tokens) : tree.Unnegated := by
  induction h with
  | keyword value => exact fun _ _ hCount => eq_zero_of_mem_leaf hCount
  | not => exact absurd List.mem_cons_self hTokens
  | group _ ih => exact ih (by simpa using hTokens)
  | ofTerm _ ih => exact ih hTokens
  | and _ _ ihLeft ihRight =>
    simp only [List.mem_append, List.mem_cons, not_or] at hTokens
    exact (ihLeft hTokens.1).binary (ihRight hTokens.2.2) .and
  | ofConjunction _ ih => exact ih hTokens
  | or _ _ ihLeft ihRight =>
    simp only [List.mem_append, List.mem_cons, not_or] at hTokens
    exact (ihLeft hTokens.1).binary (ihRight hTokens.2.2) .or

theorem Predicate.accepts_mono {predicate : Predicate} (h : predicate.Unnegated)
    {first second : KeywordSet} (hSubset : ∀ word ∈ first, word ∈ second)
    (hFirst : predicate.accepts first = true) : predicate.accepts second = true := by
  rw [accepts_eq_answer] at hFirst ⊢
  have hGains : Tree.Gains .positive first second predicate := by
    intro word _ _ count hCount
    rw [h word count hCount]
    exact Even.zero
  exact Tree.follows_answer hSubset hGains hFirst

namespace Filter

def Affirms (mode : Mode) (settings : FullSettings) (text : String) : Prop :=
  match mode with
  | .listed _ => True
  | .expression => Token.not ∉ (Scan.ofText settings text).tokens

section
variable {mode : Mode} {text : Option String} {vocabulary : Option (List String)}
variable {settings : FullSettings} {filter : Filter}
variable (hAffirms : Affirms mode settings (text.getD ""))
variable (hFilter : create (some mode.name) text vocabulary settings = .ok filter)
include hAffirms hFilter

theorem exists_unnegated :
    ∃ predicate, filter.predicate? = some predicate ∧ predicate.Unnegated := by
  cases mode with
  | listed quantifier =>
    obtain ⟨_, _, rfl⟩ := create_list_eq_ok_iff.mp hFilter
    exact ⟨_, rfl, fun _ _ hCount => eq_zero_of_mem_leaf hCount⟩
  | expression =>
    obtain ⟨tokens, tree, hSpells, _, hAssigns, rfl⟩ := create_expression_iff_assigns.mp hFilter
    obtain ⟨rfl, _⟩ := spells_iff.mp hSpells
    exact ⟨tree, rfl, hAssigns.unnegated hAffirms⟩

theorem accepts_of_subset {first second : KeywordSet} (hSubset : ∀ word ∈ first, word ∈ second)
    (hFirst : filter.accepts first = true) : filter.accepts second = true := by
  obtain ⟨predicate, hPredicate, hUnnegated⟩ := exists_unnegated hAffirms hFilter
  rw [accepts, hPredicate, Option.all_some] at hFirst ⊢
  exact Predicate.accepts_mono hUnnegated hSubset hFirst

theorem selects_of_subset {ι : Type} {test other : TestCase ι}
    (hSubset : ∀ word ∈ test.words, word ∈ other.words)
    (hTest : selects (some filter) test = true) : selects (some filter) other = true := by
  refine accepts_of_subset hAffirms hFilter ?_ hTest
  intro keyword hKeyword
  obtain ⟨word, hWord, rfl⟩ := Keyword.mem_foldSet.mp hKeyword
  exact Keyword.mem_foldSet.mpr ⟨word, hSubset word hWord, rfl⟩

end

end Filter

/-- A set that meets a tree goes on to meet it when a keyword is added that stands only under even
numbers of negations there, and has met it before if all these numbers are odd; a keyword that does not
occur makes no difference. A filter on a list, or on an expression without `!`, therefore goes on to
select a test to which keywords are added. -/
theorem answers_follow_polarity :
    (∀ {α : Type} (tree : Tree α) (keyword : String) (keywords : KeywordSet), tree.foreigns = [] →
      ((∀ count ∈ tree.negationsAbove keyword, Even count) →
        tree.evaluate keywords = .ok true →
          tree.evaluate (keywords.insert keyword) = .ok true) ∧
      ((∀ count ∈ tree.negationsAbove keyword, Odd count) →
        tree.evaluate (keywords.insert keyword) = .ok true →
          tree.evaluate keywords = .ok true) ∧
      (tree.negationsAbove keyword = [] →
        tree.evaluate (keywords.insert keyword) = tree.evaluate keywords)) ∧
    ∀ (mode : Mode) (text : Option String) (vocabulary : Option (List String))
      (settings : FullSettings) (filter : Filter), Filter.Affirms mode settings (text.getD "") →
      Filter.create (some mode.name) text vocabulary settings = .ok filter →
      (∀ first second : KeywordSet, (∀ word ∈ first, word ∈ second) →
        filter.accepts first = true → filter.accepts second = true) ∧
      ∀ {ι : Type} (test other : TestCase ι), (∀ word ∈ test.words, word ∈ other.words) →
        selects (some filter) test = true → selects (some filter) other = true := by
  refine ⟨?_, ?_⟩
  · intro α tree keyword keywords hForeigns
    simp only [Tree.evaluate_of_foreigns hForeigns, Except.ok.injEq]
    exact ⟨fun hEven => Tree.follows_answer_insert .positive hEven keywords,
      fun hOdd => Tree.follows_answer_insert .negative hOdd keywords,
      fun hNone => Tree.answer_insert hNone keywords⟩
  · intro mode text vocabulary settings filter hAffirms hFilter
    exact ⟨fun _ _ => Filter.accepts_of_subset hAffirms hFilter,
      fun _ _ => Filter.selects_of_subset hAffirms hFilter⟩

theorem answers_follow_polarity_nested :
    (∃ tree : Tree Nat, tree.negationsAbove "a" = [2] ∧ tree.negationsAbove "b" = [1] ∧
      tree.evaluate (KeywordSet.insert "a" KeywordSet.empty) = .ok true ∧
      tree.evaluate (KeywordSet.ofList ["a"]) = .ok true ∧
      tree.evaluate (KeywordSet.insert "c" (KeywordSet.ofList ["b"])) =
        tree.evaluate (KeywordSet.ofList ["b"])) ∧
    ∃ filter, Filter.create (some "expr") (some "A | (b & c)") none {} = .ok filter ∧
      selects (some filter) ⟨0, some "C x b"⟩ = true := by
  constructor
  · let tree : Tree Nat := .binary .or (.not (.not (.literal "a")))
      (.not (.group (.listed .any (KeywordSet.ofList ["b"]) ["b"])))
    obtain ⟨hCounts, hCounts', hNone, hEmpty, hBoth⟩ :
        tree.negationsAbove "a" = [2] ∧ tree.negationsAbove "b" = [1] ∧
        tree.negationsAbove "c" = [] ∧ tree.evaluate KeywordSet.empty = .ok true ∧
        tree.evaluate (KeywordSet.insert "b" (KeywordSet.ofList ["a"])) = .ok true := by
      decide +kernel
    have hEven : ∀ count ∈ tree.negationsAbove "a", Even count := by
      rw [hCounts]
      decide
    have hOdd : ∀ count ∈ tree.negationsAbove "b", Odd count := by
      rw [hCounts']
      decide
    have hPolarity := fun keyword keywords =>
      answers_follow_polarity.1 tree keyword keywords rfl
    exact ⟨tree, hCounts, hCounts', (hPolarity _ _).1 hEven hEmpty, (hPolarity _ _).2.1 hOdd hBoth,
      (hPolarity _ _).2.2 hNone⟩
  · obtain ⟨hAffirms, hFilter, hTest, hWords⟩ :
        Token.not ∉ (Scan.ofText {} "A | (b & c)").tokens ∧
        Filter.create (some Mode.expression.name) (some "A | (b & c)") none {} =
          .ok (.matching .expression "A | (b & c)" (.binary .or (.literal "a")
            (.group (.binary .and (.literal "b") (.literal "c")))) {}) ∧
        selects (some (.matching .expression "A | (b & c)" (.binary .or (.literal "a")
          (.group (.binary .and (.literal "b") (.literal "c")))) {})) ⟨0, some "b C"⟩ = true ∧
        ∀ word ∈ (⟨0, some "b C"⟩ : TestCase Nat).words,
          word ∈ (⟨0, some "C x b"⟩ : TestCase Nat).words := by
      decide +kernel
    obtain ⟨_, hSelects⟩ :=
      answers_follow_polarity.2 .expression (some "A | (b & c)") none {} _ hAffirms hFilter
    exact ⟨_, hFilter, hSelects _ _ hWords hTest⟩

end KeywordFilter
