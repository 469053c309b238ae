import KeywordFilter.Proofs.Filter
import KeywordFilter.Proofs.Tree.Evaluation
import KeywordFilter.Suite

/-!
# Expressions made of expressions

Accepted texts can be put into parentheses and joined by operators, and the condition of the whole is
made up of theirs. Without parentheses they can still be joined by `|`: the second condition is then
hung below the first one, term by term (`Tree.disjoin`), which does not change what is accepted.
-/

set_option autoImplicit false

namespace KeywordFilter

open Phrase Scan

/-- A disjunction of two chains, written as one chain. -/
def Tree.disjoin {α : Type} (left : Tree α) : Tree α → Tree α
  | binary .or first last => binary .or (disjoin left first) last
  | right => binary .or left right

theorem Level.Assigns.disjoin_eq {tokens : List Token} {right : Predicate}
    (h : Assigns .conjunction tokens right) (left : Predicate) :
    Tree.disjoin left right = .binary .or left right := by
  cases h with
  | ofTerm h => cases h <;> rfl
  | and => rfl

theorem Level.Assigns.disjoin {before after : List Token} {left right : Predicate}
    (hLeft : Assigns .disjunction before left) (hRight : Assigns .disjunction after right) :
    Assigns .disjunction (before ++ .connective .or :: after) (Tree.disjoin left right) := by
  -- the induction runs along the `|`s of the right text only: its conjunctions stay whole
  generalize hLevel : Level.disjunction = level at hRight
  induction hRight with
  | ofConjunction h =>
    rw [h.disjoin_eq]
    exact .or hLeft h
  | or _ hLast ih =>
    have hFirst := ih hLevel
    have hWhole := hFirst.or hLast
    rwa [List.append_assoc] at hWhole
  | _ => cases hLevel

theorem Predicate.accepts_disjoin (left right : Predicate) (keywords : KeywordSet) :
    accepts (Tree.disjoin left right) keywords =
      (left.accepts keywords || right.accepts keywords) := by
  fun_induction Tree.disjoin left right with
  | case1 first last ih => rw [accepts_or, accepts_or, ih, Bool.or_assoc]
  | case2 right => rw [accepts_or]

namespace Expression

section
variable {settings : FullSettings} {vocabulary : Option (List String)} {first second text : String}
variable {left right : Predicate}

theorem parse_groups {op : Connective} {c : Char}
    (hFirst : parse settings vocabulary (some first) = .ok left)
    (hSecond : parse settings vocabulary (some second) = .ok right)
    (hSymbol : Token.ofSymbol? c = some (.connective op))
    (hText : text.toList =
      '(' :: (first.toList ++ [')']) ++ c :: '(' :: (second.toList ++ [')'])) :
    parse settings vocabulary (some text) = .ok (.binary op (.group left) (.group right)) := by
  obtain ⟨before, hBefore, hKnown, hLeft⟩ := parse_eq_ok_iff.mp hFirst
  obtain ⟨after, hAfter, hKnown', hRight⟩ := parse_eq_ok_iff.mp hSecond
  refine parse_eq_ok_iff.mpr ⟨_, ?_, ?_, (Folds.single (.group hLeft)).attach (.group hRight) op⟩
  · rw [hText]
    exact hBefore.group.around hAfter.group hSymbol
  · simp [Vocabulary.Covers, hKnown, hKnown']

theorem parse_and (hFirst : parse settings vocabulary (some first) = .ok left)
    (hSecond : parse settings vocabulary (some second) = .ok right) :
    parse settings vocabulary (some ("(" ++ first ++ ")&(" ++ second ++ ")")) =
      .ok (.binary .and (.group left) (.group right)) := by
  have hSymbol : Token.ofSymbol? '&' = some (.connective .and) := rfl
  exact parse_groups hFirst hSecond hSymbol (by simp)

theorem parse_or (hFirst : parse settings vocabulary (some first) = .ok left)
    (hSecond : parse settings vocabulary (some second) = .ok right) :
    parse settings vocabulary (some ("(" ++ first ++ ")|(" ++ second ++ ")")) =
      .ok (.binary .or (.group left) (.group right)) := by
  have hSymbol : Token.ofSymbol? '|' = some (.connective .or) := rfl
  exact parse_groups hFirst hSecond hSymbol (by simp)

theorem parse_not_group (hFirst : parse settings vocabulary (some first) = .ok left) :
    parse settings vocabulary (some ("!(" ++ first ++ ")")) = .ok (.not (.group left)) := by
  obtain ⟨tokens, hTokens, hKnown, hLeft⟩ := parse_eq_ok_iff.mp hFirst
  refine parse_eq_ok_iff.mpr ⟨_, ?_, ?_, .single (.not (.group hLeft))⟩
  · simpa using hTokens.group.not
  · simp [Vocabulary.Covers, hKnown]

theorem parse_disjoin (hFirst : parse settings vocabulary (some first) = .ok left)
    (hSecond : parse settings vocabulary (some second) = .ok right) :
    parse settings vocabulary (some (first ++ "|" ++ second)) = .ok (Tree.disjoin left right) := by
  obtain ⟨before, hBefore, hKnown, hLeft⟩ := parse_eq_ok_iff.mp hFirst
  obtain ⟨after, hAfter, hKnown', hRight⟩ := parse_eq_ok_iff.mp hSecond
  have hWhole := (folds_iff_assigns.mp hLeft).disjoin (folds_iff_assigns.mp hRight)
  refine parse_eq_ok_iff.mpr ⟨_, ?_, ?_, folds_iff_assigns.mpr hWhole⟩
  · have hSpells : Spells settings (first.toList ++ '|' :: second.toList) _ :=
      hBefore.around hAfter rfl
    simpa using hSpells
  · simp [Vocabulary.Covers, hKnown, hKnown']

end

end Expression

def Filter.Expresses (settings : FullSettings) (vocabulary : Option (List String)) (text : String)
    (filter : Filter) : Prop :=
  create (some Mode.expression.name) (some text) vocabulary settings = .ok filter

theorem Filter.expresses_of_parse {settings : FullSettings} {vocabulary : Option (List String)}
    {text : String} {tree : Predicate}
    (h : Expression.parse settings vocabulary (some text) = .ok tree) :
    Expresses settings vocabulary text (matching .expression text tree settings) :=
  create_expression_eq_ok_iff.mpr ⟨tree, h, rfl⟩

theorem selectTests_split {ι : Type} {filter other : Filter}
    (h : ∀ test : TestCase ι, selects (some other) test = !selects (some filter) test)
    (tests : List (TestCase ι)) :
    (∀ test ∈ selectTests (some filter) tests, test ∉ selectTests (some other) tests) ∧
      (selectTests (some filter) tests ++ selectTests (some other) tests).Perm tests := by
  have hOther : selectTests (some other) tests =
      tests.filter fun test => !selects (some filter) test := by
    unfold selectTests
    rw [funext h]
  refine ⟨?_, ?_⟩
  · intro test hFilter hRest
    rw [hOther] at hRest
    have hSelected := (List.mem_filter.mp hFilter).2
    have hNot := (List.mem_filter.mp hRest).2
    rw [hSelected] at hNot
    cases hNot
  · rw [hOther]
    exact List.filter_append_perm _ tests

/-- Accepted texts compose: grouped and joined by an operator, grouped and negated, and joined by a
bare `|`. The filters of the new texts accept what the filters of the old ones make of it, and the
filter of a text and that of its negation split every list of tests. -/
theorem Expression.parse_composes {settings : FullSettings} {vocabulary : Option (List String)}
    {first second : String} {left right : Predicate}
    (hFirst : parse settings vocabulary (some first) = .ok left)
    (hSecond : parse settings vocabulary (some second) = .ok right) :
    (parse settings vocabulary (some ("(" ++ first ++ ")&(" ++ second ++ ")")) =
        .ok (.binary .and (.group left) (.group right)) ∧
      parse settings vocabulary (some ("(" ++ first ++ ")|(" ++ second ++ ")")) =
        .ok (.binary .or (.group left) (.group right)) ∧
      parse settings vocabulary (some ("!(" ++ first ++ ")")) = .ok (.not (.group left)) ∧
      parse settings vocabulary (some (first ++ "|" ++ second)) =
        .ok (Tree.disjoin left right)) ∧
    ∃ one two both either other bare : Filter,
      one.Expresses settings vocabulary first ∧ two.Expresses settings vocabulary second ∧
      both.Expresses settings vocabulary ("(" ++ first ++ ")&(" ++ second ++ ")") ∧
      either.Expresses settings vocabulary ("(" ++ first ++ ")|(" ++ second ++ ")") ∧
      other.Expresses settings vocabulary ("!(" ++ first ++ ")") ∧
      bare.Expresses settings vocabulary (first ++ "|" ++ second) ∧
      (∀ keywords, both.accepts keywords = (one.accepts keywords && two.accepts keywords) ∧
        either.accepts keywords = (one.accepts keywords || two.accepts keywords) ∧
        other.accepts keywords = (!one.accepts keywords) ∧
        bare.accepts keywords = (one.accepts keywords || two.accepts keywords)) ∧
      ∀ {ι : Type} (tests : List (TestCase ι)),
        (∀ test ∈ selectTests (some one) tests, test ∉ selectTests (some other) tests) ∧
          (selectTests (some one) tests ++ selectTests (some other) tests).Perm tests := by
  have hBoth := parse_and hFirst hSecond
  have hEither := parse_or hFirst hSecond
  have hOther := parse_not_group hFirst
  have hBare := parse_disjoin hFirst hSecond
  refine ⟨⟨hBoth, hEither, hOther, hBare⟩, ?_⟩
  refine ⟨_, _, _, _, _, _, Filter.expresses_of_parse hFirst, Filter.expresses_of_parse hSecond,
    Filter.expresses_of_parse hBoth, Filter.expresses_of_parse hEither,
    Filter.expresses_of_parse hOther, Filter.expresses_of_parse hBare, ?_, ?_⟩
  · intro keywords
    simp [Predicate.accepts_disjoin]
  · intro ι tests
    apply selectTests_split
    intro test
    simp [selects, Filter.foldKeywords, Filter.settings]

theorem Expression.parse_composes_chains :
    parse {} none (some "a | b&c") =
        .ok (.binary .or (.literal "a") (.binary .and (.literal "b") (.literal "c"))) ∧
      parse {} none (some "d|!e ") = .ok (.binary .or (.literal "d") (.not (.literal "e"))) ∧
      parse {} none (some "a | b&c|d|!e ") =
        .ok (.binary .or (.binary .or (.binary .or (.literal "a")
          (.binary .and (.literal "b") (.literal "c"))) (.literal "d")) (.not (.literal "e"))) := by
  have hFirst : parse {} none (some "a | b&c") =
      .ok (.binary .or (.literal "a") (.binary .and (.literal "b") (.literal "c"))) := by
    decide +kernel
  have hSecond : parse {} none (some "d|!e ") =
      .ok (.binary .or (.literal "d") (.not (.literal "e"))) := by
    decide +kernel
  have hBare := (parse_composes hFirst hSecond).1.2.2.2
  exact ⟨hFirst, hSecond, by simpa [Tree.disjoin] using hBare⟩

end KeywordFilter
