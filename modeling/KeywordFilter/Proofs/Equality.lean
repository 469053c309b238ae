import KeywordFilter.Proofs.RoundTrip
import KeywordFilter.Proofs.Tree.Evaluation

/-!
# Equal filters and their summaries

Filters that are the same accept the same sets, because the words that are only shown have no meaning
(`Predicate.accepts_bare`). Conditions of expressions with stable keywords have different texts when
they differ, although a text has no parentheses but those of the author: it spells the tokens that the
condition was read from (`Level.Assigns.eq_of_text_eq`).
-/

set_option autoImplicit false

namespace KeywordFilter

open Expression

theorem Tree.meaning_bare {α : Type} (tree : Tree α) (keywords : KeywordSet) :
    tree.bare.meaning keywords = tree.meaning keywords := by
  induction tree with
  | literal keyword => rfl
  | not operand ih => rw [bare, meaning, meaning, ih]
  | group operand ih => rw [bare, meaning, meaning, ih]
  | binary op left right ihLeft ihRight => rw [bare, meaning, meaning, ihLeft, ihRight]
  | listed quantifier keys shown => rfl
  | foreign value => rfl

theorem Predicate.accepts_bare (predicate : Predicate) (keywords : KeywordSet) :
    accepts predicate.bare keywords = predicate.accepts keywords := by
  apply accepts_eq_of_meaning
  rw [Tree.meaning_bare, meaning_eq_accepts]

theorem Level.Assigns.bare_eq {level : Level} {tokens : List Token} {tree : Predicate}
    (h : level.Assigns tokens tree) : tree.bare = tree := by
  induction h with
  | keyword value => rfl
  | not _ ih => rw [Tree.bare, ih]
  | group _ ih => rw [Tree.bare, ih]
  | ofTerm _ ih => exact ih
  | and _ _ ihLeft ihRight => rw [Tree.bare, ihLeft, ihRight]
  | ofConjunction _ ih => exact ih
  | or _ _ ihLeft ihRight => rw [Tree.bare, ihLeft, ihRight]

/-- A text with stable keywords has one tree, even where the settings differ in what may start a
keyword. -/
theorem Level.Assigns.eq_of_text_eq {settings settings' : FullSettings} {tokens tokens' : List Token}
    {tree tree' : Predicate} (h : Assigns .disjunction tokens tree)
    (h' : Assigns .disjunction tokens' tree')
    (hFold : Keyword.foldChars settings = Keyword.foldChars settings')
    (hStable : AllKeywords (Keyword.Stable settings) tokens)
    (hStable' : AllKeywords (Keyword.Stable settings') tokens')
    (hText : tree.text = tree'.text) : tree = tree' := by
  simp only [Predicate.text, Tree.render_eq_inorder] at hText
  have hSpells : Spells { settings with numericKeywords := true } _ tokens :=
    (h.spells hStable).of_settings rfl fun _ => rfl
  have hSpells' : Spells { settings with numericKeywords := true } _ tokens' :=
    (h'.spells hStable').of_settings hFold.symm fun _ => rfl
  rw [hText] at hSpells
  rw [hSpells.unique hSpells'] at h
  exact h'.unique h

namespace Filter

theorem accepts_eq_of_same {filter other : Filter} (h : filter.Same other) (keywords : KeywordSet) :
    filter.accepts keywords = other.accepts keywords := by
  have hBare : ∀ one : Filter,
      one.accepts keywords = (one.predicate?.map Tree.bare).all (Predicate.accepts · keywords) := by
    intro one
    cases one with
    | acceptAll => rfl
    | matching mode text predicate settings => exact (predicate.accepts_bare keywords).symm
  rw [hBare filter, hBare other, h]

theorem create_expression_iff_assigns {text : Option String} {vocabulary : Option (List String)}
    {settings : FullSettings} {filter : Filter} :
    create (some Mode.expression.name) text vocabulary settings = .ok filter ↔
      ∃ tokens tree, Spells settings (text.getD "").toList tokens ∧
        (Vocabulary.ofWords settings vocabulary).Covers tokens ∧
          Level.Assigns .disjunction tokens tree ∧
            filter = matching .expression (text.getD "") tree settings := by
  rw [create_expression_eq_ok_iff]
  simp only [parse_eq_ok_iff, folds_iff_assigns]
  constructor
  · rintro ⟨tree, ⟨tokens, hSpells, hCovers, hAssigns⟩, hFilter⟩
    exact ⟨tokens, tree, hSpells, hCovers, hAssigns, hFilter⟩
  · rintro ⟨tokens, tree, hSpells, hCovers, hAssigns, hFilter⟩
    exact ⟨tree, ⟨tokens, hSpells, hCovers, hAssigns⟩, hFilter⟩

theorem same_matching_iff {tokens tokens' : List Token} {tree tree' : Predicate}
    (h : Level.Assigns .disjunction tokens tree) (h' : Level.Assigns .disjunction tokens' tree')
    (mode mode' : Mode) (text text' : String) (settings settings' : FullSettings) :
    (matching mode text tree settings).Same (matching mode' text' tree' settings') ↔
      tree = tree' := by
  rw [Same, predicate?, predicate?, Option.map_some, Option.map_some, h.bare_eq, h'.bare_eq,
    Option.some.injEq]

/-- Filters that are the same accept the same sets. Filters of expressions that are not transliterated
are the same exactly if they have the same summary, and then they have the same condition. -/
theorem same_faithful :
    (∀ {filter other : Filter}, filter.Same other →
      ∀ keywords, filter.accepts keywords = other.accepts keywords) ∧
    ∀ {text text' : Option String} {vocabulary vocabulary' : Option (List String)}
      {settings settings' : FullSettings} {filter other : Filter},
      settings.ignoreAccents = false → settings'.ignoreAccents = false →
      create (some Mode.expression.name) text vocabulary settings = .ok filter →
      create (some Mode.expression.name) text' vocabulary' settings' = .ok other →
      (filter.Same other ↔ filter.summary = other.summary) ∧
        (filter.summary = other.summary ↔ filter.predicate? = other.predicate?) := by
  refine ⟨accepts_eq_of_same, ?_⟩
  intro text text' vocabulary vocabulary' settings settings' filter other hAccents hAccents'
    hFilter hOther
  obtain ⟨tokens, tree, hSpells, _, hAssigns, rfl⟩ := create_expression_iff_assigns.mp hFilter
  obtain ⟨tokens', tree', hSpells', _, hAssigns', rfl⟩ := create_expression_iff_assigns.mp hOther
  have hSame := same_matching_iff hAssigns hAssigns' .expression .expression (text.getD "")
    (text'.getD "") settings settings'
  have hFold : Keyword.foldChars settings = Keyword.foldChars settings' :=
    (Keyword.foldChars_eq_lower hAccents).trans (Keyword.foldChars_eq_lower hAccents').symm
  have hTexts : tree.text = tree'.text ↔ tree = tree' := by
    constructor
    · exact hAssigns.eq_of_text_eq hAssigns' hFold (hSpells.stable hAccents)
        (hSpells'.stable hAccents')
    · exact congrArg Predicate.text
  refine ⟨hSame.trans hTexts.symm, hTexts.trans ?_⟩
  rw [predicate?, predicate?, Option.some.injEq]

theorem same_faithful_spacing :
    ∃ filter other : Filter,
      create (some Mode.expression.name) (some "A|b&!c") none {} = .ok filter ∧
      create (some Mode.expression.name) (some "a | B\t&! C") (some ["a", "b", "C"])
        { numericKeywords := true } = .ok other ∧
      filter.Same other ∧ filter.summary = other.summary ∧
        ∀ keywords, filter.accepts keywords = other.accepts keywords := by
  obtain ⟨hFilter, hOther⟩ :
      create (some Mode.expression.name) (some "A|b&!c") none {} =
        .ok (matching .expression "A|b&!c" (.binary .or (.literal "a")
          (.binary .and (.literal "b") (.not (.literal "c")))) {}) ∧
      create (some Mode.expression.name) (some "a | B\t&! C") (some ["a", "b", "C"])
        { numericKeywords := true } =
        .ok (matching .expression "a | B\t&! C" (.binary .or (.literal "a")
          (.binary .and (.literal "b") (.not (.literal "c")))) { numericKeywords := true }) := by
    decide +kernel
  have hTexts := (same_faithful.2 rfl rfl hFilter hOther).1
  exact ⟨_, _, hFilter, hOther, rfl, hTexts.mp rfl, same_faithful.1 rfl⟩

end Filter

end KeywordFilter
