import KeywordFilter.Proofs.Tree.Rendering
import KeywordFilter.Proofs.Vocabulary

/-!
# Filters on lists of words

A list filter goes by the words of its text alone. It is built when there are words and each of them
is declared, it selects the tests that have all or any of the words, and it is the same as another one
when both have the same words (`Filter.list_decides_by_words`). Words of the filter, of the vocabulary
and of a test count as the same word when they fold to the same keyword.
-/

set_option autoImplicit false

namespace KeywordFilter

open Expression Keyword

def Quantifier.Holds (quantifier : Quantifier) (words : List String) (P : String → Prop) : Prop :=
  match quantifier with
  | .all => ∀ word ∈ words, P word
  | .any => ∃ word ∈ words, P word

instance (quantifier : Quantifier) (words : List String) (P : String → Prop) [DecidablePred P] :
    Decidable (quantifier.Holds words P) :=
  match quantifier with
  | .all => inferInstanceAs (Decidable (∀ word ∈ words, P word))
  | .any => inferInstanceAs (Decidable (∃ word ∈ words, P word))

theorem Quantifier.holds_congr {quantifier : Quantifier} {words : List String}
    {P Q : String → Prop} (h : ∀ word, P word ↔ Q word) :
    quantifier.Holds words P ↔ quantifier.Holds words Q := by
  cases quantifier with
  | all => exact forall₂_congr fun word _ => h word
  | any => exact exists_congr fun word => and_congr_right fun _ => h word

theorem Quantifier.holds_map {quantifier : Quantifier} {words : List String} {f : String → String}
    {P : String → Prop} :
    quantifier.Holds (words.map f) P ↔ quantifier.Holds words fun word => P (f word) := by
  cases quantifier with
  | all => exact List.forall_mem_map
  | any =>
    constructor
    · rintro ⟨_, hMapped, hWord⟩
      obtain ⟨word, hMem, rfl⟩ := List.mem_map.mp hMapped
      exact ⟨word, hMem, hWord⟩
    · rintro ⟨word, hMem, hWord⟩
      exact ⟨f word, List.mem_map_of_mem hMem, hWord⟩

theorem Quantifier.accepts_ofList_iff {quantifier : Quantifier} {words : List String}
    {keywords : KeywordSet} :
    quantifier.accepts (KeywordSet.ofList words) keywords = true ↔
      quantifier.Holds words (· ∈ keywords) := by
  cases quantifier with
  | all => simp only [accepts, KeywordSet.isSubset_iff, KeywordSet.mem_ofList, Holds]
  | any => simp only [accepts, KeywordSet.meets_iff, KeywordSet.mem_ofList, Holds]

/-- The vocabulary, if there is one, has a word that folds as this one does. -/
def Keyword.Declared (settings : FullSettings) (vocabulary : Option (List String)) (word : String) :
    Prop :=
  ∀ declared ∈ vocabulary, ∃ other ∈ declared, fold settings other = fold settings word

theorem Keyword.declared_none (settings : FullSettings) (word : String) :
    Declared settings none word := by
  intro declared h
  cases h

theorem Keyword.allows_fold_iff {settings : FullSettings} {vocabulary : Option (List String)}
    {word : String} :
    (Vocabulary.ofWords settings vocabulary).allows (fold settings word) = true ↔
      Declared settings vocabulary word := by
  cases vocabulary with
  | none => exact ⟨fun _ => declared_none settings word, fun _ => rfl⟩
  | some declared =>
    rw [Vocabulary.allows_ofWords, mem_foldSet]
    simp [Declared]

namespace Filter

def listing (quantifier : Quantifier) (settings : FullSettings) (text : String) : Filter :=
  matching (.listed quantifier) text
    (.listed quantifier (foldSet settings (Text.words text))
      ((Text.words text).map (fold settings)))
    settings

section
variable {quantifier : Quantifier} {settings : FullSettings} {vocabulary : Option (List String)}
variable {text : Option String}

theorem create_list_eq_ok_iff {filter : Filter} :
    create (some (Mode.listed quantifier).name) text vocabulary settings = .ok filter ↔
      Text.words (text.getD "") ≠ [] ∧
        (∀ word ∈ Text.words (text.getD ""), Declared settings vocabulary word) ∧
        filter = listing quantifier settings (text.getD "") := by
  simp only [create_mode_eq_ok_iff, Mode.compile, WordList.build_eq_ok_iff, allows_fold_iff]
  constructor
  · rintro ⟨tree, ⟨hWords, hKnown, rfl⟩, rfl⟩
    exact ⟨hWords, hKnown, rfl⟩
  · rintro ⟨hWords, hKnown, rfl⟩
    exact ⟨_, ⟨hWords, hKnown, rfl⟩, rfl⟩

theorem create_list_eq_error_iff {error : FilterError} :
    create (some (Mode.listed quantifier).name) text vocabulary settings = .error error ↔
      Text.words (text.getD "") = [] ∧ error = .emptyList ∨
        ∃ before word after, Text.words (text.getD "") = before ++ word :: after ∧
          (∀ other ∈ before, Declared settings vocabulary other) ∧
          ¬ Declared settings vocabulary word ∧ error = .unknownKeyword word := by
  simp only [create_mode, bind_eq_error_iff, Mode.compile, WordList.build_eq_error_iff,
    ← allows_fold_iff, Bool.not_eq_true]
  simp [pure, Except.pure]

end

theorem selects_listing_iff {quantifier : Quantifier} {settings : FullSettings} {text : String}
    {ι : Type} {test : TestCase ι} :
    selects (some (listing quantifier settings text)) test = true ↔
      quantifier.Holds (Text.words text) fun word =>
        ∃ other ∈ test.words, fold settings other = fold settings word := by
  have hSelects : selects (some (listing quantifier settings text)) test =
      quantifier.accepts (foldSet settings (Text.words text)) (foldSet settings test.words) :=
    Predicate.accepts_listed ..
  rw [hSelects, foldSet, Quantifier.accepts_ofList_iff, Quantifier.holds_map]
  exact Quantifier.holds_congr fun word => mem_foldSet

theorem summary_listing (quantifier : Quantifier) (settings : FullSettings) (text : String) :
    (listing quantifier settings text).summary =
      quantifier.listText ((Text.words text).map (fold settings)) :=
  Tree.render_eq_inorder _ _

theorem same_listing_iff {quantifier : Quantifier} {settings settings' : FullSettings}
    {text text' : String} :
    (listing quantifier settings text).Same (listing quantifier settings' text') ↔
      ∀ keyword, (∃ word ∈ Text.words text, fold settings word = keyword) ↔
        ∃ word ∈ Text.words text', fold settings' word = keyword := by
  have hSame : (listing quantifier settings text).Same (listing quantifier settings' text') ↔
      foldSet settings (Text.words text) = foldSet settings' (Text.words text') := by
    simp [Same, listing, predicate?, Tree.bare]
  simp only [hSame, ← mem_foldSet]
  constructor
  · intro h keyword
    rw [h]
  · exact KeywordSet.ext_mem

/-- A list filter is built if the text has words and all of them are declared; otherwise the list is
empty, or its first undeclared word is refused as typed. The filter selects the tests that have all or
any of the words. Lists with the same words make the same filter, and its summary has the words as
they are listed. -/
theorem list_decides_by_words (quantifier : Quantifier) (settings : FullSettings)
    (vocabulary : Option (List String)) (text : Option String) :
    ((∃ filter,
        create (some (Mode.listed quantifier).name) text vocabulary settings = .ok filter) ↔
      Text.words (text.getD "") ≠ [] ∧
        ∀ word ∈ Text.words (text.getD ""), Declared settings vocabulary word) ∧
    (∀ error,
      create (some (Mode.listed quantifier).name) text vocabulary settings = .error error ↔
        Text.words (text.getD "") = [] ∧ error = .emptyList ∨
          ∃ before word after, Text.words (text.getD "") = before ++ word :: after ∧
            (∀ other ∈ before, Declared settings vocabulary other) ∧
            ¬ Declared settings vocabulary word ∧ error = .unknownKeyword word) ∧
    ∀ filter,
      create (some (Mode.listed quantifier).name) text vocabulary settings = .ok filter →
        (∀ {ι : Type} (tests : List (TestCase ι)), selectTests (some filter) tests =
          tests.filter fun test => decide (quantifier.Holds (Text.words (text.getD "")) fun word =>
            ∃ other ∈ test.words, fold settings other = fold settings word)) ∧
        filter.summary =
          quantifier.listText ((Text.words (text.getD "")).map (fold settings)) ∧
        ∀ settings' vocabulary' text' other,
          create (some (Mode.listed quantifier).name) text' vocabulary' settings' = .ok other →
            (filter.Same other ↔
              ∀ keyword, (∃ word ∈ Text.words (text.getD ""), fold settings word = keyword) ↔
                ∃ word ∈ Text.words (text'.getD ""), fold settings' word = keyword) := by
  refine ⟨?_, fun error => create_list_eq_error_iff, ?_⟩
  · simp only [create_list_eq_ok_iff]
    constructor
    · rintro ⟨filter, hWords, hKnown, _⟩
      exact ⟨hWords, hKnown⟩
    · rintro ⟨hWords, hKnown⟩
      exact ⟨_, hWords, hKnown, rfl⟩
  · intro filter hFilter
    obtain ⟨_, _, rfl⟩ := create_list_eq_ok_iff.mp hFilter
    refine ⟨?_, summary_listing .., ?_⟩
    · intro ι tests
      apply List.filter_congr
      intro test _
      rw [Bool.eq_iff_iff, selects_listing_iff, decide_eq_true_iff]
    · intro settings' vocabulary' text' other hOther
      obtain ⟨_, _, rfl⟩ := create_list_eq_ok_iff.mp hOther
      exact same_listing_iff

theorem list_decides_by_words_spacing :
    ∃ filter other,
      create (some "all of") (some " Foo\tbar foo") (some ["BAR", "FOO"]) {} = .ok filter ∧
      create (some "all of") (some "bar\u00a0FOO") none {} = .ok other ∧
      filter.Same other ∧ filter.summary = "all of (foo bar foo)" ∧
      selectTests (some filter) [⟨1, some "BAR foo"⟩, ⟨2, some "foo"⟩, ⟨1, some "BAR foo"⟩] =
        [⟨1, some "BAR foo"⟩, ⟨1, some "BAR foo"⟩] := by
  obtain ⟨hFilter, hOther, hWords, hText, hTests⟩ :
      create (some "all of") (some " Foo\tbar foo") (some ["BAR", "FOO"]) {} =
        .ok (listing .all {} " Foo\tbar foo") ∧
      create (some "all of") (some "bar\u00a0FOO") none {} = .ok (listing .all {} "bar\u00a0FOO") ∧
      foldSet {} (Text.words " Foo\tbar foo") = foldSet {} (Text.words "bar\u00a0FOO") ∧
      Quantifier.all.listText ((Text.words " Foo\tbar foo").map (fold {})) =
        "all of (foo bar foo)" ∧
      ([⟨1, some "BAR foo"⟩, ⟨2, some "foo"⟩, ⟨1, some "BAR foo"⟩] : List (TestCase Nat)).filter
          (fun test => decide (Quantifier.all.Holds (Text.words " Foo\tbar foo") fun word =>
            ∃ other ∈ test.words, fold {} other = fold {} word)) =
        [⟨1, some "BAR foo"⟩, ⟨1, some "BAR foo"⟩] := by
    decide +kernel
  obtain ⟨_, _, hBuilt⟩ :=
    list_decides_by_words .all {} (some ["BAR", "FOO"]) (some " Foo\tbar foo")
  obtain ⟨hSelects, hSummary, hSame⟩ := hBuilt _ hFilter
  refine ⟨_, _, hFilter, hOther, ?_, hSummary.trans hText, (hSelects _).trans hTests⟩
  rw [hSame {} none (some "bar\u00a0FOO") _ hOther]
  intro keyword
  rw [← mem_foldSet, ← mem_foldSet, Option.getD_some, hWords, Option.getD_some]

end Filter

end KeywordFilter
