import KeywordFilter.Proofs.ListFilter
import KeywordFilter.Proofs.Text.Words

/-!
# Texts with the same words

Two texts have the same words when their words are the same up to order (`Text.sameWords_iff_perm`).
Nothing that is done with the words of a text looks at their order: the keywords of a test are a set,
a list filter shows the order and does not go by it, and which words are declared is asked of each word
by itself. What the order decides is which undeclared word is named (`same_words_alike`).
-/

set_option autoImplicit false

namespace KeywordFilter

open Keyword

namespace Text

theorem pairwise_mergeSort_le (list : List String) :
    (list.mergeSort (· ≤ ·)).Pairwise (· ≤ ·) := by
  have hSorted : (list.mergeSort (· ≤ ·)).Pairwise fun word other => decide (word ≤ other) = true :=
    List.pairwise_mergeSort (fun _ _ _ => by simpa using String.le_trans)
      (fun _ _ => by simpa using String.le_total _ _) list
  simpa using hSorted

theorem sameWords_iff_perm {text other : String} :
    sameWords text other = true ↔ (words text).Perm (words other) := by
  rw [sameWords, beq_iff_eq]
  constructor
  · intro h
    have hText := (List.mergeSort_perm (words text) (· ≤ ·)).symm
    rw [h] at hText
    exact hText.trans (List.mergeSort_perm _ _)
  · intro h
    have hSorted := (List.mergeSort_perm (words text) (· ≤ ·)).trans
      (h.trans (List.mergeSort_perm (words other) (· ≤ ·)).symm)
    exact hSorted.eq_of_pairwise (fun _ _ _ _ => String.le_antisymm) (pairwise_mergeSort_le _)
      (pairwise_mergeSort_le _)

theorem equivalence_sameWords :
    Equivalence fun text other => sameWords text other = true where
  refl _ := sameWords_iff_perm.mpr (.refl _)
  symm h := sameWords_iff_perm.mpr (sameWords_iff_perm.mp h).symm
  trans h h' := sameWords_iff_perm.mpr ((sameWords_iff_perm.mp h).trans (sameWords_iff_perm.mp h'))

end Text

theorem Keyword.foldSet_eq_of_perm {words others : List String} (h : words.Perm others)
    (settings : FullSettings) : foldSet settings words = foldSet settings others := by
  apply KeywordSet.ext_mem
  intro keyword
  rw [mem_foldSet, mem_foldSet]
  exact exists_congr fun word => and_congr_left' h.mem_iff

/-- Errors that differ only in what they name. -/
inductive FilterError.SameKind : FilterError → FilterError → Prop where
  | emptyExpression : SameKind .emptyExpression .emptyExpression
  | emptyList : SameKind .emptyList .emptyList
  | unknownKeyword (keyword other : String) :
    SameKind (.unknownKeyword keyword) (.unknownKeyword other)
  | malformed (text other : String) (position place : Nat) (token found : String) :
    SameKind (.malformed text position token) (.malformed other place found)
  | unknownMode (mode other : String) : SameKind (.unknownMode mode) (.unknownMode other)

theorem selects_of_perm {ι : Type} {test other : TestCase ι} (h : test.words.Perm other.words)
    (filter : Option Filter) : selects filter test = selects filter other := by
  cases filter with
  | none => rfl
  | some filter =>
    rw [selects, selects, Option.all_some, Option.all_some, Filter.foldKeywords,
      Filter.foldKeywords, foldSet_eq_of_perm h]

namespace Filter

section
variable {quantifier : Quantifier} {settings : FullSettings} {vocabulary : Option (List String)}
variable {text other : String}

theorem create_list_eq_error {error : FilterError}
    (h : create (some (Mode.listed quantifier).name) (some text) vocabulary settings =
      .error error) :
    (Text.words text = [] ∧ error = .emptyList) ∨
      Text.words text ≠ [] ∧ ∃ word, error = .unknownKeyword word := by
  rcases create_list_eq_error_iff.mp h with ⟨hWords, rfl⟩ | ⟨before, word, after, hWords, _, _, rfl⟩
  · exact .inl ⟨hWords, rfl⟩
  · refine .inr ⟨?_, word, rfl⟩
    rw [Option.getD_some] at hWords
    rw [hWords]
    simp

theorem create_list_of_perm (h : (Text.words text).Perm (Text.words other)) {filter : Filter}
    (hFilter : create (some (Mode.listed quantifier).name) (some text) vocabulary settings =
      .ok filter) :
    ∃ filter', create (some (Mode.listed quantifier).name) (some other) vocabulary settings =
      .ok filter' ∧ filter.Same filter' := by
  obtain ⟨hWords, hKnown, rfl⟩ := create_list_eq_ok_iff.mp hFilter
  refine ⟨_, create_list_eq_ok_iff.mpr ⟨?_, ?_, rfl⟩, ?_⟩
  · intro hNil
    rw [Option.getD_some] at hNil
    rw [hNil, List.perm_nil] at h
    exact hWords h
  · intro word hWord
    exact hKnown word (h.mem_iff.mpr hWord)
  · rw [same_listing_iff]
    intro keyword
    exact exists_congr fun word => and_congr_left' h.mem_iff

theorem create_list_alike (h : (Text.words text).Perm (Text.words other)) :
    (∃ filter filter',
      create (some (Mode.listed quantifier).name) (some text) vocabulary settings = .ok filter ∧
      create (some (Mode.listed quantifier).name) (some other) vocabulary settings = .ok filter' ∧
      filter.Same filter') ∨
    ∃ error error',
      create (some (Mode.listed quantifier).name) (some text) vocabulary settings = .error error ∧
      create (some (Mode.listed quantifier).name) (some other) vocabulary settings = .error error' ∧
      error.SameKind error' := by
  cases hText : create (some (Mode.listed quantifier).name) (some text) vocabulary settings with
  | ok filter =>
    obtain ⟨filter', hOther, hSame⟩ := create_list_of_perm h hText
    exact .inl ⟨filter, filter', rfl, hOther, hSame⟩
  | error error =>
    cases hOther : create (some (Mode.listed quantifier).name) (some other) vocabulary settings with
    | ok filter' =>
      obtain ⟨filter, hFilter, _⟩ := create_list_of_perm h.symm hOther
      rw [hText] at hFilter
      cases hFilter
    | error error' =>
      refine .inr ⟨error, error', rfl, rfl, ?_⟩
      have hNil : Text.words text = [] ↔ Text.words other = [] :=
        ⟨fun hNil => (hNil ▸ h).nil_eq.symm, fun hNil => (hNil ▸ h).eq_nil⟩
      rcases create_list_eq_error hText with ⟨hWords, rfl⟩ | ⟨hWords, word, rfl⟩
      · rcases create_list_eq_error hOther with ⟨_, rfl⟩ | ⟨hOthers, _⟩
        · exact .emptyList
        · exact absurd (hNil.mp hWords) hOthers
      · rcases create_list_eq_error hOther with ⟨hOthers, _⟩ | ⟨_, word', rfl⟩
        · exact absurd (hNil.mpr hOthers) hWords
        · exact .unknownKeyword word word'

end

end Filter

/-- Texts are found to have the same words exactly if their words, the longest stretches without
blanks, are the same up to order. Every filter then selects a test with the one text as it selects the
test with the other, and lists of these words are built into filters that are the same or fail for the
same kind of reason. -/
theorem same_words_alike :
    Equivalence (fun text other => Text.sameWords text other = true) ∧
    ∀ text other : String,
      (∀ list, Text.HasWords text.toList list ↔ Text.words text = list) ∧
      (Text.sameWords text other = true ↔ (Text.words text).Perm (Text.words other)) ∧
      (Text.sameWords text other = true →
        (∀ {ι : Type} (filter : Option Filter) (test : TestCase ι),
          selects filter { test with keywords := some text } =
            selects filter { test with keywords := some other }) ∧
        ∀ (quantifier : Quantifier) (vocabulary : Option (List String)) (settings : FullSettings),
          (∃ filter filter',
            Filter.create (some (Mode.listed quantifier).name) (some text) vocabulary settings =
              .ok filter ∧
            Filter.create (some (Mode.listed quantifier).name) (some other) vocabulary settings =
              .ok filter' ∧
            filter.Same filter') ∨
          ∃ error error',
            Filter.create (some (Mode.listed quantifier).name) (some text) vocabulary settings =
              .error error ∧
            Filter.create (some (Mode.listed quantifier).name) (some other) vocabulary settings =
              .error error' ∧
            error.SameKind error') := by
  refine ⟨Text.equivalence_sameWords, ?_⟩
  intro text other
  refine ⟨fun _ => Text.hasWords_iff, Text.sameWords_iff_perm, ?_⟩
  intro hSame
  have hPerm := Text.sameWords_iff_perm.mp hSame
  refine ⟨?_, fun quantifier vocabulary settings => Filter.create_list_alike hPerm⟩
  intro ι filter test
  apply selects_of_perm
  exact hPerm

theorem same_words_alike_order :
    Text.sameWords " b A\tb" "A b\u00a0b" = true ∧
      selects (some (Filter.listing .all {} "a")) ⟨0, some " b A\tb"⟩ =
        selects (some (Filter.listing .all {} "a")) ⟨0, some "A b\u00a0b"⟩ ∧
      ∃ error error',
        Filter.create (some "all of") (some " b A\tb") (some []) {} = .error error ∧
        Filter.create (some "all of") (some "A b\u00a0b") (some []) {} = .error error' ∧
        error.SameKind error' := by
  obtain ⟨hWords, hText⟩ :
      (Text.words " b A\tb").Perm (Text.words "A b\u00a0b") ∧
      Filter.create (some (Mode.listed .all).name) (some " b A\tb") (some []) {} =
        .error (.unknownKeyword "b") := by
    decide +kernel
  obtain ⟨_, hPerm, hAlike⟩ := same_words_alike.2 " b A\tb" "A b\u00a0b"
  obtain ⟨hSelects, hCreate⟩ := hAlike (hPerm.mpr hWords)
  refine ⟨hPerm.mpr hWords, hSelects _ ⟨0, none⟩, ?_⟩
  rcases hCreate .all (some []) {} with ⟨filter, _, hFilter, _⟩ | hErrors
  · rw [hText] at hFilter
    cases hFilter
  · exact hErrors

end KeywordFilter
