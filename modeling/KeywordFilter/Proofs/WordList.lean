import KeywordFilter.Proofs.Parsing
import KeywordFilter.WordList

/-!
# Which lists of words are conditions

A list is accepted when it has words and the vocabulary has the folded form of each of them
(`build_eq_ok_iff`). The first word that the vocabulary lacks is the one that is reported
(`build_eq_error_iff`).
-/

set_option autoImplicit false

namespace KeywordFilter.WordList

open Expression Keyword

theorem check_eq_ok_iff {settings : FullSettings} {vocabulary : Vocabulary} {word keyword : String} :
    check settings vocabulary word = .ok keyword ↔
      vocabulary.allows (fold settings word) = true ∧ keyword = fold settings word := by
  simp only [check]
  split
  · next h =>
    constructor
    · rintro ⟨⟩
      exact ⟨h, rfl⟩
    · rintro ⟨_, rfl⟩
      rfl
  · next h => exact ⟨nofun, fun hKnown => absurd hKnown.1 h⟩

theorem mapM_check_eq_ok_iff {settings : FullSettings} {vocabulary : Vocabulary}
    {words folded : List String} :
    words.mapM (check settings vocabulary) = .ok folded ↔
      (∀ word ∈ words, vocabulary.allows (fold settings word) = true) ∧
        folded = words.map (fold settings) := by
  induction words generalizing folded with
  | nil =>
    rw [List.mapM_nil]
    constructor
    · rintro ⟨⟩
      exact ⟨nofun, rfl⟩
    · rintro ⟨_, rfl⟩
      rfl
  | cons word rest ih =>
    rw [List.mapM_cons, bind_eq_ok_iff]
    constructor
    · rintro ⟨keyword, hKeyword, hRest⟩
      obtain ⟨others, hOthers, hFolded⟩ := bind_eq_ok_iff.mp hRest
      obtain ⟨hWord, rfl⟩ := check_eq_ok_iff.mp hKeyword
      obtain ⟨hKnown, rfl⟩ := ih.mp hOthers
      cases hFolded
      exact ⟨List.forall_mem_cons.mpr ⟨hWord, hKnown⟩, rfl⟩
    · rintro ⟨hKnown, rfl⟩
      obtain ⟨hWord, hRest⟩ := List.forall_mem_cons.mp hKnown
      refine ⟨_, check_eq_ok_iff.mpr ⟨hWord, rfl⟩, ?_⟩
      exact bind_eq_ok_iff.mpr ⟨_, ih.mpr ⟨hRest, rfl⟩, rfl⟩

theorem build_eq_ok_iff {quantifier : Quantifier} {settings : FullSettings}
    {vocabulary : Option (List String)} {words : List String} {tree : Predicate} :
    build quantifier settings vocabulary words = .ok tree ↔
      words ≠ [] ∧
        (∀ word ∈ words,
          (Vocabulary.ofWords settings vocabulary).allows (fold settings word) = true) ∧
        tree = .listed quantifier (foldSet settings words) (words.map (fold settings)) := by
  cases words with
  | nil => simp [build]
  | cons word rest =>
    have hBuild : build quantifier settings vocabulary (word :: rest) =
        ((word :: rest).mapM (check settings (Vocabulary.ofWords settings vocabulary)) >>=
          fun folded => pure (.listed quantifier (KeywordSet.ofList folded) folded)) := rfl
    rw [hBuild, bind_eq_ok_iff]
    constructor
    · rintro ⟨folded, hFolded, hTree⟩
      obtain ⟨hKnown, rfl⟩ := mapM_check_eq_ok_iff.mp hFolded
      cases hTree
      exact ⟨List.cons_ne_nil word rest, hKnown, rfl⟩
    · rintro ⟨_, hKnown, rfl⟩
      exact ⟨_, mapM_check_eq_ok_iff.mpr ⟨hKnown, rfl⟩, rfl⟩

theorem check_eq_error_iff {settings : FullSettings} {vocabulary : Vocabulary} {word : String}
    {error : FilterError} :
    check settings vocabulary word = .error error ↔
      vocabulary.allows (fold settings word) = false ∧ error = .unknownKeyword word := by
  simp only [check]
  cases vocabulary.allows (fold settings word) <;> simp [eq_comm]

theorem mapM_check_eq_error_iff {settings : FullSettings} {vocabulary : Vocabulary}
    {words : List String} {error : FilterError} :
    words.mapM (check settings vocabulary) = .error error ↔
      ∃ before word after, words = before ++ word :: after ∧
        (∀ other ∈ before, vocabulary.allows (fold settings other) = true) ∧
        vocabulary.allows (fold settings word) = false ∧ error = .unknownKeyword word := by
  constructor
  · intro h
    induction words with
    | nil => cases h
    | cons first rest ih =>
      rw [List.mapM_cons] at h
      rcases bind_eq_error_iff.mp h with hFirst | ⟨keyword, hFirst, hRest⟩
      · exact ⟨[], first, rest, rfl, nofun, check_eq_error_iff.mp hFirst⟩
      · rcases bind_eq_error_iff.mp hRest with hRest | ⟨_, _, hPure⟩
        · obtain ⟨before, word, after, rfl, hBefore, hWord⟩ := ih hRest
          refine ⟨first :: before, word, after, rfl, ?_, hWord⟩
          exact List.forall_mem_cons.mpr ⟨(check_eq_ok_iff.mp hFirst).1, hBefore⟩
        · cases hPure
  · rintro ⟨before, word, after, rfl, hBefore, hWord⟩
    have hKnown := mapM_check_eq_ok_iff.mpr ⟨hBefore, rfl⟩
    rw [List.mapM_append, hKnown, List.mapM_cons, check_eq_error_iff.mpr hWord]
    rfl

theorem build_eq_error_iff {quantifier : Quantifier} {settings : FullSettings}
    {vocabulary : Option (List String)} {words : List String} {error : FilterError} :
    build quantifier settings vocabulary words = .error error ↔
      words = [] ∧ error = .emptyList ∨
        ∃ before word after, words = before ++ word :: after ∧
          (∀ other ∈ before,
            (Vocabulary.ofWords settings vocabulary).allows (fold settings other) = true) ∧
          (Vocabulary.ofWords settings vocabulary).allows (fold settings word) = false ∧
            error = .unknownKeyword word := by
  rw [← mapM_check_eq_error_iff]
  cases words with
  | nil => simp [build, pure, Except.pure, eq_comm]
  | cons word rest =>
    have hBuild : build quantifier settings vocabulary (word :: rest) =
        ((word :: rest).mapM (check settings (Vocabulary.ofWords settings vocabulary)) >>=
          fun folded => pure (.listed quantifier (KeywordSet.ofList folded) folded)) := rfl
    rw [hBuild, bind_eq_error_iff]
    simp [pure, Except.pure]

end KeywordFilter.WordList
