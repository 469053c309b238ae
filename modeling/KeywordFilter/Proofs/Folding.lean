import KeywordFilter.Keyword
import KeywordFilter.Proofs.Unicode.Ascii

/-!
# Folding twice

Transliteration comes after lower-casing and may write capital letters. Folding a folded word does
no more than to lower-case it (`foldChars_foldChars`), so exactly the words that got a capital letter
change once again, and none of them a third time (`fold_fold_iff`).
-/

set_option autoImplicit false

namespace KeywordFilter

open Unicode

namespace Keyword

theorem mem_foldSet {settings : FullSettings} {words : List String} {keyword : String} :
    keyword ∈ foldSet settings words ↔ ∃ word ∈ words, fold settings word = keyword := by
  rw [foldSet, KeywordSet.mem_ofList, List.mem_map]

theorem foldChars_eq_lower {settings : FullSettings} (hAccents : settings.ignoreAccents = false) :
    foldChars settings = lower := by
  funext word
  rw [foldChars, hAccents, if_neg Bool.false_ne_true]

theorem toList_fold (settings : FullSettings) (word : String) :
    (fold settings word).toList = foldChars settings word.toList :=
  String.toList_ofList

theorem ofIdentifier_eq (settings : FullSettings) {text : List Char}
    (h : ∀ c ∈ text, isIgnorable c = false) :
    ofIdentifier settings text = String.ofList (foldChars settings text) := by
  have hFilter : text.filter (!isIgnorable ·) = text := by
    rw [List.filter_eq_self]
    intro c hc
    simp [h c hc]
  rw [ofIdentifier, hFilter]

theorem foldChars_lower (settings : FullSettings) (word : List Char) :
    foldChars settings (lower word) = foldChars settings word := by
  simp only [foldChars, lower_lower]

theorem foldChars_foldChars (settings : FullSettings) (word : List Char) :
    foldChars settings (foldChars settings word) = lower (foldChars settings word) := by
  cases hAccents : settings.ignoreAccents with
  | false => rw [foldChars_eq_lower hAccents]
  | true =>
    have hAscii : IsAscii (foldChars settings word) := by
      rw [foldChars, if_pos hAccents]
      exact isAscii_transliterate _ _
    -- lower-casing does not leave ASCII, and there transliteration has nothing to do
    have hLower : IsAscii (lower (foldChars settings word)) := (isAscii_lowerAfter hAscii).1
    rw [foldChars, if_pos hAccents, transliterate_of_isAscii hLower]

theorem lowered_iff_of_mem_foldChars {settings : FullSettings} {word : List Char} {c : Char}
    (hc : c ∈ foldChars settings word) : Lowered c ↔ c.isUpper = false := by
  refine ⟨isUpper_eq_false_of_lowered, ?_⟩
  intro hCapital
  cases hAccents : settings.ignoreAccents with
  | false =>
    rw [foldChars_eq_lower hAccents] at hc
    exact lowered_of_mem_lower hc
  | true =>
    rw [foldChars, if_pos hAccents] at hc
    exact lowered_of_ascii (isAscii_transliterate _ _ c hc) hCapital

theorem fold_fold_eq_self_iff {settings : FullSettings} {word : String} :
    fold settings (fold settings word) = fold settings word ↔
      ∀ c ∈ (fold settings word).toList, c.isUpper = false := by
  rw [← String.toList_inj, toList_fold, toList_fold, foldChars_foldChars, lower_eq_self_iff]
  exact forall₂_congr fun c hc => lowered_iff_of_mem_foldChars hc

theorem isUpper_of_mem_fold_fold {settings : FullSettings} {word : String} {c : Char}
    (hc : c ∈ (fold settings (fold settings word)).toList) : c.isUpper = false := by
  rw [toList_fold, toList_fold, foldChars_foldChars] at hc
  exact isUpper_eq_false_of_lowered (lowered_of_mem_lower hc)

theorem foldSet_foldSet_eq_self_iff {settings : FullSettings} {words : List String} :
    foldSet settings (foldSet settings words).toList = foldSet settings words ↔
      ∀ word ∈ words, ∀ c ∈ (fold settings word).toList, c.isUpper = false := by
  constructor
  · intro h word hWord
    have hFold : fold settings word ∈ foldSet settings words := mem_foldSet.mpr ⟨word, hWord, rfl⟩
    -- the fold of the word is the fold of a folded word, perhaps not of itself
    rw [← h] at hFold
    obtain ⟨folded, hFolded, hAgain⟩ := mem_foldSet.mp hFold
    obtain ⟨source, _, rfl⟩ := mem_foldSet.mp (KeywordSet.mem_iff.mpr hFolded)
    intro c hc
    rw [← hAgain] at hc
    exact isUpper_of_mem_fold_fold hc
  · intro h
    have hSame : ∀ word ∈ foldSet settings words, fold settings word = word := by
      intro word hWord
      obtain ⟨source, hSource, rfl⟩ := mem_foldSet.mp hWord
      exact fold_fold_eq_self_iff.mpr (h source hSource)
    refine KeywordSet.ext_mem fun word => ?_
    rw [mem_foldSet]
    constructor
    · rintro ⟨folded, hFolded, rfl⟩
      rwa [hSame folded hFolded]
    · intro hWord
      exact ⟨word, hWord, hSame word hWord⟩

/-- Folding is idempotent exactly on the words whose folded form holds no capital letter, alone or in
sets; those are all words unless accents are ignored. Folding a third time never changes a word. -/
theorem fold_fold_iff (settings : FullSettings) :
    (∀ word, fold settings (fold settings word) = fold settings word ↔
      ∀ c ∈ (fold settings word).toList, c.isUpper = false) ∧
    (∀ words, foldSet settings (foldSet settings words).toList = foldSet settings words ↔
      ∀ word ∈ words, ∀ c ∈ (fold settings word).toList, c.isUpper = false) ∧
    (settings.ignoreAccents = true ∨
      ∀ word, fold settings (fold settings word) = fold settings word) ∧
    ∀ word, fold settings (fold settings (fold settings word)) =
      fold settings (fold settings word) := by
  refine ⟨fun word => fold_fold_eq_self_iff, fun words => foldSet_foldSet_eq_self_iff, ?_, ?_⟩
  · cases hAccents : settings.ignoreAccents with
    | true => exact .inl rfl
    | false =>
      refine .inr fun word => fold_fold_eq_self_iff.mpr fun c hc => ?_
      rw [toList_fold, foldChars_eq_lower hAccents] at hc
      exact isUpper_eq_false_of_lowered (lowered_of_mem_lower hc)
  · intro word
    exact fold_fold_eq_self_iff.mpr fun c hc => isUpper_of_mem_fold_fold hc

/-- A mathematical bold A is spelled as a capital letter, which is not its own folded form. -/
theorem fold_not_canonical :
    fold { ignoreAccents := true } "𝐀" = "A" ∧ fold { ignoreAccents := true } "A" = "a" ∧
      ¬ ∀ (settings : FullSettings) (word : String),
        fold settings (fold settings word) = fold settings word := by
  have hFolds : fold { ignoreAccents := true } "𝐀" = "A" ∧
      fold { ignoreAccents := true } "A" = "a" := by
    decide +kernel
  refine ⟨hFolds.1, hFolds.2, ?_⟩
  intro h
  have hSame := h { ignoreAccents := true } "𝐀"
  rw [hFolds.1, hFolds.2] at hSame
  exact absurd hSame (by decide)

end Keyword

end KeywordFilter
