import KeywordFilter.Text.Words
import Mathlib.Data.List.TakeWhile

/-!
# Splitting at blanks

A blank parts the words before it from the words behind it (`splitWords_append_blank`), and a stretch
without blanks is a word. Words with blanks between them are therefore the words of the whole, and every
text is put together in this way (`hasWords_iff`).
-/

set_option autoImplicit false

namespace KeywordFilter.Text

open Unicode (isBlank)

theorem splitWords_of_blank {text : List Char} (h : text.dropWhile isBlank = []) :
    splitWords text = [] := by
  rw [splitWords]
  split
  · rfl
  · next hSplit =>
    rw [h] at hSplit
    cases hSplit

theorem splitWords_of_dropWhile {text rest : List Char} {c : Char}
    (h : text.dropWhile isBlank = c :: rest) :
    splitWords text =
      (c :: rest.takeWhile (!isBlank ·)) :: splitWords (rest.dropWhile (!isBlank ·)) := by
  rw [splitWords]
  split
  · next hSplit =>
    rw [h] at hSplit
    cases hSplit
  · next hSplit =>
    rw [h] at hSplit
    cases hSplit
    rfl

theorem splitWords_cons_blank {c : Char} (h : isBlank c = true) (text : List Char) :
    splitWords (c :: text) = splitWords text := by
  have hDrop : (c :: text).dropWhile isBlank = text.dropWhile isBlank :=
    List.dropWhile_cons_of_pos h
  cases hText : text.dropWhile isBlank with
  | nil => rw [splitWords_of_blank hText, splitWords_of_blank (hDrop.trans hText)]
  | cons d rest => rw [splitWords_of_dropWhile hText, splitWords_of_dropWhile (hDrop.trans hText)]

theorem splitWords_append_of_blank {blanks : List Char} (h : ∀ c ∈ blanks, isBlank c = true)
    (text : List Char) : splitWords (blanks ++ text) = splitWords text := by
  induction blanks with
  | nil => rfl
  | cons c blanks ih =>
    rw [List.cons_append, splitWords_cons_blank (h c List.mem_cons_self)]
    exact ih fun d hd => h d (List.mem_cons_of_mem c hd)

theorem span_append_blank {c : Char} (h : isBlank c = true) (text next : List Char) :
    (text ++ c :: next).takeWhile (!isBlank ·) = text.takeWhile (!isBlank ·) ∧
      (text ++ c :: next).dropWhile (!isBlank ·) = text.dropWhile (!isBlank ·) ++ c :: next := by
  induction text with
  | nil => simp [h]
  | cons d text ih =>
    cases hd : isBlank d with
    | true => simp [hd]
    | false => simpa [hd] using ih

theorem splitWords_append_blank (text : List Char) {c : Char} (h : isBlank c = true)
    (next : List Char) : splitWords (text ++ c :: next) = splitWords text ++ splitWords next := by
  fun_induction splitWords text with
  | case1 text hSplit =>
    rw [splitWords_append_of_blank (List.dropWhile_eq_nil_iff.mp hSplit), List.nil_append,
      splitWords_cons_blank h]
  | case2 text d rest hSplit ih =>
    obtain ⟨hTake, hDrop⟩ := span_append_blank h rest next
    have hText : (text ++ c :: next).dropWhile isBlank = d :: (rest ++ c :: next) := by
      rw [List.dropWhile_append, hSplit]
      rfl
    rw [splitWords_of_dropWhile hText, hTake, hDrop, ih, List.cons_append]

theorem splitWords_append_blanks (text : List Char) {blanks : List Char} (hSome : blanks ≠ [])
    (h : ∀ c ∈ blanks, isBlank c = true) (next : List Char) :
    splitWords (text ++ (blanks ++ next)) = splitWords text ++ splitWords next := by
  obtain ⟨c, others, rfl⟩ := List.exists_cons_of_ne_nil hSome
  rw [List.cons_append, splitWords_append_blank text (h c List.mem_cons_self),
    splitWords_append_of_blank fun d hd => h d (List.mem_cons_of_mem c hd)]

theorem splitWords_of_not_blank {word : List Char} (hSome : word ≠ [])
    (h : ∀ c ∈ word, isBlank c = false) : splitWords word = [word] := by
  obtain ⟨c, rest, rfl⟩ := List.exists_cons_of_ne_nil hSome
  have hRest : ∀ d ∈ rest, (!isBlank d) = true := by
    intro d hd
    rw [h d (List.mem_cons_of_mem c hd)]
    rfl
  have hDrop : (c :: rest).dropWhile isBlank = c :: rest :=
    List.dropWhile_cons_of_neg (by simp [h c List.mem_cons_self])
  rw [splitWords_of_dropWhile hDrop, List.takeWhile_eq_self_iff.mpr hRest,
    List.dropWhile_eq_nil_iff.mpr hRest, splitWords_of_blank rfl]

/-- Words that are joined by blanks are the words of the whole. -/
theorem words_intercalate {blanks : String} (hSome : blanks ≠ "")
    (hBlanks : isBlankText blanks = true) {list : List String}
    (h : ∀ word ∈ list, splitWords word.toList = [word.toList]) :
    words (blanks.intercalate list) = list := by
  induction list with
  | nil =>
    rw [String.intercalate_nil, words, String.toList_empty, splitWords_of_blank rfl, List.map_nil]
  | cons word rest ih =>
    obtain ⟨hWord, hRest⟩ := List.forall_mem_cons.mp h
    cases rest with
    | nil => simp [words, hWord]
    | cons next rest =>
      have hNonempty : blanks.toList ≠ [] := by simpa using hSome
      have hText : (blanks.intercalate (word :: next :: rest)).toList =
          word.toList ++ (blanks.toList ++ (blanks.intercalate (next :: rest)).toList) := by
        rw [String.intercalate_cons_cons, String.append_assoc, String.toList_append,
          String.toList_append]
      rw [words, hText, splitWords_append_blanks _ hNonempty (List.all_eq_true.mp hBlanks), hWord,
        List.map_append, ← words, ih hRest]
      simp

/-- The text consists of the words, each of them as long as it can be, and of blanks. -/
inductive HasWords : List Char → List String → Prop where
  | blank {blanks : List Char} : (∀ c ∈ blanks, isBlank c = true) → HasWords blanks []
  | word {blanks rest : List Char} {word : String} {words : List String} :
    (∀ c ∈ blanks, isBlank c = true) → word ≠ "" → (∀ c ∈ word.toList, isBlank c = false) →
      (∀ c ∈ rest.head?, isBlank c = true) → HasWords rest words →
        HasWords (blanks ++ (word.toList ++ rest)) (word :: words)

theorem splitWords_word {word rest : List Char} (hSome : word ≠ [])
    (hWord : ∀ c ∈ word, isBlank c = false) (hRest : ∀ c ∈ rest.head?, isBlank c = true) :
    splitWords (word ++ rest) = word :: splitWords rest := by
  cases rest with
  | nil => rw [List.append_nil, splitWords_of_not_blank hSome hWord, splitWords_of_blank rfl]
  | cons c rest =>
    have hBlank : isBlank c = true := hRest c rfl
    rw [splitWords_append_blank word hBlank, splitWords_of_not_blank hSome hWord,
      splitWords_cons_blank hBlank, List.singleton_append]

theorem isBlank_of_head?_dropWhile {text : List Char} {c : Char}
    (h : c ∈ (text.dropWhile (!isBlank ·)).head?) : isBlank c = true := by
  have hHead := List.head?_dropWhile_not (!isBlank ·) text
  rw [Option.mem_def.mp h] at hHead
  simpa using hHead

theorem hasWords_splitWords (text : List Char) :
    HasWords text ((splitWords text).map String.ofList) := by
  fun_induction splitWords text with
  | case1 text hSplit => exact .blank (List.dropWhile_eq_nil_iff.mp hSplit)
  | case2 text c rest hSplit ih =>
    have hFirst : isBlank c = false := by
      have hHead := List.head?_dropWhile_not isBlank text
      rw [hSplit] at hHead
      exact hHead
    have hText : text = text.takeWhile isBlank ++
        ((String.ofList (c :: rest.takeWhile (!isBlank ·))).toList ++
          rest.dropWhile (!isBlank ·)) := by
      rw [String.toList_ofList, List.cons_append, List.takeWhile_append_dropWhile, ← hSplit,
        List.takeWhile_append_dropWhile]
    rw [hText, List.map_cons]
    refine .word ?_ ?_ ?_ (fun d hd => isBlank_of_head?_dropWhile hd) ih
    · exact fun d hd => List.mem_takeWhile_imp hd
    · simp
    · rw [String.toList_ofList]
      intro d hd
      rcases List.mem_cons.mp hd with rfl | hd
      · exact hFirst
      · simpa using List.mem_takeWhile_imp hd

theorem HasWords.splitWords_eq {text : List Char} {list : List String} (h : HasWords text list) :
    (splitWords text).map String.ofList = list := by
  induction h with
  | blank hBlanks =>
    rw [splitWords_of_blank (List.dropWhile_eq_nil_iff.mpr hBlanks), List.map_nil]
  | @word _ _ word _ hBlanks hSome hWord hRest _ ih =>
    have hChars : word.toList ≠ [] := fun hNil => hSome (String.toList_eq_nil_iff.mp hNil)
    rw [splitWords_append_of_blank hBlanks, splitWords_word hChars hWord hRest, List.map_cons, ih,
      String.ofList_toList]

theorem hasWords_iff {text : String} {list : List String} :
    HasWords text.toList list ↔ words text = list := by
  constructor
  · exact HasWords.splitWords_eq
  · rintro rfl
    exact hasWords_splitWords text.toList

end KeywordFilter.Text
