import KeywordFilter.Proofs.Filter
import KeywordFilter.Proofs.Folding
import KeywordFilter.Proofs.Tree.Keywords
import KeywordFilter.Proofs.WordList
import KeywordFilter.Suite

/-!
# What a vocabulary does

A vocabulary is only asked whether it admits a keyword. With a vocabulary that admits fewer keywords
everything goes on in the same way, up to the first keyword that is refused (`OnlyRejects`). What comes
of a text is therefore either such a refusal or what comes of it without a vocabulary, and a filter
that is built has no keywords but those of the vocabulary (`Filter.vocabulary_only_rejects`).
-/

set_option autoImplicit false

namespace KeywordFilter

/-- The first outcome is the second one, unless a keyword was refused. -/
def OnlyRejects {α : Type} (strict lax : Except FilterError α) : Prop :=
  (∃ keyword, strict = .error (.unknownKeyword keyword)) ∨ strict = lax

namespace OnlyRejects

variable {α β : Type}

theorem refl (outcome : Except FilterError α) : OnlyRejects outcome outcome :=
  .inr rfl

theorem refused (keyword : String) (outcome : Except FilterError α) :
    OnlyRejects (.error (.unknownKeyword keyword)) outcome :=
  .inl ⟨keyword, rfl⟩

theorem bind {strict lax : Except FilterError α} {next next' : α → Except FilterError β}
    (h : OnlyRejects strict lax) (hNext : ∀ a, OnlyRejects (next a) (next' a)) :
    OnlyRejects (strict >>= next) (lax >>= next') := by
  rcases h with ⟨keyword, rfl⟩ | rfl
  · exact refused keyword _
  · cases strict with
    | error error => exact refl _
    | ok a => exact hNext a

theorem foldlM {step step' : β → α → Except FilterError β}
    (h : ∀ state a, OnlyRejects (step state a) (step' state a)) (list : List α) (state : β) :
    OnlyRejects (list.foldlM step state) (list.foldlM step' state) := by
  induction list generalizing state with
  | nil => exact refl _
  | cons a rest ih =>
    rw [List.foldlM_cons, List.foldlM_cons]
    exact (h state a).bind ih

theorem mapM {step step' : α → Except FilterError β} (h : ∀ a, OnlyRejects (step a) (step' a))
    (list : List α) : OnlyRejects (list.mapM step) (list.mapM step') := by
  induction list with
  | nil => exact refl _
  | cons a rest ih =>
    rw [List.mapM_cons, List.mapM_cons]
    exact (h a).bind fun _ => ih.bind fun _ => refl _

end OnlyRejects

def Vocabulary.Within (vocabulary other : Vocabulary) : Prop :=
  ∀ keyword, vocabulary.allows keyword = true → other.allows keyword = true

theorem Vocabulary.within_none (vocabulary : Vocabulary) : vocabulary.Within none := by
  intro keyword _
  rfl

theorem Vocabulary.allows_ofWords {settings : FullSettings} {words : List String} {keyword : String} :
    (Vocabulary.ofWords settings (some words)).allows keyword = true ↔
      keyword ∈ Keyword.foldSet settings words := by
  simp [ofWords, allows]

section
variable {vocabulary other : Vocabulary} (h : vocabulary.Within other)
include h

theorem Expression.onlyRejects_advance (text : String) (reading : Reading) (lexeme : Lexeme) :
    OnlyRejects (advance text vocabulary reading lexeme) (advance text other reading lexeme) := by
  unfold advance
  split
  · exact .refl _
  · split
    · next value hToken =>
      by_cases hValue : vocabulary.allows value = true
      · rw [if_pos hValue, if_pos (h value hValue)]
        exact .refl _
      · rw [if_neg hValue]
        exact .refused value _
    · exact .refl _

theorem WordList.onlyRejects_check (settings : FullSettings) (word : String) :
    OnlyRejects (check settings vocabulary word) (check settings other word) := by
  simp only [check]
  by_cases hWord : vocabulary.allows (Keyword.fold settings word) = true
  · rw [if_pos hWord, if_pos (h _ hWord)]
    exact .refl _
  · rw [if_neg hWord]
    exact .refused word _

end

section
variable {settings : FullSettings} {words others : Option (List String)}
variable (h : (Vocabulary.ofWords settings words).Within (Vocabulary.ofWords settings others))
include h

theorem Mode.onlyRejects_compile (mode : Mode) (text : String) :
    OnlyRejects (mode.compile settings words text) (mode.compile settings others text) := by
  cases mode with
  | listed quantifier =>
    simp only [compile, WordList.build]
    split
    · exact .refl _
    · exact (OnlyRejects.mapM (WordList.onlyRejects_check h settings) _).bind fun _ => .refl _
  | expression =>
    simp only [compile, Expression.parse]
    split
    · exact .refl _
    · exact (OnlyRejects.foldlM (Expression.onlyRejects_advance h text) _ _).bind fun _ => .refl _

theorem Filter.onlyRejects_create (mode text : Option String) :
    OnlyRejects (create mode text words settings) (create mode text others settings) := by
  unfold create
  split
  · exact .refl _
  · split
    · exact .refl _
    · split
      · exact .refl _
      · next kind _ => exact (kind.onlyRejects_compile h _).bind fun _ => .refl _

end

/-- A condition is built under a vocabulary exactly if it is built without one and has no keywords but
those that the vocabulary admits. -/
theorem Mode.compile_eq_ok_iff {mode : Mode} {settings : FullSettings} {words : Option (List String)}
    {text : String} {tree : Predicate} :
    mode.compile settings words text = .ok tree ↔
      mode.compile settings none text = .ok tree ∧
        ∀ word ∈ tree.keywords, (Vocabulary.ofWords settings words).allows word = true := by
  cases mode with
  | listed quantifier =>
    simp only [compile, WordList.build_eq_ok_iff]
    constructor
    · rintro ⟨hWords, hKnown, rfl⟩
      refine ⟨⟨hWords, fun _ _ => rfl, rfl⟩, ?_⟩
      intro keyword hKeyword
      obtain ⟨word, hWord, rfl⟩ := Keyword.mem_foldSet.mp hKeyword
      exact hKnown word hWord
    · rintro ⟨⟨hWords, _, rfl⟩, hKnown⟩
      refine ⟨hWords, ?_, rfl⟩
      intro word hWord
      exact hKnown _ (Keyword.mem_foldSet.mpr ⟨word, hWord, rfl⟩)
  | expression =>
    simp only [compile, Expression.parse_eq_ok_iff, folds_iff_assigns]
    constructor
    · rintro ⟨tokens, hSpells, hCovers, hAssigns⟩
      exact ⟨⟨tokens, hSpells, fun _ _ => rfl, hAssigns⟩, hAssigns.allKeywords_iff.mp hCovers⟩
    · rintro ⟨⟨tokens, hSpells, _, hAssigns⟩, hKnown⟩
      exact ⟨tokens, hSpells, hAssigns.allKeywords_iff.mpr hKnown, hAssigns⟩

namespace Filter

theorem create_eq_ok_iff_keywords {mode text : Option String} {settings : FullSettings}
    {words : List String} {filter : Filter} :
    create mode text (some words) settings = .ok filter ↔
      create mode text none settings = .ok filter ∧
        ∀ predicate ∈ filter.predicate?, ∀ word ∈ predicate.keywords,
          word ∈ Keyword.foldSet settings words := by
  simp only [create_eq_ok_iff, ← Vocabulary.allows_ofWords]
  constructor
  · rintro (⟨hMode, rfl⟩ | ⟨kind, hKind, tree, hTree, rfl⟩)
    · exact ⟨.inl ⟨hMode, rfl⟩, nofun⟩
    · obtain ⟨hFree, hKnown⟩ := Mode.compile_eq_ok_iff.mp hTree
      refine ⟨.inr ⟨kind, hKind, tree, hFree, rfl⟩, ?_⟩
      rintro predicate ⟨⟩
      exact hKnown
  · rintro ⟨⟨hMode, rfl⟩ | ⟨kind, hKind, tree, hFree, rfl⟩, hKnown⟩
    · exact .inl ⟨hMode, rfl⟩
    · exact .inr ⟨kind, hKind, tree, Mode.compile_eq_ok_iff.mpr ⟨hFree, hKnown tree rfl⟩, rfl⟩

/-- With a vocabulary a filter is built as without one, or a keyword is refused. It is built exactly if
it has no keywords but those of the vocabulary. A vocabulary that has more words then leads to the same
filter, and neither its answer nor the selection of a test depends on keywords that the vocabulary
lacks. -/
theorem vocabulary_only_rejects (mode text : Option String) (settings : FullSettings)
    (words : List String) :
    ((∃ keyword, create mode text (some words) settings = .error (.unknownKeyword keyword)) ∨
      create mode text (some words) settings = create mode text none settings) ∧
    (∀ filter, create mode text (some words) settings = .ok filter ↔
      create mode text none settings = .ok filter ∧
        ∀ predicate ∈ filter.predicate?, ∀ word ∈ predicate.keywords,
          word ∈ Keyword.foldSet settings words) ∧
    ∀ name filter, mode = some name → name ≠ ignoreName →
      create mode text (some words) settings = .ok filter →
      (∃ predicate, filter.predicate? = some predicate ∧
        ∀ word ∈ predicate.keywords, word ∈ Keyword.foldSet settings words) ∧
      (∀ others,
        (∀ word ∈ Keyword.foldSet settings words, word ∈ Keyword.foldSet settings others) →
          create mode text (some others) settings = .ok filter) ∧
      (∀ first second : KeywordSet,
        (∀ word ∈ Keyword.foldSet settings words, word ∈ first ↔ word ∈ second) →
          filter.accepts first = filter.accepts second) ∧
      ∀ {ι : Type} (test other : TestCase ι),
        (∀ word ∈ Keyword.foldSet settings words,
          word ∈ Keyword.foldSet settings test.words ↔
            word ∈ Keyword.foldSet settings other.words) →
          selects (some filter) test = selects (some filter) other := by
  refine ⟨onlyRejects_create (Vocabulary.within_none _) mode text,
    fun _ => create_eq_ok_iff_keywords, ?_⟩
  rintro name filter rfl hName hFilter
  obtain ⟨hFree, hKnown⟩ := create_eq_ok_iff_keywords.mp hFilter
  obtain ⟨hMode | hMode, _⟩ | ⟨kind, _, tree, _, rfl⟩ := create_eq_ok_iff.mp hFilter
  · cases hMode
  · exact absurd (Option.some.inj hMode) hName
  have hAccepts : ∀ first second : KeywordSet,
      (∀ word ∈ Keyword.foldSet settings words, word ∈ first ↔ word ∈ second) →
        (matching kind (text.getD "") tree settings).accepts first =
          (matching kind (text.getD "") tree settings).accepts second := by
    intro first second hAgree
    exact Predicate.accepts_congr fun word hWord => hAgree word (hKnown tree rfl word hWord)
  refine ⟨⟨tree, rfl, hKnown tree rfl⟩, ?_, hAccepts, ?_⟩
  · intro others hOthers
    refine create_eq_ok_iff_keywords.mpr ⟨hFree, ?_⟩
    intro predicate hPredicate word hWord
    exact hOthers word (hKnown predicate hPredicate word hWord)
  · intro ι test other hAgree
    exact hAccepts _ _ hAgree

theorem vocabulary_only_rejects_accents :
    ∃ filter, create (some "expr") (some "a & !É") (some ["A", "é"]) {} = .ok filter ∧
      create (some "expr") (some "a & !É") (some ["É", "a", "b"]) {} = .ok filter ∧
      filter.accepts (KeywordSet.ofList ["a"]) = filter.accepts (KeywordSet.ofList ["a", "b"]) := by
  obtain ⟨hFilter, hOthers, hAgree⟩ :
      create (some "expr") (some "a & !É") (some ["A", "é"]) {} =
        .ok (matching .expression "a & !É" (.binary .and (.literal "a") (.not (.literal "é"))) {}) ∧
      (∀ word ∈ Keyword.foldSet {} ["A", "é"], word ∈ Keyword.foldSet {} ["É", "a", "b"]) ∧
      ∀ word ∈ Keyword.foldSet {} ["A", "é"],
        word ∈ KeywordSet.ofList ["a"] ↔ word ∈ KeywordSet.ofList ["a", "b"] := by
    decide +kernel
  have hKnown := (vocabulary_only_rejects (some "expr") (some "a & !É") {} ["A", "é"]).2.2
  obtain ⟨_, hWider, hAccepts, _⟩ := hKnown "expr" _ rfl (by decide) hFilter
  exact ⟨_, hFilter, hWider ["É", "a", "b"] hOthers, hAccepts _ _ hAgree⟩

end Filter

end KeywordFilter
