import KeywordFilter.Proofs.Filter
import KeywordFilter.Proofs.Folding
import KeywordFilter.Proofs.TokenStream
import KeywordFilter.Proofs.Tree.Rendering
import KeywordFilter.Proofs.Unicode.Lowercase
import Mathlib.Data.List.TakeWhile

/-!
# Reading a summary again

A keyword is stable when it is an identifier that names itself. Without transliteration every keyword
of an expression is stable, because lower-casing keeps identifiers and leaves nothing to lower-case.
The text of a condition with stable keywords spells the tokens that the condition was read from
(`Level.Assigns.spells`), so a summary is read as the same condition again (`summary_reads_again`).
-/

set_option autoImplicit false

namespace KeywordFilter

open Unicode Scan Expression

/-- The keyword is an identifier without ignorable characters, in folded form. -/
structure Keyword.Stable (settings : FullSettings) (keyword : String) : Prop where
  isIdentifier : IsIdentifier settings.numericKeywords keyword.toList
  not_ignorable : ∀ c ∈ keyword.toList, isIgnorable c = false
  fold_eq : Keyword.fold settings keyword = keyword

theorem isIdentifier_filter {digits : Bool} {text : List Char} (h : IsIdentifier digits text) :
    IsIdentifier digits (text.filter (!isIgnorable ·)) ∧
      ∀ c ∈ text.filter (!isIgnorable ·), IsKept c := by
  cases text with
  | nil => exact h.elim
  | cons c rest =>
    obtain ⟨hStart, hRest⟩ := h
    have hc := isKept_of_start hStart
    have hOthers : ∀ d ∈ rest.filter (!isIgnorable ·), IsKept d := by
      intro d hd
      obtain ⟨hMem, hNot⟩ := List.mem_filter.mp hd
      exact ⟨hRest d hMem, by simpa using hNot⟩
    rw [List.filter_cons_of_pos (by simp [hc.2])]
    refine ⟨⟨hStart, fun d hd => (hOthers d hd).1⟩, ?_⟩
    intro d hd
    rcases List.mem_cons.mp hd with rfl | hd
    · exact hc
    · exact hOthers d hd

theorem Keyword.stable_ofIdentifier {settings : FullSettings} (hAccents : settings.ignoreAccents = false)
    {source : List Char} (h : IsIdentifier settings.numericKeywords source) :
    Keyword.Stable settings (Keyword.ofIdentifier settings source) := by
  obtain ⟨hIdentifier, hKept⟩ := isIdentifier_filter h
  have hValue : (Keyword.ofIdentifier settings source).toList =
      lower (source.filter (!isIgnorable ·)) := by
    rw [Keyword.ofIdentifier, Keyword.foldChars_eq_lower hAccents, String.toList_ofList]
  refine ⟨?_, ?_, ?_⟩
  · rw [hValue]
    exact isIdentifier_lower hIdentifier hKept
  · intro c hc
    rw [hValue] at hc
    exact (isKept_of_mem_lower hKept c hc).2
  · have hLower := congrArg String.ofList (lower_lower (source.filter (!isIgnorable ·)))
    rw [← hValue, String.ofList_toList] at hLower
    rwa [Keyword.fold, Keyword.foldChars_eq_lower hAccents]

theorem spells_identifier {settings : FullSettings} {text : List Char}
    (h : IsIdentifier settings.numericKeywords text) :
    Spells settings text [.keyword (Keyword.ofIdentifier settings text)] := by
  cases text with
  | nil => exact h.elim
  | cons c rest =>
    obtain ⟨hStart, hRest⟩ := h
    have hSpacing : ¬ isSpacing c = true := by simp [isSpacing_eq_false_of_start hStart]
    have hToken := ofSymbol?_eq_none_of_part (isIdentifierPart_of_start hStart)
    have hTake : rest.takeWhile isIdentifierPart = rest := List.takeWhile_eq_self_iff.mpr hRest
    have hDrop : rest.dropWhile isIdentifierPart = [] := List.dropWhile_eq_nil_iff.mpr hRest
    intro position
    rw [scanFrom_identifier hSpacing hToken hStart, hTake, hDrop, scanFrom_nil]
    exact ⟨rfl, rfl⟩

theorem Keyword.Stable.spells {settings : FullSettings} {keyword : String}
    (h : Keyword.Stable settings keyword) : Spells settings keyword.toList [.keyword keyword] := by
  have hSpells := spells_identifier h.isIdentifier
  rwa [Keyword.ofIdentifier_eq settings h.not_ignorable, ← Keyword.fold, h.fold_eq] at hSpells

theorem Connective.toList_text (op : Connective) : ∃ c, op.text.toList = [' ', c, ' '] ∧
    Token.ofSymbol? c = some (.connective op) := by
  cases op with
  | and => exact ⟨'&', rfl, rfl⟩
  | or => exact ⟨'|', rfl, rfl⟩

theorem Spells.binary {settings : FullSettings} {op : Connective} {before after : List Token}
    {left right : Predicate} (hLeft : Spells settings (left.inorder Empty.elim).toList before)
    (hRight : Spells settings (right.inorder Empty.elim).toList after) :
    Spells settings ((Tree.binary op left right).inorder Empty.elim).toList
      (before ++ .connective op :: after) := by
  obtain ⟨c, hText, hToken⟩ := op.toList_text
  have hBefore : Spells settings (_ ++ [' ']) before := hLeft.concat_spacing rfl
  have hAfter : Spells settings (' ' :: _) after := hRight.cons_spacing rfl
  have hSpaced := hBefore.around hAfter hToken
  simpa [Tree.inorder, hText] using hSpaced

/-- The text of a tree spells the tokens that the tree was read from. -/
theorem Level.Assigns.spells {settings : FullSettings} {level : Level} {tokens : List Token}
    {tree : Predicate} (h : level.Assigns tokens tree)
    (hStable : AllKeywords (Keyword.Stable settings) tokens) :
    Spells settings (tree.inorder Empty.elim).toList tokens := by
  induction h with
  | keyword value => exact (hStable value (List.mem_singleton_self _)).spells
  | not _ ih =>
    have hOperand := (allKeywords_cons.mp hStable).2
    simpa [Tree.inorder] using (ih hOperand).not
  | group _ ih =>
    have hOperand := (allKeywords_append.mp (allKeywords_cons.mp hStable).2).1
    simpa [Tree.inorder] using (ih hOperand).group
  | ofTerm _ ih => exact ih hStable
  | and _ _ ihLeft ihRight =>
    obtain ⟨hBefore, hAfter⟩ := allKeywords_append.mp hStable
    exact (ihLeft hBefore).binary (ihRight (allKeywords_cons.mp hAfter).2)
  | ofConjunction _ ih => exact ih hStable
  | or _ _ ihLeft ihRight =>
    obtain ⟨hBefore, hAfter⟩ := allKeywords_append.mp hStable
    exact (ihLeft hBefore).binary (ihRight (allKeywords_cons.mp hAfter).2)

theorem Spells.stable {settings : FullSettings} (hAccents : settings.ignoreAccents = false)
    {text : List Char} {tokens : List Token} (h : Spells settings text tokens) :
    AllKeywords (Keyword.Stable settings) tokens := by
  intro value hValue
  obtain ⟨source, _, hSource, rfl⟩ := h.exists_identifier hValue
  exact Keyword.stable_ofIdentifier hAccents hSource

namespace Filter

/-- The summary of an expression has the tokens of its text, and it is an expression for the same
filter with the same summary. -/
theorem summary_reads_again {text : Option String} {vocabulary : Option (List String)}
    {settings : FullSettings} {filter : Filter} (hAccents : settings.ignoreAccents = false)
    (hFilter : create (some Mode.expression.name) text vocabulary settings = .ok filter) :
    (ofText settings filter.summary).symbols = (ofText settings (text.getD "")).symbols ∧
      ∃ again, create (some Mode.expression.name) (some filter.summary) vocabulary settings =
          .ok again ∧ again.Same filter ∧ again.summary = filter.summary := by
  obtain ⟨tree, hParse, rfl⟩ := create_expression_eq_ok_iff.mp hFilter
  obtain ⟨tokens, hText, hCovers, hFolds⟩ := parse_eq_ok_iff.mp hParse
  have hSummary : Spells settings tree.text.toList tokens := by
    rw [Predicate.text, Tree.render_eq_inorder]
    exact (folds_iff_assigns.mp hFolds).spells (hText.stable hAccents)
  refine ⟨?_, ?_⟩
  · obtain ⟨hTokens, hStop⟩ := spells_iff.mp hText
    obtain ⟨hTokens', hStop'⟩ := spells_iff.mp hSummary
    change (ofText settings tree.text).symbols = (ofText settings (text.getD "")).symbols
    rw [symbols_eq, symbols_eq, hTokens, hTokens', hStop, hStop']
  · have hAgain := parse_eq_ok_iff.mpr ⟨tokens, hSummary, hCovers, hFolds⟩
    exact ⟨_, create_expression_eq_ok_iff.mpr ⟨tree, hAgain, rfl⟩, rfl, rfl⟩

theorem summary_reads_again_greek :
    ∃ filter, create (some Mode.expression.name) (some "İo&!( ΑΣ\t|x )") (some ["İO", "ας", "X"])
        {} = .ok filter ∧
      (ofText {} filter.summary).symbols = (ofText {} "İo&!( ΑΣ\t|x )").symbols ∧
        ∃ again, create (some Mode.expression.name) (some filter.summary)
            (some ["İO", "ας", "X"]) {} = .ok again ∧
          again.Same filter ∧ again.summary = filter.summary := by
  have hFilter : create (some Mode.expression.name) (some "İo&!( ΑΣ\t|x )")
      (some ["İO", "ας", "X"]) {} =
      .ok (matching .expression "İo&!( ΑΣ\t|x )" (.binary .and (.literal "i\u0307o")
        (.not (.group (.binary .or (.literal "ας") (.literal "x"))))) {}) := by
    decide +kernel
  have hAgain := summary_reads_again rfl hFilter
  rw [Option.getD_some] at hAgain
  exact ⟨_, hFilter, hAgain⟩

end Filter

end KeywordFilter
