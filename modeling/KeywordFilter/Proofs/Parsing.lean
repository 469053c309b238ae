import KeywordFilter.Expression.Parsing
import KeywordFilter.Proofs.Reading
import KeywordFilter.Proofs.Scanning
import KeywordFilter.Proofs.Unicode.Classes
import Mathlib.Control.Monad.Basic

/-!
# Which texts are expressions

A text is accepted when it is scanned to its end, the vocabulary has its keywords, and its tokens are
an expression (`parse_eq_ok_iff`). Its condition is then the only tree that the stratified grammar
has for these tokens (`parse_stratified`).
-/

set_option autoImplicit false

namespace KeywordFilter

open Phrase Scan

abbrev Vocabulary.Covers (vocabulary : Vocabulary) (tokens : List Token) : Prop :=
  AllKeywords (vocabulary.allows · = true) tokens

theorem Phrase.Derives.ne_nil {phrase : Phrase} {tokens : List Token} (h : Derives phrase tokens) :
    tokens ≠ [] := by
  induction h with
  | single _ ih => exact ih
  | _ => simp

theorem tokens_eq_nil_of_blank {settings : FullSettings} {position : Nat} {text : List Char}
    (hText : ∀ c ∈ text, Unicode.isBlank c = true) :
    (scanFrom settings position text).tokens = [] := by
  fun_induction scanFrom settings position text with
  | case1 => rfl
  | case2 position c rest hSpacing ih => exact ih fun d hd => hText d (List.mem_cons_of_mem c hd)
  | case3 position c rest hSpacing token hToken ih =>
    have hBlank := hText c List.mem_cons_self
    rw [(Unicode.classes_of_symbol hToken).2.1] at hBlank
    cases hBlank
  | case4 position c rest hSpacing hToken hStart source others ih =>
    have hBlank := hText c List.mem_cons_self
    rw [(Unicode.classes_of_start hStart).2] at hBlank
    cases hBlank
  | case5 => rfl

namespace Expression

theorem bind_eq_ok_iff {ε α β : Type} {x : Except ε α} {f : α → Except ε β} {b : β} :
    (x >>= f) = .ok b ↔ ∃ a, x = .ok a ∧ f a = .ok b := by
  cases x with
  | error error => simp [bind, Except.bind]
  | ok a => simp [bind, Except.bind]

theorem bind_eq_error_iff {ε α β : Type} {x : Except ε α} {f : α → Except ε β} {error : ε} :
    (x >>= f) = .error error ↔ x = .error error ∨ ∃ a, x = .ok a ∧ f a = .error error := by
  cases x with
  | error error => simp [bind, Except.bind]
  | ok a => simp [bind, Except.bind]

theorem advance_eq_ok_iff {text : String} {vocabulary : Vocabulary} {reading next : Reading}
    {lexeme : Lexeme} :
    advance text vocabulary reading lexeme = .ok next ↔
      reading.feed? lexeme.token = some next ∧ vocabulary.Covers [lexeme.token] := by
  unfold advance
  cases reading.feed? lexeme.token with
  | none => simp
  | some next' =>
    cases lexeme.token with
    | keyword value => by_cases hValue : vocabulary.allows value = true <;> simp [hValue]
    | _ => simp

theorem foldlM_advance_eq_ok_iff {text : String} {vocabulary : Vocabulary}
    {reading next : Reading} {lexemes : List Lexeme} :
    lexemes.foldlM (advance text vocabulary) reading = .ok next ↔
      reading.feedAll? (lexemes.map (·.token)) = some next ∧
        vocabulary.Covers (lexemes.map (·.token)) := by
  unfold Vocabulary.Covers
  induction lexemes generalizing reading with
  | nil => simp [pure, Except.pure]
  | cons lexeme rest ih =>
    rw [List.foldlM_cons, bind_eq_ok_iff, List.map_cons, Reading.feedAll?_cons,
      Option.bind_eq_some_iff, ← List.singleton_append, allKeywords_append]
    constructor
    · rintro ⟨middle, hStep, hRest⟩
      obtain ⟨hFeed, hCovers⟩ := advance_eq_ok_iff.mp hStep
      obtain ⟨hRead, hOthers⟩ := ih.mp hRest
      exact ⟨⟨middle, hFeed, hRead⟩, hCovers, hOthers⟩
    · rintro ⟨⟨middle, hFeed, hRead⟩, hCovers, hOthers⟩
      exact ⟨middle, advance_eq_ok_iff.mpr ⟨hFeed, hCovers⟩, ih.mpr ⟨hRead, hOthers⟩⟩

theorem ofScan_eq_ok_iff {text : String} {vocabulary : Vocabulary} {scan : Scan}
    {tree : Predicate} :
    ofScan text vocabulary scan = .ok tree ↔
      scan.stop = .finish ∧ vocabulary.Covers scan.tokens ∧ Folds expression scan.tokens tree := by
  unfold ofScan
  rw [bind_eq_ok_iff, ← result_feedAll?_iff, Option.bind_eq_some_iff]
  constructor
  · rintro ⟨reading, hRun, hEnd⟩
    obtain ⟨hRead, hCovers⟩ := foldlM_advance_eq_ok_iff.mp hRun
    split at hEnd
    · next predicate hStop hResult =>
      cases hEnd
      exact ⟨hStop, hCovers, reading, hRead, hResult⟩
    · cases hEnd
  · rintro ⟨hStop, hCovers, reading, hRead, hResult⟩
    refine ⟨reading, foldlM_advance_eq_ok_iff.mpr ⟨hRead, hCovers⟩, ?_⟩
    rw [hStop, hResult]

/-- A text is an expression when it spells one out of keywords of the vocabulary. -/
theorem parse_eq_ok_iff {settings : FullSettings} {vocabulary : Option (List String)} {text : String}
    {tree : Predicate} :
    parse settings vocabulary (some text) = .ok tree ↔
      ∃ tokens, Spells settings text.toList tokens ∧
        (Vocabulary.ofWords settings vocabulary).Covers tokens ∧ Folds expression tokens tree := by
  simp only [spells_iff]
  constructor
  · intro h
    unfold parse at h
    split at h
    · cases h
    · next hText =>
      split at h
      · cases h
      · cases hText
        obtain ⟨hStop, hCovers, hTree⟩ := ofScan_eq_ok_iff.mp h
        exact ⟨_, ⟨rfl, hStop⟩, hCovers, hTree⟩
  · rintro ⟨tokens, ⟨rfl, hStop⟩, hCovers, hTree⟩
    have hText : ¬ Text.isBlankText text = true := by
      intro hBlank
      exact hTree.derives.ne_nil (tokens_eq_nil_of_blank (List.all_eq_true.mp hBlank))
    simp only [parse, hText, if_false, Bool.false_eq_true]
    exact ofScan_eq_ok_iff.mpr ⟨hStop, hCovers, hTree⟩

theorem exists_of_parse_eq_ok {settings : FullSettings} {vocabulary : Option (List String)}
    {text : Option String} {tree : Predicate} (h : parse settings vocabulary text = .ok tree) :
    ∃ content, text = some content := by
  cases text with
  | none => cases h
  | some content => exact ⟨content, rfl⟩

/-- The condition of an accepted text is the one tree that the stratified grammar assigns to its
tokens; and the fold of the flat grammar, which normalizes as it goes, always finds that tree. -/
theorem parse_stratified (settings : FullSettings) (vocabulary : Option (List String)) :
    (∀ (text : Option String) (tree : Predicate), parse settings vocabulary text = .ok tree ↔
      ∃ content, text = some content ∧ (ofText settings content).stop = .finish ∧
        (Vocabulary.ofWords settings vocabulary).Covers (ofText settings content).tokens ∧
        ∀ other, Level.Assigns .disjunction (ofText settings content).tokens other ↔
          other = tree) ∧
    ∀ (tokens : List Token) (tree : Predicate),
      Phrase.Folds .expression tokens tree ↔ Level.Assigns .disjunction tokens tree := by
  refine ⟨?_, fun tokens tree => folds_iff_assigns⟩
  intro text tree
  constructor
  · intro h
    obtain ⟨content, rfl⟩ := exists_of_parse_eq_ok h
    obtain ⟨tokens, hSpells, hCovers, hTree⟩ := parse_eq_ok_iff.mp h
    obtain ⟨rfl, hStop⟩ := spells_iff.mp hSpells
    refine ⟨content, rfl, hStop, hCovers, ?_⟩
    intro other
    constructor
    · exact (folds_iff_assigns.mp hTree).unique
    · rintro rfl
      exact folds_iff_assigns.mp hTree
  · rintro ⟨content, rfl, hStop, hCovers, hTree⟩
    refine parse_eq_ok_iff.mpr ⟨_, spells_iff.mpr ⟨rfl, hStop⟩, hCovers, ?_⟩
    exact folds_iff_assigns.mpr ((hTree tree).mpr rfl)

example : parse {} (some ["A", "b"]) (some "a | b & !(a | b)") =
    .ok (.binary .or (.literal "a") (.binary .and (.literal "b")
      (.not (.group (.binary .or (.literal "a") (.literal "b")))))) := by
  decide +kernel

end Expression

end KeywordFilter
