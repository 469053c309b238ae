import KeywordFilter.Proofs.LeftmostProblem
import KeywordFilter.Proofs.ListFilter
import KeywordFilter.Proofs.RoundTrip
import KeywordFilter.Proofs.Text.Words
import Mathlib.Data.List.Basic

/-!
# Lists and expressions

Identifiers with one operator between them are an expression whose condition is a chain. The chain of
an operator asks for all or any of its keywords, as a list of the same words does, and the keyword that
the one refuses is the word that the other refuses (`Filter.list_agrees_with_expression`).
-/

set_option autoImplicit false

namespace KeywordFilter

open Unicode Phrase Scan Expression Keyword

def Keyword.kept (word : String) : String :=
  String.ofList (word.toList.filter (!isIgnorable ·))

theorem Keyword.fold_kept (settings : FullSettings) (word : String) :
    fold settings (kept word) = ofIdentifier settings word.toList := by
  rw [fold, kept, String.toList_ofList, ofIdentifier]

theorem Keyword.splitWords_kept {digits : Bool} {word : String}
    (h : IsIdentifier digits word.toList) :
    Text.splitWords (kept word).toList = [(kept word).toList] := by
  obtain ⟨hIdentifier, hKept⟩ := isIdentifier_filter h
  rw [kept, String.toList_ofList]
  apply Text.splitWords_of_not_blank
  · intro hNil
    rw [hNil] at hIdentifier
    exact hIdentifier
  · intro c hc
    exact isBlank_eq_false_of_part (hKept c hc).1 (hKept c hc).2

def Connective.symbol : Connective → String
  | .and => "&"
  | .or => "|"

theorem Connective.toList_symbol (op : Connective) : ∃ c, op.symbol.toList = [c] ∧
    Token.ofSymbol? c = some (.connective op) := by
  cases op with
  | and => exact ⟨'&', rfl, rfl⟩
  | or => exact ⟨'|', rfl, rfl⟩

/-- The operator whose chains ask for what a list asks for. -/
def Quantifier.connective : Quantifier → Connective
  | .all => .and
  | .any => .or

def Connective.level : Connective → Level
  | .and => .conjunction
  | .or => .disjunction

/-- What follows the first keyword of a chain. -/
def links (op : Connective) (keywords : List String) : List Token :=
  keywords.flatMap fun keyword => [.connective op, .keyword keyword]

/-- A condition, chained with keywords. -/
def Tree.link {α : Type} (op : Connective) (left : Tree α) (keywords : List String) : Tree α :=
  keywords.foldl (fun left keyword => .binary op left (.literal keyword)) left

theorem Level.Assigns.link (op : Connective) {before : List Token} {left : Predicate}
    (h : op.level.Assigns before left) (keywords : List String) :
    op.level.Assigns (before ++ links op keywords) (left.link op keywords) := by
  -- a chain grows at its right end: each keyword makes a longer beginning out of a shorter one
  induction keywords generalizing before left with
  | nil => simpa [links, Tree.link] using h
  | cons keyword rest ih =>
    have hNext : op.level.Assigns (before ++ [.connective op, .keyword keyword])
        (.binary op left (.literal keyword)) := by
      cases op with
      | and => exact .and h (.keyword keyword)
      | or => exact .or h (.ofTerm (.keyword keyword))
    simpa [links, Tree.link] using ih hNext

theorem assigns_chain (op : Connective) (first : String) (rest : List String) :
    Level.Assigns .disjunction (.keyword first :: links op rest)
      (Tree.link op (.literal first) rest) := by
  have hFirst : Level.Assigns .term [.keyword first] (.literal first) := .keyword first
  cases op with
  | and =>
    have hChain := Level.Assigns.link .and (.ofTerm hFirst) rest
    exact .ofConjunction hChain
  | or => exact Level.Assigns.link .or (.ofConjunction (.ofTerm hFirst)) rest

theorem Predicate.accepts_link_and {left : Predicate} {keywords : List String}
    {set : KeywordSet} :
    accepts (Tree.link .and left keywords) set = true ↔
      left.accepts set = true ∧ ∀ keyword ∈ keywords, keyword ∈ set := by
  induction keywords generalizing left with
  | nil => simp [Tree.link]
  | cons keyword rest ih =>
    have hLink : Tree.link .and left (keyword :: rest) =
        Tree.link .and (.binary .and left (.literal keyword)) rest := rfl
    rw [hLink, ih, accepts_and, accepts_literal, Bool.and_eq_true, decide_eq_true_iff,
      List.forall_mem_cons, and_assoc]

theorem Predicate.accepts_link_or {left : Predicate} {keywords : List String}
    {set : KeywordSet} :
    accepts (Tree.link .or left keywords) set = true ↔
      left.accepts set = true ∨ ∃ keyword ∈ keywords, keyword ∈ set := by
  induction keywords generalizing left with
  | nil => simp [Tree.link]
  | cons keyword rest ih =>
    have hLink : Tree.link .or left (keyword :: rest) =
        Tree.link .or (.binary .or left (.literal keyword)) rest := rfl
    rw [hLink, ih, accepts_or, accepts_literal, Bool.or_eq_true, decide_eq_true_iff,
      List.exists_mem_cons_iff, or_assoc]

theorem Predicate.accepts_chain {quantifier : Quantifier} {first : String} {rest : List String}
    {set : KeywordSet} :
    accepts (Tree.link quantifier.connective (.literal first) rest) set = true ↔
      quantifier.Holds (first :: rest) (· ∈ set) := by
  cases quantifier with
  | all =>
    rw [Quantifier.connective, accepts_link_and, accepts_literal, decide_eq_true_iff]
    exact List.forall_mem_cons.symm
  | any =>
    rw [Quantifier.connective, accepts_link_or, accepts_literal, decide_eq_true_iff]
    exact (List.exists_mem_cons_iff ..).symm

theorem spells_chain {settings : FullSettings} (op : Connective) {first : String} {rest : List String}
    (h : ∀ word ∈ first :: rest, IsIdentifier settings.numericKeywords word.toList) :
    Spells settings (op.symbol.intercalate (first :: rest)).toList
      (.keyword (ofIdentifier settings first.toList) ::
        links op (rest.map (ofIdentifier settings ·.toList))) := by
  obtain ⟨c, hSymbol, hToken⟩ := op.toList_symbol
  induction rest generalizing first with
  | nil =>
    have hFirst := spells_identifier (h first List.mem_cons_self)
    simpa [links] using hFirst
  | cons next rest ih =>
    obtain ⟨hFirst, hRest⟩ := List.forall_mem_cons.mp h
    have hText : (op.symbol.intercalate (first :: next :: rest)).toList =
        first.toList ++ c :: (op.symbol.intercalate (next :: rest)).toList := by
      rw [String.intercalate_cons_cons, String.toList_append, String.toList_append, hSymbol,
        List.append_assoc, List.singleton_append]
    rw [hText]
    exact (spells_identifier hFirst).around (ih hRest) hToken

theorem Vocabulary.findSome?_links {vocabulary : Vocabulary} {op : Connective}
    {keywords : List String} :
    ((links op keywords).map Symbol.token).findSome? vocabulary.unknown? =
      keywords.find? (!vocabulary.allows ·) := by
  induction keywords with
  | nil => rfl
  | cons keyword rest ih =>
    have hLinks : links op (keyword :: rest) =
        .connective op :: .keyword keyword :: links op rest := rfl
    rw [hLinks, List.map_cons, List.map_cons, List.findSome?_cons, List.findSome?_cons, ih,
      List.find?_cons]
    cases hKeyword : vocabulary.allows keyword <;> simp [unknown?, hKeyword]

section
variable {settings : FullSettings} {vocabulary : Option (List String)} {first : String}
variable {rest : List String}
variable (h : ∀ word ∈ first :: rest, IsIdentifier settings.numericKeywords word.toList)
include h

theorem Expression.parse_chain (op : Connective) :
    parse settings vocabulary (some (op.symbol.intercalate (first :: rest))) =
      match ((first :: rest).map (ofIdentifier settings ·.toList)).find?
        (!(Vocabulary.ofWords settings vocabulary).allows ·) with
      | some value => .error (.unknownKeyword value)
      | none => .ok (Tree.link op (.literal (ofIdentifier settings first.toList))
          (rest.map (ofIdentifier settings ·.toList))) := by
  rw [parse_of_assigns (spells_chain op h) (assigns_chain op _ _), ← Vocabulary.findSome?_links]
  rfl

theorem Expression.parse_chain_eq_ok (op : Connective)
    (hKnown : ∀ word ∈ first :: rest, Declared settings vocabulary (kept word)) :
    parse settings vocabulary (some (op.symbol.intercalate (first :: rest))) =
      .ok (Tree.link op (.literal (ofIdentifier settings first.toList))
        (rest.map (ofIdentifier settings ·.toList))) := by
  have hNone : ((first :: rest).map (ofIdentifier settings ·.toList)).find?
      (!(Vocabulary.ofWords settings vocabulary).allows ·) = none := by
    rw [List.find?_eq_none, List.forall_mem_map]
    intro word hWord
    rw [← fold_kept, allows_fold_iff.mpr (hKnown word hWord)]
    exact Bool.false_ne_true
  rw [parse_chain h op, hNone]

theorem Expression.parse_chain_eq_error (op : Connective) {before after : List String}
    {word : String} (hSplit : first :: rest = before ++ word :: after)
    (hKnown : ∀ earlier ∈ before, Declared settings vocabulary (kept earlier))
    (hUnknown : ¬ Declared settings vocabulary (kept word)) :
    parse settings vocabulary (some (op.symbol.intercalate (first :: rest))) =
      .error (.unknownKeyword (fold settings (kept word))) := by
  have hFirst : ((first :: rest).map (ofIdentifier settings ·.toList)).find?
      (!(Vocabulary.ofWords settings vocabulary).allows ·) = some (fold settings (kept word)) := by
    rw [List.find?_eq_some_iff_append]
    refine ⟨?_, before.map (ofIdentifier settings ·.toList),
      after.map (ofIdentifier settings ·.toList), ?_, ?_⟩
    · rwa [← allows_fold_iff, Bool.not_eq_true, ← Bool.not_eq_true'] at hUnknown
    · rw [hSplit, List.map_append, List.map_cons, fold_kept]
    · rw [List.forall_mem_map]
      intro earlier hEarlier
      rw [← fold_kept, allows_fold_iff.mpr (hKnown earlier hEarlier)]
      rfl
  rw [parse_chain h op, hFirst]

end

theorem Keyword.declared_or_exists_first (settings : FullSettings) (vocabulary : Option (List String))
    (words : List String) :
    (∀ word ∈ words, Declared settings vocabulary (kept word)) ∨
      ∃ before word after, words = before ++ word :: after ∧
        (∀ earlier ∈ before, Declared settings vocabulary (kept earlier)) ∧
        ¬ Declared settings vocabulary (kept word) := by
  induction words with
  | nil => exact .inl nofun
  | cons first rest ih =>
    by_cases hFirst : Declared settings vocabulary (kept first)
    · rcases ih with hRest | ⟨before, word, after, rfl, hBefore, hWord⟩
      · exact .inl (List.forall_mem_cons.mpr ⟨hFirst, hRest⟩)
      · exact .inr ⟨first :: before, word, after, rfl, List.forall_mem_cons.mpr ⟨hFirst, hBefore⟩,
          hWord⟩
    · exact .inr ⟨[], first, rest, rfl, nofun, hFirst⟩

namespace Filter

/-- Identifiers that are joined by an operator, and the same words in a list, without ignorable
characters: the expression and the list make filters that accept the same sets, or both are refused
for the same word, the first one that is not declared. -/
theorem list_agrees_with_expression (quantifier : Quantifier) (settings : FullSettings)
    (vocabulary : Option (List String)) {words : List String} {blanks : String}
    (hWords : words ≠ [])
    (hIdentifiers : ∀ word ∈ words, IsIdentifier settings.numericKeywords word.toList)
    (hSome : blanks ≠ "") (hBlanks : Text.isBlankText blanks = true) :
    (∃ filter other,
      create (some Mode.expression.name) (some (quantifier.connective.symbol.intercalate words))
        vocabulary settings = .ok filter ∧
      create (some (Mode.listed quantifier).name) (some (blanks.intercalate (words.map kept)))
        vocabulary settings = .ok other ∧
      ∀ keywords, filter.accepts keywords = other.accepts keywords) ∨
    ∃ before word after, words = before ++ word :: after ∧
      (∀ earlier ∈ before, Declared settings vocabulary (kept earlier)) ∧
      ¬ Declared settings vocabulary (kept word) ∧
      create (some Mode.expression.name) (some (quantifier.connective.symbol.intercalate words))
        vocabulary settings = .error (.unknownKeyword (fold settings (kept word))) ∧
      create (some (Mode.listed quantifier).name) (some (blanks.intercalate (words.map kept)))
        vocabulary settings = .error (.unknownKeyword (kept word)) := by
  have hList : Text.words (blanks.intercalate (words.map kept)) = words.map kept := by
    apply Text.words_intercalate hSome hBlanks
    rw [List.forall_mem_map]
    intro word hWord
    exact splitWords_kept (hIdentifiers word hWord)
  obtain ⟨first, rest, rfl⟩ := List.exists_cons_of_ne_nil hWords
  rcases declared_or_exists_first settings vocabulary (first :: rest) with
    hKnown | ⟨before, word, after, hSplit, hKnown, hUnknown⟩
  · have hTree := parse_chain_eq_ok hIdentifiers quantifier.connective hKnown
    refine .inl ⟨_, _, create_expression_eq_ok_iff.mpr ⟨_, hTree, rfl⟩,
      create_list_eq_ok_iff.mpr ⟨?_, ?_, rfl⟩, ?_⟩
    · rw [Option.getD_some, hList]
      exact List.cons_ne_nil _ _
    · rw [Option.getD_some, hList]
      exact List.forall_mem_map.mpr hKnown
    · intro keywords
      have hChain : ofIdentifier settings first.toList :: rest.map (ofIdentifier settings ·.toList) =
          (first :: rest).map (ofIdentifier settings ·.toList) := rfl
      rw [Bool.eq_iff_iff, accepts_matching, Predicate.accepts_chain, Option.getD_some, listing,
        accepts_matching, Predicate.accepts_listed, foldSet, Quantifier.accepts_ofList_iff, hList,
        hChain, List.map_map, Quantifier.holds_map, Quantifier.holds_map]
      simp only [Function.comp, fold_kept]
  · have hError := parse_chain_eq_error hIdentifiers quantifier.connective hSplit hKnown hUnknown
    refine .inr ⟨before, word, after, hSplit, hKnown, hUnknown, ?_, ?_⟩
    · rw [create_mode, bind_eq_error_iff]
      exact .inl hError
    · rw [create_list_eq_error_iff, Option.getD_some, hList]
      refine .inr ⟨before.map kept, kept word, after.map kept, ?_, ?_, hUnknown, rfl⟩
      · rw [hSplit, List.map_append, List.map_cons]
      · exact List.forall_mem_map.mpr hKnown

theorem list_agrees_with_expression_hyphen :
    (∀ word ∈ ["o\u00adF", "É", "é"], IsIdentifier false word.toList) ∧
      ∃ filter other, create (some "expr") (some "o\u00adF|É|é") none {} = .ok filter ∧
        create (some "any of") (some "oF\u2003É\u2003é") none {} = .ok other ∧
        ∀ keywords, filter.accepts keywords = other.accepts keywords := by
  obtain ⟨hParts, hBlanks, hText, hList⟩ :
      ((isIdentifierStart false 'o' = true ∧ ['\u00ad', 'F'].all isIdentifierPart = true) ∧
        isIdentifierStart false 'É' = true ∧ isIdentifierStart false 'é' = true) ∧
      Text.isBlankText "\u2003" = true ∧
      Connective.or.symbol.intercalate ["o\u00adF", "É", "é"] = "o\u00adF|É|é" ∧
      "\u2003".intercalate (["o\u00adF", "É", "é"].map kept) = "oF\u2003É\u2003é" := by
    decide +kernel
  have hIdentifiers : ∀ word ∈ ["o\u00adF", "É", "é"], IsIdentifier false word.toList := by
    simpa [IsIdentifier] using hParts
  have hAgree := list_agrees_with_expression .any {} none (List.cons_ne_nil _ _) hIdentifiers
    (by decide) hBlanks
  rw [Quantifier.connective, hText, hList] at hAgree
  rcases hAgree with hBuilt | ⟨_, word, _, _, _, hUnknown, _⟩
  · exact ⟨hIdentifiers, hBuilt⟩
  · exact absurd (declared_none {} _) hUnknown

end Filter

end KeywordFilter
