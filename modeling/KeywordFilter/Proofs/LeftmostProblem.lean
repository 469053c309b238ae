import Mathlib.Data.Nat.Find
import KeywordFilter.Proofs.Parsing
import KeywordFilter.Proofs.TokenStream

/-!
# The leftmost problem

A sentence is an expression with the end of the text behind it. The token stream of a text goes wrong
at the first item with which no sentence begins any more; a keyword that the vocabulary lacks counts
only before that item. `parse_leftmost_problem` says that this is what is reported, and that nothing
else ever happens.
-/

set_option autoImplicit false

namespace KeywordFilter

open Phrase Scan

def IsSentence (symbols : List Symbol) : Prop :=
  ∃ tokens, Derives expression tokens ∧ symbols = tokens.map .token ++ [.stop .finish]

/-- Some sentence begins like this. -/
def Viable (symbols : List Symbol) : Prop :=
  ∃ rest, IsSentence (symbols ++ rest)

/-- The first item with which no sentence begins any more, if there is one. -/
def FirstFault (symbols : List Symbol) : Option Nat → Prop
  | some place => place < symbols.length ∧ ¬ Viable (symbols.take (place + 1)) ∧
    ∀ earlier < place, Viable (symbols.take (earlier + 1))
  | none => ∀ place < symbols.length, Viable (symbols.take (place + 1))

def Vocabulary.unknown? (vocabulary : Vocabulary) : Symbol → Option String
  | .token (.keyword value) => if vocabulary.allows value then none else some value
  | _ => none

theorem Viable.of_append {symbols rest : List Symbol} (h : Viable (symbols ++ rest)) :
    Viable symbols := by
  obtain ⟨more, hMore⟩ := h
  exact ⟨rest ++ more, by rwa [← List.append_assoc]⟩

theorem Viable.take {symbols : List Symbol} (h : Viable symbols) (count : Nat) :
    Viable (symbols.take count) := by
  rw [← List.take_append_drop count symbols] at h
  exact h.of_append

theorem exists_tokens_of_append {tokens whole : List Token} {rest : List Symbol} {stop : Stop}
    (h : tokens.map Symbol.token ++ rest = whole.map .token ++ [.stop stop]) :
    ∃ others, whole = tokens ++ others ∧ rest = others.map .token ++ [.stop stop] := by
  induction tokens generalizing whole with
  | nil => exact ⟨whole, rfl, h⟩
  | cons token tokens ih =>
    cases whole with
    | nil => simp at h
    | cons first whole =>
      simp only [List.map_cons, List.cons_append, List.cons.injEq, Symbol.token.injEq] at h
      obtain ⟨others, rfl, hRest⟩ := ih h.2
      exact ⟨others, by rw [h.1, List.cons_append], hRest⟩

theorem viable_tokens_iff {tokens : List Token} :
    Viable (tokens.map .token) ↔ (Reading.start.feedAll? tokens).isSome := by
  rw [isSome_feedAll?_iff]
  constructor
  · rintro ⟨rest, whole, hWhole, hEq⟩
    obtain ⟨others, rfl, _⟩ := exists_tokens_of_append hEq
    exact ⟨others, hWhole⟩
  · rintro ⟨rest, hRest⟩
    refine ⟨rest.map .token ++ [.stop .finish], tokens ++ rest, hRest, ?_⟩
    rw [List.map_append, List.append_assoc]

theorem viable_stop_iff {tokens : List Token} {stop : Stop} :
    Viable (tokens.map .token ++ [.stop stop]) ↔
      stop = .finish ∧ Derives expression tokens := by
  constructor
  · rintro ⟨rest, whole, hWhole, hEq⟩
    rw [List.append_assoc] at hEq
    obtain ⟨others, rfl, hRest⟩ := exists_tokens_of_append hEq
    cases others with
    | nil =>
      simp only [List.singleton_append, List.map_nil, List.nil_append, List.cons.injEq,
        Symbol.stop.injEq] at hRest
      rw [List.append_nil] at hWhole
      exact ⟨hRest.1, hWhole⟩
    | cons other others => simp at hRest
  · rintro ⟨rfl, hTokens⟩
    exact ⟨[], tokens, hTokens, List.append_nil _⟩

theorem exists_firstFault (symbols : List Symbol) : ∃ fault, FirstFault symbols fault := by
  classical
  by_cases h : ∃ place, place < symbols.length ∧ ¬ Viable (symbols.take (place + 1))
  · obtain ⟨hPlace, hFault⟩ := Nat.find_spec h
    refine ⟨some (Nat.find h), hPlace, hFault, ?_⟩
    intro earlier hEarlier
    have hMin := Nat.find_min h hEarlier
    by_contra hViable
    exact hMin ⟨Nat.lt_trans hEarlier hPlace, hViable⟩
  · refine ⟨none, ?_⟩
    intro place hPlace
    by_contra hViable
    exact h ⟨place, hPlace, hViable⟩

theorem FirstFault.unique {symbols : List Symbol} {fault other : Option Nat}
    (h : FirstFault symbols fault) (hOther : FirstFault symbols other) : fault = other := by
  match fault, other with
  | none, none => rfl
  | some place, none => exact absurd (hOther place h.1) h.2.1
  | none, some place => exact absurd (h place hOther.1) hOther.2.1
  | some place, some place' =>
    rcases Nat.lt_trichotomy place place' with hLt | rfl | hLt
    · exact absurd (hOther.2.2 place hLt) h.2.1
    · rfl
    · exact absurd (h.2.2 place' hLt) hOther.2.1

theorem FirstFault.length_le {front back : List Symbol} {fault : Option Nat}
    (h : FirstFault (front ++ back) fault) (hFront : Viable front) :
    front.length ≤ fault.getD (front ++ back).length := by
  cases fault with
  | none => simp
  | some place =>
    by_contra hPlace
    refine h.2.1 ?_
    have hLt : place < front.length := by simpa using hPlace
    rw [List.take_append_of_le_length hLt]
    exact hFront.take _

theorem firstFault_of_viable {front back : List Symbol} {symbol : Symbol} (hFront : Viable front)
    (hFault : ¬ Viable (front ++ [symbol])) :
    FirstFault (front ++ symbol :: back) (some front.length) := by
  refine ⟨by simp, ?_, ?_⟩
  · rwa [List.append_cons, List.take_left' (by simp)]
  · intro earlier hEarlier
    rw [List.take_append_of_le_length hEarlier]
    exact hFront.take _

/-- What comes of a text with this token stream: a keyword before the first fault that the vocabulary
lacks is reported, or else the fault, and there is a tree if nothing is to be reported. -/
def LeftmostOutcome (vocabulary : Vocabulary) (text : String) (scan : Scan)
    (outcome : Except FilterError Predicate) : Prop :=
  ∃ fault, FirstFault scan.symbols fault ∧
    match (scan.symbols.take (fault.getD scan.symbols.length)).findSome? vocabulary.unknown?,
      fault with
    | some value, _ => outcome = .error (.unknownKeyword value)
    | none, some place => ∃ item, scan.items[place]? = some item ∧ item.Locates text ∧
      outcome = .error (.malformed text item.position (String.ofList item.source))
    | none, none => ∃ tree, outcome = .ok tree

theorem Vocabulary.Covers.findSome?_unknown? {vocabulary : Vocabulary} {tokens : List Token}
    (h : vocabulary.Covers tokens) :
    (tokens.map Symbol.token).findSome? vocabulary.unknown? = none := by
  rw [List.findSome?_eq_none_iff]
  intro symbol hSymbol
  obtain ⟨token, hToken, rfl⟩ := List.mem_map.mp hSymbol
  cases token with
  | keyword value => simp [unknown?, h value hToken]
  | _ => rfl

theorem Vocabulary.covers_of_findSome? {vocabulary : Vocabulary} {tokens : List Token}
    (h : (tokens.map Symbol.token).findSome? vocabulary.unknown? = none) :
    vocabulary.Covers tokens := by
  intro value hValue
  have hNone := List.findSome?_eq_none_iff.mp h _ (List.mem_map_of_mem hValue)
  simpa [unknown?] using hNone

section
variable {text : String} {vocabulary : Vocabulary} {scan : Scan}
variable {outcome : Except FilterError Predicate}

theorem leftmostOutcome_of_refused {front : List Token} {symbol : Symbol} {back : List Symbol}
    {item : Item} (hSymbols : scan.symbols = front.map .token ++ symbol :: back)
    (hFront : (Reading.start.feedAll? front).isSome) (hCovers : vocabulary.Covers front)
    (hFault : ¬ Viable (front.map .token ++ [symbol]))
    (hItem : scan.items[front.length]? = some item) (hLocates : item.Locates text)
    (hOutcome : outcome = .error (.malformed text item.position (String.ofList item.source))) :
    LeftmostOutcome vocabulary text scan outcome := by
  refine ⟨some front.length, ?_, ?_⟩
  · have h : FirstFault (front.map .token ++ symbol :: back) _ :=
      firstFault_of_viable (viable_tokens_iff.mpr hFront) hFault
    rwa [← hSymbols, List.length_map] at h
  · have hKnown : (scan.symbols.take front.length).findSome? vocabulary.unknown? = none := by
      rw [hSymbols, List.take_left' (by simp)]
      exact hCovers.findSome?_unknown?
    simp only [Option.getD_some, hKnown]
    exact ⟨item, hItem, hLocates, hOutcome⟩

theorem leftmostOutcome_of_unknown {front : List Token} {value : String} {back : List Symbol}
    (hSymbols : scan.symbols = front.map .token ++ .token (.keyword value) :: back)
    (hFront : (Reading.start.feedAll? (front ++ [.keyword value])).isSome)
    (hCovers : vocabulary.Covers front) (hValue : vocabulary.allows value = false)
    (hOutcome : outcome = .error (.unknownKeyword value)) :
    LeftmostOutcome vocabulary text scan outcome := by
  obtain ⟨fault, hFault⟩ := exists_firstFault scan.symbols
  refine ⟨fault, hFault, ?_⟩
  have hViable := viable_tokens_iff.mpr hFront
  rw [List.map_append, List.map_singleton] at hViable
  have hAll : scan.symbols = (front.map .token ++ [.token (.keyword value)]) ++ back := by
    rw [hSymbols, List.append_assoc, List.singleton_append]
  rw [hAll] at hFault
  have hLength := hFault.length_le hViable
  have hUnknown : (scan.symbols.take (fault.getD scan.symbols.length)).findSome?
      vocabulary.unknown? = some value := by
    rw [hAll, List.take_append, List.take_of_length_le hLength, List.findSome?_append,
      List.findSome?_append, hCovers.findSome?_unknown?]
    simp [Vocabulary.unknown?, hValue]
  simp only [hUnknown]
  exact hOutcome

theorem leftmostOutcome_of_sentence {tokens : List Token} {tree : Predicate}
    (hSymbols : scan.symbols = tokens.map .token ++ [.stop .finish])
    (hTokens : Derives expression tokens) (hCovers : vocabulary.Covers tokens)
    (hOutcome : outcome = .ok tree) : LeftmostOutcome vocabulary text scan outcome := by
  have hViable : Viable scan.symbols := by
    rw [hSymbols]
    exact viable_stop_iff.mpr ⟨rfl, hTokens⟩
  refine ⟨none, fun place _ => hViable.take _, ?_⟩
  have hKnown : scan.symbols.findSome? vocabulary.unknown? = none := by
    rw [hSymbols, List.findSome?_append, hCovers.findSome?_unknown?]
    rfl
  simp only [Option.getD_none, List.take_length, hKnown]
  exact ⟨tree, hOutcome⟩

end

namespace Expression

theorem exists_of_foldlM_eq_error {ε α β : Type} {step : β → α → Except ε β} {start : β}
    {list : List α} {error : ε} (h : list.foldlM step start = .error error) :
    ∃ front a back middle, list = front ++ a :: back ∧ front.foldlM step start = .ok middle ∧
      step middle a = .error error := by
  induction list generalizing start with
  | nil => cases h
  | cons a rest ih =>
    rw [List.foldlM_cons] at h
    cases hStep : step start a with
    | error error' =>
      rw [hStep] at h
      cases h
      exact ⟨[], a, rest, start, rfl, rfl, hStep⟩
    | ok next =>
      rw [hStep] at h
      obtain ⟨front, b, back, middle, rfl, hFront, hError⟩ := ih h
      refine ⟨a :: front, b, back, middle, rfl, ?_, hError⟩
      rw [List.foldlM_cons, hStep]
      exact hFront

theorem advance_eq_error {text : String} {vocabulary : Vocabulary} {reading : Reading}
    {lexeme : Lexeme} {error : FilterError}
    (h : advance text vocabulary reading lexeme = .error error) :
    (reading.feed? lexeme.token = none ∧
      error = .malformed text lexeme.position (String.ofList lexeme.source)) ∨
    ∃ value, lexeme.token = .keyword value ∧ (reading.feed? lexeme.token).isSome ∧
      vocabulary.allows value = false ∧ error = .unknownKeyword value := by
  unfold advance at h
  split at h
  · next hRefused =>
    cases h
    exact .inl ⟨hRefused, rfl⟩
  · next next hNext =>
    split at h
    · next value hToken =>
      split at h
      · cases h
      · next hValue =>
        cases h
        exact .inr ⟨value, hToken, by rw [hNext]; rfl, by simpa using hValue, rfl⟩
    · cases h

theorem leftmostOutcome_of_error {text : String} {vocabulary : Vocabulary} {scan : Scan}
    {error : FilterError} (hItems : ∀ item ∈ scan.items, item.Locates text)
    (hRun : scan.lexemes.foldlM (advance text vocabulary) Reading.start = .error error) :
    LeftmostOutcome vocabulary text scan (.error error) := by
  obtain ⟨front, lexeme, back, reading, hLexemes, hFront, hStep⟩ := exists_of_foldlM_eq_error hRun
  obtain ⟨hRead, hCovers⟩ := foldlM_advance_eq_ok_iff.mp hFront
  have hTokens : scan.tokens = front.map (·.token) ++ lexeme.token :: back.map (·.token) := by
    rw [tokens, hLexemes, List.map_append, List.map_cons]
  have hSymbols : scan.symbols = (front.map (·.token)).map .token ++
      .token lexeme.token :: ((back.map (·.token)).map .token ++ [.stop scan.stop]) := by
    rw [symbols_eq, hTokens, List.map_append, List.map_cons, List.append_assoc, List.cons_append]
  have hNext : Reading.start.feedAll? (front.map (·.token) ++ [lexeme.token]) =
      reading.feed? lexeme.token := by
    rw [Reading.feedAll?_append, hRead]
    simp
  rcases advance_eq_error hStep with ⟨hRefused, rfl⟩ | ⟨value, hToken, hFed, hValue, rfl⟩
  · have hItem : scan.items[(front.map (·.token)).length]? = some (itemOf lexeme) := by
      simp [items, hLexemes]
    refine leftmostOutcome_of_refused hSymbols (by rw [hRead]; rfl) hCovers ?_ hItem
      (hItems _ (List.mem_of_getElem? hItem)) rfl
    intro hViable
    rw [← List.map_singleton, ← List.map_append, viable_tokens_iff, hNext, hRefused] at hViable
    cases hViable
  · rw [hToken] at hSymbols hNext hFed
    exact leftmostOutcome_of_unknown hSymbols (by rw [hNext]; exact hFed) hCovers hValue rfl

theorem leftmostOutcome_of_ok {text : String} {vocabulary : Vocabulary} {scan : Scan}
    {reading : Reading} (hItems : ∀ item ∈ scan.items, item.Locates text)
    (hRun : scan.lexemes.foldlM (advance text vocabulary) Reading.start = .ok reading) :
    LeftmostOutcome vocabulary text scan (ofScan text vocabulary scan) := by
  obtain ⟨hRead, hCovers⟩ := foldlM_advance_eq_ok_iff.mp hRun
  have hRead : Reading.start.feedAll? scan.tokens = some reading := hRead
  by_cases hEnd : scan.stop = .finish ∧ ∃ tree, reading.result? = some tree
  · obtain ⟨hStop, tree, hTree⟩ := hEnd
    have hFolds : Folds expression scan.tokens tree := by
      rw [← result_feedAll?_iff, hRead]
      exact hTree
    refine leftmostOutcome_of_sentence ?_ hFolds.derives hCovers
      (ofScan_eq_ok_iff.mpr ⟨hStop, hCovers, hFolds⟩)
    rw [symbols_eq, hStop]
  · have hItem : scan.items[scan.tokens.length]? =
        some ⟨.stop scan.stop, scan.stop.source, scan.position⟩ := by
      simp [items, tokens]
    refine leftmostOutcome_of_refused (symbols_eq scan) (by rw [hRead]; rfl) hCovers ?_ hItem
      (hItems _ (List.mem_of_getElem? hItem)) ?_
    · intro hViable
      obtain ⟨hStop, hTokens⟩ := viable_stop_iff.mp hViable
      obtain ⟨tree, hTree⟩ := hTokens.exists_folds
      rw [← result_feedAll?_iff, hRead] at hTree
      exact hEnd ⟨hStop, tree, hTree⟩
    · unfold ofScan
      rw [hRun]
      simp only [bind, Except.bind]
      split
      · next tree hStop hTree => exact absurd ⟨hStop, tree, hTree⟩ hEnd
      · rfl

theorem ofScan_leftmostOutcome {text : String} {vocabulary : Vocabulary} {scan : Scan}
    (hItems : ∀ item ∈ scan.items, item.Locates text) :
    LeftmostOutcome vocabulary text scan (ofScan text vocabulary scan) := by
  cases hRun : scan.lexemes.foldlM (advance text vocabulary) Reading.start with
  | ok reading => exact leftmostOutcome_of_ok hItems hRun
  | error error =>
    have hError : ofScan text vocabulary scan = .error error := by
      unfold ofScan
      rw [hRun]
      rfl
    rw [hError]
    exact leftmostOutcome_of_error hItems hRun

theorem parse_of_assigns {settings : FullSettings} {vocabulary : Option (List String)}
    {text : String} {tokens : List Token} {tree : Predicate}
    (hSpells : Spells settings text.toList tokens)
    (hTree : Level.Assigns .disjunction tokens tree) :
    parse settings vocabulary (some text) =
      match (tokens.map Symbol.token).findSome? (Vocabulary.ofWords settings vocabulary).unknown? with
      | some value => .error (.unknownKeyword value)
      | none => .ok tree := by
  obtain ⟨hScan, hStop⟩ := spells_iff.mp hSpells
  have hDerives := (folds_iff_assigns.mpr hTree).derives
  have hText : ¬ Text.isBlankText text = true := by
    intro hBlank
    have hNil : (ofText settings text).tokens = [] :=
      tokens_eq_nil_of_blank (List.all_eq_true.mp hBlank)
    exact hDerives.ne_nil (hScan.symm.trans hNil)
  have hSymbols : (ofText settings text).symbols = tokens.map .token ++ [.stop .finish] := by
    rw [symbols_eq, hScan, hStop]
  have hViable : Viable (ofText settings text).symbols := by
    rw [hSymbols]
    exact viable_stop_iff.mpr ⟨rfl, hDerives⟩
  have hLeftmost : LeftmostOutcome (Vocabulary.ofWords settings vocabulary) text
      (ofText settings text) (ofScan text _ (ofText settings text)) :=
    ofScan_leftmostOutcome fun item hItem => locates_of_mem hItem
  obtain ⟨fault, hFault, hOutcome⟩ := hLeftmost
  -- the text is a sentence, so only the vocabulary can find fault with it
  obtain rfl : fault = none := hFault.unique fun place _ => hViable.take (place + 1)
  have hAll : ((ofText settings text).symbols.take (none.getD (ofText settings text).symbols.length)) =
      tokens.map .token ++ [.stop .finish] := by
    rw [Option.getD_none, List.take_length, hSymbols]
  rw [hAll, List.findSome?_append] at hOutcome
  cases hUnknown : (tokens.map Symbol.token).findSome?
      (Vocabulary.ofWords settings vocabulary).unknown? with
  | some value =>
    rw [hUnknown] at hOutcome
    simpa [parse, hText] using hOutcome
  | none =>
    exact parse_eq_ok_iff.mpr
      ⟨tokens, hSpells, Vocabulary.covers_of_findSome? hUnknown, folds_iff_assigns.mpr hTree⟩

/-- A missing or blank text is an error of its own. Every other text has the outcome of its leftmost
problem. -/
theorem parse_leftmost_problem (settings : FullSettings) (vocabulary : Option (List String))
    (text : Option String) :
    match text with
    | none => parse settings vocabulary text = .error .emptyExpression
    | some content =>
      if Text.isBlankText content then parse settings vocabulary text = .error .emptyExpression
      else LeftmostOutcome (Vocabulary.ofWords settings vocabulary) content
        (ofText settings content) (parse settings vocabulary text) := by
  cases text with
  | none => rfl
  | some content =>
    by_cases hBlank : Text.isBlankText content = true
    · simp [parse, hBlank]
    · simp only [parse, hBlank, if_false, Bool.false_eq_true]
      exact ofScan_leftmostOutcome fun item hItem => locates_of_mem hItem

end Expression

end KeywordFilter
