import KeywordFilter.Expression.Reading
import KeywordFilter.Proofs.Grammar

/-!
# What a reading knows

`Reading.Reads` says which tokens a reading comes from: at each open parenthesis an unfinished chain,
and the fold of what was finished. Every accepted token keeps it (`Reads.feed`), so a reading that
ends as an expression holds its fold. Conversely a sentence of the flat grammar is read to its end,
whatever it is enclosed in, and every reading can be completed to a sentence. The reader therefore
refuses a token exactly when no sentence goes on with it (`isSome_feedAll?_iff`).
-/

set_option autoImplicit false

namespace KeywordFilter

open Phrase

theorem negated_succ (count : Nat) (operand : Predicate) :
    negated (count + 1) operand = negated count (.not operand) := by
  induction count with
  | zero => rfl
  | succ count ih =>
    change Tree.not (negated (count + 1) operand) = Tree.not (negated count (.not operand))
    rw [ih]

namespace Place

@[simp] theorem complete_start (term : Predicate) : ({} : Place).complete term = term := rfl

@[simp] theorem complete_operator (left : Predicate) (op : Connective) (term : Predicate) :
    ({ left := some (left, op) } : Place).complete term = Tree.attach op left term := rfl

theorem complete_negation (place : Place) (term : Predicate) :
    ({ place with negations := place.negations + 1 } : Place).complete term =
      place.complete (.not term) := by
  obtain ⟨left, negations⟩ := place
  cases left <;> simp [complete, node?, negated_succ]

/-- The tokens before a place, back to the last open parenthesis. -/
inductive Follows : Place → List Token → Prop where
  | start : Follows {} []
  | operator {before : List Token} {left : Predicate} (op : Connective) :
    Folds expression before left →
      Follows { left := some (left, op) } (before ++ [.connective op])
  | negation {place : Place} {before : List Token} :
    Follows place before →
      Follows { place with negations := place.negations + 1 } (before ++ [.not])

theorem Follows.complete {place : Place} {before : List Token} (h : place.Follows before)
    {tokens : List Token} {tree : Predicate} (hTree : Folds term tokens tree) :
    Folds expression (before ++ tokens) (place.complete tree) := by
  induction h generalizing tokens tree with
  | start => simpa using Folds.single hTree
  | operator op hLeft => simpa using hLeft.attach hTree op
  | negation _ ih =>
    rw [complete_negation, List.append_assoc]
    exact ih (.not hTree)

/-- The tokens up to the innermost open parenthesis. -/
inductive Enclose : List Place → List Token → Prop where
  | nil : Enclose [] []
  | cons {place : Place} {outer : List Place} {tokens before : List Token} :
    Enclose outer tokens → place.Follows before →
      Enclose (place :: outer) (tokens ++ before ++ [.opening])

end Place

namespace Reading

def feedAll? (reading : Reading) (tokens : List Token) : Option Reading :=
  tokens.foldlM feed? reading

@[simp] theorem feedAll?_nil (reading : Reading) : reading.feedAll? [] = some reading := rfl

@[simp] theorem feedAll?_cons (reading : Reading) (token : Token) (rest : List Token) :
    reading.feedAll? (token :: rest) = (reading.feed? token).bind (feedAll? · rest) := rfl

theorem feedAll?_append (reading : Reading) (before after : List Token) :
    reading.feedAll? (before ++ after) = (reading.feedAll? before).bind (feedAll? · after) :=
  List.foldlM_append

/-- The tokens that a reading comes from. -/
inductive Reads : Reading → List Token → Prop where
  | beforeTerm {place : Place} {outer : List Place} {tokens before : List Token} :
    Place.Enclose outer tokens → place.Follows before →
      Reads (beforeTerm place outer) (tokens ++ before)
  | afterTerm {whole : Predicate} {outer : List Place} {tokens inner : List Token} :
    Place.Enclose outer tokens → Folds expression inner whole →
      Reads (afterTerm whole outer) (tokens ++ inner)

theorem Reads.start : Reads start [] :=
  .beforeTerm .nil .start

theorem Reads.feed {reading next : Reading} {tokens : List Token} {token : Token}
    (h : Reads reading tokens) (hNext : reading.feed? token = some next) :
    Reads next (tokens ++ [token]) := by
  cases h with
  | beforeTerm hOuter hPlace =>
    cases token with
    | keyword value =>
      cases hNext
      rw [List.append_assoc]
      exact .afterTerm hOuter (hPlace.complete (.keyword value))
    | not =>
      cases hNext
      rw [List.append_assoc]
      exact .beforeTerm hOuter (.negation hPlace)
    | opening =>
      cases hNext
      simpa using Reads.beforeTerm (hOuter.cons hPlace) .start
    | connective op => cases hNext
    | closing => cases hNext
  | afterTerm hOuter hWhole =>
    cases token with
    | connective op =>
      cases hNext
      rw [List.append_assoc]
      exact .beforeTerm hOuter (.operator op hWhole)
    | closing =>
      cases hOuter with
      | nil => cases hNext
      | cons hOuter hPlace =>
        cases hNext
        simpa using Reads.afterTerm hOuter (hPlace.complete (.group hWhole))
    | keyword value => cases hNext
    | not => cases hNext
    | opening => cases hNext

theorem Reads.feedAll {reading next : Reading} {tokens more : List Token}
    (h : Reads reading tokens) (hNext : reading.feedAll? more = some next) :
    Reads next (tokens ++ more) := by
  induction more generalizing reading tokens with
  | nil =>
    cases hNext
    simpa using h
  | cons token rest ih =>
    obtain ⟨middle, hMiddle, hRest⟩ := Option.bind_eq_some_iff.mp hNext
    simpa using ih (h.feed hMiddle) hRest

theorem Reads.folds_of_result {reading : Reading} {tokens : List Token} {tree : Predicate}
    (h : Reads reading tokens) (hTree : reading.result? = some tree) :
    Folds expression tokens tree := by
  cases h with
  | beforeTerm => cases hTree
  | afterTerm hOuter hWhole =>
    cases hOuter with
    | nil =>
      cases hTree
      simpa using hWhole
    | cons => cases hTree

theorem Reads.exists_closing {whole : Predicate} {outer : List Place} {tokens : List Token}
    (h : Reads (.afterTerm whole outer) tokens) :
    ∃ rest, Derives expression (tokens ++ rest) := by
  induction outer generalizing whole tokens with
  | nil =>
    have hWhole := (h.folds_of_result rfl).derives
    exact ⟨[], by simpa using hWhole⟩
  | cons place outer ih =>
    -- the group is a term of its place, so that one parenthesis less is open
    have hClosed : Reads _ (tokens ++ [.closing]) := h.feed rfl
    obtain ⟨rest, hRest⟩ := ih hClosed
    exact ⟨.closing :: rest, by simpa using hRest⟩

/-- Every reading can be completed to an expression: with a keyword if a term is to follow, and then
by closing the open parentheses. -/
theorem Reads.exists_sentence {reading : Reading} {tokens : List Token}
    (h : Reads reading tokens) : ∃ rest, Derives expression (tokens ++ rest) := by
  cases reading with
  | afterTerm whole outer => exact h.exists_closing
  | beforeTerm place outer =>
    have hTerm : Reads _ (tokens ++ [.keyword ""]) := h.feed rfl
    obtain ⟨rest, hRest⟩ := hTerm.exists_closing
    exact ⟨.keyword "" :: rest, by simpa using hRest⟩

end Reading

open Reading

/-- How the reader takes a phrase: a term wherever one is to follow, and an expression at the start
of a text or behind an open parenthesis. -/
def Phrase.IsRead : Phrase → List Token → Predicate → Prop
  | term, tokens, tree => ∀ (place : Place) (outer : List Place),
    (beforeTerm place outer).feedAll? tokens = some (afterTerm (place.complete tree) outer)
  | expression, tokens, tree => ∀ outer : List Place,
    (beforeTerm {} outer).feedAll? tokens = some (afterTerm tree outer)

theorem Phrase.Folds.isRead {phrase : Phrase} {tokens : List Token} {tree : Predicate}
    (h : Folds phrase tokens tree) : phrase.IsRead tokens tree := by
  induction h with
  | keyword value =>
    intro place outer
    rfl
  | not _ ih =>
    intro place outer
    rw [← Place.complete_negation]
    exact ih _ outer
  | group _ ih =>
    intro place outer
    change (beforeTerm {} (place :: outer)).feedAll? (_ ++ [.closing]) = _
    rw [feedAll?_append, ih (place :: outer)]
    rfl
  | single _ ih =>
    intro outer
    exact ih {} outer
  | @chain op before after left right tree _ _ hTree ihLeft ihRight =>
    intro outer
    rw [Tree.normalize_binary] at hTree
    cases hTree
    rw [feedAll?_append, ihLeft outer]
    exact ihRight { left := some (left, op) } outer

/-- The reader ends with a tree exactly when the flat grammar folds to it. -/
theorem result_feedAll?_iff {tokens : List Token} {tree : Predicate} :
    (start.feedAll? tokens).bind result? = some tree ↔ Folds expression tokens tree := by
  constructor
  · intro h
    obtain ⟨reading, hReading, hTree⟩ := Option.bind_eq_some_iff.mp h
    have hReads := Reads.start.feedAll hReading
    exact hReads.folds_of_result hTree
  · intro h
    have hRead : start.feedAll? tokens = some (afterTerm tree []) := h.isRead []
    rw [hRead]
    rfl

theorem isSome_feedAll?_iff {tokens : List Token} :
    (start.feedAll? tokens).isSome ↔ ∃ rest, Derives expression (tokens ++ rest) := by
  constructor
  · intro h
    obtain ⟨reading, hReading⟩ := Option.isSome_iff_exists.mp h
    have hReads := Reads.start.feedAll hReading
    exact hReads.exists_sentence
  · rintro ⟨rest, hRest⟩
    obtain ⟨tree, hTree⟩ := hRest.exists_folds
    have hRead := hTree.isRead []
    rw [feedAll?_append] at hRead
    obtain ⟨reading, hReading, _⟩ := Option.bind_eq_some_iff.mp hRead
    exact Option.isSome_iff_exists.mpr ⟨reading, hReading⟩

theorem Level.Assigns.unique {tokens : List Token} {tree other : Predicate}
    (h : Level.Assigns .disjunction tokens tree) (hOther : Level.Assigns .disjunction tokens other) :
    other = tree := by
  have hTree := result_feedAll?_iff.mpr (folds_iff_assigns.mpr h)
  have hOther := result_feedAll?_iff.mpr (folds_iff_assigns.mpr hOther)
  rw [hTree] at hOther
  exact (Option.some.inj hOther).symm

end KeywordFilter
