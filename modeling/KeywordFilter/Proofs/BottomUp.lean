import KeywordFilter.Proofs.Parsing
import KeywordFilter.Proofs.Tree.Normalization

/-!
# Building the tree from the bottom up

`Phrase.Builds` folds a chain from left to right and keeps a list of the nodes that are normalized on
the way. The reader normalizes the same nodes in the same order (`Phrase.Builds.isLogged`). The left
operand of such a node is the fold of a chain, in which no disjunction is the right operand of another:
to normalize the node takes at most one call more, and this one changes nothing
(`normalization_nests_once`).
-/

set_option autoImplicit false

namespace KeywordFilter

open Phrase

/-- The trees of the flat grammar, with the binary nodes that are normalized while they are built, the
operands of a node before the node itself. -/
inductive Phrase.Builds : Phrase → List Token → Predicate → List Predicate → Prop where
  | keyword (value : String) : Builds term [.keyword value] (.literal value) []
  | not {tokens : List Token} {operand : Predicate} {nodes : List Predicate} :
    Builds term tokens operand nodes → Builds term (.not :: tokens) (.not operand) nodes
  | group {tokens : List Token} {operand : Predicate} {nodes : List Predicate} :
    Builds expression tokens operand nodes →
      Builds term (.opening :: (tokens ++ [.closing])) (.group operand) nodes
  | single {tokens : List Token} {tree : Predicate} {nodes : List Predicate} :
    Builds term tokens tree nodes → Builds expression tokens tree nodes
  | chain {op : Connective} {before after : List Token} {left right tree : Predicate}
      {nodes others : List Predicate} :
    Builds expression before left nodes → Builds term after right others →
      Tree.normalize (.binary op left right) = .ok tree →
        Builds expression (before ++ .connective op :: after) tree
          (nodes ++ (others ++ [.binary op left right]))

theorem Phrase.Builds.folds {phrase : Phrase} {tokens : List Token} {tree : Predicate}
    {nodes : List Predicate} (h : Builds phrase tokens tree nodes) : Folds phrase tokens tree := by
  induction h with
  | keyword value => exact .keyword value
  | not _ ih => exact .not ih
  | group _ ih => exact .group ih
  | single _ ih => exact .single ih
  | chain _ _ hTree ihLeft ihRight => exact .chain ihLeft ihRight hTree

theorem Phrase.Folds.exists_builds {phrase : Phrase} {tokens : List Token} {tree : Predicate}
    (h : Folds phrase tokens tree) : ∃ nodes, Builds phrase tokens tree nodes := by
  induction h with
  | keyword value => exact ⟨_, .keyword value⟩
  | not _ ih =>
    obtain ⟨nodes, hOperand⟩ := ih
    exact ⟨nodes, .not hOperand⟩
  | group _ ih =>
    obtain ⟨nodes, hOperand⟩ := ih
    exact ⟨nodes, .group hOperand⟩
  | single _ ih =>
    obtain ⟨nodes, hTree⟩ := ih
    exact ⟨nodes, .single hTree⟩
  | chain _ _ hTree ihLeft ihRight =>
    obtain ⟨nodes, hLeft⟩ := ihLeft
    obtain ⟨others, hRight⟩ := ihRight
    exact ⟨_, .chain hLeft hRight hTree⟩

namespace Place

/-- The node that is normalized when a term completes its place, if an operator waits for the term. -/
def joined (place : Place) (term : Predicate) : List Predicate :=
  ((place.node? term).map fun (op, left, right) => .binary op left right).toList

theorem joined_negation (place : Place) (term : Predicate) :
    ({ place with negations := place.negations + 1 } : Place).joined term =
      place.joined (.not term) := by
  obtain ⟨left, negations⟩ := place
  cases left <;> simp [joined, node?, negated_succ]

theorem eq_of_mem_joined {place : Place} {term node : Predicate} (h : node ∈ place.joined term) :
    ∃ left op, place.left = some (left, op) ∧
      node = .binary op left (negated place.negations term) := by
  obtain ⟨left, negations⟩ := place
  cases left with
  | none => cases h
  | some pair => exact ⟨pair.1, pair.2, rfl, List.mem_singleton.mp h⟩

end Place

namespace Reading

def joined : Reading → Token → List Predicate
  | beforeTerm place _, .keyword value => place.joined (.literal value)
  | afterTerm whole outer, .closing => outer.head?.elim [] (·.joined (.group whole))
  | _, _ => []

def joinedAll (reading : Reading) : List Token → List Predicate
  | [] => []
  | token :: rest => reading.joined token ++ (reading.feed? token).elim [] (joinedAll · rest)

theorem joinedAll_append (reading : Reading) (before after : List Token) :
    reading.joinedAll (before ++ after) =
      reading.joinedAll before ++ (reading.feedAll? before).elim [] (joinedAll · after) := by
  induction before generalizing reading with
  | nil => rfl
  | cons token rest ih =>
    rw [List.cons_append, joinedAll, joinedAll, feedAll?_cons]
    cases reading.feed? token with
    | none => simp
    | some next => simp [ih]

end Reading

open Reading

/-- How the reader logs a phrase: a term is followed by the node that it completes. -/
def Phrase.IsLogged : Phrase → List Token → Predicate → List Predicate → Prop
  | term, tokens, tree, nodes => ∀ (place : Place) (outer : List Place),
    (beforeTerm place outer).joinedAll tokens = nodes ++ place.joined tree
  | expression, tokens, _, nodes => ∀ outer : List Place,
    (beforeTerm {} outer).joinedAll tokens = nodes

theorem Phrase.Builds.isLogged {phrase : Phrase} {tokens : List Token} {tree : Predicate}
    {nodes : List Predicate} (h : Builds phrase tokens tree nodes) :
    phrase.IsLogged tokens tree nodes := by
  induction h with
  | keyword value =>
    intro place outer
    exact List.append_nil _
  | not _ ih =>
    intro place outer
    rw [← Place.joined_negation]
    exact ih _ outer
  | @group tokens operand nodes hOperand ih =>
    intro place outer
    change (beforeTerm {} (place :: outer)).joinedAll (tokens ++ [.closing]) = _
    rw [joinedAll_append, ih, hOperand.folds.isRead (place :: outer)]
    exact congrArg (nodes ++ ·) (List.append_nil _)
  | single _ ih =>
    intro outer
    exact (ih {} outer).trans (List.append_nil _)
  | @chain op before after left right tree nodes others hLeft _ _ ihLeft ihRight =>
    intro outer
    have hBehind : (afterTerm left outer).joinedAll (.connective op :: after) =
        others ++ [.binary op left right] := ihRight { left := some (left, op) } outer
    rw [joinedAll_append, ihLeft, hLeft.folds.isRead outer, Option.elim_some, hBehind]

/-- The reader normalizes the nodes that are normalized when the tree is built from the bottom up. -/
theorem Phrase.Folds.builds_iff {tokens : List Token} {tree : Predicate}
    (h : Folds expression tokens tree) (nodes : List Predicate) :
    Builds expression tokens tree nodes ↔ nodes = start.joinedAll tokens := by
  have hUnique : ∀ {others}, Builds expression tokens tree others →
      others = start.joinedAll tokens := fun hBuilds => (hBuilds.isLogged []).symm
  constructor
  · exact hUnique
  · rintro rfl
    obtain ⟨others, hBuilds⟩ := h.exists_builds
    rw [← hUnique hBuilds]
    exact hBuilds

theorem Level.Assigns.isDisjunction_eq_false {tokens : List Token} {tree : Predicate}
    (h : Level.Assigns .conjunction tokens tree) : tree.isDisjunction = false := by
  cases h with
  | ofTerm h => cases h <;> rfl
  | and => rfl

theorem Phrase.Folds.last_not_disjunction {tokens : List Token} {first last : Predicate}
    (h : Folds expression tokens (.binary .or first last)) : last.isDisjunction = false := by
  cases folds_iff_assigns.mp h with
  | ofConjunction h => cases h.isDisjunction_eq_false
  | or _ hLast => exact hLast.isDisjunction_eq_false

namespace Tree

theorem eq_or_of_lowers {op : Connective} {left right inner : Predicate}
    (h : Lowers (binary op left right) inner) :
    ∃ first last, left = binary .or first last ∧ inner = binary .and last right := by
  cases h with
  | @lower _ other first last _ hLoose =>
    have hBinds : op = .and ∧ other = .or := by
      revert hLoose
      cases op <;> cases other <;> decide
    obtain ⟨rfl, rfl⟩ := hBinds
    exact ⟨first, last, rfl, rfl⟩

/-- A disjunction under a conjunction has no disjunction as its right operand. To normalize the node
therefore takes at most one call more, which changes nothing. -/
structure NestsOnce (node : Predicate) : Prop where
  last_not_disjunction : ∀ first last right : Predicate,
    node = binary .and (binary .or first last) right → last.isDisjunction = false
  inner_unchanged : ∀ inner, Lowers node inner → normalize inner = .ok inner
  no_further : ∀ inner, Lowers node inner → ∀ further, ¬ Lowers inner further

theorem nestsOnce_binary {tokens : List Token} {left : Predicate}
    (h : Folds expression tokens left) (op : Connective) (right : Predicate) :
    NestsOnce (binary op left right) := by
  -- a call inside is for a conjunction over the right operand of a disjunction
  have hInner : ∀ inner, Lowers (binary op left right) inner →
      ∀ further, ¬ Lowers inner further := by
    intro inner hLowers
    obtain ⟨first, last, rfl, rfl⟩ := eq_or_of_lowers hLowers
    exact not_lowers_and h.last_not_disjunction right
  refine ⟨?_, ?_, hInner⟩
  · rintro first last other ⟨⟩
    exact h.last_not_disjunction
  · intro inner hLowers
    have hStill := hInner inner hLowers
    obtain ⟨first, last, rfl, rfl⟩ := eq_or_of_lowers hLowers
    exact (binds_of_not_lowers hStill).2 fun value => value.elim

end Tree

theorem Place.Follows.folds_left {place : Place} {before : List Token} (h : place.Follows before) :
    ∀ {left op}, place.left = some (left, op) → ∃ tokens, Folds expression tokens left := by
  induction h with
  | start =>
    intro left op hLeft
    cases hLeft
  | operator _ hFolds =>
    rintro left op ⟨⟩
    exact ⟨_, hFolds⟩
  | negation _ ih => exact ih

theorem Place.Follows.nestsOnce {place : Place} {before : List Token} (h : place.Follows before)
    {term node : Predicate} (hNode : node ∈ place.joined term) : Tree.NestsOnce node := by
  obtain ⟨left, op, hLeft, rfl⟩ := Place.eq_of_mem_joined hNode
  obtain ⟨tokens, hFolds⟩ := h.folds_left hLeft
  exact Tree.nestsOnce_binary hFolds op _

theorem Reading.Reads.nestsOnce {reading : Reading} {tokens : List Token} {token : Token}
    {node : Predicate} (h : Reads reading tokens) (hNode : node ∈ reading.joined token) :
    Tree.NestsOnce node := by
  cases h with
  | beforeTerm _ hPlace =>
    cases token with
    | keyword value => exact hPlace.nestsOnce hNode
    | _ => cases hNode
  | afterTerm hOuter _ =>
    cases token with
    | closing =>
      cases hOuter with
      | nil => cases hNode
      | cons _ hPlace => exact hPlace.nestsOnce hNode
    | _ => cases hNode

theorem Reading.Reads.nestsOnce_all {reading : Reading} {tokens more : List Token}
    {node : Predicate} (h : Reads reading tokens) (hNode : node ∈ reading.joinedAll more) :
    Tree.NestsOnce node := by
  induction more generalizing reading tokens with
  | nil => cases hNode
  | cons token rest ih =>
    rcases List.mem_append.mp hNode with hNode | hNode
    · exact h.nestsOnce hNode
    · cases hNext : reading.feed? token with
      | none =>
        rw [hNext] at hNode
        cases hNode
      | some next =>
        rw [hNext] at hNode
        exact ih (h.feed hNext) hNode

namespace Expression

/-- Every node that is normalized while a text is read nests one call at most, which changes nothing,
however long its chains are and however deep its groups. If the text is accepted, these are the nodes
that building its tree from the bottom up normalizes. -/
theorem normalization_nests_once (settings : FullSettings) (text : String) :
    (∀ node ∈ start.joinedAll (Scan.ofText settings text).tokens, Tree.NestsOnce node) ∧
    ∀ vocabulary tree, parse settings vocabulary (some text) = .ok tree →
      ∀ nodes, Builds expression (Scan.ofText settings text).tokens tree nodes ↔
        nodes = start.joinedAll (Scan.ofText settings text).tokens := by
  refine ⟨fun node => Reads.start.nestsOnce_all, ?_⟩
  intro vocabulary tree hTree
  obtain ⟨tokens, hSpells, -, hFolds⟩ := parse_eq_ok_iff.mp hTree
  obtain ⟨rfl, -⟩ := spells_iff.mp hSpells
  exact hFolds.builds_iff

theorem normalization_nests_once_chain :
    let disjunction : Predicate := .binary .or (.literal "a") (.literal "b")
    let inner : Predicate := .binary .and (.literal "b") (.literal "c")
    let outer : Predicate := .binary .and disjunction (.literal "c")
    Builds expression (Scan.ofText {} "a | b & c").tokens (.binary .or (.literal "a") inner)
        [disjunction, outer] ∧
      Tree.Lowers outer inner ∧ Tree.normalize inner = .ok inner ∧
        ∀ further, ¬ Tree.Lowers inner further := by
  intro disjunction inner outer
  obtain ⟨hNodes, hBuilds⟩ := normalization_nests_once {} "a | b & c"
  have hOuter := hNodes outer (by decide +kernel)
  have hLowers : Tree.Lowers outer inner := .lower (by decide)
  refine ⟨?_, hLowers, hOuter.inner_unchanged _ hLowers, hOuter.no_further _ hLowers⟩
  exact (hBuilds none _ (by decide +kernel) _).mpr (by decide +kernel)

end Expression

end KeywordFilter
