import KeywordFilter.Proofs.Tree.Rendering
import KeywordFilter.Tree.Normalization

/-!
# Where a conjunction is hung

Seen along its right operands, every tree is a number of disjunctions with something else hung at
their end (`exists_hung`). A conjunction over the tree takes the place of this end, which becomes its
left operand (`normalize_hung`); only a foreign end is in the way. The text stays as it is, and the
result has nothing left to normalize. On the way normalization calls itself for one smaller node at a
time (`Lowers`).
-/

set_option autoImplicit false

namespace KeywordFilter.Tree

variable {α : Type}

def isDisjunction : Tree α → Bool
  | binary .or _ _ => true
  | _ => false

/-- The tree, its right operand, the right operand of this one, and so on. -/
def rightSpine : Tree α → List (Tree α)
  | binary op left right => binary op left right :: right.rightSpine
  | tree => [tree]

/-- Disjunctions with the left operands `firsts`, each the right operand of the one before, and `last`
at their end. -/
def hung (firsts : List (Tree α)) (last : Tree α) : Tree α :=
  firsts.foldr (binary .or) last

def foreigns : Tree α → List α
  | literal _ => []
  | not operand => operand.foreigns
  | group operand => operand.foreigns
  | binary _ left right => left.foreigns ++ right.foreigns
  | listed .. => []
  | foreign value => [value]

@[simp] theorem hung_nil (last : Tree α) : hung [] last = last := rfl

@[simp] theorem hung_cons (first : Tree α) (firsts : List (Tree α)) (last : Tree α) :
    hung (first :: firsts) last = binary .or first (hung firsts last) := rfl

theorem exists_hung (tree : Tree α) :
    ∃ firsts last, tree = hung firsts last ∧ last.isDisjunction = false := by
  induction tree with
  | binary op first second _ ih =>
    cases op with
    | and => exact ⟨[], _, rfl, rfl⟩
    | or =>
      obtain ⟨firsts, last, rfl, hLast⟩ := ih
      exact ⟨first :: firsts, last, rfl, hLast⟩
  | _ => exact ⟨[], _, rfl, rfl⟩

theorem find?_rightSpine_hung {last : Tree α} (hLast : last.isDisjunction = false)
    (firsts : List (Tree α)) :
    (hung firsts last).rightSpine.find? (!·.isDisjunction) = some last := by
  induction firsts with
  | nil =>
    have hHead : ∃ others, last.rightSpine = last :: others := by cases last <;> exact ⟨_, rfl⟩
    obtain ⟨others, hSpine⟩ := hHead
    rw [hung_nil, hSpine, List.find?_cons_of_pos (by simp [hLast])]
  | cons first firsts ih =>
    rw [hung_cons, rightSpine, List.find?_cons_of_neg (by simp [isDisjunction]), ih]

theorem getElem?_rightSpine_hung (firsts : List (Tree α)) (left right : Tree α) :
    (hung firsts (binary .and left right)).rightSpine[firsts.length]? =
      some (binary .and left right) := by
  induction firsts with
  | nil => rfl
  | cons first firsts ih => exact ih

theorem eq_of_mem_take_rightSpine {firsts : List (Tree α)} {left right first second : Tree α}
    (h : binary .and first second ∈
      (hung firsts (binary .and left right)).rightSpine.take (firsts.length + 1)) :
    first = left ∧ second = right := by
  induction firsts with
  | nil =>
    rw [hung_nil, rightSpine, List.length_nil, List.take_succ_cons, List.take_zero,
      List.mem_singleton] at h
    cases h
    exact ⟨rfl, rfl⟩
  | cons other firsts ih =>
    rw [hung_cons, rightSpine, List.length_cons, List.take_succ_cons] at h
    rcases List.mem_cons.mp h with h | h
    · cases h
    · exact ih h

/-- The node inside `outer` that normalizing `outer` is done with: an operator over a left operand
that binds less tightly goes to the right operand of this one. -/
inductive Lowers : Tree α → Tree α → Prop where
  | lower {op other : Connective} {first last right : Tree α} :
    other.precedence < op.precedence →
      Lowers (binary op (binary other first last) right) (binary op last right)

theorem Lowers.sizeOf_lt {outer inner : Tree α} (h : Lowers outer inner) :
    sizeOf inner < sizeOf outer := by
  cases h
  simp only [binary.sizeOf_spec]
  omega

theorem Lowers.wellFounded : WellFounded fun inner outer : Tree α => Lowers outer inner := by
  apply Subrelation.wf (r := InvImage (· < ·) sizeOf)
  · intro inner outer h
    exact h.sizeOf_lt
  · exact InvImage.wf sizeOf Nat.lt_wfRel.wf

theorem normalize_lowered {op other : Connective} (h : other.precedence < op.precedence)
    (first last right : Tree α) :
    normalize (binary op (binary other first last) right) =
      (normalize (binary op last right)).map (binary other first) := by
  simp only [normalize, hinge, attach, if_pos h]
  cases hinge op last <;> rfl

/-- The outcome is the tree `result`, unless the operand to be bound is foreign. -/
def Binds (operand result : Tree α) (outcome : Except (NormalizationError α) (Tree α)) : Prop :=
  (∀ value, operand = foreign value → outcome = .error (.foreignOperand value)) ∧
    ((∀ value, operand ≠ foreign value) → outcome = .ok result)

theorem Binds.map {operand result : Tree α} {outcome : Except (NormalizationError α) (Tree α)}
    (h : Binds operand result outcome) (frame : Tree α → Tree α) :
    Binds operand (frame result) (outcome.map frame) := by
  refine ⟨?_, ?_⟩
  · intro value hValue
    rw [h.1 value hValue]
    rfl
  · intro hOperand
    rw [h.2 hOperand]
    rfl

theorem binds_of_not_lowers {op : Connective} {left right : Tree α}
    (h : ∀ inner, ¬ Lowers (binary op left right) inner) :
    Binds left (binary op left right) (normalize (binary op left right)) := by
  refine ⟨?_, ?_⟩
  · rintro value rfl
    rfl
  · intro hLeft
    cases left with
    | foreign value => exact absurd rfl (hLeft value)
    | binary other first last =>
      have hTight : ¬ other.precedence < op.precedence := fun hLoose => h _ (.lower hLoose)
      simp only [normalize, hinge, attach, if_neg hTight]
    | _ => rfl

theorem not_lowers_or (left right inner : Tree α) : ¬ Lowers (binary .or left right) inner := by
  intro h
  cases h with
  | lower hLoose => exact absurd hLoose (Nat.not_lt_zero _)

theorem not_lowers_and {left : Tree α} (hLeft : left.isDisjunction = false) (right inner : Tree α) :
    ¬ Lowers (binary .and left right) inner := by
  intro h
  cases h with
  | @lower _ other _ _ _ hLoose =>
    cases other with
    | and => exact absurd hLoose (Nat.lt_irrefl _)
    | or => cases hLeft

theorem normalize_hung (firsts : List (Tree α)) (last right : Tree α) :
    normalize (binary .and (hung firsts last) right) =
      (normalize (binary .and last right)).map (hung firsts) := by
  induction firsts with
  | nil =>
    rw [hung_nil]
    cases normalize (binary .and last right) <;> rfl
  | cons first firsts ih =>
    have hLoose : Connective.or.precedence < Connective.and.precedence := Nat.zero_lt_one
    rw [hung_cons, normalize_lowered hLoose, ih]
    cases normalize (binary .and last right) <;> rfl

theorem binds_hung {last : Tree α} (hLast : last.isDisjunction = false) (firsts : List (Tree α))
    (right : Tree α) :
    Binds last (hung firsts (binary .and last right))
      (normalize (binary .and (hung firsts last) right)) := by
  rw [normalize_hung]
  exact (binds_of_not_lowers (not_lowers_and hLast right)).map (hung firsts)

theorem attach_of_normalize {op : Connective} {left right result : Tree α}
    (h : normalize (binary op left right) = .ok result) : attach op left right = result := by
  simp only [normalize] at h
  split at h
  · cases h
  · exact Except.ok.inj h

theorem inorder_attach (foreignText : α → String) (op : Connective) (left right : Tree α) :
    (attach op left right).inorder foreignText = (binary op left right).inorder foreignText := by
  induction left with
  | binary other first last _ ih =>
    rw [attach]
    split
    · rw [inorder, ih]
      simp only [inorder, String.append_assoc]
    · rfl
  | _ => rfl

theorem render_of_normalize {op : Connective} {left right result : Tree α}
    (h : normalize (binary op left right) = .ok result) (foreignText : α → String) :
    result.render foreignText = (binary op left right).render foreignText := by
  rw [← attach_of_normalize h, render_eq_inorder, render_eq_inorder, inorder_attach]

theorem ne_foreign_of_foreigns {tree : Tree α} (h : tree.foreigns = []) (value : α) :
    tree ≠ foreign value := by
  rintro rfl
  cases h

theorem normalize_or {left : Tree α} (hLeft : left.foreigns = []) (right : Tree α) :
    normalize (binary .or left right) = .ok (binary .or left right) :=
  (binds_of_not_lowers (not_lowers_or left right)).2 (ne_foreign_of_foreigns hLeft)

theorem foreigns_hung_cons {first : Tree α} {firsts : List (Tree α)} {last : Tree α}
    (h : (hung (first :: firsts) last).foreigns = []) : first.foreigns = [] :=
  (List.append_eq_nil_iff.mp h).1

theorem normalize_of_normalize {op : Connective} {left right result : Tree α}
    (hForeigns : left.foreigns = []) (h : normalize (binary op left right) = .ok result) :
    normalize result = .ok result := by
  cases op with
  | or =>
    rw [normalize_or hForeigns] at h
    cases h
    exact normalize_or hForeigns right
  | and =>
    obtain ⟨firsts, last, rfl, hLast⟩ := exists_hung left
    rw [normalize_hung] at h
    -- the result is the node itself, or a disjunction, which has nothing to lower
    cases firsts with
    | nil =>
      have hSame := (binds_of_not_lowers (not_lowers_and hLast right)).2
        (ne_foreign_of_foreigns hForeigns)
      rw [hSame] at h
      cases h
      exact hSame
    | cons first firsts =>
      cases hRest : normalize (binary .and last right) with
      | error error =>
        rw [hRest] at h
        cases h
      | ok rest =>
        rw [hRest] at h
        cases h
        exact normalize_or (foreigns_hung_cons hForeigns) _

/-- Normalizing leaves a disjunction as it is and hangs a conjunction at the end of the disjunctions
that its left operand begins with, so that no conjunction binds a disjunction there. Only a foreign
leaf in this place is an error. The text stays the same, a second normalization changes nothing, and
the calls inside come to an end. -/
theorem normalize_hangs (foreignText : α → String) (left right : Tree α) :
    Binds left (binary .or left right) (normalize (binary .or left right)) ∧
    (∃ firsts last, left = hung firsts last ∧
      left.rightSpine.find? (!·.isDisjunction) = some last ∧
      Binds last (hung firsts (binary .and last right)) (normalize (binary .and left right)) ∧
      (hung firsts (binary .and last right)).rightSpine[firsts.length]? =
        some (binary .and last right) ∧
      ∀ first second, binary .and first second ∈
          (hung firsts (binary .and last right)).rightSpine.take (firsts.length + 1) →
        first.isDisjunction = false) ∧
    (∀ op result, normalize (binary op left right) = .ok result →
      result.render foreignText = (binary op left right).render foreignText ∧
        ((binary op left right).foreigns = [] → normalize result = .ok result)) ∧
    (WellFounded fun inner outer : Tree α => Lowers outer inner) ∧
    ∀ op,
      (∀ other first last, left = binary other first last → other.precedence < op.precedence →
        Lowers (binary op left right) (binary op last right) ∧
          normalize (binary op left right) =
            (normalize (binary op last right)).map (binary other first)) ∧
      ((∀ inner, ¬ Lowers (binary op left right) inner) →
        Binds left (binary op left right) (normalize (binary op left right))) := by
  refine ⟨binds_of_not_lowers (not_lowers_or left right), ?_, ?_, Lowers.wellFounded, ?_⟩
  · obtain ⟨firsts, last, rfl, hLast⟩ := exists_hung left
    refine ⟨firsts, last, rfl, find?_rightSpine_hung hLast firsts, binds_hung hLast firsts right,
      getElem?_rightSpine_hung firsts last right, ?_⟩
    intro first second hMem
    rw [(eq_of_mem_take_rightSpine hMem).1]
    exact hLast
  · intro op result hResult
    refine ⟨render_of_normalize hResult foreignText, ?_⟩
    intro hForeigns
    exact normalize_of_normalize (List.append_eq_nil_iff.mp hForeigns).1 hResult
  · intro op
    refine ⟨?_, binds_of_not_lowers⟩
    rintro other first last rfl hLoose
    exact ⟨.lower hLoose, normalize_lowered hLoose first last right⟩

example (a b c : Tree Nat) :
    normalize (binary .and (binary .or a (binary .and b c)) c) =
        .ok (binary .or a (binary .and (binary .and b c) c)) ∧
      normalize (binary .and (binary .or a (foreign 1)) c) = .error (.foreignOperand 1) :=
  ⟨rfl, rfl⟩

end KeywordFilter.Tree
