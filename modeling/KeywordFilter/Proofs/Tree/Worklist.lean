import KeywordFilter.Foreign
import KeywordFilter.Proofs.Tree.Rendering
import Mathlib.Logic.Function.Iterate

/-!
# The rounds of a rendering

`Shows` derives the text of a tree from the texts of its operands. Rendering finds the same text
(`render_in_order`), going through a list of pieces in rounds (`Worklist.next`). A round looks at the
first piece only and puts cheaper pieces or nothing in its place (`exists_next_cons`). So the cost goes
down by one in each round, a tree takes as many rounds as it costs, and neither the pieces around it nor
the text before it matter to what it adds.
-/

set_option autoImplicit false

namespace KeywordFilter.Tree

variable {α : Type}

/-- The text that a tree has: operators stand between their operands, and leaves stand for
themselves. -/
inductive Shows (foreignText : α → String) : Tree α → String → Prop where
  | literal (keyword : String) : Shows foreignText (literal keyword) keyword
  | not {operand : Tree α} {text : String} :
    Shows foreignText operand text → Shows foreignText (not operand) ("!" ++ text)
  | group {operand : Tree α} {text : String} :
    Shows foreignText operand text → Shows foreignText (group operand) ("(" ++ text ++ ")")
  | and {left right : Tree α} {first second : String} :
    Shows foreignText left first → Shows foreignText right second →
      Shows foreignText (binary .and left right) (first ++ " & " ++ second)
  | or {left right : Tree α} {first second : String} :
    Shows foreignText left first → Shows foreignText right second →
      Shows foreignText (binary .or left right) (first ++ " | " ++ second)
  | all (keys : KeywordSet) (words : List String) :
    Shows foreignText (listed .all keys words) ("all of (" ++ " ".intercalate words ++ ")")
  | any (keys : KeywordSet) (words : List String) :
    Shows foreignText (listed .any keys words) ("any of (" ++ " ".intercalate words ++ ")")
  | foreign (value : α) : Shows foreignText (foreign value) (foreignText value)

variable {foreignText : α → String}

theorem shows_inorder (tree : Tree α) : Shows foreignText tree (tree.inorder foreignText) := by
  induction tree with
  | literal keyword => exact .literal keyword
  | not operand ih => exact .not ih
  | group operand ih => exact .group ih
  | binary op left right ihLeft ihRight =>
    cases op with
    | and => exact .and ihLeft ihRight
    | or => exact .or ihLeft ihRight
  | listed quantifier keys words =>
    cases quantifier with
    | all => exact .all keys words
    | any => exact .any keys words
  | foreign value => exact .foreign value

theorem Shows.inorder_eq {tree : Tree α} {text : String} (h : Shows foreignText tree text) :
    tree.inorder foreignText = text := by
  induction h with
  | literal keyword => rfl
  | not _ ih => rw [inorder, ih]
  | group _ ih => rw [inorder, ih]
  | and _ _ ihLeft ihRight => rw [inorder, ihLeft, ihRight]; rfl
  | or _ _ ihLeft ihRight => rw [inorder, ihLeft, ihRight]; rfl
  | all keys words => rfl
  | any keys words => rfl
  | foreign value => rfl

theorem shows_iff {tree : Tree α} {text : String} :
    Shows foreignText tree text ↔ tree.inorder foreignText = text := by
  constructor
  · exact Shows.inorder_eq
  · rintro rfl
    exact shows_inorder tree

def Piece.ownText (foreignText : α → String) : Piece α → String
  | .text content => content
  | .tree whole => whole.inorder foreignText

section Pieces

variable (foreignText : α → String)

theorem renderPieces_cons (piece : Piece α) (rest : List (Piece α)) (written : String) :
    renderPieces foreignText (piece :: rest) written =
      renderPieces foreignText rest (written ++ piece.ownText foreignText) := by
  cases piece with
  | text content => rw [renderPieces, Piece.ownText]
  | tree whole => exact renderPieces_tree foreignText whole rest written

theorem renderPieces_eq_append (pieces : List (Piece α)) (written : String) :
    renderPieces foreignText pieces written = written ++ renderPieces foreignText pieces "" := by
  induction pieces generalizing written with
  | nil => rw [renderPieces, renderPieces, String.append_empty]
  | cons piece rest ih =>
    rw [renderPieces_cons, ih, renderPieces_cons foreignText piece rest "", ih ("" ++ _),
      String.empty_append, String.append_assoc]

theorem renderPieces_append (front rest : List (Piece α)) (written : String) :
    renderPieces foreignText (front ++ rest) written =
      renderPieces foreignText front written ++ renderPieces foreignText rest "" := by
  induction front generalizing written with
  | nil => rw [List.nil_append, renderPieces_eq_append, renderPieces]
  | cons piece front ih => rw [List.cons_append, renderPieces_cons, ih, renderPieces_cons]

theorem renderPieces_amid (front : List (Piece α)) (piece : Piece α) (rest : List (Piece α))
    (written : String) :
    renderPieces foreignText (front ++ piece :: rest) written =
      renderPieces foreignText front written ++ piece.ownText foreignText ++
        renderPieces foreignText rest "" := by
  rw [renderPieces_append, renderPieces_cons, renderPieces_eq_append foreignText rest ("" ++ _),
    String.empty_append, String.append_assoc]

end Pieces

theorem renderCost_pos (tree : Tree α) : 0 < tree.renderCost := by
  cases tree <;> simp only [renderCost] <;> omega

theorem Piece.totalCost_append (front rest : List (Piece α)) :
    totalCost (front ++ rest) = totalCost front + totalCost rest := by
  induction front with
  | nil => rw [List.nil_append, totalCost, Nat.zero_add]
  | cons piece front ih => rw [List.cons_append, totalCost, totalCost, ih, Nat.add_assoc]

theorem Piece.totalCost_eq_zero_iff {pieces : List (Piece α)} :
    totalCost pieces = 0 ↔ pieces = [] := by
  cases pieces with
  | nil => exact iff_of_true rfl rfl
  | cons piece rest =>
    have hPositive : 0 < piece.cost := by
      cases piece with
      | text content => exact Nat.one_pos
      | tree whole => exact whole.renderCost_pos
    refine iff_of_false ?_ (List.cons_ne_nil piece rest)
    rw [totalCost]
    omega

/-- Where a rendering stands: the pieces that are left, and what is written so far. -/
structure Worklist (α : Type) where
  pieces : List (Piece α)
  written : String

namespace Worklist

variable (foreignText : α → String)

def start (tree : Tree α) : Worklist α :=
  ⟨[.tree tree], ""⟩

/-- One round: the first piece is written or taken apart. Without pieces there is nothing to do. -/
def next : Worklist α → Worklist α
  | ⟨[], written⟩ => ⟨[], written⟩
  | ⟨.text text :: rest, written⟩ => ⟨rest, written ++ text⟩
  | ⟨.tree (literal keyword) :: rest, written⟩ => ⟨rest, written ++ keyword⟩
  | ⟨.tree (not operand) :: rest, written⟩ => ⟨.text "!" :: .tree operand :: rest, written⟩
  | ⟨.tree (group operand) :: rest, written⟩ =>
    ⟨.text "(" :: .tree operand :: .text ")" :: rest, written⟩
  | ⟨.tree (binary op left right) :: rest, written⟩ =>
    ⟨.tree left :: .text op.text :: .tree right :: rest, written⟩
  | ⟨.tree (listed quantifier _ words) :: rest, written⟩ =>
    ⟨rest, written ++ quantifier.listText words⟩
  | ⟨.tree (foreign value) :: rest, written⟩ => ⟨rest, written ++ foreignText value⟩

/-- The same work in the middle of other work: `rest` waits behind its pieces, and `written` stands
before its text. -/
def within (work : Worklist α) (written : String) (rest : List (Piece α)) : Worklist α :=
  ⟨work.pieces ++ rest, written ++ work.written⟩

def finish (work : Worklist α) : String :=
  renderPieces foreignText work.pieces work.written

/-- A round writes something in place of the first piece or puts cheaper pieces there, whatever comes
behind it and whatever is written already. -/
theorem exists_next_cons (piece : Piece α) :
    ∃ parts own, piece.cost = Piece.totalCost parts + 1 ∧
      ∀ rest written,
        next foreignText ⟨piece :: rest, written⟩ = ⟨parts ++ rest, written ++ own⟩ ∧
        renderPieces foreignText (piece :: rest) written =
          renderPieces foreignText (parts ++ rest) (written ++ own) := by
  cases piece with
  | text content =>
    exact ⟨[], content, rfl,
      fun rest written => ⟨rfl, renderPieces_cons foreignText _ rest written⟩⟩
  | tree whole =>
    cases whole with
    | literal keyword =>
      exact ⟨[], keyword, rfl,
        fun rest written => ⟨rfl, renderPieces_cons foreignText _ rest written⟩⟩
    | listed quantifier keys words =>
      exact ⟨[], quantifier.listText words, rfl,
        fun rest written => ⟨rfl, renderPieces_cons foreignText _ rest written⟩⟩
    | foreign value =>
      exact ⟨[], foreignText value, rfl,
        fun rest written => ⟨rfl, renderPieces_cons foreignText _ rest written⟩⟩
    -- a tree with operands is taken apart, and nothing is written
    | not operand =>
      refine ⟨[.text "!", .tree operand], "", ?_, ?_⟩
      · simp only [Piece.cost, Piece.totalCost, renderCost]
        omega
      · intro rest written
        rw [next, renderPieces, String.append_empty]
        exact ⟨rfl, rfl⟩
    | group operand =>
      refine ⟨[.text "(", .tree operand, .text ")"], "", ?_, ?_⟩
      · simp only [Piece.cost, Piece.totalCost, renderCost]
        omega
      · intro rest written
        rw [next, renderPieces, String.append_empty]
        exact ⟨rfl, rfl⟩
    | binary op left right =>
      refine ⟨[.tree left, .text op.text, .tree right], "", ?_, ?_⟩
      · simp only [Piece.cost, Piece.totalCost, renderCost]
        omega
      · intro rest written
        rw [next, renderPieces, String.append_empty]
        exact ⟨rfl, rfl⟩

theorem finish_next (work : Worklist α) :
    (work.next foreignText).finish foreignText = work.finish foreignText := by
  obtain ⟨pieces, written⟩ := work
  cases pieces with
  | nil => rfl
  | cons piece rest =>
    obtain ⟨parts, own, -, hNext⟩ := exists_next_cons foreignText piece
    rw [(hNext rest written).1]
    exact (hNext rest written).2.symm

theorem finish_iterate_next (work : Worklist α) (rounds : Nat) :
    ((next foreignText)^[rounds] work).finish foreignText = work.finish foreignText := by
  induction rounds with
  | zero => rfl
  | succ rounds ih => rw [Function.iterate_succ_apply', finish_next, ih]

theorem totalCost_next (work : Worklist α) :
    Piece.totalCost (work.next foreignText).pieces = Piece.totalCost work.pieces - 1 := by
  obtain ⟨pieces, written⟩ := work
  cases pieces with
  | nil => rfl
  | cons piece rest =>
    obtain ⟨parts, own, hCost, hNext⟩ := exists_next_cons foreignText piece
    rw [(hNext rest written).1, Piece.totalCost_append, Piece.totalCost, hCost]
    omega

theorem totalCost_iterate_next (work : Worklist α) (rounds : Nat) :
    Piece.totalCost ((next foreignText)^[rounds] work).pieces =
      Piece.totalCost work.pieces - rounds := by
  induction rounds with
  | zero => rfl
  | succ rounds ih => rw [Function.iterate_succ_apply', totalCost_next, ih, Nat.sub_sub]

theorem pieces_iterate_next_eq_nil_iff (work : Worklist α) (rounds : Nat) :
    ((next foreignText)^[rounds] work).pieces = [] ↔ Piece.totalCost work.pieces ≤ rounds := by
  rw [← Piece.totalCost_eq_zero_iff, totalCost_iterate_next, Nat.sub_eq_zero_iff_le]

theorem iterate_next_of_le {work : Worklist α} {rounds : Nat}
    (h : Piece.totalCost work.pieces ≤ rounds) :
    (next foreignText)^[rounds] work = ⟨[], work.finish foreignText⟩ := by
  have hPieces := (pieces_iterate_next_eq_nil_iff foreignText work rounds).mpr h
  have hFinish := finish_iterate_next foreignText work rounds
  generalize (next foreignText)^[rounds] work = final at hPieces hFinish
  obtain ⟨pieces, written⟩ := final
  subst hPieces
  rw [finish, renderPieces] at hFinish
  rw [← hFinish]

theorem next_within {work : Worklist α} (h : work.pieces ≠ []) (written : String)
    (rest : List (Piece α)) :
    (work.within written rest).next foreignText = (work.next foreignText).within written rest := by
  obtain ⟨pieces, before⟩ := work
  cases pieces with
  | nil => exact absurd rfl h
  | cons piece pieces =>
    obtain ⟨parts, own, -, hNext⟩ := exists_next_cons foreignText piece
    rw [within, List.cons_append, (hNext _ _).1, (hNext _ _).1, within, List.append_assoc,
      String.append_assoc]

/-- As long as work takes, it goes the same way in the middle of other work. -/
theorem iterate_next_within {work : Worklist α} {rounds : Nat}
    (h : rounds ≤ Piece.totalCost work.pieces) (written : String) (rest : List (Piece α)) :
    (next foreignText)^[rounds] (work.within written rest) =
      ((next foreignText)^[rounds] work).within written rest := by
  induction rounds with
  | zero => rfl
  | succ rounds ih =>
    have hLeft : ((next foreignText)^[rounds] work).pieces ≠ [] := by
      rw [ne_eq, pieces_iterate_next_eq_nil_iff]
      omega
    rw [Function.iterate_succ_apply', ih (by omega), next_within foreignText hLeft,
      Function.iterate_succ_apply']

end Worklist

open Worklist

/-- A tree is rendered as the text that it shows, in as many rounds as it costs and not fewer. What
it adds does not depend on what is around it: until its text is written, the rounds go the same way in
the middle of other work, and wherever it stands among pieces it may be replaced by this text. -/
theorem render_in_order (foreignText : α → String) (tree : Tree α) :
    (∀ text, tree.render foreignText = text ↔ Shows foreignText tree text) ∧
    (∀ rounds,
      ((next foreignText)^[rounds] (start tree)).pieces = [] ↔ tree.renderCost ≤ rounds) ∧
    (next foreignText)^[tree.renderCost] (start tree) = ⟨[], tree.render foreignText⟩ ∧
    (∀ written rest rounds, rounds ≤ tree.renderCost →
      (next foreignText)^[rounds] ⟨.tree tree :: rest, written⟩ =
        ((next foreignText)^[rounds] (start tree)).within written rest) ∧
    ∀ written front rest,
      renderPieces foreignText (front ++ .tree tree :: rest) written =
          renderPieces foreignText front written ++ tree.render foreignText ++
            renderPieces foreignText rest "" ∧
        renderPieces foreignText (front ++ .tree tree :: rest) written =
          renderPieces foreignText (front ++ .text (tree.render foreignText) :: rest) written := by
  have hCost : Piece.totalCost (start tree).pieces = tree.renderCost := rfl
  refine ⟨?_, ?_, ?_, ?_, ?_⟩
  · intro text
    rw [shows_iff, render_eq_inorder]
  · intro rounds
    rw [pieces_iterate_next_eq_nil_iff, hCost]
  · exact iterate_next_of_le foreignText (Nat.le_of_eq hCost)
  · intro written rest rounds hRounds
    rw [← hCost] at hRounds
    rw [← iterate_next_within foreignText hRounds, within, start, String.append_empty,
      List.singleton_append]
  · intro written front rest
    have hTree := renderPieces_amid foreignText front (.tree tree) rest written
    have hText := renderPieces_amid foreignText front (.text (tree.render foreignText)) rest written
    rw [Piece.ownText, ← render_eq_inorder] at hTree
    rw [Piece.ownText] at hText
    exact ⟨hTree, hTree.trans hText.symm⟩

/-- A foreign text that looks like a parenthesis is written like any other leaf. -/
theorem render_in_order_parenthesis :
    let tree : Tree Foreign := .not (.group (.binary .or (.foreign (.text ")")) (.foreign .null)))
    6 ≤ tree.renderCost ∧ tree.render Foreign.display = "!() | None)" ∧
      (next Foreign.display)^[6] ⟨[.tree tree, .text " & "], "a"⟩ =
        ⟨[.text " | ", .tree (.foreign .null), .text ")", .text " & "], "a!()"⟩ := by
  intro tree
  obtain ⟨hShows, -, -, hWithin, -⟩ := render_in_order Foreign.display tree
  have hCost : 6 ≤ tree.renderCost := by decide
  refine ⟨hCost, ?_, (hWithin "a" [.text " & "] 6 hCost).trans rfl⟩
  exact (hShows _).mpr (.not (.group (.or (.foreign _) (.foreign _))))

end KeywordFilter.Tree
