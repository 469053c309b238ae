import KeywordFilter.Tree.Rendering

/-!
# The text of a tree in order

What a tree adds to the text depends neither on the pieces behind it nor on what is written already.
-/

set_option autoImplicit false

namespace KeywordFilter.Tree

variable {α : Type}

theorem renderPieces_tree (foreignText : α → String) (whole : Tree α) (rest : List (Piece α))
    (written : String) :
    renderPieces foreignText (.tree whole :: rest) written =
      renderPieces foreignText rest (written ++ whole.inorder foreignText) := by
  induction whole generalizing rest written with
  | literal keyword => rw [renderPieces, inorder]
  | not operand ih => rw [renderPieces, renderPieces, ih, inorder, String.append_assoc]
  | group operand ih =>
    rw [renderPieces, renderPieces, ih, renderPieces, inorder]
    simp only [String.append_assoc]
  | binary op left right ihLeft ihRight =>
    rw [renderPieces, ihLeft, renderPieces, ihRight, inorder]
    simp only [String.append_assoc]
  | listed quantifier keys shown => rw [renderPieces, inorder]
  | foreign value => rw [renderPieces, inorder]

theorem render_eq_inorder (foreignText : α → String) (tree : Tree α) :
    tree.render foreignText = tree.inorder foreignText := by
  rw [render, renderPieces_tree, renderPieces, String.empty_append]

end KeywordFilter.Tree
