import KeywordFilter.Unicode.Blank

/-!
# Words of a text

Words are the longest stretches without a blank character.
-/

set_option autoImplicit false

namespace KeywordFilter.Text

open Unicode (isBlank)

def splitWords (text : List Char) : List (List Char) :=
  match _hSplit : text.dropWhile isBlank with
  | [] => []
  | c :: rest =>
    (c :: rest.takeWhile (!isBlank ·)) :: splitWords (rest.dropWhile (!isBlank ·))
termination_by text.length
decreasing_by
  have hText := (List.dropWhile_suffix isBlank (l := text)).length_le
  have hRest := (List.dropWhile_suffix (!isBlank ·) (l := rest)).length_le
  rw [_hSplit, List.length_cons] at hText
  omega

def words (text : String) : List String :=
  (splitWords text.toList).map String.ofList

/-- Whether two texts have the same words in any order, each as often in one as in the other. -/
def sameWords (text other : String) : Bool :=
  (words text).mergeSort (· ≤ ·) == (words other).mergeSort (· ≤ ·)

def isBlankText (text : String) : Bool :=
  text.toList.all isBlank

def trim (text : List Char) : List Char :=
  ((text.dropWhile isBlank).reverse.dropWhile isBlank).reverse

end KeywordFilter.Text
