import KeywordFilter.Unicode.Casing

/-!
# Full lower-casing

Lower-casing works character by character, with two exceptions: the capital I with a dot becomes two
characters, and a capital sigma becomes a final sigma at the end of a word. The second needs the
whole text, so `lower` walks through it with what it has passed at hand.
-/

set_option autoImplicit false

namespace KeywordFilter.Unicode

def lowerCode (code : Nat) : Nat :=
  match lowerRuns.find? (·.moves code) with
  | some run => run.target + (code - run.first)
  | none => code

def lowerChar (c : Char) : List Char :=
  if c = 'İ' then ['i', '\u0307'] else [Char.ofNat (lowerCode c.toNat)]

/-- Whether the first character that is not case-ignorable is cased. -/
def meetsCased (text : List Char) : Bool :=
  (text.dropWhile caseIgnorable.contains).head?.any cased.contains

/-- Lower-cases a text that follows the characters `passed`, the nearest of them first. A capital
sigma is final when a cased letter comes before it and none comes after it. -/
def lowerAfter (passed : List Char) : List Char → List Char
  | [] => []
  | c :: rest =>
    -- both sides are looked at as they were before lower-casing
    (if c = 'Σ' then [if meetsCased passed && !meetsCased rest then 'ς' else 'σ'] else lowerChar c)
      ++ lowerAfter (c :: passed) rest

def lower (text : List Char) : List Char :=
  lowerAfter [] text

end KeywordFilter.Unicode
