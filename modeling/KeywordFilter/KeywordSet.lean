/-!
# Sets of keywords

A set of keywords is kept as its members in ascending order, each of them once. Two sets with the
same members are therefore equal (`KeywordSet.ext_mem`).
-/

set_option autoImplicit false

namespace KeywordFilter

/-- Places a word in an ascending list, unless it is there already. -/
def insertAscending (word : String) : List String → List String
  | [] => [word]
  | first :: rest =>
    if word < first then word :: first :: rest
    else if word = first then first :: rest
    else first :: insertAscending word rest

theorem mem_insertAscending {word other : String} {words : List String} :
    other ∈ insertAscending word words ↔ other = word ∨ other ∈ words := by
  induction words with
  | nil => simp [insertAscending]
  | cons first rest ih =>
    simp only [insertAscending]
    split
    · simp
    · split
      · next heq => subst heq; simp
      · simp only [List.mem_cons, ih]
        exact or_left_comm

theorem pairwise_insertAscending {word : String} {words : List String}
    (h : words.Pairwise (· < ·)) : (insertAscending word words).Pairwise (· < ·) := by
  induction words with
  | nil => simp [insertAscending]
  | cons first rest ih =>
    obtain ⟨hFirst, hRest⟩ := List.pairwise_cons.mp h
    simp only [insertAscending]
    split
    · next hlt =>
      refine List.pairwise_cons.mpr ⟨?_, h⟩
      intro other hOther
      rcases List.mem_cons.mp hOther with rfl | hMem
      · exact hlt
      · exact String.lt_trans hlt (hFirst other hMem)
    · split
      · exact h
      · next hnlt hne =>
        refine List.pairwise_cons.mpr ⟨?_, ih hRest⟩
        intro other hOther
        rcases mem_insertAscending.mp hOther with rfl | hMem
        · exact String.not_le.mp fun hle => hne (String.le_antisymm hle (String.not_lt.mp hnlt))
        · exact hFirst other hMem

/-- A finite set of keywords, as the list of its members in ascending order. -/
structure KeywordSet where
  toList : List String
  ascending : toList.Pairwise (· < ·)
  deriving DecidableEq

namespace KeywordSet

def empty : KeywordSet := ⟨[], List.Pairwise.nil⟩

instance : EmptyCollection KeywordSet := ⟨empty⟩

def insert (word : String) (set : KeywordSet) : KeywordSet :=
  ⟨insertAscending word set.toList, pairwise_insertAscending set.ascending⟩

def ofList (words : List String) : KeywordSet :=
  words.foldr insert empty

instance : Membership String KeywordSet where
  mem set word := word ∈ set.toList

instance (word : String) (set : KeywordSet) : Decidable (word ∈ set) :=
  inferInstanceAs (Decidable (word ∈ set.toList))

theorem mem_iff {word : String} {set : KeywordSet} : word ∈ set ↔ word ∈ set.toList := Iff.rfl

@[simp] theorem mem_insert {word other : String} {set : KeywordSet} :
    other ∈ set.insert word ↔ other = word ∨ other ∈ set :=
  mem_insertAscending

@[simp] theorem mem_ofList {word : String} {words : List String} :
    word ∈ ofList words ↔ word ∈ words := by
  induction words with
  | nil => simp [ofList, empty, mem_iff]
  | cons first rest ih =>
    have hStep : ofList (first :: rest) = (ofList rest).insert first := rfl
    rw [hStep, mem_insert, ih, List.mem_cons]

def isSubset (set other : KeywordSet) : Bool :=
  set.toList.all fun word => decide (word ∈ other)

def meets (set other : KeywordSet) : Bool :=
  set.toList.any fun word => decide (word ∈ other)

theorem isSubset_iff {set other : KeywordSet} :
    set.isSubset other = true ↔ ∀ word ∈ set, word ∈ other := by
  simp [isSubset, mem_iff]

theorem meets_iff {set other : KeywordSet} :
    set.meets other = true ↔ ∃ word ∈ set, word ∈ other := by
  simp [meets, mem_iff]

theorem eq_of_ascending {words others : List String} (hWords : words.Pairwise (· < ·))
    (hOthers : others.Pairwise (· < ·)) (h : ∀ word, word ∈ words ↔ word ∈ others) :
    words = others := by
  induction words generalizing others with
  | nil =>
    cases others with
    | nil => rfl
    | cons other rest => exact absurd ((h other).mpr List.mem_cons_self) List.not_mem_nil
  | cons word tail ih =>
    cases others with
    | nil => exact absurd ((h word).mp List.mem_cons_self) List.not_mem_nil
    | cons other rest =>
      obtain ⟨hWord, hTail⟩ := List.pairwise_cons.mp hWords
      obtain ⟨hOther, hRest⟩ := List.pairwise_cons.mp hOthers
      -- both heads are the least member
      have hHead : word = other := by
        rcases List.mem_cons.mp ((h word).mp List.mem_cons_self) with heq | hIn
        · exact heq
        rcases List.mem_cons.mp ((h other).mpr List.mem_cons_self) with heq | hIn'
        · exact heq.symm
        exact absurd (String.lt_trans (hOther _ hIn) (hWord _ hIn')) (String.lt_irrefl _)
      subst hHead
      refine congrArg (word :: ·) (ih hTail hRest fun x => ?_)
      constructor
      · intro hx
        rcases List.mem_cons.mp ((h x).mp (List.mem_cons_of_mem _ hx)) with rfl | hIn
        · exact absurd (hWord _ hx) (String.lt_irrefl _)
        · exact hIn
      · intro hx
        rcases List.mem_cons.mp ((h x).mpr (List.mem_cons_of_mem _ hx)) with rfl | hIn
        · exact absurd (hOther _ hx) (String.lt_irrefl _)
        · exact hIn

theorem ext_mem {set other : KeywordSet} (h : ∀ word, word ∈ set ↔ word ∈ other) :
    set = other := by
  obtain ⟨words, hWords⟩ := set
  obtain ⟨others, hOthers⟩ := other
  obtain rfl : words = others := eq_of_ascending hWords hOthers h
  rfl

end KeywordSet

end KeywordFilter
