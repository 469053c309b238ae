import KeywordFilter.Proofs.Equality
import KeywordFilter.Proofs.Tree.Keywords
import KeywordFilter.Proofs.Unicode.Ascii

/-!
# Reading a summary again where accents are ignored

A transliterated keyword may hold anything in ASCII, blanks and operators among it, so that a summary
can fail to be an expression or be one for another condition. Reading it gives the same condition only
if every keyword is stable: the symbols of the tree use up those of the text, hence none comes from
within a keyword, and the text of each keyword is read as this keyword alone
(`Level.Assigns.spells_keyword`).
-/

set_option autoImplicit false

namespace KeywordFilter

open Unicode Scan Expression

def Token.isSymbol : Token → Bool
  | keyword _ => false
  | connective _ | not | opening | closing => true

/-- How many characters of a text are tokens by themselves. -/
def symbolCount (text : List Char) : Nat :=
  text.countP fun c => (Token.ofSymbol? c).isSome

@[simp] theorem symbolCount_cons (c : Char) (text : List Char) :
    symbolCount (c :: text) = symbolCount text + if (Token.ofSymbol? c).isSome then 1 else 0 :=
  List.countP_cons

@[simp] theorem symbolCount_append (text next : List Char) :
    symbolCount (text ++ next) = symbolCount text + symbolCount next :=
  List.countP_append

theorem isSymbol_of_ofSymbol? {c : Char} {token : Token} (h : Token.ofSymbol? c = some token) :
    token.isSymbol = true := by
  cases token with
  | keyword value => exact absurd h (ofSymbol?_ne_keyword c value)
  | connective op => rfl
  | not => rfl
  | opening => rfl
  | closing => rfl

theorem symbolCount_of_isIdentifier {digits : Bool} {text : List Char}
    (h : IsIdentifier digits text) : symbolCount text = 0 := by
  rw [symbolCount, List.countP_eq_zero]
  intro c hc
  simp [ofSymbol?_eq_none_of_part (h.part c hc)]

theorem countP_scanFrom {settings : FullSettings} {position : Nat} {text : List Char}
    (hStop : (scanFrom settings position text).stop = .finish) :
    (scanFrom settings position text).tokens.countP Token.isSymbol = symbolCount text := by
  fun_induction scanFrom settings position text with
  | case1 => rfl
  | case2 position c rest hSpacing ih =>
    rw [ih hStop]
    simp [ofSymbol?_eq_none_of_spacing hSpacing]
  | case3 position c rest hSpacing token hToken ih =>
    rw [tokens_cons, List.countP_cons, ih hStop]
    simp [hToken, isSymbol_of_ofSymbol? hToken]
  | case4 position c rest hSpacing hToken hStart source others ih =>
    have hSource : symbolCount source = 0 :=
      symbolCount_of_isIdentifier (isIdentifier_takeWhile hStart rest)
    have hText : source ++ others = c :: rest := identifier_append_others c rest
    rw [tokens_cons, List.countP_cons, ih hStop, ← hText, symbolCount_append, hSource]
    simp [Token.isSymbol]
  | case5 => cases hStop

theorem Spells.countP_eq {settings : FullSettings} {text : List Char} {tokens : List Token}
    (h : Spells settings text tokens) : tokens.countP Token.isSymbol = symbolCount text := by
  obtain ⟨hTokens, hStop⟩ := h 0
  rw [← hTokens]
  exact countP_scanFrom hStop

theorem symbolCount_binary (op : Connective) (left right : Predicate) :
    symbolCount ((Tree.binary op left right).inorder Empty.elim).toList =
      symbolCount (left.inorder Empty.elim).toList + 1 +
        symbolCount (right.inorder Empty.elim).toList := by
  have hText : symbolCount op.text.toList = 1 := by cases op <;> rfl
  simp [Tree.inorder, hText, Nat.add_assoc]

theorem Level.Assigns.countP_le {level : Level} {tokens : List Token} {tree : Predicate}
    (h : level.Assigns tokens tree) :
    tokens.countP Token.isSymbol ≤ symbolCount (tree.inorder Empty.elim).toList := by
  induction h with
  | keyword value => exact Nat.zero_le _
  | not _ ih =>
    have hNot : (Token.ofSymbol? '!').isSome = true := rfl
    rw [List.countP_cons_of_pos rfl]
    simpa [Tree.inorder, hNot] using ih
  | group _ ih =>
    have hOpening : (Token.ofSymbol? '(').isSome = true := rfl
    have hClosing : symbolCount [')'] = 1 := rfl
    rw [List.countP_cons_of_pos rfl, List.countP_append, List.countP_cons_of_pos rfl]
    simpa [Tree.inorder, hOpening, hClosing] using ih
  | ofTerm _ ih => exact ih
  | and _ _ ihLeft ihRight =>
    rw [symbolCount_binary, List.countP_append, List.countP_cons_of_pos rfl]
    omega
  | ofConjunction _ ih => exact ih
  | or _ _ ihLeft ihRight =>
    rw [symbolCount_binary, List.countP_append, List.countP_cons_of_pos rfl]
    omega

theorem eq_of_append_cons_eq {α : Type} {p : α → Bool} {a : α} (ha : p a = true)
    {before after left right : List α} (h : before ++ a :: after = left ++ a :: right)
    (hCount : before.countP p = left.countP p) : before = left ∧ after = right := by
  induction before generalizing left with
  | nil =>
    cases left with
    | nil => exact ⟨rfl, (List.cons.inj h).2⟩
    | cons b left =>
      obtain ⟨rfl, _⟩ := List.cons.inj h
      rw [List.countP_nil, List.countP_cons_of_pos ha] at hCount
      omega
  | cons b before ih =>
    cases left with
    | nil =>
      obtain ⟨rfl, _⟩ := List.cons.inj h
      rw [List.countP_nil, List.countP_cons_of_pos ha] at hCount
      omega
    | cons c left =>
      obtain ⟨rfl, hRest⟩ := List.cons.inj h
      rw [List.countP_cons, List.countP_cons, Nat.add_right_cancel_iff] at hCount
      obtain ⟨rfl, hAfter⟩ := ih hRest hCount
      exact ⟨rfl, hAfter⟩

section
variable {settings : FullSettings}

/-- A text that spells the tokens of its binary tree falls apart at the operator of the tree: neither
side has fewer symbols in its text than among its tokens, so neither can have more. -/
theorem Spells.of_binary {op : Connective} {before after : List Token} {left right : Predicate}
    (h : Spells settings ((Tree.binary op left right).inorder Empty.elim).toList
      (before ++ .connective op :: after))
    (hBefore : before.countP Token.isSymbol ≤ symbolCount (left.inorder Empty.elim).toList)
    (hAfter : after.countP Token.isSymbol ≤ symbolCount (right.inorder Empty.elim).toList) :
    Spells settings (left.inorder Empty.elim).toList before ∧
      Spells settings (right.inorder Empty.elim).toList after := by
  obtain ⟨c, hText, hToken⟩ := op.toList_text
  have hParts : ((Tree.binary op left right).inorder Empty.elim).toList =
      ((left.inorder Empty.elim).toList ++ [' ']) ++
        c :: ' ' :: (right.inorder Empty.elim).toList := by
    simp [Tree.inorder, hText]
  rw [hParts] at h
  obtain ⟨first, last, hTokens, hFirst, hLast⟩ := h.of_around hToken
  have hLeft : Spells settings (left.inorder Empty.elim).toList first := hFirst.of_concat_spacing rfl
  have hRight : Spells settings (right.inorder Empty.elim).toList last := hLast.of_cons_spacing rfl
  have hCount : before.countP Token.isSymbol = first.countP Token.isSymbol := by
    have hSum := congrArg (List.countP Token.isSymbol) hTokens
    have hOperator : Token.isSymbol (.connective op) = true := rfl
    simp only [List.countP_append, List.countP_cons_of_pos hOperator] at hSum
    have hLeftCount := hLeft.countP_eq
    have hRightCount := hRight.countP_eq
    omega
  obtain ⟨rfl, rfl⟩ := eq_of_append_cons_eq rfl hTokens hCount
  exact ⟨hLeft, hRight⟩

theorem Level.Assigns.spells_keyword {level : Level} {tokens : List Token} {tree : Predicate}
    (h : level.Assigns tokens tree)
    (hSpells : Spells settings (tree.inorder Empty.elim).toList tokens) :
    ∀ word ∈ tree.keywords, Spells settings word.toList [.keyword word] := by
  induction h with
  | keyword value =>
    intro word hWord
    rw [List.mem_singleton.mp hWord]
    exact hSpells
  | @not tokens operand _ ih =>
    have hText : Spells settings ('!' :: (operand.inorder Empty.elim).toList) (.not :: tokens) := by
      simpa [Tree.inorder] using hSpells
    obtain ⟨rest, hTokens, hRest⟩ := hText.of_cons_symbol rfl
    obtain ⟨_, rfl⟩ := List.cons.inj hTokens
    exact ih hRest
  | @group tokens operand _ ih =>
    have hText : Spells settings ('(' :: ((operand.inorder Empty.elim).toList ++ [')']))
        (.opening :: (tokens ++ [.closing])) := by
      simpa [Tree.inorder] using hSpells
    obtain ⟨rest, hTokens, hRest⟩ := hText.of_cons_symbol rfl
    obtain ⟨inner, last, rfl, hOperand, hLast⟩ := hRest.of_around rfl
    have hInner : tokens = inner := by
      rw [hLast.unique spells_nil] at hTokens
      exact List.append_cancel_right (List.cons.inj hTokens).2
    rw [← hInner] at hOperand
    exact ih hOperand
  | ofTerm _ ih => exact ih hSpells
  | and hLeft hRight ihLeft ihRight =>
    obtain ⟨hFirst, hLast⟩ := hSpells.of_binary hLeft.countP_le hRight.countP_le
    exact List.forall_mem_append.mpr ⟨ihLeft hFirst, ihRight hLast⟩
  | ofConjunction _ ih => exact ih hSpells
  | or hLeft hRight ihLeft ihRight =>
    obtain ⟨hFirst, hLast⟩ := hSpells.of_binary hLeft.countP_le hRight.countP_le
    exact List.forall_mem_append.mpr ⟨ihLeft hFirst, ihRight hLast⟩

theorem Keyword.toList_ofIdentifier (hAccents : settings.ignoreAccents = true)
    (source : List Char) :
    (ofIdentifier settings source).toList =
      transliterate settings.spellings (lower (source.filter (!isIgnorable ·))) := by
  rw [ofIdentifier, foldChars, if_pos hAccents, String.toList_ofList]

theorem Spells.isAscii (hAccents : settings.ignoreAccents = true) {text : List Char}
    {tokens : List Token} (h : Spells settings text tokens) :
    AllKeywords (fun word => IsAscii word.toList) tokens := by
  intro word hWord
  obtain ⟨source, _, _, rfl⟩ := h.exists_identifier hWord
  rw [Keyword.toList_ofIdentifier hAccents]
  exact isAscii_transliterate _ _

/-- A keyword in ASCII that spells itself is stable: folding keeps the length, so the identifier that
names the keyword leaves nothing of the text out. -/
theorem Spells.stable_of_isAscii (hAccents : settings.ignoreAccents = true) {word : String}
    (h : Spells settings word.toList [.keyword word]) (hAscii : IsAscii word.toList) :
    Keyword.Stable settings word := by
  obtain ⟨source, hInfix, hIdentifier, hWord⟩ := h.exists_identifier (List.mem_singleton_self _)
  have hKept : (source.filter (!isIgnorable ·)).Sublist source := List.filter_sublist
  have hLength : (source.filter (!isIgnorable ·)).length = word.toList.length := by
    have hSourceAscii : IsAscii (source.filter (!isIgnorable ·)) := by
      intro c hc
      exact hAscii c (hInfix.subset (hKept.subset hc))
    rw [congrArg String.toList hWord, Keyword.toList_ofIdentifier hAccents,
      length_transliterate_lower hSourceAscii]
  have hFilter := (hKept.trans hInfix.sublist).eq_of_length hLength
  have hSource : source = word.toList :=
    hInfix.sublist.eq_of_length_le (hLength ▸ hKept.length_le)
  refine ⟨hSource ▸ hIdentifier, ?_, ?_⟩
  · intro c hc
    rw [← hFilter] at hc
    simpa using (List.mem_filter.mp hc).2
  · rw [Keyword.fold, ← hFilter]
    exact hWord.symm

end

namespace Filter

/-- Where accents are ignored, the summary of an expression is an expression for the same filter
exactly if every keyword of the filter is stable. The summary stays as it is then. -/
theorem summary_reads_again_iff {text : Option String} {vocabulary : Option (List String)}
    {settings : FullSettings} {filter : Filter} (hAccents : settings.ignoreAccents = true)
    (hFilter : create (some Mode.expression.name) text vocabulary settings = .ok filter) :
    ∃ predicate, filter.predicate? = some predicate ∧
      ((∃ again, create (some Mode.expression.name) (some filter.summary) vocabulary settings =
          .ok again ∧ again.Same filter) ↔
        ∀ word ∈ predicate.keywords, Keyword.Stable settings word) ∧
      ∀ again, create (some Mode.expression.name) (some filter.summary) vocabulary settings =
          .ok again → again.Same filter → again.summary = filter.summary := by
  obtain ⟨tokens, tree, _, hCovers, hAssigns, rfl⟩ := create_expression_iff_assigns.mp hFilter
  have hText : (matching .expression (text.getD "") tree settings).summary.toList =
      (tree.inorder Empty.elim).toList :=
    congrArg String.toList (Tree.render_eq_inorder Empty.elim tree)
  refine ⟨tree, rfl, ⟨?_, ?_⟩, ?_⟩
  · rintro ⟨again, hAgain, hSame⟩
    obtain ⟨content, other, hSpells, _, hReads, rfl⟩ := create_expression_iff_assigns.mp hAgain
    obtain rfl := (same_matching_iff hReads hAssigns ..).mp hSame
    have hAscii := hReads.allKeywords_iff.mp (hSpells.isAscii hAccents)
    rw [Option.getD_some, hText] at hSpells
    intro word hWord
    exact (hReads.spells_keyword hSpells word hWord).stable_of_isAscii hAccents (hAscii word hWord)
  · intro hStable
    have hSpells := hAssigns.spells (hAssigns.allKeywords_iff.mpr hStable)
    rw [← hText] at hSpells
    exact ⟨_, create_expression_iff_assigns.mpr ⟨tokens, tree, hSpells, hCovers, hAssigns, rfl⟩, rfl⟩
  · intro again hAgain hSame
    obtain ⟨content, other, _, _, hReads, rfl⟩ := create_expression_iff_assigns.mp hAgain
    obtain rfl := (same_matching_iff hReads hAssigns ..).mp hSame
    rfl

theorem summary_reads_again_iff_cases :
    (∃ filter again,
      create (some Mode.expression.name) (some "Café | !É") (some ["café", "e"])
        { ignoreAccents := true } = .ok filter ∧
      create (some Mode.expression.name) (some filter.summary) (some ["café", "e"])
        { ignoreAccents := true } = .ok again ∧
      again.summary = filter.summary ∧
        ∀ word ∈ ["cafe", "e"], Keyword.Stable { ignoreAccents := true } word) ∧
    ∃ filter, create (some Mode.expression.name) (some "北 | x") none { ignoreAccents := true } =
        .ok filter ∧
      ¬ ∃ again, create (some Mode.expression.name) (some filter.summary) none
        { ignoreAccents := true } = .ok again ∧ again.Same filter := by
  obtain ⟨hFilter, hAgain, hOther⟩ :
      create (some Mode.expression.name) (some "Café | !É") (some ["café", "e"])
        { ignoreAccents := true } =
        .ok (matching .expression "Café | !É" (.binary .or (.literal "cafe")
          (.not (.literal "e"))) { ignoreAccents := true }) ∧
      create (some Mode.expression.name) (some (Predicate.text (.binary .or (.literal "cafe")
          (.not (.literal "e"))))) (some ["café", "e"]) { ignoreAccents := true } =
        .ok (matching .expression "cafe | !e" (.binary .or (.literal "cafe")
          (.not (.literal "e"))) { ignoreAccents := true }) ∧
      create (some Mode.expression.name) (some "北 | x") none { ignoreAccents := true } =
        .ok (matching .expression "北 | x" (.binary .or (.literal "Bei ") (.literal "x"))
          { ignoreAccents := true }) := by
    decide +kernel
  constructor
  · obtain ⟨predicate, hPredicate, hIff, hSummary⟩ := summary_reads_again_iff rfl hFilter
    cases hPredicate
    exact ⟨_, _, hFilter, hAgain, hSummary _ hAgain rfl, hIff.mp ⟨_, hAgain, rfl⟩⟩
  · obtain ⟨predicate, hPredicate, hIff, _⟩ := summary_reads_again_iff rfl hOther
    cases hPredicate
    refine ⟨_, hOther, ?_⟩
    intro hReads
    -- the spelling of the character ends in a blank
    have hStable := hIff.mp hReads "Bei " (.head _)
    have hPart : isIdentifierPart ' ' = true := hStable.isIdentifier.part ' ' (by decide)
    rw [isIdentifierPart_eq_false_of_spacing rfl] at hPart
    cases hPart

end Filter

end KeywordFilter
