import KeywordFilter.Proofs.TokenStream

/-!
# The tokens of a text and their places

`Scan.Describes` says of a token stream where its tokens have to stand in a text and what they have to
be, without saying how to find them. A text has one such stream, and scanning gives it
(`describes_iff_eq_ofText`): what may stand at a place is decided by the character there, so that the
stream is settled from the front.
-/

set_option autoImplicit false

namespace KeywordFilter

open Unicode Scan

/-- How a token is written: a symbol as its one character, and a keyword as an identifier that names
it once the ignorable characters are taken out. -/
inductive Token.Written (settings : FullSettings) : Token → List Char → Prop where
  | and : Written settings (.connective .and) ['&']
  | or : Written settings (.connective .or) ['|']
  | not : Written settings .not ['!']
  | opening : Written settings .opening ['(']
  | closing : Written settings .closing [')']
  | keyword {source : List Char} : IsIdentifier settings.numericKeywords source →
    Written settings
      (.keyword (Keyword.fold settings (String.ofList (source.filter (!isIgnorable ·))))) source

/-- The lexeme is written in the text at its position, and an identifier does not go on behind it. -/
structure Lexeme.Reads (settings : FullSettings) (text : List Char) (lexeme : Lexeme) : Prop where
  covers : (itemOf lexeme).Covers text
  written : lexeme.token.Written settings lexeme.source
  longest : ∀ value, lexeme.token = .keyword value →
    ∀ c ∈ text[lexeme.position + lexeme.source.length]?, isIdentifierPart c = false

/-- Scanning may end at the position: the text is over there, or no token starts with the character. -/
def Stop.Holds (settings : FullSettings) (text : List Char) (position : Nat) : Stop → Prop
  | finish => position = text.length
  | unreadable c => text[position]? = some c ∧ c ∉ [' ', '\t', '&', '|', '!', '(', ')'] ∧
    isIdentifierStart settings.numericKeywords c = false

/-- The scan is the token stream of what follows the first `start` characters of the text: the
slices of its items stand in order without overlap, and only spaces and tabs between them. -/
structure Scan.Describes (settings : FullSettings) (text : List Char) (start : Nat) (scan : Scan) :
    Prop where
  starts : ∀ item ∈ scan.items, start ≤ item.position
  ordered : scan.items.Pairwise fun item next =>
    item.position < next.position ∧ item.position + item.source.length ≤ next.position
  reads : ∀ lexeme ∈ scan.lexemes, lexeme.Reads settings text
  covered : ∀ place, start ≤ place → place < scan.position →
    (∃ lexeme ∈ scan.lexemes,
      lexeme.position ≤ place ∧ place < lexeme.position + lexeme.source.length) ∨
    ∃ c ∈ text[place]?, c = ' ' ∨ c = '\t'
  stops : scan.stop.Holds settings text scan.position

section
variable {settings : FullSettings}

theorem written_of_ofSymbol? {c : Char} {token : Token} (h : Token.ofSymbol? c = some token) :
    token.Written settings [c] := by
  unfold Token.ofSymbol? at h
  split at h
  · next hc => cases h; cases hc; exact .and
  · split at h
    · next hc => cases h; cases hc; exact .or
    · split at h
      · next hc => cases h; cases hc; exact .not
      · split at h
        · next hc => cases h; cases hc; exact .opening
        · split at h
          · next hc => cases h; cases hc; exact .closing
          · cases h

theorem written_iff {token : Token} {source : List Char} :
    token.Written settings source ↔
      (∃ c, source = [c] ∧ Token.ofSymbol? c = some token) ∨
        IsIdentifier settings.numericKeywords source ∧
          token = .keyword (Keyword.ofIdentifier settings source) := by
  have hValue : Keyword.fold settings (String.ofList (source.filter (!isIgnorable ·))) =
      Keyword.ofIdentifier settings source := by
    rw [Keyword.fold, String.toList_ofList, Keyword.ofIdentifier]
  constructor
  · intro h
    cases h with
    | and => exact .inl ⟨'&', rfl, rfl⟩
    | or => exact .inl ⟨'|', rfl, rfl⟩
    | not => exact .inl ⟨'!', rfl, rfl⟩
    | opening => exact .inl ⟨'(', rfl, rfl⟩
    | closing => exact .inl ⟨')', rfl, rfl⟩
    | keyword hSource => exact .inr ⟨hSource, congrArg Token.keyword hValue⟩
  · rintro (⟨c, rfl, hToken⟩ | ⟨hSource, rfl⟩)
    · exact written_of_ofSymbol? hToken
    · rw [← hValue]
      exact .keyword hSource

def StartsToken (settings : FullSettings) (c : Char) : Prop :=
  (∃ token, Token.ofSymbol? c = some token) ∨ isIdentifierStart settings.numericKeywords c = true

theorem StartsToken.not_spacing {c : Char} (h : StartsToken settings c) : isSpacing c = false := by
  rcases h with ⟨token, hToken⟩ | hStart
  · exact (classes_of_symbol hToken).2.2
  · exact isSpacing_eq_false_of_start hStart

theorem Token.Written.exists_cons {token : Token} {source : List Char}
    (h : token.Written settings source) : ∃ c tail, source = c :: tail ∧ StartsToken settings c := by
  rcases written_iff.mp h with ⟨c, rfl, hToken⟩ | ⟨hSource, _⟩
  · exact ⟨c, [], rfl, .inl ⟨token, hToken⟩⟩
  · cases source with
    | nil => exact hSource.elim
    | cons c tail => exact ⟨c, tail, rfl, .inr hSource.1⟩

variable {text : List Char}

theorem Stop.Holds.not_startsToken {position : Nat} {stop : Stop}
    (h : stop.Holds settings text position) :
    ∀ c ∈ text[position]?, isSpacing c = false ∧ ¬ StartsToken settings c := by
  intro c hc
  cases stop with
  | finish =>
    rw [show position = text.length from h, List.getElem?_eq_none (Nat.le_refl _)] at hc
    cases hc
  | unreadable d =>
    obtain ⟨hd, hSymbols, hStart⟩ := h
    obtain rfl : d = c := Option.some.inj (hd.symm.trans hc)
    obtain ⟨hSpacing, hToken⟩ := not_mem_separators_iff.mp hSymbols
    refine ⟨hSpacing, ?_⟩
    rintro (⟨token, hSome⟩ | hStart')
    · rw [hToken] at hSome
      cases hSome
    · rw [hStart] at hStart'
      cases hStart'

theorem Stop.Holds.unique {position : Nat} {stop other : Stop}
    (h : stop.Holds settings text position) (hOther : other.Holds settings text position) :
    stop = other := by
  have hEnd : ∀ c, text[text.length]? ≠ some c := by simp
  cases stop with
  | finish =>
    cases other with
    | finish => rfl
    | unreadable d => exact absurd hOther.1 (h ▸ hEnd d)
  | unreadable c =>
    cases other with
    | finish => exact absurd h.1 (hOther ▸ hEnd c)
    | unreadable d => exact congrArg Stop.unreadable (Option.some.inj (h.1.symm.trans hOther.1))

theorem getElem?_of_drop {place : Nat} {c : Char} {rest : List Char}
    (h : text.drop place = c :: rest) : text[place]? = some c := by
  rw [← List.head?_drop, h]
  rfl

namespace Lexeme.Reads

variable {lexeme : Lexeme}

theorem exists_drop_eq (h : lexeme.Reads settings text) :
    ∃ rest, text.drop lexeme.position = lexeme.source ++ rest := by
  refine ⟨(text.drop lexeme.position).drop lexeme.source.length, ?_⟩
  have hSlice : (text.drop lexeme.position).take lexeme.source.length = lexeme.source := h.covers
  calc text.drop lexeme.position
      = (text.drop lexeme.position).take lexeme.source.length ++
          (text.drop lexeme.position).drop lexeme.source.length :=
        (List.take_append_drop lexeme.source.length _).symm
    _ = lexeme.source ++ (text.drop lexeme.position).drop lexeme.source.length := by rw [hSlice]

theorem source_length_pos (h : lexeme.Reads settings text) : 0 < lexeme.source.length := by
  obtain ⟨c, tail, hSource, _⟩ := h.written.exists_cons
  rw [hSource]
  exact Nat.succ_pos _

theorem source_eq_takeWhile (h : lexeme.Reads settings text)
    (hSource : IsIdentifier settings.numericKeywords lexeme.source) {value : String}
    (hToken : lexeme.token = .keyword value) :
    lexeme.source = (text.drop lexeme.position).takeWhile isIdentifierPart := by
  obtain ⟨rest, hRest⟩ := h.exists_drop_eq
  have hLongest := h.longest value hToken
  rw [← List.getElem?_drop, hRest, List.getElem?_append_right (Nat.le_refl _), Nat.sub_self]
    at hLongest
  rw [hRest, List.takeWhile_append_of_pos hSource.part]
  cases rest with
  | nil => simp
  | cons d rest => simp [hLongest d rfl]

theorem exists_head (h : lexeme.Reads settings text) :
    ∃ c tail, lexeme.source = c :: tail ∧ text[lexeme.position]? = some c ∧
      StartsToken settings c := by
  obtain ⟨c, tail, hSource, hStarts⟩ := h.written.exists_cons
  obtain ⟨rest, hRest⟩ := h.exists_drop_eq
  rw [hSource] at hRest
  exact ⟨c, tail, hSource, getElem?_of_drop hRest, hStarts⟩

theorem eq_of_symbol (h : lexeme.Reads settings text) {c : Char} {token : Token}
    (hc : text[lexeme.position]? = some c) (hToken : Token.ofSymbol? c = some token) :
    lexeme = ⟨token, [c], lexeme.position⟩ := by
  obtain ⟨d, tail, hSource, hd, _⟩ := h.exists_head
  obtain rfl : d = c := Option.some.inj (hd.symm.trans hc)
  obtain ⟨token', source, position⟩ := lexeme
  rcases written_iff.mp h.written with ⟨e, he, hToken'⟩ | ⟨hIdentifier, _⟩
  · obtain rfl : source = [e] := he
    obtain ⟨rfl, _⟩ := List.cons.inj hSource
    obtain rfl : token' = token := Option.some.inj (hToken'.symm.trans hToken)
    rfl
  · rw [hSource] at hIdentifier
    rw [ofSymbol?_eq_none_of_part (isIdentifierPart_of_start hIdentifier.1)] at hToken
    cases hToken

theorem eq_of_start (h : lexeme.Reads settings text) {c : Char} {source : List Char}
    (hc : text[lexeme.position]? = some c)
    (hStart : isIdentifierStart settings.numericKeywords c = true)
    (hSource : source = (text.drop lexeme.position).takeWhile isIdentifierPart) :
    lexeme = ⟨.keyword (Keyword.ofIdentifier settings source), source, lexeme.position⟩ := by
  obtain ⟨d, tail, hSource', hd, _⟩ := h.exists_head
  obtain rfl : d = c := Option.some.inj (hd.symm.trans hc)
  rcases written_iff.mp h.written with ⟨e, he, hToken⟩ | ⟨hIdentifier, hToken⟩
  · obtain ⟨rfl, _⟩ := List.cons.inj (hSource'.symm.trans he)
    rw [ofSymbol?_eq_none_of_part (isIdentifierPart_of_start hStart)] at hToken
    cases hToken
  · have hLongest : lexeme.source = source := by
      rw [hSource]
      exact h.source_eq_takeWhile hIdentifier hToken
    obtain ⟨token, source', position⟩ := lexeme
    obtain rfl : source' = source := hLongest
    change token = .keyword (Keyword.ofIdentifier settings source') at hToken
    rw [hToken]

theorem unique {other : Lexeme} (h : lexeme.Reads settings text)
    (hOther : other.Reads settings text) (hPosition : lexeme.position = other.position) :
    lexeme = other := by
  obtain ⟨c, _, _, hc, hStarts⟩ := h.exists_head
  have hc' := hc
  rw [hPosition] at hc'
  rcases hStarts with ⟨token, hToken⟩ | hStart
  · rw [h.eq_of_symbol hc hToken, hOther.eq_of_symbol hc' hToken, hPosition]
  · rw [h.eq_of_start hc hStart rfl, hOther.eq_of_start hc' hStart rfl, hPosition]

end Lexeme.Reads

theorem reads_symbol {place : Nat} {c : Char} {rest : List Char} {token : Token}
    (hRest : text.drop place = c :: rest) (hToken : Token.ofSymbol? c = some token) :
    Lexeme.Reads settings text ⟨token, [c], place⟩ where
  covers := by
    change (text.drop place).take 1 = [c]
    rw [hRest]
    rfl
  written := written_of_ofSymbol? hToken
  longest value hValue := by
    rw [show token = .keyword value from hValue] at hToken
    exact absurd hToken (ofSymbol?_ne_keyword c value)

theorem reads_identifier {place : Nat} {c : Char} {rest : List Char}
    (hRest : text.drop place = c :: rest)
    (hStart : isIdentifierStart settings.numericKeywords c = true) :
    Lexeme.Reads settings text
      ⟨.keyword (Keyword.ofIdentifier settings (c :: rest.takeWhile isIdentifierPart)),
        c :: rest.takeWhile isIdentifierPart, place⟩ where
  covers := by
    change (text.drop place).take (c :: rest.takeWhile isIdentifierPart).length =
      c :: rest.takeWhile isIdentifierPart
    rw [hRest, ← identifier_append_others c rest, List.take_left]
  written := written_iff.mpr (.inr ⟨isIdentifier_takeWhile hStart rest, rfl⟩)
  longest _ _ := by
    intro d hd
    rw [← List.getElem?_drop, hRest, ← identifier_append_others c rest,
      List.getElem?_append_right (Nat.le_refl _), Nat.sub_self, ← List.head?_eq_getElem?] at hd
    exact isIdentifierPart_of_mem_others hd

namespace Scan

variable {scan : Scan} {place : Nat}

@[simp] theorem items_cons (lexeme : Lexeme) (scan : Scan) :
    (scan.cons lexeme).items = itemOf lexeme :: scan.items := rfl

theorem mem_items_of_mem {lexeme : Lexeme} (h : lexeme ∈ scan.lexemes) :
    itemOf lexeme ∈ scan.items :=
  List.mem_append_left _ (List.mem_map_of_mem h)

theorem stop_mem_items (scan : Scan) :
    ⟨.stop scan.stop, scan.stop.source, scan.position⟩ ∈ scan.items :=
  List.mem_append_right _ List.mem_cons_self

namespace Describes

theorem position_ne_of_spacing (h : scan.Describes settings text place) {item : Item}
    (hItem : item ∈ scan.items) {c : Char} (hc : text[item.position]? = some c) :
    isSpacing c = false := by
  rcases List.mem_append.mp hItem with hLexeme | hStop
  · obtain ⟨lexeme, hMem, rfl⟩ := List.mem_map.mp hLexeme
    obtain ⟨d, _, _, hd, hStarts⟩ := (h.reads lexeme hMem).exists_head
    obtain rfl : d = c := Option.some.inj (hd.symm.trans hc)
    exact hStarts.not_spacing
  · rw [List.mem_singleton.mp hStop] at hc
    exact (h.stops.not_startsToken c hc).1

theorem position_lt (h : scan.Describes settings text place) {lexeme : Lexeme}
    (hLexeme : lexeme ∈ scan.lexemes) : lexeme.position < scan.position := by
  have hOrdered := (List.pairwise_append.mp h.ordered).2.2
  exact (hOrdered (itemOf lexeme) (List.mem_map_of_mem hLexeme) _ List.mem_cons_self).1

theorem exists_cons (h : scan.Describes settings text place) {c : Char}
    (hc : text[place]? = some c) (hStarts : StartsToken settings c) :
    ∃ (lexeme : Lexeme) (others : Scan), lexeme.Reads settings text ∧ lexeme.position = place ∧
      scan = others.cons lexeme := by
  have hBefore : place < scan.position := by
    apply Nat.lt_of_le_of_ne (h.starts _ scan.stop_mem_items)
    intro hPosition
    rw [hPosition] at hc
    exact (h.stops.not_startsToken c hc).2 hStarts
  obtain ⟨lexemes, stop, position⟩ := scan
  rcases h.covered place (Nat.le_refl place) hBefore with ⟨lexeme, hLexeme, hLe, _⟩ | ⟨d, hd, hBlank⟩
  · cases lexemes with
    | nil => cases hLexeme
    | cons first others =>
      refine ⟨first, ⟨others, stop, position⟩, h.reads first List.mem_cons_self, ?_, rfl⟩
      -- the first token stands no later than the one that covers the place
      have hFirst : place ≤ first.position := h.starts (itemOf first) List.mem_cons_self
      rcases List.mem_cons.mp hLexeme with rfl | hMem
      · exact Nat.le_antisymm hLe hFirst
      · have hBehind : itemOf lexeme ∈ Scan.items ⟨others, stop, position⟩ := mem_items_of_mem hMem
        have hOrdered := (List.pairwise_cons.mp h.ordered).1 _ hBehind
        exact Nat.le_antisymm (Nat.le_trans (Nat.le_of_lt hOrdered.1) hLe) hFirst
  · obtain rfl : d = c := Option.some.inj (Eq.symm (hc.symm.trans hd))
    have hSpacing : isSpacing d = true := by simpa [isSpacing] using hBlank
    rw [hStarts.not_spacing] at hSpacing
    cases hSpacing

end Describes

theorem describes_spacing_iff {c : Char} (hc : text[place]? = some c)
    (hSpacing : isSpacing c = true) :
    scan.Describes settings text place ↔ scan.Describes settings text (place + 1) := by
  constructor
  · intro h
    refine ⟨?_, h.ordered, h.reads, ?_, h.stops⟩
    · intro item hItem
      apply Nat.lt_of_le_of_ne (h.starts item hItem)
      intro hPosition
      rw [hPosition] at hc
      rw [h.position_ne_of_spacing hItem hc] at hSpacing
      cases hSpacing
    · intro other hOther
      exact h.covered other (Nat.le_of_succ_le hOther)
  · intro h
    refine ⟨?_, h.ordered, h.reads, ?_, h.stops⟩
    · intro item hItem
      exact Nat.le_of_succ_le (h.starts item hItem)
    · intro other hOther hLt
      rcases Nat.eq_or_lt_of_le hOther with rfl | hOther
      · exact .inr ⟨c, hc, by simpa [isSpacing] using hSpacing⟩
      · exact h.covered other hOther hLt

theorem describes_cons_iff {lexeme : Lexeme} (hReads : lexeme.Reads settings text) :
    (scan.cons lexeme).Describes settings text lexeme.position ↔
      scan.Describes settings text (lexeme.position + lexeme.source.length) := by
  constructor
  · intro h
    obtain ⟨hFirst, hOrdered⟩ := List.pairwise_cons.mp h.ordered
    refine ⟨fun item hItem => (hFirst item hItem).2, hOrdered, ?_, ?_, h.stops⟩
    · intro other hOther
      exact h.reads other (List.mem_cons_of_mem lexeme hOther)
    · intro place hPlace hLt
      rcases h.covered place (Nat.le_trans (Nat.le_add_right _ _) hPlace) hLt with
        ⟨other, hOther, hLe, hEnd⟩ | hBlank
      · rcases List.mem_cons.mp hOther with rfl | hOther
        · omega
        · exact .inl ⟨other, hOther, hLe, hEnd⟩
      · exact .inr hBlank
  · intro h
    have hLength := hReads.source_length_pos
    refine ⟨?_, ?_, ?_, ?_, h.stops⟩
    · intro item hItem
      rcases List.mem_cons.mp hItem with rfl | hItem
      · exact Nat.le_refl _
      · exact Nat.le_trans (Nat.le_add_right _ _) (h.starts item hItem)
    · apply List.pairwise_cons.mpr
      refine ⟨?_, h.ordered⟩
      intro item hItem
      have hStart := h.starts item hItem
      change lexeme.position < item.position ∧
        lexeme.position + lexeme.source.length ≤ item.position
      omega
    · intro other hOther
      rcases List.mem_cons.mp hOther with rfl | hOther
      · exact hReads
      · exact h.reads other hOther
    · intro place hPlace hLt
      by_cases hInside : place < lexeme.position + lexeme.source.length
      · exact .inl ⟨lexeme, List.mem_cons_self, hPlace, hInside⟩
      · rcases h.covered place (Nat.le_of_not_lt hInside) hLt with ⟨other, hOther, hSlice⟩ | hBlank
        · exact .inl ⟨other, List.mem_cons_of_mem lexeme hOther, hSlice⟩
        · exact .inr hBlank

theorem describes_stop_iff {stop : Stop} (hStop : stop.Holds settings text place) :
    scan.Describes settings text place ↔ scan = ⟨[], stop, place⟩ := by
  constructor
  · intro h
    have hPosition : scan.position = place := by
      apply Nat.le_antisymm _ (h.starts _ scan.stop_mem_items)
      apply Nat.le_of_not_lt
      intro hLt
      rcases h.covered place (Nat.le_refl place) hLt with ⟨lexeme, hLexeme, hLe, _⟩ | ⟨c, hc, hBlank⟩
      · have hPlace : lexeme.position = place :=
          Nat.le_antisymm hLe (h.starts _ (mem_items_of_mem hLexeme))
        obtain ⟨c, _, _, hc, hStarts⟩ := (h.reads lexeme hLexeme).exists_head
        rw [hPlace] at hc
        exact (hStop.not_startsToken c hc).2 hStarts
      · have hSpacing := (hStop.not_startsToken c hc).1
        rcases hBlank with rfl | rfl <;> cases hSpacing
    have hNone : scan.lexemes = [] := by
      apply List.eq_nil_iff_forall_not_mem.mpr
      intro lexeme hLexeme
      have hStart := h.starts _ (mem_items_of_mem hLexeme)
      have hEnd := h.position_lt hLexeme
      rw [hPosition] at hEnd
      exact Nat.not_lt.mpr hStart hEnd
    have hStops := h.stops
    rw [hPosition] at hStops
    obtain ⟨lexemes, stop', position⟩ := scan
    obtain rfl : lexemes = [] := hNone
    obtain rfl : position = place := hPosition
    obtain rfl : stop' = stop := hStops.unique hStop
    rfl
  · rintro rfl
    refine ⟨?_, List.pairwise_singleton _ _, nofun, ?_, hStop⟩
    · intro item hItem
      obtain rfl := List.mem_singleton.mp hItem
      exact Nat.le_refl place
    · intro other hOther hLt
      exact absurd hLt (Nat.not_lt.mpr hOther)

/-- Where a token stands, a stream is this token with a stream of what follows it. -/
theorem describes_iff_of_reads {lexeme : Lexeme} (hReads : lexeme.Reads settings text) {tail : Scan}
    (hTail : ∀ others : Scan,
      others.Describes settings text (lexeme.position + lexeme.source.length) ↔ others = tail) :
    scan.Describes settings text lexeme.position ↔ scan = tail.cons lexeme := by
  constructor
  · intro h
    obtain ⟨c, _, _, hc, hStarts⟩ := hReads.exists_head
    obtain ⟨first, others, hFirst, hPosition, rfl⟩ := h.exists_cons hc hStarts
    rw [hFirst.unique hReads hPosition] at h ⊢
    rw [(hTail others).mp ((describes_cons_iff hReads).mp h)]
  · rintro rfl
    exact (describes_cons_iff hReads).mpr ((hTail tail).mpr rfl)

theorem describes_iff_eq_scanFrom (front : List Char) {rest : List Char}
    (hText : text = front ++ rest) (scan : Scan) :
    scan.Describes settings text front.length ↔ scan = scanFrom settings front.length rest := by
  generalize hPlace : front.length = place
  fun_induction scanFrom settings place rest generalizing front scan with
  | case1 place =>
    apply describes_stop_iff
    change place = text.length
    rw [hText, List.append_nil, hPlace]
  | case2 place c rest hSpacing ih =>
    have hRest : text.drop place = c :: rest := by rw [hText, List.drop_left' hPlace]
    rw [describes_spacing_iff (getElem?_of_drop hRest) hSpacing]
    exact ih (front ++ [c]) (by simp [hText]) scan (by simp [hPlace])
  | case3 place c rest hSpacing token hToken ih =>
    have hRest : text.drop place = c :: rest := by rw [hText, List.drop_left' hPlace]
    apply describes_iff_of_reads (reads_symbol hRest hToken)
    intro others
    exact ih (front ++ [c]) (by simp [hText]) others (by simp [hPlace])
  | case4 place c rest hSpacing hToken hStart source others ih =>
    have hRest : text.drop place = c :: rest := by rw [hText, List.drop_left' hPlace]
    have hFront : text = front ++ source ++ others := by
      rw [hText, List.append_assoc, identifier_append_others]
    apply describes_iff_of_reads (reads_identifier hRest hStart)
    intro scan'
    exact ih (front ++ source) hFront scan' (by rw [List.length_append, hPlace])
  | case5 place c rest hSpacing hToken hStart =>
    have hRest : text.drop place = c :: rest := by rw [hText, List.drop_left' hPlace]
    apply describes_stop_iff
    refine ⟨getElem?_of_drop hRest, ?_, Bool.eq_false_iff.mpr hStart⟩
    exact not_mem_separators_iff.mpr ⟨Bool.eq_false_iff.mpr hSpacing, hToken⟩

/-- A text has one token stream: positions ascend, the slices and the spacing between them cover the
text from its beginning to its end or to the first character that starts no token, symbols are written
as they are, and identifiers are as long as possible and name their keywords. -/
theorem describes_iff_eq_ofText (settings : FullSettings) (text : String) (scan : Scan) :
    scan.Describes settings text.toList 0 ↔ scan = ofText settings text :=
  describes_iff_eq_scanFrom [] rfl scan

end Scan

end

end KeywordFilter
