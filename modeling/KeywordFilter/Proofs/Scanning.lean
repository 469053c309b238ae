import KeywordFilter.Proofs.Unicode.Classes

/-!
# What a text spells

`Spells` says that a text is scanned to its end and gives certain tokens. Two texts may be put
together when no identifier runs over their seam; the tokens are then put together as well
(`Spells.append`). With the texts of single tokens this tells the tokens of every text that is
composed of such parts.
-/

set_option autoImplicit false

namespace KeywordFilter

open Unicode Scan

theorem ofSymbol?_ne_keyword (c : Char) (value : String) :
    Token.ofSymbol? c ≠ some (.keyword value) := by
  unfold Token.ofSymbol?
  grind

theorem isIdentifier_takeWhile {digits : Bool} {c : Char}
    (h : isIdentifierStart digits c = true) (rest : List Char) :
    IsIdentifier digits (c :: rest.takeWhile isIdentifierPart) :=
  ⟨h, List.all_eq_true.mp List.all_takeWhile⟩

theorem identifier_append_others (c : Char) (rest : List Char) :
    c :: rest.takeWhile isIdentifierPart ++ rest.dropWhile isIdentifierPart = c :: rest := by
  rw [List.cons_append, List.takeWhile_append_dropWhile]

theorem isIdentifierPart_of_mem_others {rest : List Char} {d : Char}
    (h : d ∈ (rest.dropWhile isIdentifierPart).head?) : isIdentifierPart d = false := by
  have hNot := List.head?_dropWhile_not isIdentifierPart rest
  rw [show (rest.dropWhile isIdentifierPart).head? = some d from h] at hNot
  simpa using hNot

theorem isIdentifierStart_mono {digits more : Bool} (hMore : digits = true → more = true) {c : Char}
    (h : isIdentifierStart digits c = true) : isIdentifierStart more c = true := by
  simp only [isIdentifierStart, Bool.or_eq_true, Bool.and_eq_true] at h ⊢
  exact h.imp_right fun hDigit => ⟨hMore hDigit.1, hDigit.2⟩

/-- No identifier runs over the place where two texts meet. -/
def Seam (text next : List Char) : Prop :=
  ∀ c ∈ text.getLast?, ∀ d ∈ next.head?, isIdentifierPart c = false ∨ isIdentifierPart d = false

theorem Seam.of_head {text next : List Char} {d : Char} (h : isIdentifierPart d = false) :
    Seam text (d :: next) := by
  intro c _ e he
  cases he
  exact .inr h

theorem Seam.tail {c : Char} {rest next : List Char} (h : Seam (c :: rest) next) :
    Seam rest next := by
  intro last hLast
  apply h last
  cases rest with
  | nil => cases hLast
  | cons e rest => rwa [List.getLast?_cons_cons]

theorem Seam.of_suffix {text suffix next : List Char} (h : Seam text next)
    (hSuffix : suffix <:+ text) : Seam suffix next := by
  obtain ⟨front, rfl⟩ := hSuffix
  induction front with
  | nil => exact h
  | cons c front ih => exact ih h.tail

theorem Seam.span {c : Char} {rest next : List Char} (h : Seam (c :: rest) next)
    (hc : isIdentifierPart c = true) :
    (rest ++ next).takeWhile isIdentifierPart = rest.takeWhile isIdentifierPart ∧
      (rest ++ next).dropWhile isIdentifierPart = rest.dropWhile isIdentifierPart ++ next := by
  induction rest generalizing c with
  | nil =>
    cases next with
    | nil => simp
    | cons d next =>
      have hd : isIdentifierPart d = false := by
        rcases h c rfl d rfl with hc' | hd
        · rw [hc] at hc'
          cases hc'
        · exact hd
      simp [hd]
  | cons e rest ih =>
    by_cases he : isIdentifierPart e = true
    · simpa [he] using ih h.tail he
    · simp [he]

namespace Scan

def append (scan other : Scan) : Scan :=
  { other with lexemes := scan.lexemes ++ other.lexemes }

@[simp] theorem tokens_append (scan other : Scan) :
    (scan.append other).tokens = scan.tokens ++ other.tokens :=
  List.map_append

@[simp] theorem stop_append (scan other : Scan) : (scan.append other).stop = other.stop := rfl

theorem cons_append (lexeme : Lexeme) (scan other : Scan) :
    (scan.cons lexeme).append other = (scan.append other).cons lexeme := rfl

theorem scanFrom_append {settings : FullSettings} {position : Nat} {text next : List Char}
    (hStop : (scanFrom settings position text).stop = .finish) (hSeam : Seam text next) :
    scanFrom settings position (text ++ next) =
      (scanFrom settings position text).append
        (scanFrom settings (position + text.length) next) := by
  fun_induction scanFrom settings position text with
  | case1 => rfl
  | case2 position c rest hSpacing ih =>
    rw [List.cons_append, scanFrom_spacing hSpacing, ih hStop hSeam.tail]
    rw [List.length_cons, Nat.add_assoc, Nat.add_comm 1]
  | case3 position c rest hSpacing token hToken ih =>
    rw [List.cons_append, scanFrom_symbol hSpacing hToken, ih hStop hSeam.tail, cons_append]
    rw [List.length_cons, Nat.add_assoc, Nat.add_comm 1]
  | case4 position c rest hSpacing hToken hStart source others ih =>
    have hOthers : Seam others next := hSeam.tail.of_suffix (List.dropWhile_suffix _)
    obtain ⟨hTake, hDrop⟩ := hSeam.span (isIdentifierPart_of_start hStart)
    have hLength : position + source.length + others.length = position + (c :: rest).length := by
      rw [← identifier_append_others c rest, List.length_append, Nat.add_assoc]
    rw [List.cons_append, scanFrom_identifier hSpacing hToken hStart, hTake, hDrop, cons_append]
    rw [← hLength, ← ih hStop hOthers]
  | case5 => cases hStop

theorem stop_of_append {settings : FullSettings} {position : Nat} {text next : List Char}
    (hStop : (scanFrom settings position (text ++ next)).stop = .finish)
    (hSeam : Seam text next) : (scanFrom settings position text).stop = .finish := by
  fun_induction scanFrom settings position text with
  | case1 => rfl
  | case2 position c rest hSpacing ih =>
    rw [List.cons_append, scanFrom_spacing hSpacing] at hStop
    exact ih hStop hSeam.tail
  | case3 position c rest hSpacing token hToken ih =>
    rw [List.cons_append, scanFrom_symbol hSpacing hToken] at hStop
    exact ih hStop hSeam.tail
  | case4 position c rest hSpacing hToken hStart source others ih =>
    have hOthers : Seam others next := hSeam.tail.of_suffix (List.dropWhile_suffix _)
    obtain ⟨hTake, hDrop⟩ := hSeam.span (isIdentifierPart_of_start hStart)
    rw [List.cons_append, scanFrom_identifier hSpacing hToken hStart, hTake, hDrop] at hStop
    exact ih hStop hOthers
  | case5 position c rest hSpacing hToken hStart =>
    rw [List.cons_append, scanFrom_unreadable hSpacing hToken hStart] at hStop
    cases hStop

/-- Where digits may start an identifier as well, a text is scanned in the same way, or at least up to
the digit at which scanning stopped before. -/
theorem scanFrom_digits (settings other : FullSettings)
    (hFold : Keyword.foldChars settings = Keyword.foldChars other)
    (hDigits : settings.numericKeywords = true → other.numericKeywords = true) (position : Nat)
    (text : List Char) :
    scanFrom other position text = scanFrom settings position text ∨
      (scanFrom settings position text).lexemes <+: (scanFrom other position text).lexemes ∧
        ∃ c, (scanFrom settings position text).stop = .unreadable c ∧
          decimalDigit.contains c = true := by
  fun_induction scanFrom settings position text with
  | case1 => exact .inl (scanFrom_nil _)
  | case2 position c rest hSpacing ih => rwa [scanFrom_spacing hSpacing]
  | case3 position c rest hSpacing token hToken ih =>
    rw [scanFrom_symbol hSpacing hToken]
    rcases ih with hSame | ⟨hLexemes, hStop⟩
    · exact .inl (by rw [hSame])
    · exact .inr ⟨(List.prefix_cons_inj _).mpr hLexemes, hStop⟩
  | case4 position c rest hSpacing hToken hStart source others ih =>
    have hNames : Keyword.ofIdentifier settings source = Keyword.ofIdentifier other source := by
      simp only [Keyword.ofIdentifier, hFold]
    rw [scanFrom_identifier hSpacing hToken (isIdentifierStart_mono hDigits hStart), hNames]
    rcases ih with hSame | ⟨hLexemes, hStop⟩
    · exact .inl (by rw [hSame])
    · exact .inr ⟨(List.prefix_cons_inj _).mpr hLexemes, hStop⟩
  | case5 position c rest hSpacing hToken hStart =>
    by_cases hMore : isIdentifierStart other.numericKeywords c = true
    · refine .inr ⟨List.nil_prefix, c, rfl, ?_⟩
      simp only [isIdentifierStart, Bool.or_eq_true, Bool.and_eq_true, not_or] at hStart hMore
      exact (hMore.resolve_left hStart.1).2
    · exact .inl (scanFrom_unreadable hSpacing hToken hMore position rest)

theorem scanFrom_eq_of_finish {settings other : FullSettings}
    (hFold : Keyword.foldChars settings = Keyword.foldChars other)
    (hDigits : settings.numericKeywords = true → other.numericKeywords = true) {position : Nat}
    {text : List Char} (hStop : (scanFrom settings position text).stop = .finish) :
    scanFrom other position text = scanFrom settings position text := by
  rcases scanFrom_digits settings other hFold hDigits position text with hSame | ⟨_, c, hStop', _⟩
  · exact hSame
  · rw [hStop] at hStop'
    cases hStop'

theorem exists_identifier_of_mem {settings : FullSettings} {position : Nat} {text : List Char}
    {value : String} (h : .keyword value ∈ (scanFrom settings position text).tokens) :
    ∃ source, source <:+: text ∧ IsIdentifier settings.numericKeywords source ∧
      value = Keyword.ofIdentifier settings source := by
  fun_induction scanFrom settings position text with
  | case1 => cases h
  | case2 position c rest hSpacing ih =>
    obtain ⟨source, hInfix, hSource⟩ := ih h
    exact ⟨source, List.infix_cons hInfix, hSource⟩
  | case3 position c rest hSpacing token hToken ih =>
    rcases List.mem_cons.mp h with hToken' | h
    · rw [← show _ = token from hToken'] at hToken
      exact absurd hToken (ofSymbol?_ne_keyword c value)
    · obtain ⟨source, hInfix, hSource⟩ := ih h
      exact ⟨source, List.infix_cons hInfix, hSource⟩
  | case4 position c rest hSpacing hToken hStart source others ih =>
    rcases List.mem_cons.mp h with hToken' | h
    · have hPrefix : source <+: c :: rest :=
        (List.prefix_cons_inj c).mpr (List.takeWhile_prefix isIdentifierPart)
      exact ⟨source, hPrefix.isInfix, isIdentifier_takeWhile hStart rest,
        Token.keyword.inj hToken'⟩
    · obtain ⟨source, hInfix, hSource⟩ := ih h
      have hOthers : others <:+ rest := List.dropWhile_suffix _
      exact ⟨source, List.infix_cons (hInfix.trans hOthers.isInfix), hSource⟩
  | case5 => cases h

end Scan

/-- The text is scanned to its end and gives the tokens. -/
def Spells (settings : FullSettings) (text : List Char) (tokens : List Token) : Prop :=
  ∀ position, (scanFrom settings position text).tokens = tokens ∧
    (scanFrom settings position text).stop = .finish

section
variable {settings : FullSettings}

theorem spells_of_scanFrom {place : Nat} {text : List Char} {tokens : List Token}
    (hTokens : (scanFrom settings place text).tokens = tokens)
    (hStop : (scanFrom settings place text).stop = .finish) : Spells settings text tokens := by
  intro position
  have hPosition := scanFrom_position settings position place text
  rw [hPosition.1, hPosition.2]
  exact ⟨hTokens, hStop⟩

theorem spells_iff {text : String} {tokens : List Token} :
    Spells settings text.toList tokens ↔
      (ofText settings text).tokens = tokens ∧ (ofText settings text).stop = .finish := by
  constructor
  · exact fun h => h 0
  · exact fun h => spells_of_scanFrom h.1 h.2

theorem Spells.append {text next : List Char} {before after : List Token}
    (hText : Spells settings text before) (hNext : Spells settings next after)
    (hSeam : Seam text next) : Spells settings (text ++ next) (before ++ after) := by
  intro position
  obtain ⟨hBefore, hStop⟩ := hText position
  obtain ⟨hAfter, hStop'⟩ := hNext (position + text.length)
  rw [scanFrom_append hStop hSeam]
  simp [hBefore, hAfter, hStop']

theorem Spells.unique {text : List Char} {tokens others : List Token}
    (h : Spells settings text tokens) (hOthers : Spells settings text others) : tokens = others :=
  (h 0).1.symm.trans (hOthers 0).1

theorem Spells.exists_identifier {text : List Char} {tokens : List Token} {value : String}
    (h : Spells settings text tokens) (hValue : .keyword value ∈ tokens) :
    ∃ source, source <:+: text ∧ IsIdentifier settings.numericKeywords source ∧
      value = Keyword.ofIdentifier settings source := by
  rw [← (h 0).1] at hValue
  exact exists_identifier_of_mem hValue

theorem Spells.of_settings {other : FullSettings} {text : List Char} {tokens : List Token}
    (h : Spells settings text tokens) (hFold : Keyword.foldChars settings = Keyword.foldChars other)
    (hDigits : settings.numericKeywords = true → other.numericKeywords = true) :
    Spells other text tokens := by
  intro position
  rw [scanFrom_eq_of_finish hFold hDigits (h position).2]
  exact h position

theorem Spells.exists_of_append {text next : List Char} {tokens : List Token}
    (h : Spells settings (text ++ next) tokens) (hSeam : Seam text next) :
    ∃ before after, tokens = before ++ after ∧ Spells settings text before ∧
      Spells settings next after := by
  obtain ⟨hTokens, hStop⟩ := h 0
  have hFirst := stop_of_append hStop hSeam
  rw [scanFrom_append hFirst hSeam] at hTokens hStop
  rw [tokens_append] at hTokens
  exact ⟨_, _, hTokens.symm, spells_of_scanFrom rfl hFirst, spells_of_scanFrom rfl hStop⟩

theorem spells_nil : Spells settings [] [] := by
  intro position
  rw [scanFrom_nil]
  exact ⟨rfl, rfl⟩

theorem Spells.cons_spacing {c : Char} {text : List Char} {tokens : List Token}
    (h : Spells settings text tokens) (hSpacing : isSpacing c = true) :
    Spells settings (c :: text) tokens := by
  intro position
  rw [scanFrom_spacing hSpacing]
  exact h (position + 1)

theorem Spells.cons_symbol {c : Char} {token : Token} {text : List Char} {tokens : List Token}
    (h : Spells settings text tokens) (hToken : Token.ofSymbol? c = some token) :
    Spells settings (c :: text) (token :: tokens) := by
  obtain ⟨_, _, hSpacing⟩ := classes_of_symbol hToken
  intro position
  obtain ⟨hTokens, hStop⟩ := h (position + 1)
  rw [scanFrom_symbol (by simp [hSpacing]) hToken, tokens_cons, stop_cons, hTokens]
  exact ⟨rfl, hStop⟩

theorem Spells.concat_spacing {c : Char} {text : List Char} {tokens : List Token}
    (h : Spells settings text tokens) (hSpacing : isSpacing c = true) :
    Spells settings (text ++ [c]) tokens := by
  have hPart := isIdentifierPart_eq_false_of_spacing hSpacing
  simpa using h.append (spells_nil.cons_spacing hSpacing) (.of_head hPart)

theorem Spells.around {c : Char} {token : Token} {text next : List Char}
    {before after : List Token} (hText : Spells settings text before)
    (hNext : Spells settings next after) (hToken : Token.ofSymbol? c = some token) :
    Spells settings (text ++ c :: next) (before ++ token :: after) := by
  have hPart := (classes_of_symbol hToken).1
  exact hText.append (hNext.cons_symbol hToken) (.of_head hPart)

theorem Spells.of_cons_spacing {c : Char} {text : List Char} {tokens : List Token}
    (h : Spells settings (c :: text) tokens) (hSpacing : isSpacing c = true) :
    Spells settings text tokens := by
  obtain ⟨hTokens, hStop⟩ := h 0
  rw [scanFrom_spacing hSpacing] at hTokens hStop
  exact spells_of_scanFrom hTokens hStop

theorem Spells.of_cons_symbol {c : Char} {token : Token} {text : List Char} {tokens : List Token}
    (h : Spells settings (c :: text) tokens) (hToken : Token.ofSymbol? c = some token) :
    ∃ rest, tokens = token :: rest ∧ Spells settings text rest := by
  obtain ⟨_, _, hSpacing⟩ := classes_of_symbol hToken
  obtain ⟨hTokens, hStop⟩ := h 0
  rw [scanFrom_symbol (by simp [hSpacing]) hToken] at hTokens hStop
  exact ⟨_, hTokens.symm, spells_of_scanFrom rfl hStop⟩

theorem Spells.of_concat_spacing {c : Char} {text : List Char} {tokens : List Token}
    (h : Spells settings (text ++ [c]) tokens) (hSpacing : isSpacing c = true) :
    Spells settings text tokens := by
  have hPart := isIdentifierPart_eq_false_of_spacing hSpacing
  obtain ⟨before, after, rfl, hBefore, hAfter⟩ := h.exists_of_append (.of_head hPart)
  have hNone : after = [] := (hAfter.of_cons_spacing hSpacing).unique spells_nil
  rwa [hNone, List.append_nil]

theorem Spells.of_around {c : Char} {token : Token} {text next : List Char} {tokens : List Token}
    (h : Spells settings (text ++ c :: next) tokens) (hToken : Token.ofSymbol? c = some token) :
    ∃ before after, tokens = before ++ token :: after ∧ Spells settings text before ∧
      Spells settings next after := by
  have hPart := (classes_of_symbol hToken).1
  obtain ⟨before, others, rfl, hBefore, hOthers⟩ := h.exists_of_append (.of_head hPart)
  obtain ⟨after, rfl, hAfter⟩ := hOthers.of_cons_symbol hToken
  exact ⟨before, after, rfl, hBefore, hAfter⟩

theorem Spells.not {text : List Char} {tokens : List Token} (h : Spells settings text tokens) :
    Spells settings ('!' :: text) (.not :: tokens) :=
  h.cons_symbol rfl

theorem Spells.group {text : List Char} {tokens : List Token} (h : Spells settings text tokens) :
    Spells settings ('(' :: (text ++ [')'])) (.opening :: (tokens ++ [.closing])) := by
  have hClosed : Spells settings (text ++ [')']) (tokens ++ [.closing]) := h.around spells_nil rfl
  exact hClosed.cons_symbol rfl

end

end KeywordFilter
