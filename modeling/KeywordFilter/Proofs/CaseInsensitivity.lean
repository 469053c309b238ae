import KeywordFilter.Proofs.RoundTrip

/-!
# Expressions in lower case

To lower-case a sigma one looks at its neighbours. Blanks and symbols end this look and stay what they
are, so a text is lower-cased identifier by identifier (`lowerAfter_append`, `lowerAfter_of_passed`).
An identifier without ignorable characters stays one with the same keyword. Hence a text spells the
same tokens in lower case (`Spells.lower`), and an expression is read as the same condition.
-/

set_option autoImplicit false

namespace KeywordFilter

open Unicode Scan

namespace Unicode

/-- The character stands between identifiers: it is its own lower case, and no sigma is lower-cased by
what lies behind it. -/
structure Divides (c : Char) : Prop where
  lowered : Lowered c
  not_part : isIdentifierPart c = false
  not_cased : cased.contains c = false
  not_caseIgnorable : caseIgnorable.contains c = false

theorem separators_facts :
    CharClass.apart (.ofCodes (separators.map Char.toNat)) (part ++ (cased ++ caseIgnorable)) = true ∧
      (separators.all fun c => Nat.blt c.toNat 0x80 && !c.isUpper) = true := by
  decide +kernel

theorem divides_of_separator {c : Char} (h : c ∈ separators) : Divides c := by
  have hCode : c.toNat ∈ separators.map Char.toNat := List.mem_map_of_mem h
  have hHolds := CharClass.holds_ofCodes hCode
  have hOthers := CharClass.holds_eq_false_of_apart separators_facts.1 hHolds
  simp only [CharClass.holds_append, Bool.or_eq_false_iff] at hOthers
  have hAscii := List.all_eq_true.mp separators_facts.2 c h
  simp only [Bool.and_eq_true, Nat.blt_eq, Bool.not_eq_true'] at hAscii
  refine ⟨lowered_of_ascii hAscii.1 hAscii.2, ?_, hOthers.2.1, hOthers.2.2⟩
  rw [isIdentifierPart_eq]
  exact hOthers.1

theorem divides_of_spacing {c : Char} (h : isSpacing c = true) : Divides c := by
  refine divides_of_separator ?_
  by_contra hNot
  rw [(not_mem_separators_iff.mp hNot).1] at h
  cases h

theorem divides_of_symbol {c : Char} {token : Token} (h : Token.ofSymbol? c = some token) :
    Divides c := by
  refine divides_of_separator ?_
  by_contra hNot
  rw [(not_mem_separators_iff.mp hNot).2] at h
  cases h

theorem meetsCased_append {text next : List Char} (h : ∀ c ∈ next.head?, Divides c) :
    meetsCased (text ++ next) = meetsCased text := by
  induction text with
  | nil =>
    cases next with
    | nil => rfl
    | cons c next =>
      obtain ⟨_, _, hCased, hIgnorable⟩ := h c rfl
      simp [meetsCased, hCased, hIgnorable]
  | cons c text ih =>
    by_cases hc : caseIgnorable.contains c = true
    · simpa [meetsCased, hc] using ih
    · simp [meetsCased, hc]

theorem lowerAfter_append (passed : List Char) {text next : List Char}
    (h : ∀ c ∈ next.head?, Divides c) :
    lowerAfter passed (text ++ next) =
      lowerAfter passed text ++ lowerAfter (text.reverse ++ passed) next := by
  induction text generalizing passed with
  | nil => rfl
  | cons c rest ih =>
    -- a sigma in `text` looks to its right no farther than the end of `text`
    rw [List.cons_append, lowerAfter, lowerAfter, meetsCased_append h, ih, List.append_assoc]
    simp

theorem lowerAfter_of_passed (front : List Char) {passed text : List Char}
    (h : ∀ c ∈ passed.head?, Divides c) :
    lowerAfter (front ++ passed) text = lowerAfter front text := by
  induction text generalizing front with
  | nil => rfl
  | cons c rest ih => rw [lowerAfter, lowerAfter, meetsCased_append h, ← List.cons_append, ih]

theorem lowerAfter_cons_of_divides {c : Char} (h : Divides c) (passed rest : List Char) :
    lowerAfter passed (c :: rest) = c :: lowerAfter (c :: passed) rest := by
  rw [lowerAfter, if_neg h.lowered.2, h.lowered.1]
  rfl

end Unicode

section
variable {settings : FullSettings}

theorem spells_identifier_lower {source : List Char}
    (h : IsIdentifier settings.numericKeywords source) (hKept : ∀ c ∈ source, isIgnorable c = false) :
    Spells settings (lower source) [.keyword (Keyword.ofIdentifier settings source)] := by
  have hSource : ∀ c ∈ source, IsKept c := fun c hc => ⟨h.part c hc, hKept c hc⟩
  have hLower : ∀ c ∈ lower source, isIgnorable c = false := fun c hc =>
    (isKept_of_mem_lower hSource c hc).2
  have hValue : Keyword.ofIdentifier settings (lower source) =
      Keyword.ofIdentifier settings source := by
    rw [Keyword.ofIdentifier_eq settings hLower, Keyword.ofIdentifier_eq settings hKept,
      Keyword.foldChars_lower]
  rw [← hValue]
  exact spells_identifier (isIdentifier_lower h hSource)

theorem seam_lowerAfter (text passed : List Char) {next : List Char}
    (h : ∀ c ∈ next.head?, Divides c) : Seam text (lowerAfter passed next) := by
  cases next with
  | nil =>
    intro c _ d hd
    cases hd
  | cons c rest =>
    have hc := h c rfl
    rw [lowerAfter_cons_of_divides hc]
    exact .of_head hc.not_part

theorem divides_of_finish {position : Nat} {text : List Char}
    (hStop : (scanFrom settings position text).stop = .finish)
    (hPart : ∀ c ∈ text.head?, isIdentifierPart c = false) : ∀ c ∈ text.head?, Divides c := by
  fun_cases scanFrom settings position text with
  | case1 => nofun
  | case2 c rest hSpacing =>
    rintro _ ⟨⟩
    exact divides_of_spacing hSpacing
  | case3 c rest hSpacing token hToken =>
    rintro _ ⟨⟩
    exact divides_of_symbol hToken
  | case4 c rest hSpacing hToken hStart source others =>
    exact absurd hStart (not_start_of_part (hPart c rfl))
  | case5 c rest hSpacing hToken hStart =>
    rw [scanFrom_unreadable hSpacing hToken hStart] at hStop
    cases hStop

/-- What follows `passed` in a text spells the same tokens in lower case, unless the text was divided
within an identifier. -/
theorem spells_lowerAfter (passed : List Char) {position : Nat} {text : List Char}
    (hStop : (scanFrom settings position text).stop = .finish)
    (hKept : ∀ c ∈ text, isIgnorable c = false)
    (hDivided : (∀ c ∈ passed.head?, Divides c) ∨ ∀ c ∈ text.head?, isIdentifierPart c = false) :
    Spells settings (lowerAfter passed text) (scanFrom settings position text).tokens := by
  fun_induction scanFrom settings position text generalizing passed with
  | case1 => exact spells_nil
  | case2 position c rest hSpacing ih =>
    have hc := divides_of_spacing hSpacing
    have hRest := ih (c :: passed) hStop (List.forall_mem_cons.mp hKept).2 (.inl (by simpa using hc))
    rw [lowerAfter_cons_of_divides hc]
    exact hRest.cons_spacing hSpacing
  | case3 position c rest hSpacing token hToken ih =>
    have hc := divides_of_symbol hToken
    have hRest := ih (c :: passed) hStop (List.forall_mem_cons.mp hKept).2 (.inl (by simpa using hc))
    rw [lowerAfter_cons_of_divides hc, tokens_cons]
    exact hRest.cons_symbol hToken
  | case4 position c rest hSpacing hToken hStart source others ih =>
    have hText : source ++ others = c :: rest := identifier_append_others c rest
    -- the text starts with an identifier here, so it was divided before it
    have hPassed : ∀ d ∈ passed.head?, Divides d :=
      hDivided.resolve_right fun hPart => not_start_of_part (hPart c rfl) hStart
    have hHead : ∀ d ∈ others.head?, isIdentifierPart d = false := fun d hd =>
      isIdentifierPart_of_mem_others hd
    rw [← hText] at hKept ⊢
    obtain ⟨hSource, hOthers⟩ := List.forall_mem_append.mp hKept
    have hLower : lowerAfter passed (source ++ others) =
        lower source ++ lowerAfter (source.reverse ++ passed) others := by
      rw [lowerAfter_append passed (divides_of_finish hStop hHead)]
      exact congrArg (· ++ _) (lowerAfter_of_passed [] hPassed)
    have hFirst := spells_identifier_lower (isIdentifier_takeWhile hStart rest) hSource
    have hNext := ih (source.reverse ++ passed) hStop hOthers (.inr hHead)
    rw [hLower]
    exact hFirst.append hNext (seam_lowerAfter _ _ (divides_of_finish hStop hHead))
  | case5 => cases hStop

theorem Spells.lower {text : List Char} {tokens : List Token} (h : Spells settings text tokens)
    (hKept : ∀ c ∈ text, isIgnorable c = false) : Spells settings (lower text) tokens := by
  obtain ⟨hTokens, hStop⟩ := h 0
  rw [← hTokens]
  exact spells_lowerAfter [] hStop hKept (.inl nofun)

end

namespace Expression

/-- An expression without ignorable characters is one for the same condition in lower case. -/
theorem parse_lower {settings : FullSettings} {vocabulary : Option (List String)} {text : String}
    {tree : Predicate} (hKept : ∀ c ∈ text.toList, isIgnorable c = false)
    (h : parse settings vocabulary (some text) = .ok tree) :
    parse settings vocabulary (some (String.ofList (lower text.toList))) = .ok tree := by
  obtain ⟨tokens, hText, hCovers, hFolds⟩ := parse_eq_ok_iff.mp h
  refine parse_eq_ok_iff.mpr ⟨tokens, ?_, hCovers, hFolds⟩
  rw [String.toList_ofList]
  exact hText.lower hKept

theorem parse_lower_greek :
    lower "ΑΣ |\t!(ΣΑ&İX)".toList = "ας |\t!(σα&i\u0307x)".toList ∧
      parse {} (some ["ΑΣ", "σΑ", "İx"]) (some "ας |\t!(σα&i\u0307x)") =
        parse {} (some ["ΑΣ", "σΑ", "İx"]) (some "ΑΣ |\t!(ΣΑ&İX)") := by
  obtain ⟨hKept, hParse, hLower⟩ :
      ("ΑΣ |\t!(ΣΑ&İX)".toList.all (!isIgnorable ·)) = true ∧
      parse {} (some ["ΑΣ", "σΑ", "İx"]) (some "ΑΣ |\t!(ΣΑ&İX)") =
        .ok (.binary .or (.literal "ας")
          (.not (.group (.binary .and (.literal "σα") (.literal "i\u0307x"))))) ∧
      lower "ΑΣ |\t!(ΣΑ&İX)".toList = "ας |\t!(σα&i\u0307x)".toList := by
    decide +kernel
  have hAgain := parse_lower (fun c hc => by simpa using List.all_eq_true.mp hKept c hc) hParse
  rw [hLower, String.ofList_toList] at hAgain
  exact ⟨hLower, hAgain.trans hParse.symm⟩

end Expression

end KeywordFilter
