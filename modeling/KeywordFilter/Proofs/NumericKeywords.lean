import KeywordFilter.Proofs.Parsing

/-!
# Keywords that start with a digit

Keywords may start with a decimal digit or not. Where they may, a text is scanned as before, or at
least up to the digit at which scanning would stop (`Scan.scanFrom_digits`). Whatever goes wrong before
this place goes wrong in the same way, so that no outcome changes but the one that reports the digit
(`parse_numeric`).
-/

set_option autoImplicit false

namespace KeywordFilter.Expression

open Scan

section
variable {text : String} {vocabulary : Vocabulary} {scan longer : Scan}

/-- Where a scan stops short of a longer one, its tokens decide the outcome of both, or the place where
it stops is reported. -/
theorem ofScan_of_lexemes (hLexemes : scan.lexemes <+: longer.lexemes) {c : Char}
    (hStop : scan.stop = .unreadable c) :
    ofScan text vocabulary longer = ofScan text vocabulary scan ∨
      ofScan text vocabulary scan =
        .error (.malformed text scan.position (String.ofList [c])) := by
  unfold ofScan
  cases hRun : scan.lexemes.foldlM (advance text vocabulary) Reading.start with
  | error error =>
    obtain ⟨rest, hRest⟩ := hLexemes
    rw [← hRest, List.foldlM_append, hRun]
    exact .inl rfl
  | ok reading =>
    rw [hStop]
    exact .inr rfl

end

/-- Admitting digits at the start of keywords changes no outcome of an expression, unless scanning
stopped at a digit and this digit is what was reported. -/
theorem parse_numeric (settings : FullSettings) (vocabulary : Option (List String))
    (text : Option String) :
    parse { settings with numericKeywords := true } vocabulary text =
        parse { settings with numericKeywords := false } vocabulary text ∨
      ∃ content digit, text = some content ∧ Unicode.decimalDigit.contains digit = true ∧
        (ofText { settings with numericKeywords := false } content).stop = .unreadable digit ∧
        parse { settings with numericKeywords := false } vocabulary text =
          .error (.malformed content
            (ofText { settings with numericKeywords := false } content).position
            (String.ofList [digit])) := by
  cases text with
  | none => exact .inl rfl
  | some content =>
    simp only [parse]
    split
    · exact .inl rfl
    · have hVocabulary : Vocabulary.ofWords { settings with numericKeywords := true } vocabulary =
          Vocabulary.ofWords { settings with numericKeywords := false } vocabulary := rfl
      rw [hVocabulary]
      have hScans := scanFrom_digits { settings with numericKeywords := false }
        { settings with numericKeywords := true } rfl (fun _ => rfl) 0 content.toList
      rcases hScans with hSame | ⟨hLexemes, digit, hStop, hDigit⟩
      · exact .inl (by rw [ofText, hSame, ofText])
      · refine (ofScan_of_lexemes hLexemes hStop).imp id ?_
        intro hReported
        exact ⟨content, digit, rfl, hDigit, hStop, hReported⟩

example : parse {} none (some "a&1b") = .error (.malformed "a&1b" 2 "1") ∧
    parse { numericKeywords := true } none (some "a&1b") =
      .ok (.binary .and (.literal "a") (.literal "1b")) := by
  decide +kernel

end KeywordFilter.Expression
