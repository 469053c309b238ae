import KeywordFilter.Proofs.Unicode.Classes

/-!
# Lower-casing once and for all

No code point that a case run goes to is moved by another run. Lower-casing a text therefore leaves
nothing to lower-case (`lower_lower`). It also keeps identifiers without ignorable characters what
they are (`isIdentifier_lower`), because a character of an identifier that moves at all moves to a
letter.
-/

set_option autoImplicit false

namespace KeywordFilter.Unicode

namespace CaseRun

def codes (run : CaseRun) : List Nat :=
  List.range' run.first ((run.last - run.first) / run.step + 1) run.step

def source (run : CaseRun) : CodeRange := ⟨run.first, run.last⟩

/-- The code points between the targets of the ends. -/
def image (run : CaseRun) : CodeRange := ⟨run.target, run.target + (run.last - run.first)⟩

theorem moves_iff {run : CaseRun} {code : Nat} :
    run.moves code = true ↔
      run.first ≤ code ∧ code ≤ run.last ∧ (code - run.first) % run.step = 0 := by
  simp [moves, and_assoc]

theorem mem_codes_of_moves {run : CaseRun} {code : Nat} (h : run.moves code = true) :
    code ∈ run.codes := by
  obtain ⟨hFirst, hLast, hStep⟩ := moves_iff.mp h
  have hCode := Nat.div_add_mod (code - run.first) run.step
  have hCount : (code - run.first) / run.step ≤ (run.last - run.first) / run.step :=
    Nat.div_le_div_right (by omega)
  refine List.mem_range'.mpr ⟨(code - run.first) / run.step, by omega, ?_⟩
  omega

end CaseRun

def movedCodes : List Nat := lowerRuns.flatMap (·.codes)

def targetCodes : List Nat :=
  lowerRuns.flatMap fun run => run.codes.map fun code => run.target + (code - run.first)

section
variable {run : CaseRun} {code : Nat}

theorem mem_movedCodes (hRun : run ∈ lowerRuns) (hMoves : run.moves code = true) :
    code ∈ movedCodes :=
  List.mem_flatMap.mpr ⟨run, hRun, CaseRun.mem_codes_of_moves hMoves⟩

theorem mem_targetCodes (hRun : run ∈ lowerRuns) (hMoves : run.moves code = true) :
    run.target + (code - run.first) ∈ targetCodes := by
  have hCode := CaseRun.mem_codes_of_moves hMoves
  exact List.mem_flatMap.mpr ⟨run, hRun, List.mem_map_of_mem hCode⟩

end

theorem targetCodes_apart :
    CharClass.apart (.ofCodes targetCodes) (.ofCodes movedCodes) = true := by
  decide +kernel

theorem lowerRuns_image :
    (lowerRuns.all fun run =>
      (Nat.blt run.image.last 0xD800 ||
        (Nat.blt 0xDFFF run.image.first && Nat.blt run.image.last 0x110000)) &&
      (Nat.blt run.image.last 0x130 || Nat.blt 0x130 run.image.first)) = true := by
  decide +kernel

theorem lowerRuns_letter :
    (lowerRuns.all fun run =>
      letter.covers [run.image] || CharClass.apart [run.source] part) = true := by
  decide +kernel

theorem lowerCode_of_unmoved {code : Nat} (h : ∀ run ∈ lowerRuns, run.moves code = false) :
    lowerCode code = code := by
  have hNone : lowerRuns.find? (·.moves code) = none := by
    rw [List.find?_eq_none]
    intro run hRun
    simp [h run hRun]
  simp [lowerCode, hNone]

theorem lowerCode_cases (code : Nat) :
    lowerCode code = code ∨ ∃ run ∈ lowerRuns, run.moves code = true ∧
      lowerCode code = run.target + (code - run.first) := by
  unfold lowerCode
  cases hFind : lowerRuns.find? (·.moves code) with
  | none => exact .inl rfl
  | some run =>
    have hMoves := List.find?_some hFind
    exact .inr ⟨run, List.mem_of_find?_eq_some hFind, hMoves, rfl⟩

theorem lowerCode_lowerCode (code : Nat) : lowerCode (lowerCode code) = lowerCode code := by
  rcases lowerCode_cases code with hSame | ⟨run, hRun, hMoves, hLower⟩
  · rw [hSame, hSame]
  · have hTarget : lowerCode code ∈ targetCodes := by
      rw [hLower]
      exact mem_targetCodes hRun hMoves
    have hHolds := CharClass.holds_ofCodes hTarget
    have hStays := CharClass.holds_eq_false_of_apart targetCodes_apart hHolds
    apply lowerCode_of_unmoved
    intro other hOther
    rw [← Bool.not_eq_true]
    intro hAgain
    rw [CharClass.holds_ofCodes (mem_movedCodes hOther hAgain)] at hStays
    cases hStays

theorem toNat_ofNat_of_isValidChar {code : Nat} (h : code.isValidChar) :
    (Char.ofNat code).toNat = code := by
  rw [Char.ofNat, dif_pos h]
  rfl

theorem toNat_ofNat_lowerCode (c : Char) :
    (Char.ofNat (lowerCode c.toNat)).toNat = lowerCode c.toNat := by
  rcases lowerCode_cases c.toNat with hSame | ⟨run, hRun, hMoves, hLower⟩
  · rw [hSame, Char.ofNat_toNat]
  · refine toNat_ofNat_of_isValidChar ?_
    obtain ⟨hFirst, hLast, _⟩ := CaseRun.moves_iff.mp hMoves
    have hImage := List.all_eq_true.mp lowerRuns_image run hRun
    simp only [CaseRun.image, Bool.or_eq_true, Bool.and_eq_true, Nat.blt_eq] at hImage
    rw [hLower, Nat.isValidChar]
    omega

/-- The character is its own lower case wherever it stands. -/
def Lowered (c : Char) : Prop :=
  lowerChar c = [c] ∧ c ≠ 'Σ'

theorem lowerChar_of_ne {c : Char} (h : c ≠ 'İ') :
    lowerChar c = [Char.ofNat (lowerCode c.toNat)] := by
  rw [lowerChar, if_neg h]

/-- The characters that lower-casing writes where no run says so. -/
def unruly : List Char := ['i', '\u0307', 'σ', 'ς']

theorem unruly_facts :
    (unruly.all fun c => isIdentifierPart c && !isIgnorable c &&
      Nat.beq (lowerCode c.toNat) c.toNat) = true ∧
    ['i', 'σ', 'ς'].all letter.contains = true ∧
    Nat.beq (lowerCode 'Σ'.toNat) 'Σ'.toNat = false := by
  decide +kernel

theorem mem_unruly_of_dot {d : Char} (hd : d ∈ lowerChar 'İ') : d ∈ unruly := by
  have hPair : d = 'i' ∨ d = '\u0307' := by simpa [lowerChar] using hd
  rcases hPair with rfl | rfl <;> simp [unruly]

theorem lowered_of_unruly {c : Char} (h : c ∈ unruly) : Lowered c := by
  have hFacts := List.all_eq_true.mp unruly_facts.1 c h
  simp only [Bool.and_eq_true, Nat.beq_eq] at hFacts
  have hCapital : c ≠ 'İ' ∧ c ≠ 'Σ' := by
    simp only [unruly, List.mem_cons, List.not_mem_nil, or_false] at h
    rcases h with rfl | rfl | rfl | rfl <;> decide
  refine ⟨?_, hCapital.2⟩
  rw [lowerChar_of_ne hCapital.1, hFacts.2, Char.ofNat_toNat]

theorem lowered_of_mem_lowerChar {c d : Char} (hd : d ∈ lowerChar c) : Lowered d := by
  by_cases hDot : c = 'İ'
  · subst hDot
    exact lowered_of_unruly (mem_unruly_of_dot hd)
  rw [lowerChar_of_ne hDot, List.mem_singleton] at hd
  have hCode : d.toNat = lowerCode c.toNat := by rw [hd, toNat_ofNat_lowerCode]
  have hFixed : lowerCode d.toNat = d.toNat := by rw [hCode, lowerCode_lowerCode]
  have hNotDot : d ≠ 'İ' := by
    rintro rfl
    rcases lowerCode_cases c.toNat with hSame | ⟨run, hRun, hMoves, hLower⟩
    · rw [hSame, Char.ofNat_toNat] at hd
      exact hDot hd.symm
    · obtain ⟨hFirst, hLast, _⟩ := CaseRun.moves_iff.mp hMoves
      have hImage := List.all_eq_true.mp lowerRuns_image run hRun
      simp only [CaseRun.image, Bool.or_eq_true, Bool.and_eq_true, Nat.blt_eq] at hImage
      have hDotCode : 'İ'.toNat = 0x130 := rfl
      omega
  refine ⟨?_, ?_⟩
  · rw [lowerChar_of_ne hNotDot, hFixed, Char.ofNat_toNat]
  · rintro rfl
    have hMoved := unruly_facts.2.2
    rw [← Bool.not_eq_true, Nat.beq_eq] at hMoved
    exact hMoved hFixed

theorem lowerAfter_cons (passed : List Char) (c : Char) (rest : List Char) :
    ∃ piece, lowerAfter passed (c :: rest) = piece ++ lowerAfter (c :: passed) rest ∧
      (piece = ['ς'] ∨ piece = ['σ'] ∨ piece = lowerChar c) := by
  refine ⟨_, rfl, ?_⟩
  split
  · cases meetsCased passed && !meetsCased rest <;> simp
  · exact .inr (.inr rfl)

theorem forall_mem_lowerAfter {P : Char → Prop} (hFinal : P 'ς') (hSigma : P 'σ')
    {passed text : List Char} (h : ∀ c ∈ text, ∀ d ∈ lowerChar c, P d) :
    ∀ d ∈ lowerAfter passed text, P d := by
  induction text generalizing passed with
  | nil =>
    intro d hd
    cases hd
  | cons c rest ih =>
    obtain ⟨piece, hLower, hPiece⟩ := lowerAfter_cons passed c rest
    intro d hd
    rw [hLower] at hd
    rcases List.mem_append.mp hd with hd | hd
    · rcases hPiece with rfl | rfl | rfl
      · rw [List.mem_singleton.mp hd]
        exact hFinal
      · rw [List.mem_singleton.mp hd]
        exact hSigma
      · exact h c List.mem_cons_self d hd
    · exact ih (fun e he => h e (List.mem_cons_of_mem c he)) d hd

theorem lowered_of_mem_lower {text : List Char} {d : Char} (hd : d ∈ lower text) : Lowered d :=
  forall_mem_lowerAfter (lowered_of_unruly (by simp [unruly])) (lowered_of_unruly (by simp [unruly]))
    (fun _ _ _ => lowered_of_mem_lowerChar) d hd

theorem lowerAfter_of_lowered {passed text : List Char} (h : ∀ c ∈ text, Lowered c) :
    lowerAfter passed text = text := by
  induction text generalizing passed with
  | nil => rfl
  | cons c rest ih =>
    obtain ⟨hLower, hSigma⟩ := h c List.mem_cons_self
    rw [lowerAfter, if_neg hSigma, hLower, ih fun d hd => h d (List.mem_cons_of_mem c hd)]
    rfl

theorem lower_lower (text : List Char) : lower (lower text) = lower text :=
  lowerAfter_of_lowered fun _ hd => lowered_of_mem_lower hd

theorem lower_eq_self_iff {text : List Char} : lower text = text ↔ ∀ c ∈ text, Lowered c := by
  constructor
  · intro h c hc
    rw [← h] at hc
    exact lowered_of_mem_lower hc
  · exact lowerAfter_of_lowered

theorem lowerChar_cases {c : Char} (hDot : c ≠ 'İ') :
    lowerChar c = [c] ∨
      ∃ d, lowerChar c = [d] ∧ (isIdentifierPart c = true → letter.contains d = true) := by
  rw [lowerChar_of_ne hDot]
  rcases lowerCode_cases c.toNat with hSame | ⟨run, hRun, hMoves, hLower⟩
  · rw [hSame, Char.ofNat_toNat]
    exact .inl rfl
  · refine .inr ⟨_, rfl, ?_⟩
    intro hPart
    obtain ⟨hFirst, hLast, _⟩ := CaseRun.moves_iff.mp hMoves
    have hLetter := List.all_eq_true.mp lowerRuns_letter run hRun
    rcases Bool.or_eq_true_iff.mp hLetter with hCovers | hApart
    · rw [CharClass.contains, toNat_ofNat_lowerCode, hLower]
      apply CharClass.holds_of_covers hCovers
      refine CharClass.holds_iff.mpr ⟨run.image, List.mem_singleton_self _, ?_, ?_⟩ <;>
        simp only [CaseRun.image] <;> omega
    · have hSource : CharClass.holds [run.source] c.toNat = true :=
        CharClass.holds_iff.mpr ⟨run.source, List.mem_singleton_self _, hFirst, hLast⟩
      have hNot := CharClass.holds_eq_false_of_apart hApart hSource
      rw [isIdentifierPart_eq, CharClass.contains, hNot] at hPart
      cases hPart

theorem isIdentifierStart_of_letter {c : Char} (h : letter.contains c = true) (digits : Bool) :
    isIdentifierStart digits c = true := by
  simp [isIdentifierStart, h]

def IsKept (c : Char) : Prop :=
  isIdentifierPart c = true ∧ isIgnorable c = false

theorem isKept_of_start {digits : Bool} {c : Char} (h : isIdentifierStart digits c = true) :
    IsKept c :=
  ⟨isIdentifierPart_of_start h, (classes_of_start h).1⟩

theorem isKept_of_letter {c : Char} (h : letter.contains c = true) : IsKept c :=
  isKept_of_start (isIdentifierStart_of_letter h false)

theorem isKept_of_unruly {c : Char} (h : c ∈ unruly) : IsKept c := by
  have hFacts := List.all_eq_true.mp unruly_facts.1 c h
  simp only [Bool.and_eq_true, Bool.not_eq_true'] at hFacts
  exact hFacts.1

theorem isKept_of_mem_lowerChar {c d : Char} (hc : IsKept c) (hd : d ∈ lowerChar c) :
    IsKept d := by
  by_cases hDot : c = 'İ'
  · subst hDot
    exact isKept_of_unruly (mem_unruly_of_dot hd)
  · rcases lowerChar_cases hDot with hSame | ⟨e, hMoved, hLetter⟩
    · rw [hSame, List.mem_singleton] at hd
      rwa [hd]
    · rw [hMoved, List.mem_singleton] at hd
      rw [hd]
      exact isKept_of_letter (hLetter hc.1)

theorem isKept_of_mem_lower {text : List Char} (hText : ∀ c ∈ text, IsKept c) :
    ∀ d ∈ lower text, IsKept d :=
  forall_mem_lowerAfter (isKept_of_unruly (by simp [unruly])) (isKept_of_unruly (by simp [unruly]))
    fun c hc _ => isKept_of_mem_lowerChar (hText c hc)

theorem exists_start_of_lowerChar {digits : Bool} {c : Char}
    (h : isIdentifierStart digits c = true) :
    ∃ d rest, lowerChar c = d :: rest ∧ isIdentifierStart digits d = true := by
  by_cases hDot : c = 'İ'
  · subst hDot
    have hLetter := List.all_eq_true.mp unruly_facts.2.1 'i' (by simp)
    exact ⟨'i', ['\u0307'], rfl, isIdentifierStart_of_letter hLetter digits⟩
  · rcases lowerChar_cases hDot with hSame | ⟨d, hMoved, hLetter⟩
    · exact ⟨c, [], hSame, h⟩
    · have hPart := isIdentifierPart_of_start h
      exact ⟨d, [], hMoved, isIdentifierStart_of_letter (hLetter hPart) digits⟩

theorem exists_start_of_lower {digits : Bool} {c : Char} (h : isIdentifierStart digits c = true)
    (rest : List Char) :
    ∃ d others, lower (c :: rest) = d :: others ∧ isIdentifierStart digits d = true := by
  obtain ⟨piece, hLower, hPiece⟩ := lowerAfter_cons [] c rest
  rw [lower, hLower]
  rcases hPiece with rfl | rfl | rfl
  · have hLetter := List.all_eq_true.mp unruly_facts.2.1 'ς' (by simp)
    exact ⟨'ς', _, rfl, isIdentifierStart_of_letter hLetter digits⟩
  · have hLetter := List.all_eq_true.mp unruly_facts.2.1 'σ' (by simp)
    exact ⟨'σ', _, rfl, isIdentifierStart_of_letter hLetter digits⟩
  · obtain ⟨d, others, hChar, hStart⟩ := exists_start_of_lowerChar h
    rw [hChar]
    exact ⟨d, _, rfl, hStart⟩

theorem isIdentifier_lower {digits : Bool} {text : List Char} (h : IsIdentifier digits text)
    (hKept : ∀ c ∈ text, IsKept c) : IsIdentifier digits (lower text) := by
  cases text with
  | nil => exact h.elim
  | cons c rest =>
    obtain ⟨d, others, hLower, hStart⟩ := exists_start_of_lower h.1 rest
    have hOthers := isKept_of_mem_lower hKept
    rw [hLower] at hOthers ⊢
    exact ⟨hStart, fun e he => (hOthers e (List.mem_cons_of_mem d he)).1⟩

end KeywordFilter.Unicode
