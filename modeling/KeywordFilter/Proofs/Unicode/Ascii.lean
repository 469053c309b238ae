import KeywordFilter.Proofs.Unicode.Lowercase
import KeywordFilter.Unicode.Transliteration

/-!
# ASCII texts

By any table transliteration writes nothing but ASCII and leaves an ASCII text as it is. Lower-casing
keeps ASCII texts in ASCII, character by character, and changes nothing in them but capital letters.
-/

set_option autoImplicit false

namespace KeywordFilter.Unicode

def IsAscii (text : List Char) : Prop :=
  ∀ c ∈ text, c.toNat < 0x80

theorem lt_of_utf8EncodeChar {c : Char} (h : ∀ byte ∈ String.utf8EncodeChar c, byte.toNat < 0x80) :
    c.toNat < 0x80 := by
  unfold String.utf8EncodeChar at h
  dsimp only at h
  split at h
  · next hc => exact Nat.lt_succ_of_le hc
  · -- a longer sequence starts with a byte of at least 0xC0
    split at h <;> try split at h
    all_goals
      have hFirst := h _ (.head _)
      rw [UInt8.toNat_ofNat'] at hFirst
      omega

theorem isAscii_of_bytes {text : String}
    (h : (text.toByteArray.data.toList.all fun byte => Nat.blt byte.toNat 0x80) = true) :
    IsAscii text.toList := by
  intro c hc
  apply lt_of_utf8EncodeChar
  intro byte hByte
  have hMem : byte ∈ text.toByteArray.data.toList := by
    rw [← String.utf8Encode_toList, List.utf8Encode]
    simpa using ⟨c, hc, hByte⟩
  simpa using List.all_eq_true.mp h byte hMem

-- the bytes of the excerpt are quicker to look at than its characters
theorem excerptRows_bytes :
    (excerptRows.all fun row => row.spellings.all fun spelling =>
      spelling.toByteArray.data.toList.all fun byte => Nat.blt byte.toNat 0x80) = true := by
  decide +kernel

theorem Spellings.rows_ascii (spellings : Spellings) :
    spellings.rows.all (·.isAscii) = true := by
  cases spellings with
  | excerpt =>
    apply List.all_eq_true.mpr
    intro row hRow
    apply List.all_eq_true.mpr
    intro spelling hSpelling
    have hBytes := List.all_eq_true.mp (List.all_eq_true.mp excerptRows_bytes row hRow)
    simpa [IsAscii] using isAscii_of_bytes (hBytes spelling hSpelling)
  | table rows ascii => exact ascii

theorem lowerRuns_ascii :
    (lowerRuns.all fun run => Nat.ble 0x80 run.first || Nat.blt run.image.last 0x80) = true := by
  decide +kernel

theorem isAscii_spelling {spellings : Spellings} {row : SpellingRow} (hRow : row ∈ spellings.rows)
    {code : Nat} {spelling : String} (h : row.spelling? code = some spelling) :
    IsAscii spelling.toList := by
  unfold SpellingRow.spelling? at h
  split at h
  · have hRows := List.all_eq_true.mp spellings.rows_ascii row hRow
    have hSpelling := List.all_eq_true.mp hRows spelling (List.mem_of_getElem? h)
    intro c hc
    simpa using List.all_eq_true.mp hSpelling c hc
  · cases h

theorem isAscii_transliterateChar (spellings : Spellings) (c : Char) :
    IsAscii (transliterateChar spellings c) := by
  unfold transliterateChar
  split
  · next hc =>
    intro d hd
    rwa [List.mem_singleton.mp hd]
  · cases hFind : spellings.rows.findSome? (·.spelling? c.toNat) with
    | none =>
      intro d hd
      simp at hd
    | some spelling =>
      obtain ⟨row, hRow, hSpelling⟩ := List.exists_of_findSome?_eq_some hFind
      exact isAscii_spelling hRow hSpelling

theorem isAscii_transliterate (spellings : Spellings) (text : List Char) :
    IsAscii (transliterate spellings text) := by
  intro d hd
  obtain ⟨c, _, hc⟩ := List.mem_flatMap.mp hd
  exact isAscii_transliterateChar spellings c d hc

theorem transliterate_of_isAscii {text : List Char} (h : IsAscii text) (spellings : Spellings) :
    transliterate spellings text = text := by
  induction text with
  | nil => rfl
  | cons c rest ih =>
    obtain ⟨hc, hRest⟩ := List.forall_mem_cons.mp h
    have hChar : transliterateChar spellings c = [c] := by rw [transliterateChar, if_pos hc]
    rw [transliterate, List.flatMap_cons, hChar, ← transliterate, ih hRest]
    rfl

theorem lowerCode_lt_of_ascii {code : Nat} (h : code < 0x80) : lowerCode code < 0x80 := by
  rcases lowerCode_cases code with hSame | ⟨run, hRun, hMoves, hLower⟩
  · rwa [hSame]
  · obtain ⟨hFirst, hLast, _⟩ := CaseRun.moves_iff.mp hMoves
    have hTarget := List.all_eq_true.mp lowerRuns_ascii run hRun
    simp only [CaseRun.image, Bool.or_eq_true, Nat.ble_eq, Nat.blt_eq] at hTarget
    rw [hLower]
    omega

theorem ne_of_ascii {c : Char} (h : c.toNat < 0x80) : c ≠ 'İ' ∧ c ≠ 'Σ' := by
  constructor
  · rintro rfl
    exact absurd h (by decide)
  · rintro rfl
    exact absurd h (by decide)

theorem exists_lowerChar_of_ascii {c : Char} (h : c.toNat < 0x80) :
    ∃ d, lowerChar c = [d] ∧ d.toNat < 0x80 := by
  refine ⟨_, lowerChar_of_ne (ne_of_ascii h).1, ?_⟩
  rw [toNat_ofNat_lowerCode]
  exact lowerCode_lt_of_ascii h

/-- The only run that moves ASCII characters is that of the capital letters, and it moves them all. -/
theorem lowerRuns_capital :
    (lowerRuns.all fun run => Nat.ble 0x80 run.first ||
      (Nat.beq run.first 0x41 && Nat.beq run.last 0x5A)) = true ∧
    ((List.range' 0x41 26).all fun code => !Nat.beq (lowerCode code) code) = true := by
  decide +kernel

theorem isUpper_iff {c : Char} : c.isUpper = true ↔ 0x41 ≤ c.toNat ∧ c.toNat ≤ 0x5A :=
  decide_eq_true_iff

theorem isUpper_eq_false_of_lowered {c : Char} (h : Lowered c) : c.isUpper = false := by
  rw [← Bool.not_eq_true, isUpper_iff]
  rintro ⟨hFirst, hLast⟩
  have hCode : c.toNat ∈ List.range' 0x41 26 := List.mem_range'_1.mpr ⟨hFirst, by omega⟩
  have hMoves := List.all_eq_true.mp lowerRuns_capital.2 c.toNat hCode
  have hSame := h.1
  rw [lowerChar_of_ne (ne_of_ascii (by omega)).1, List.singleton_inj] at hSame
  have hFixed : lowerCode c.toNat = c.toNat := by rw [← toNat_ofNat_lowerCode, hSame]
  simp [hFixed] at hMoves

theorem lowered_of_ascii {c : Char} (h : c.toNat < 0x80) (hCapital : c.isUpper = false) :
    Lowered c := by
  refine ⟨?_, (ne_of_ascii h).2⟩
  rw [lowerChar_of_ne (ne_of_ascii h).1]
  rcases lowerCode_cases c.toNat with hSame | ⟨run, hRun, hMoves, _⟩
  · rw [hSame, Char.ofNat_toNat]
  · obtain ⟨hFirst, hLast, _⟩ := CaseRun.moves_iff.mp hMoves
    have hBounds := List.all_eq_true.mp lowerRuns_capital.1 run hRun
    simp only [Bool.or_eq_true, Bool.and_eq_true, Nat.ble_eq, Nat.beq_eq] at hBounds
    have hUpper : c.isUpper = true := isUpper_iff.mpr (by omega)
    rw [hUpper] at hCapital
    cases hCapital

theorem isAscii_lowerAfter {passed text : List Char} (h : IsAscii text) :
    IsAscii (lowerAfter passed text) ∧ (lowerAfter passed text).length = text.length := by
  induction text generalizing passed with
  | nil => exact ⟨h, rfl⟩
  | cons c rest ih =>
    obtain ⟨hc, hRest⟩ := List.forall_mem_cons.mp h
    obtain ⟨d, hLower, hd⟩ := exists_lowerChar_of_ascii hc
    obtain ⟨hOthers, hLength⟩ := ih hRest
    rw [lowerAfter, if_neg (ne_of_ascii hc).2, hLower]
    refine ⟨List.forall_mem_cons.mpr ⟨hd, hOthers⟩, ?_⟩
    rw [List.singleton_append, List.length_cons, hLength, List.length_cons]

theorem length_transliterate_lower {text : List Char} (h : IsAscii text) (spellings : Spellings) :
    (transliterate spellings (lower text)).length = text.length := by
  obtain ⟨hLower, hLength⟩ := isAscii_lowerAfter h
  rw [lower, transliterate_of_isAscii hLower, hLength]

end KeywordFilter.Unicode
