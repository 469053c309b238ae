import KeywordFilter.Expression.Token
import KeywordFilter.Unicode.Blank

/-!
# Classes without a common character

Blanks, symbols, the starts of identifiers and ignorable characters keep out of each other's way.
Two classes are compared as numbers that have one bit for every code point.
-/

set_option autoImplicit false

namespace KeywordFilter.Unicode

namespace CharClass

/-- The number whose bits are the code points of the class. -/
def mask (cls : CharClass) : Nat :=
  cls.foldr (fun range bits => (1 <<< (range.last + 1 - range.first) - 1) <<< range.first ||| bits) 0

def apart (cls other : CharClass) : Bool :=
  Nat.beq (cls.mask &&& other.mask) 0

def covers (cls other : CharClass) : Bool :=
  Nat.beq (cls.mask &&& other.mask) other.mask

theorem testBit_mask (cls : CharClass) (code : Nat) : cls.mask.testBit code = cls.holds code := by
  induction cls with
  | nil => simp [mask, holds]
  | cons range rest ih =>
    have hRange : ((1 <<< (range.last + 1 - range.first) - 1) <<< range.first).testBit code =
        range.holds code := by
      rw [Nat.testBit_shiftLeft, Nat.one_shiftLeft, Nat.testBit_two_pow_sub_one, CodeRange.holds,
        Bool.eq_iff_iff]
      simp only [Bool.and_eq_true, decide_eq_true_eq]
      omega
    have hMask : mask (range :: rest) =
        (1 <<< (range.last + 1 - range.first) - 1) <<< range.first ||| mask rest := rfl
    rw [hMask, Nat.testBit_or, hRange, ih]
    rfl

theorem holds_eq_false_of_apart {cls other : CharClass} (h : cls.apart other = true) {code : Nat}
    (hCode : cls.holds code = true) : other.holds code = false := by
  have hBit := congrArg (·.testBit code) (Nat.eq_of_beq_eq_true h)
  simpa [testBit_mask, hCode] using hBit

theorem holds_of_covers {cls other : CharClass} (h : cls.covers other = true) {code : Nat}
    (hCode : other.holds code = true) : cls.holds code = true := by
  have hBit := congrArg (·.testBit code) (Nat.eq_of_beq_eq_true h)
  simpa [testBit_mask, hCode] using hBit

@[simp] theorem holds_append (cls other : CharClass) (code : Nat) :
    (cls ++ other).holds code = (cls.holds code || other.holds code) :=
  List.any_append

def ofCodes (codes : List Nat) : CharClass :=
  codes.map fun code => ⟨code, code⟩

theorem holds_ofCodes {codes : List Nat} {code : Nat} (h : code ∈ codes) :
    (ofCodes codes).holds code = true := by
  rw [holds_iff]
  exact ⟨⟨code, code⟩, List.mem_map_of_mem h, Nat.le_refl code, Nat.le_refl code⟩

end CharClass

def part : CharClass := letter ++ (decimalDigit ++ (mark ++ (control ++ format)))

theorem isIdentifierPart_eq (c : Char) : isIdentifierPart c = part.contains c := by
  simp [isIdentifierPart, isIgnorable, part, CharClass.contains, Bool.or_assoc]

def symbols : List Char := ['&', '|', '!', '(', ')']

/-- The characters that stand between identifiers. -/
def separators : List Char := ' ' :: '\t' :: symbols

theorem not_mem_separators_iff {c : Char} :
    c ∉ separators ↔ Scan.isSpacing c = false ∧ Token.ofSymbol? c = none := by
  simp only [separators, symbols, List.mem_cons, List.not_mem_nil, or_false, not_or,
    Scan.isSpacing, Token.ofSymbol?]
  grind

theorem classes_apart :
    (letter ++ decimalDigit).apart (control ++ format ++ blank) = true ∧
      CharClass.apart (.ofCodes (symbols.map Char.toNat)) (blank ++ part) = true ∧
      CharClass.apart (.ofCodes ([' ', '\t'].map Char.toNat)) part = true ∧
      mark.apart blank = true := by
  decide +kernel

theorem classes_of_start {digits : Bool} {c : Char} (h : isIdentifierStart digits c = true) :
    isIgnorable c = false ∧ isBlank c = false := by
  have hStart : (letter ++ decimalDigit).holds c.toNat = true := by
    simp only [isIdentifierStart, CharClass.contains, Bool.or_eq_true, Bool.and_eq_true] at h
    rcases h with h | ⟨_, h⟩ <;> simp [h]
  have hOthers := CharClass.holds_eq_false_of_apart classes_apart.1 hStart
  simpa [isIgnorable, isBlank, CharClass.contains, and_assoc] using hOthers

theorem isIdentifierPart_of_start {digits : Bool} {c : Char}
    (h : isIdentifierStart digits c = true) : isIdentifierPart c = true := by
  simp only [isIdentifierStart, Bool.or_eq_true, Bool.and_eq_true] at h
  simp only [isIdentifierPart, Bool.or_eq_true]
  rcases h with h | ⟨_, h⟩ <;> simp [h]

theorem not_start_of_part {digits : Bool} {c : Char} (h : isIdentifierPart c = false) :
    ¬ isIdentifierStart digits c = true := by
  intro hStart
  rw [isIdentifierPart_of_start hStart] at h
  cases h

theorem isBlank_eq_false_of_part {c : Char} (hPart : isIdentifierPart c = true)
    (hKept : isIgnorable c = false) : isBlank c = false := by
  simp only [isIdentifierPart, hKept, Bool.or_false, Bool.or_eq_true] at hPart
  rcases hPart with hStart | hMark
  · have hNumeric : isIdentifierStart true c = true := by simpa [isIdentifierStart] using hStart
    exact (classes_of_start hNumeric).2
  · exact CharClass.holds_eq_false_of_apart classes_apart.2.2.2 hMark

theorem IsIdentifier.part {digits : Bool} {text : List Char} (h : IsIdentifier digits text) :
    ∀ c ∈ text, isIdentifierPart c = true := by
  cases text with
  | nil => exact h.elim
  | cons c rest => exact List.forall_mem_cons.mpr ⟨isIdentifierPart_of_start h.1, h.2⟩

/-- A character that is a token is none of the characters of identifiers and no blank. -/
theorem classes_of_symbol {c : Char} {token : Token} (h : Token.ofSymbol? c = some token) :
    isIdentifierPart c = false ∧ isBlank c = false ∧ Scan.isSpacing c = false := by
  have hSymbol : c ∈ symbols ∧ Scan.isSpacing c = false := by
    unfold Token.ofSymbol? at h
    grind [symbols, Scan.isSpacing]
  have hCode : c.toNat ∈ symbols.map Char.toNat := List.mem_map_of_mem hSymbol.1
  have hHolds := CharClass.holds_ofCodes hCode
  have hOthers := CharClass.holds_eq_false_of_apart classes_apart.2.1 hHolds
  rw [CharClass.holds_append, Bool.or_eq_false_iff] at hOthers
  refine ⟨?_, hOthers.1, hSymbol.2⟩
  rw [isIdentifierPart_eq]
  exact hOthers.2

theorem ofSymbol?_eq_none_of_part {c : Char} (h : isIdentifierPart c = true) :
    Token.ofSymbol? c = none := by
  rw [Option.eq_none_iff_forall_ne_some]
  intro token hToken
  rw [(classes_of_symbol hToken).1] at h
  cases h

theorem ofSymbol?_eq_none_of_spacing {c : Char} (h : Scan.isSpacing c = true) :
    Token.ofSymbol? c = none := by
  rw [Option.eq_none_iff_forall_ne_some]
  intro token hToken
  rw [(classes_of_symbol hToken).2.2] at h
  cases h

theorem isIdentifierPart_eq_false_of_spacing {c : Char} (h : Scan.isSpacing c = true) :
    isIdentifierPart c = false := by
  have hSpacing : c ∈ [' ', '\t'] := by simpa [Scan.isSpacing] using h
  have hCode : c.toNat ∈ [' ', '\t'].map Char.toNat := List.mem_map_of_mem hSpacing
  have hHolds := CharClass.holds_ofCodes hCode
  rw [isIdentifierPart_eq]
  exact CharClass.holds_eq_false_of_apart classes_apart.2.2.1 hHolds

theorem isSpacing_eq_false_of_start {digits : Bool} {c : Char}
    (h : isIdentifierStart digits c = true) : Scan.isSpacing c = false := by
  rw [← Bool.not_eq_true]
  intro hSpacing
  exact not_start_of_part (isIdentifierPart_eq_false_of_spacing hSpacing) h

end KeywordFilter.Unicode
