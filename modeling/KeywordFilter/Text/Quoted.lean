import KeywordFilter.Unicode.Category
import KeywordFilter.Unicode.Unassigned

/-!
# Quoted texts

A text in messages stands between quotation marks, with whatever is not printable written as an
escape sequence.
-/

set_option autoImplicit false

namespace KeywordFilter.Text

open Unicode (CharClass)

/-- Characters that are written as an escape sequence, beside the format characters and the unassigned
ones: controls, blanks other than the space, and private use. -/
def unprintable : CharClass := [
  ⟨0x0, 0x1F⟩, ⟨0x7F, 0xA0⟩, ⟨0x1680, 0x1680⟩, ⟨0x2000, 0x200A⟩, ⟨0x2028, 0x2029⟩, ⟨0x202F, 0x202F⟩,
  ⟨0x205F, 0x205F⟩, ⟨0x3000, 0x3000⟩, ⟨0xE000, 0xF8FF⟩, ⟨0xF0000, 0xFFFFD⟩, ⟨0x100000, 0x10FFFD⟩]

def isPrintable (c : Char) : Bool :=
  !(unprintable.contains c || Unicode.format.contains c || Unicode.unassigned.contains c)

def hexDigits (width code : Nat) : List Char :=
  (Nat.toDigits 16 code).leftpad width '0'

/-- The escape sequence of a code point, the shortest of three lengths. -/
def escapeCode (code : Nat) : List Char :=
  if code < 0x100 then '\\' :: 'x' :: hexDigits 2 code
  else if code < 0x10000 then '\\' :: 'u' :: hexDigits 4 code
  else '\\' :: 'U' :: hexDigits 8 code

def escapeChar (mark c : Char) : List Char :=
  if c = mark ∨ c = '\\' then ['\\', c]
  -- three controls have escapes of their own
  else if c = '\t' then ['\\', 't']
  else if c = '\n' then ['\\', 'n']
  else if c = '\r' then ['\\', 'r']
  else if isPrintable c then [c]
  else escapeCode c.toNat

/-- Single quotes, unless the text has such a quote in it and no double one. -/
def quotationMark (text : List Char) : Char :=
  if text.contains '\'' && !text.contains '"' then '"' else '\''

def quote (text : String) : String :=
  let mark := quotationMark text.toList
  String.ofList (mark :: text.toList.flatMap (escapeChar mark) ++ [mark])

end KeywordFilter.Text
