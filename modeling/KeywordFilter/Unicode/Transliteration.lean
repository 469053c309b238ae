/-!
# Transliteration to ASCII

Every character is replaced on its own, whatever stands beside it: an ASCII character by itself, a
character of a table by its ASCII spelling (which may hold blanks and capital letters), and any
other character by nothing.

The table that is written out here is an excerpt. It spells the Latin, Greek, Cyrillic and Devanagari
blocks, kana, half-width and full-width forms and some symbols, and single characters of other
scripts; it leaves out most of the characters that have a spelling. Settings may bring a table of
their own, and the theory assumes of a table only that it spells in ASCII.
-/

set_option autoImplicit false

namespace KeywordFilter.Unicode

/-- Spellings of consecutive code points, the first of them `first`. -/
structure SpellingRow where
  first : Nat
  spellings : List String
  deriving DecidableEq, Repr

def SpellingRow.spelling? (row : SpellingRow) (code : Nat) : Option String :=
  if row.first ≤ code then row.spellings[code - row.first]? else none

def SpellingRow.isAscii (row : SpellingRow) : Bool :=
  row.spellings.all fun spelling => spelling.toList.all fun c => c.toNat < 0x80

/-- The rows of the excerpt, in ascending order of code points. -/
def excerptRows : List SpellingRow := [
  ⟨0xA0, [" ", "!", "C/", "PS", "$?", "Y=", "|", "SS", "\"", "(c)", "a", "<<", "!", "", "(r)",
    "-"]⟩,
  ⟨0xB0, ["deg", "+-", "2", "3", "'", "u", "P", "*", ",", "1", "o", ">>", " 1/4", " 1/2", " 3/4",
    "?"]⟩,
  ⟨0xC0, ["A", "A", "A", "A", "A", "A", "AE", "C", "E", "E", "E", "E", "I", "I", "I", "I"]⟩,
  ⟨0xD0, ["D", "N", "O", "O", "O", "O", "O", "x", "O", "U", "U", "U", "U", "Y", "Th", "ss"]⟩,
  ⟨0xE0, ["a", "a", "a", "a", "a", "a", "ae", "c", "e", "e", "e", "e", "i", "i", "i", "i"]⟩,
  ⟨0xF0, ["d", "n", "o", "o", "o", "o", "o", "/", "o", "u", "u", "u", "u", "y", "th", "y"]⟩,
  ⟨0x100, ["A", "a", "A", "a", "A", "a", "C", "c", "C", "c", "C", "c", "C", "c", "D", "d"]⟩,
  ⟨0x110, ["D", "d", "E", "e", "E", "e", "E", "e", "E", "e", "E", "e", "G", "g", "G", "g"]⟩,
  ⟨0x120, ["G", "g", "G", "g", "H", "h", "H", "h", "I", "i", "I", "i", "I", "i", "I", "i"]⟩,
  ⟨0x130, ["I", "i", "IJ", "ij", "J", "j", "K", "k", "k", "L", "l", "L", "l", "L", "l", "L"]⟩,
  ⟨0x140, ["l", "L", "l", "N", "n", "N", "n", "N", "n", "'n", "NG", "ng", "O", "o", "O", "o"]⟩,
  ⟨0x150, ["O", "o", "OE", "oe", "R", "r", "R", "r", "R", "r", "S", "s", "S", "s", "S", "s"]⟩,
  ⟨0x160, ["S", "s", "T", "t", "T", "t", "T", "t", "U", "u", "U", "u", "U", "u", "U", "u"]⟩,
  ⟨0x170, ["U", "u", "U", "u", "W", "w", "Y", "y", "Y", "Z", "z", "Z", "z", "Z", "z", "s"]⟩,
  ⟨0x180, ["b", "B", "B", "b", "6", "6", "O", "C", "c", "D", "D", "D", "d", "d", "3", "@"]⟩,
  ⟨0x190, ["E", "F", "f", "G", "G", "hv", "I", "I", "K", "k", "l", "l", "W", "N", "n", "O"]⟩,
  ⟨0x1A0, ["O", "o", "OI", "oi", "P", "p", "YR", "2", "2", "SH", "sh", "t", "T", "t", "T", "U"]⟩,
  ⟨0x1B0, ["u", "Y", "V", "Y", "y", "Z", "z", "ZH", "ZH", "zh", "zh", "2", "5", "5", "ts", "w"]⟩,
  ⟨0x1C0, ["|", "||", "|=", "!", "DZ", "Dz", "dz", "LJ", "Lj", "lj", "NJ", "Nj", "nj", "A", "a",
    "I"]⟩,
  ⟨0x1D0, ["i", "O", "o", "U", "u", "U", "u", "U", "u", "U", "u", "U", "u", "@", "A", "a"]⟩,
  ⟨0x1E0, ["A", "a", "AE", "ae", "G", "g", "G", "g", "K", "k", "O", "o", "O", "o", "ZH", "zh"]⟩,
  ⟨0x1F0, ["j", "DZ", "Dz", "dz", "G", "g", "HV", "W", "N", "n", "A", "a", "AE", "ae", "O", "o"]⟩,
  ⟨0x200, ["A", "a", "A", "a", "E", "e", "E", "e", "I", "i", "I", "i", "O", "o", "O", "o"]⟩,
  ⟨0x210, ["R", "r", "R", "r", "U", "u", "U", "u", "S", "s", "T", "t", "Y", "y", "H", "h"]⟩,
  ⟨0x220, ["N", "d", "OU", "ou", "Z", "z", "A", "a", "E", "e", "O", "o", "O", "o", "O", "o"]⟩,
  ⟨0x230, ["O", "o", "Y", "y", "l", "n", "t", "j", "db", "qp", "A", "C", "c", "L", "T", "s"]⟩,
  ⟨0x240, ["z", "", "", "B", "U", "^", "E", "e", "J", "j", "q", "q", "R", "r", "Y", "y"]⟩,
  ⟨0x250, ["a", "a", "a", "b", "o", "c", "d", "d", "e", "@", "@", "e", "e", "e", "e", "j"]⟩,
  ⟨0x260, ["g", "g", "g", "g", "u", "Y", "h", "h", "i", "i", "I", "l", "l", "l", "lZ", "W"]⟩,
  ⟨0x270, ["W", "m", "n", "n", "n", "o", "OE", "O", "F", "r", "r", "r", "r", "r", "r", "r"]⟩,
  ⟨0x280, ["R", "R", "s", "S", "j", "S", "S", "t", "t", "u", "U", "v", "^", "w", "y", "Y"]⟩,
  ⟨0x290, ["z", "z", "Z", "Z", "?", "?", "?", "C", "@", "B", "E", "G", "H", "j", "k", "L"]⟩,
  ⟨0x2A0, ["q", "?", "?", "dz", "dZ", "dz", "ts", "tS", "tC", "fN", "ls", "lz", "WW", "]]", "h",
    "h"]⟩,
  ⟨0x2B0, ["h", "h", "j", "r", "r", "r", "r", "w", "y", "'", "\"", "`", "'", "`", "`", "'"]⟩,
  ⟨0x2C0, ["?", "?", "<", ">", "^", "V", "^", "V", "'", "-", "/", "\\", ",", "_", "\\", "/"]⟩,
  ⟨0x2D0, [":", ".", "`", "'", "^", "V", "+", "-", "V", ".", "@", ",", "~", "\"", "R", "X"]⟩,
  ⟨0x2E0, ["G", "l", "s", "x", "?", "", "", "", "", "", "", "", "V", "=", "\""]⟩,
  ⟨0x360, ["", "", "", "a", "e", "i", "o", "u", "c", "d", "h", "m", "r", "t", "v", "x"]⟩,
  ⟨0x370, ["", "", "", "", "'", ",", "", "", "", "", "", "", "", "", "?"]⟩,
  ⟨0x380, ["", "", "", "", "", "", "A", ";", "E", "E", "I", "", "O", "", "U", "O"]⟩,
  ⟨0x390, ["I", "A", "B", "G", "D", "E", "Z", "E", "Th", "I", "K", "L", "M", "N", "Ks", "O"]⟩,
  ⟨0x3A0, ["P", "R", "", "S", "T", "U", "Ph", "Kh", "Ps", "O", "I", "U", "a", "e", "e", "i"]⟩,
  ⟨0x3B0, ["u", "a", "b", "g", "d", "e", "z", "e", "th", "i", "k", "l", "m", "n", "x", "o"]⟩,
  ⟨0x3C0, ["p", "r", "s", "s", "t", "u", "ph", "kh", "ps", "o", "i", "u", "o", "u", "o"]⟩,
  ⟨0x3D0, ["b", "th", "U", "U", "U", "ph", "p", "&", "", "", "St", "st", "W", "w", "Q", "q"]⟩,
  ⟨0x3E0, ["Sp", "sp", "Sh", "sh", "F", "f", "Kh", "kh", "H", "h", "G", "g", "CH", "ch", "Ti",
    "ti"]⟩,
  ⟨0x3F0, ["k", "r", "c", "j"]⟩,
  ⟨0x400, ["Ie", "Io", "Dj", "Gj", "Ie", "Dz", "I", "Yi", "J", "Lj", "Nj", "Tsh", "Kj", "I", "U",
    "Dzh"]⟩,
  ⟨0x410, ["A", "B", "V", "G", "D", "E", "Zh", "Z", "I", "I", "K", "L", "M", "N", "O", "P"]⟩,
  ⟨0x420, ["R", "S", "T", "U", "F", "Kh", "Ts", "Ch", "Sh", "Shch", "'", "Y", "'", "E", "Iu",
    "Ia"]⟩,
  ⟨0x430, ["a", "b", "v", "g", "d", "e", "zh", "z", "i", "i", "k", "l", "m", "n", "o", "p"]⟩,
  ⟨0x440, ["r", "s", "t", "u", "f", "kh", "ts", "ch", "sh", "shch", "'", "y", "'", "e", "iu",
    "ia"]⟩,
  ⟨0x450, ["ie", "io", "dj", "gj", "ie", "dz", "i", "yi", "j", "lj", "nj", "tsh", "kj", "i", "u",
    "dzh"]⟩,
  ⟨0x460, ["O", "o", "E", "e", "Ie", "ie", "E", "e", "Ie", "ie", "O", "o", "Io", "io", "Ks", "ks"]⟩,
  ⟨0x470, ["Ps", "ps", "F", "f", "Y", "y", "Y", "y", "u", "u", "O", "o", "O", "o", "Ot", "ot"]⟩,
  ⟨0x480, ["Q", "q", "*1000*", "", "", "", "", "", "*100.000*", "*1.000.000*", "", "", "\"",
    "\"", "R'", "r'"]⟩,
  ⟨0x490, ["G'", "g'", "G'", "g'", "G'", "g'", "Zh'", "zh'", "Z'", "z'", "K'", "k'", "K'", "k'",
    "K'", "k'"]⟩,
  ⟨0x4A0, ["K'", "k'", "N'", "n'", "Ng", "ng", "P'", "p'", "Kh", "kh", "S'", "s'", "T'", "t'",
    "U", "u"]⟩,
  ⟨0x4B0, ["U'", "u'", "Kh'", "kh'", "Tts", "tts", "Ch'", "ch'", "Ch'", "ch'", "H", "h", "Ch",
    "ch", "Ch'", "ch'"]⟩,
  ⟨0x4C0, ["`", "Zh", "zh", "K'", "k'", "", "", "N'", "n'", "", "", "Ch", "ch"]⟩,
  ⟨0x4D0, ["a", "a", "A", "a", "Ae", "ae", "Ie", "ie", "@", "@", "@", "@", "Zh", "zh", "Z", "z"]⟩,
  ⟨0x4E0, ["Dz", "dz", "I", "i", "I", "i", "O", "o", "O", "o", "O", "o", "E", "e", "U", "u"]⟩,
  ⟨0x4F0, ["U", "u", "U", "u", "Ch", "ch", "", "", "Y", "y"]⟩,
  ⟨0x531, ["A"]⟩,
  ⟨0x561, ["a"]⟩,
  ⟨0x5D0, ["A"]⟩,
  ⟨0x639, ["`"]⟩,
  ⟨0x663, ["3"]⟩,
  ⟨0x900, ["", "N", "N", "H", "", "a", "aa", "i", "ii", "u", "uu", "R", "L", "eN", "e", "e"]⟩,
  ⟨0x910, ["ai", "oN", "o", "o", "au", "k", "kh", "g", "gh", "ng", "c", "ch", "j", "jh", "ny",
    "tt"]⟩,
  ⟨0x920, ["tth", "dd", "ddh", "nn", "t", "th", "d", "dh", "n", "nnn", "p", "ph", "b", "bh", "m",
    "y"]⟩,
  ⟨0x930, ["r", "rr", "l", "l", "lll", "v", "sh", "ss", "s", "h", "", "", "'", "'", "aa", "i"]⟩,
  ⟨0x940, ["ii", "u", "uu", "R", "RR", "eN", "e", "e", "ai", "oN", "o", "o", "au"]⟩,
  ⟨0x950, ["AUM", "'", "'", "`", "'", "", "", "", "q", "khh", "ghh", "z", "dddh", "rh", "f", "yy"]⟩,
  ⟨0x960, ["RR", "LL", "L", "LL", " / ", " // ", "0", "1", "2", "3", "4", "5", "6", "7", "8", "9"]⟩,
  ⟨0x970, ["."]⟩,
  ⟨0xE01, ["k"]⟩,
  ⟨0x13A0, ["a"]⟩,
  ⟨0x1E00, ["A", "a", "B", "b", "B", "b", "B", "b", "C", "c", "D", "d", "D", "d", "D", "d"]⟩,
  ⟨0x1E10, ["D", "d", "D", "d", "E", "e", "E", "e", "E", "e", "E", "e", "E", "e", "F", "f"]⟩,
  ⟨0x1E20, ["G", "g", "H", "h", "H", "h", "H", "h", "H", "h", "H", "h", "I", "i", "I", "i"]⟩,
  ⟨0x1E30, ["K", "k", "K", "k", "K", "k", "L", "l", "L", "l", "L", "l", "L", "l", "M", "m"]⟩,
  ⟨0x1E40, ["M", "m", "M", "m", "N", "n", "N", "n", "N", "n", "N", "n", "O", "o", "O", "o"]⟩,
  ⟨0x1E50, ["O", "o", "O", "o", "P", "p", "P", "p", "R", "r", "R", "r", "R", "r", "R", "r"]⟩,
  ⟨0x1E60, ["S", "s", "S", "s", "S", "s", "S", "s", "S", "s", "T", "t", "T", "t", "T", "t"]⟩,
  ⟨0x1E70, ["T", "t", "U", "u", "U", "u", "U", "u", "U", "u", "U", "u", "V", "v", "V", "v"]⟩,
  ⟨0x1E80, ["W", "w", "W", "w", "W", "w", "W", "w", "W", "w", "X", "x", "X", "x", "Y", "y"]⟩,
  ⟨0x1E90, ["Z", "z", "Z", "z", "Z", "z", "h", "t", "w", "y", "a", "S", "", "", "SS"]⟩,
  ⟨0x1EA0, ["A", "a", "A", "a", "A", "a", "A", "a", "A", "a", "A", "a", "A", "a", "A", "a"]⟩,
  ⟨0x1EB0, ["A", "a", "A", "a", "A", "a", "A", "a", "E", "e", "E", "e", "E", "e", "E", "e"]⟩,
  ⟨0x1EC0, ["E", "e", "E", "e", "E", "e", "E", "e", "I", "i", "I", "i", "O", "o", "O", "o"]⟩,
  ⟨0x1ED0, ["O", "o", "O", "o", "O", "o", "O", "o", "O", "o", "O", "o", "O", "o", "O", "o"]⟩,
  ⟨0x1EE0, ["O", "o", "O", "o", "U", "u", "U", "u", "U", "u", "U", "u", "U", "u", "U", "u"]⟩,
  ⟨0x1EF0, ["U", "u", "Y", "y", "Y", "y", "Y", "y", "Y", "y"]⟩,
  ⟨0x1F00, ["a", "a", "a", "a", "a", "a", "a", "a", "A", "A", "A", "A", "A", "A", "A", "A"]⟩,
  ⟨0x1F10, ["e", "e", "e", "e", "e", "e", "", "", "E", "E", "E", "E", "E", "E"]⟩,
  ⟨0x1F20, ["e", "e", "e", "e", "e", "e", "e", "e", "E", "E", "E", "E", "E", "E", "E", "E"]⟩,
  ⟨0x1F30, ["i", "i", "i", "i", "i", "i", "i", "i", "I", "I", "I", "I", "I", "I", "I", "I"]⟩,
  ⟨0x1F40, ["o", "o", "o", "o", "o", "o", "", "", "O", "O", "O", "O", "O", "O"]⟩,
  ⟨0x1F50, ["u", "u", "u", "u", "u", "u", "u", "u", "", "U", "", "U", "", "U", "", "U"]⟩,
  ⟨0x1F60, ["o", "o", "o", "o", "o", "o", "o", "o", "O", "O", "O", "O", "O", "O", "O", "O"]⟩,
  ⟨0x1F70, ["a", "a", "e", "e", "e", "e", "i", "i", "o", "o", "u", "u", "o", "o"]⟩,
  ⟨0x1F80, ["a", "a", "a", "a", "a", "a", "a", "a", "A", "A", "A", "A", "A", "A", "A", "A"]⟩,
  ⟨0x1F90, ["e", "e", "e", "e", "e", "e", "e", "e", "E", "E", "E", "E", "E", "E", "E", "E"]⟩,
  ⟨0x1FA0, ["o", "o", "o", "o", "o", "o", "o", "o", "O", "O", "O", "O", "O", "O", "O", "O"]⟩,
  ⟨0x1FB0, ["a", "a", "a", "a", "a", "", "a", "a", "A", "A", "A", "A", "A", "'", "i", "'"]⟩,
  ⟨0x1FC0, ["~", "\"~", "e", "e", "e", "", "e", "e", "E", "E", "E", "E", "E", "'`", "''", "'~"]⟩,
  ⟨0x1FD0, ["i", "i", "i", "i", "", "", "i", "i", "I", "I", "I", "I", "", "`'", "`'", "`~"]⟩,
  ⟨0x1FE0, ["u", "u", "u", "u", "R", "R", "u", "u", "U", "U", "U", "U", "R", "\"`", "\"'", "`"]⟩,
  ⟨0x1FF0, ["", "", "o", "o", "o", "", "o", "o", "O", "O", "O", "O", "O", "'", "`"]⟩,
  ⟨0x2000, [" ", " ", " ", " ", " ", " ", " ", " ", " ", " ", " ", " "]⟩,
  ⟨0x2010, ["-", "-", "-", "-", "--", "--", "||", "_", "'", "'", ",", "'", "\"", "\"", ",,", "\""]⟩,
  ⟨0x2020, ["+", "++", "*", "*>", ".", "..", "...", ".", "\n", "\n\n", "", "", "", "", "", " "]⟩,
  ⟨0x2030, ["%0", "%00", "'", "''", "'''", "`", "``", "```", "^", "<", ">", "*", "!!", "!?", "-",
    "_"]⟩,
  ⟨0x2040, ["-", "^", "***", "--", "/", "-[", "]-", "??", "?!", "!?", "&", "PP", "(]", "[)", "*"]⟩,
  ⟨0x2050, ["", "", "%", "~", "", "", "", "''''", "", "", "", "", "", "", "", " "]⟩,
  ⟨0x20AC, ["EUR"]⟩,
  ⟨0x2100, [" a/c ", " a/s ", "C", "degC", "", " c/o ", " c/u ", "", "", "degF", "g", "H", "H",
    "H", "h"]⟩,
  ⟨0x2110, ["I", "I", "L", "l", "", "N", "No. ", "(p)", "", "P", "Q", "R", "R", "R", "", "R/"]⟩,
  ⟨0x2120, ["(sm)", "TEL", "(tm)", "V/", "Z", "", "ohm", "", "Z", "", "K", "A", "B", "C", "e",
    "e"]⟩,
  ⟨0x2130, ["E", "F", "F", "M", "o", "", "", "", "", "i", "", "FAX"]⟩,
  ⟨0x2140, ["", "", "", "", "", "D", "d", "e", "i", "j", "", "", "", "A/S", "F"]⟩,
  ⟨0x2150, [" 1/7 ", " 1/9 ", " 1/10 ", " 1/3 ", " 2/3 ", " 1/5 ", " 2/5 ", " 3/5 ", " 4/5 ",
    " 1/6 ", " 5/6 ", " 1/8 ", " 3/8 ", " 5/8 ", " 7/8 ", " 1/"]⟩,
  ⟨0x2160, ["I", "II", "III", "IV", "V", "VI", "VII", "VIII", "IX", "X", "XI", "XII", "L", "C",
    "D", "M"]⟩,
  ⟨0x2170, ["i", "ii", "iii", "iv", "v", "vi", "vii", "viii", "ix", "x", "xi", "xii", "l", "c",
    "d", "m"]⟩,
  ⟨0x2180, ["(D", "D)", "((|))", ")", "", "", "", "", "", " 0/3 "]⟩,
  ⟨0x2460, ["1"]⟩,
  ⟨0x2C65, ["a", "t"]⟩,
  ⟨0x3000, [" "]⟩,
  ⟨0x3040, ["", "a", "a", "i", "i", "u", "u", "e", "e", "o", "o", "ka", "ga", "ki", "gi", "ku"]⟩,
  ⟨0x3050, ["gu", "ke", "ge", "ko", "go", "sa", "za", "shi", "zi", "su", "zu", "se", "ze", "so",
    "zo", "ta"]⟩,
  ⟨0x3060, ["da", "chi", "di", "tsu", "tsu", "du", "te", "de", "to", "do", "na", "ni", "nu",
    "ne", "no", "ha"]⟩,
  ⟨0x3070, ["ba", "pa", "hi", "bi", "pi", "hu", "bu", "pu", "he", "be", "pe", "ho", "bo", "po",
    "ma", "mi"]⟩,
  ⟨0x3080, ["mu", "me", "mo", "ya", "ya", "yu", "yu", "yo", "yo", "ra", "ri", "ru", "re", "ro",
    "wa", "wa"]⟩,
  ⟨0x3090, ["wi", "we", "wo", "n", "vu", "", "", "", "", "", "", "", "", "\"", "\""]⟩,
  ⟨0x30A0, ["=", "a", "a", "i", "i", "u", "u", "e", "e", "o", "o", "ka", "ga", "ki", "gi", "ku"]⟩,
  ⟨0x30B0, ["gu", "ke", "ge", "ko", "go", "sa", "za", "shi", "zi", "su", "zu", "se", "ze", "so",
    "zo", "ta"]⟩,
  ⟨0x30C0, ["da", "chi", "di", "tsu", "tsu", "du", "te", "de", "to", "do", "na", "ni", "nu",
    "ne", "no", "ha"]⟩,
  ⟨0x30D0, ["ba", "pa", "hi", "bi", "pi", "hu", "bu", "pu", "he", "be", "pe", "ho", "bo", "po",
    "ma", "mi"]⟩,
  ⟨0x30E0, ["mu", "me", "mo", "ya", "ya", "yu", "yu", "yo", "yo", "ra", "ri", "ru", "re", "ro",
    "wa", "wa"]⟩,
  ⟨0x30F0, ["wi", "we", "wo", "n", "vu", "ka", "ke", "va", "vi", "ve", "vo", "*", "-", "\"", "\""]⟩,
  ⟨0x4E1C, ["Dong "]⟩,
  ⟨0x4E2D, ["Zhong "]⟩,
  ⟨0x4EAC, ["Jing "]⟩,
  ⟨0x5317, ["Bei "]⟩,
  ⟨0x5B57, ["Zi "]⟩,
  ⟨0x6587, ["Wen "]⟩,
  ⟨0x65E5, ["Ri "]⟩,
  ⟨0x672C, ["Ben "]⟩,
  ⟨0x6F22, ["Han "]⟩,
  ⟨0xAD6D, ["gug"]⟩,
  ⟨0xC11C, ["seo"]⟩,
  ⟨0xC6B8, ["ul"]⟩,
  ⟨0xD55C, ["han"]⟩,
  ⟨0xFB01, ["fi"]⟩,
  ⟨0xFF00, ["", "!", "\"", "#", "$", "%", "&", "'", "(", ")", "*", "+", ",", "-", ".", "/"]⟩,
  ⟨0xFF10, ["0", "1", "2", "3", "4", "5", "6", "7", "8", "9", ":", ";", "<", "=", ">", "?"]⟩,
  ⟨0xFF20, ["@", "A", "B", "C", "D", "E", "F", "G", "H", "I", "J", "K", "L", "M", "N", "O"]⟩,
  ⟨0xFF30, ["P", "Q", "R", "S", "T", "U", "V", "W", "X", "Y", "Z", "[", "\\", "]", "^", "_"]⟩,
  ⟨0xFF40, ["`", "a", "b", "c", "d", "e", "f", "g", "h", "i", "j", "k", "l", "m", "n", "o"]⟩,
  ⟨0xFF50, ["p", "q", "r", "s", "t", "u", "v", "w", "x", "y", "z", "\x7b", "|", "\x7d", "~"]⟩,
  ⟨0xFF60, ["", ".", "[", "]", ",", "*", "wo", "a", "i", "u", "e", "o", "ya", "yu", "yo", "tu"]⟩,
  ⟨0xFF70, ["+", "a", "i", "u", "e", "o", "ka", "ki", "ku", "ke", "ko", "sa", "si", "su", "se",
    "so"]⟩,
  ⟨0xFF80, ["ta", "ti", "tu", "te", "to", "na", "ni", "nu", "ne", "no", "ha", "hi", "hu", "he",
    "ho", "ma"]⟩,
  ⟨0xFF90, ["mi", "mu", "me", "mo", "ya", "yu", "yo", "ra", "ri", "ru", "re", "ro", "wa", "n",
    ":", ";"]⟩,
  ⟨0xFFA0, ["", "g", "gg", "gs", "n", "nj", "nh", "d", "dd", "r", "lg", "lm", "lb", "ls", "lt",
    "lp"]⟩,
  ⟨0xFFB0, ["rh", "m", "b", "bb", "bs", "s", "ss", "", "j", "jj", "c", "k", "t", "p", "h"]⟩,
  ⟨0xFFC0, ["", "", "a", "ae", "ya", "yae", "eo", "e", "", "", "yeo", "ye", "o", "wa", "wae",
    "oe"]⟩,
  ⟨0xFFD0, ["", "", "yo", "u", "weo", "we", "wi", "yu", "", "", "eu", "yi", "i"]⟩,
  ⟨0xFFE0, ["/C", "PS", "!", "-", "|", "Y=", "W=", "", "|", "-", "|", "-", "|", "#", "O"]⟩,
  ⟨0x1D400, ["A"]⟩,
  ⟨0x1D41A, ["a"]⟩,
  ⟨0x1D41E, ["e"]⟩,
  ⟨0x1D437, ["D"]⟩,
  ⟨0x1D44B, ["X"]⟩,
  ⟨0x1D44E, ["a"]⟩,
  ⟨0x1D462, ["u"]⟩,
  ⟨0x1D469, ["B"]⟩,
  ⟨0x1D483, ["b"]⟩,
  ⟨0x1D486, ["e"]⟩,
  ⟨0x1D49B, ["z"]⟩,
  ⟨0x1D4A5, ["J"]⟩,
  ⟨0x1D4C8, ["s"]⟩,
  ⟨0x1D4D6, ["G"]⟩,
  ⟨0x1D4E0, ["Q"]⟩,
  ⟨0x1D4FA, ["q"]⟩,
  ⟨0x1D510, ["M"]⟩,
  ⟨0x1D526, ["i"]⟩,
  ⟨0x1D52B, ["n"]⟩,
  ⟨0x1D566, ["u"]⟩,
  ⟨0x1D572, ["G"]⟩,
  ⟨0x1D593, ["n"]⟩,
  ⟨0x1D5E3, ["P"]⟩,
  ⟨0x1D643, ["H"]⟩,
  ⟨0x1D65C, ["g"]⟩,
  ⟨0x1D661, ["l"]⟩,
  ⟨0x1D66C, ["w"]⟩,
  ⟨0x1D675, ["F"]⟩,
  ⟨0x1D6A8, ["Alpha"]⟩,
  ⟨0x1D6C9, ["theta"]⟩,
  ⟨0x1D6D7, ["phi"]⟩,
  ⟨0x1D7CE, ["0"]⟩]

/-- What characters beyond ASCII are spelled by: the excerpt, or a table of one's own. -/
inductive Spellings where
  | excerpt
  | table (rows : List SpellingRow) (ascii : rows.all (·.isAscii) = true)
  deriving DecidableEq, Repr

def Spellings.rows : Spellings → List SpellingRow
  | excerpt => excerptRows
  | table rows _ => rows

def transliterateChar (spellings : Spellings) (c : Char) : List Char :=
  if c.toNat < 0x80 then [c]
  else ((spellings.rows.findSome? (·.spelling? c.toNat)).getD "").toList

def transliterate (spellings : Spellings) (text : List Char) : List Char :=
  text.flatMap (transliterateChar spellings)

end KeywordFilter.Unicode
