import RowTemplate.Text.Ranges

/-! # Blank characters

The characters with the Unicode property White_Space, and removing them from
the ends of a text.
-/

namespace RowTemplate.Text

/-- The White_Space property. -/
def blankRanges : Ranges :=
  [(0x9, 0xD), (0x20, 0x20), (0x85, 0x85), (0xA0, 0xA0), (0x1680, 0x1680), (0x2000, 0x200A),
   (0x2028, 0x2029), (0x202F, 0x202F), (0x205F, 0x205F), (0x3000, 0x3000)]

/-- The character separates words: space, tab, line end, no-break space and the like. -/
def isBlank (c : Char) : Bool := blankRanges.holds c

/-- The text without its leading blanks. -/
def trimLeft (s : List Char) : List Char := s.dropWhile isBlank

/-- The text without its trailing blanks. -/
def trimRight : List Char → List Char
  | [] => []
  | c :: s =>
    match trimRight s with
    | [] => if isBlank c then [] else [c]
    | t => c :: t

/-- The text without the blanks at its two ends. -/
def trim (s : List Char) : List Char := trimRight (trimLeft s)

end RowTemplate.Text
