import RowTemplate.Text.Category.Letter
import RowTemplate.Text.Category.Mark
import RowTemplate.Text.Category.Number
import RowTemplate.Text.Category.Punctuation
import RowTemplate.Text.Category.Symbol
import RowTemplate.Text.Category.Invisible

/-! # General categories

Every character has one general category. The tables of the assigned ones
stand in modules of their own; a character in none of them is unassigned.
-/

namespace RowTemplate.Text

/-- The general categories of characters. -/
inductive Category
  | capitalLetter
  | smallLetter
  | titleLetter
  | modifierLetter
  | otherLetter
  | nonspacingMark
  | spacingMark
  | enclosingMark
  | decimalDigit
  | letterNumber
  | otherNumber
  | connector
  | dash
  | opening
  | closing
  | initialQuote
  | finalQuote
  | otherPunctuation
  | mathSymbol
  | currencySymbol
  | modifierSymbol
  | otherSymbol
  | space
  | lineSeparator
  | paragraphSeparator
  | control
  | format
  | privateUse
  | unassigned
  deriving DecidableEq

namespace Category

/-- The code points that are listed under a category; unassigned ones are not listed. -/
def ranges : Category → Ranges
  | .capitalLetter => capitalLetterRanges
  | .smallLetter => smallLetterRanges
  | .titleLetter => titleLetterRanges
  | .modifierLetter => modifierLetterRanges
  | .otherLetter => otherLetterRanges
  | .nonspacingMark => nonspacingMarkRanges
  | .spacingMark => spacingMarkRanges
  | .enclosingMark => enclosingMarkRanges
  | .decimalDigit => decimalDigitRanges
  | .letterNumber => letterNumberRanges
  | .otherNumber => otherNumberRanges
  | .connector => connectorRanges
  | .dash => dashRanges
  | .opening => openingRanges
  | .closing => closingRanges
  | .initialQuote => initialQuoteRanges
  | .finalQuote => finalQuoteRanges
  | .otherPunctuation => otherPunctuationRanges
  | .mathSymbol => mathSymbolRanges
  | .currencySymbol => currencySymbolRanges
  | .modifierSymbol => modifierSymbolRanges
  | .otherSymbol => otherSymbolRanges
  | .space => spaceRanges
  | .lineSeparator => [(0x2028, 0x2028)]
  | .paragraphSeparator => [(0x2029, 0x2029)]
  | .control => controlRanges
  | .format => formatRanges
  | .privateUse => privateUseRanges
  | .unassigned => []

/-- Letters of all kinds. -/
def letters : List Category :=
  [.capitalLetter, .smallLetter, .titleLetter, .modifierLetter, .otherLetter]

/-- Marks of all kinds. -/
def marks : List Category := [.nonspacingMark, .spacingMark, .enclosingMark]

/-- Numbers of all kinds. -/
def numbers : List Category := [.decimalDigit, .letterNumber, .otherNumber]

/-- Punctuation of all kinds. -/
def punctuation : List Category :=
  [.connector, .dash, .opening, .closing, .initialQuote, .finalQuote, .otherPunctuation]

/-- Symbols of all kinds. -/
def symbols : List Category := [.mathSymbol, .currencySymbol, .modifierSymbol, .otherSymbol]

/-- Separators of all kinds. -/
def separators : List Category := [.space, .lineSeparator, .paragraphSeparator]

/-- The categories with a table. -/
def assigned : List Category :=
  letters ++ marks ++ numbers ++ punctuation ++ symbols ++ separators ++
    [.control, .format, .privateUse]

/-- The character is of the category. -/
def holds (k : Category) (c : Char) : Bool :=
  match k with
  | .unassigned => !assigned.any fun k => k.ranges.holds c
  | k => k.ranges.holds c

/-- The character is of one of the categories. -/
def anyHolds (ks : List Category) (c : Char) : Bool := ks.any fun k => k.holds c

end Category

end RowTemplate.Text
