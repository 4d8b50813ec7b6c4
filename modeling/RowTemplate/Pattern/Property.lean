import RowTemplate.Number.Digits
import RowTemplate.Pattern.Break
import RowTemplate.Text.Search

/-! # Named character properties

What stands between the braces of `\p{...}`: the name of a general category, a
script or a binary property, or the name of a property with a value.
-/

namespace RowTemplate.Pattern

open Number (digits)
open Text

/-- The general categories and their unions with their names. -/
def categoryNames : List (List String × List Category) :=
  [(["c", "other"], [.control, .format, .privateUse, .unassigned]),
   (["cc", "control", "cntrl"], [.control]),
   (["cf", "format"], [.format]),
   (["cn", "unassigned"], [.unassigned]),
   (["co", "privateuse"], [.privateUse]),
   (["l", "letter"], Category.letters),
   (["lc", "casedletter"], [.capitalLetter, .smallLetter, .titleLetter]),
   (["ll", "lowercaseletter"], [.smallLetter]),
   (["lm", "modifierletter"], [.modifierLetter]),
   (["lo", "otherletter"], [.otherLetter]),
   (["lt", "titlecaseletter"], [.titleLetter]),
   (["lu", "uppercaseletter"], [.capitalLetter]),
   (["m", "mark", "combiningmark"], Category.marks),
   (["mc", "spacingmark"], [.spacingMark]),
   (["me", "enclosingmark"], [.enclosingMark]),
   (["mn", "nonspacingmark"], [.nonspacingMark]),
   (["n", "number"], Category.numbers),
   (["nd", "decimalnumber", "digit"], [.decimalDigit]),
   (["nl", "letternumber"], [.letterNumber]),
   (["no", "othernumber"], [.otherNumber]),
   (["p", "punctuation", "punct"], Category.punctuation),
   (["pc", "connectorpunctuation"], [.connector]),
   (["pd", "dashpunctuation"], [.dash]),
   (["pe", "closepunctuation"], [.closing]),
   (["pf", "finalpunctuation"], [.finalQuote]),
   (["pi", "initialpunctuation"], [.initialQuote]),
   (["po", "otherpunctuation"], [.otherPunctuation]),
   (["ps", "openpunctuation"], [.opening]),
   (["s", "symbol"], Category.symbols),
   (["sc", "currencysymbol"], [.currencySymbol]),
   (["sk", "modifiersymbol"], [.modifierSymbol]),
   (["sm", "mathsymbol"], [.mathSymbol]),
   (["so", "othersymbol"], [.otherSymbol]),
   (["z", "separator"], Category.separators),
   (["zl", "lineseparator"], [.lineSeparator]),
   (["zp", "paragraphseparator"], [.paragraphSeparator]),
   (["zs", "spaceseparator"], [.space])]

/-- The characters of the general category with a name. -/
def category? (name : String) : Option CharSet :=
  match name with
  | "any" => some fun _ => true
  | "assigned" => some fun c => !ofCategory .unassigned c
  | "ascii" => some fun c => c.toNat < 128
  | name => (named? categoryNames name).map ofCategories

/-- The characters of the script with a name. -/
def script? (name : String) : Option CharSet :=
  (Script.ofName? name).map fun s => s.ranges.holds

/-- The characters that are used in the script with a name. -/
def usedScript? (name : String) : Option CharSet := (Script.ofName? name).map Script.uses

/-- An edition is named by its two numbers. -/
def hasName (e : Edition) (name : List Char) : Bool :=
  name = digits e.major ++ '.' :: digits e.minor ||
    name = 'v' :: digits e.major ++ digits e.minor

/-- The characters that an edition assigned, or one before it. -/
def age? (name : String) : Option CharSet := do
  let known := editions.takeWhile (·.major < 17)
  let later := known.dropWhile fun e => !hasName e name.toList
  guard (!later.isEmpty)
  return fun c => (known.take (known.length - later.length + 1)).any fun e => e.added.holds c

/-- The name is a category, a script or a binary property. -/
def simpleProperty? (name : String) : Option CharSet :=
  named? binaryProperties name <|> category? name <|> script? name

/-- The characters for which a property has a value. -/
def valuedProperty? (name value : String) : Option CharSet :=
  match name with
  | "gc" | "generalcategory" => category? value
  | "sc" | "script" => script? value
  | "scx" | "scriptextensions" => usedScript? value
  | "age" => age? value
  | "gcb" | "graphemeclusterbreak" => named? graphemeBreaks value
  | "wb" | "wordbreak" => named? wordBreaks value
  | "sb" | "sentencebreak" => named? sentenceBreaks value
  | _ => none

/-- The name without what is no ASCII character, without spaces, hyphens and underscores, and in
small letters. -/
def squeezed (s : List Char) : List Char :=
  (s.filter fun c => c.toNat < 128 && c ≠ ' ' && c ≠ '-' && c ≠ '_').map Char.toLower

/-- A name as the tables have it. A leading `is` does not count, and before a lone `c`, with
which it names no category, it stays. -/
def plainName (s : List Char) : String :=
  match s with
  | i :: s' :: rest =>
    if i.toLower = 'i' ∧ s'.toLower = 's' then
      if squeezed rest = ['c'] then "isc" else String.ofList (squeezed rest)
    else String.ofList (squeezed s)
  | s => String.ofList (squeezed s)

/-- A text around the first of the signs that part a property from its value. The sign `!=` comes
before a colon, and a colon before an equals sign, wherever they stand. -/
def splitValue? (s : List Char) : Option (List Char × List Char) :=
  cut? ['!', '='] s <|> cut? [':'] s <|> cut? ['='] s

/-- The characters with a named property. The sign `!=` gives the value as the others do. -/
def property? (s : List Char) : Option CharSet :=
  match splitValue? s with
  | some (name, value) => valuedProperty? (plainName name) (plainName value)
  | none => simpleProperty? (plainName s)

end RowTemplate.Pattern
