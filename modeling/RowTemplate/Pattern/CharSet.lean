import RowTemplate.Text.Alphabet

/-! # Sets of characters

Column patterns know the characters of edition 16.0 of the Unicode character
database; to them every later one is unassigned.
-/

namespace RowTemplate.Pattern

open Text

/-- A set of characters. -/
abbrev CharSet := Char → Bool

/-- The members of a set that were assigned before edition 17.0. -/
def established (set : CharSet) : CharSet := fun c => isEstablished c && set c

/-- The characters of some general categories. U+0295 was a small letter before edition 17.0. -/
def ofCategories (ks : List Category) : CharSet := fun c =>
  if !isEstablished c then .unassigned ∈ ks
  else if c = '\u0295' then .smallLetter ∈ ks
  else Category.anyHolds ks c

/-- The characters of a general category. -/
def ofCategory (k : Category) : CharSet := ofCategories [k]

/-- The entry of a table under one of its names. -/
def named? {α : Type} (table : List (List String × α)) (name : String) : Option α :=
  (table.find? fun entry => name ∈ entry.1).map (·.2)

end RowTemplate.Pattern
