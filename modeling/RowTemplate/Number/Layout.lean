import RowTemplate.Number.Shortest

/-! # Layouts of floating-point numbers

Which numbers are written positionally, whether an integral one keeps a
fraction, how an exponent is written, and which of two equally near decimals
stands for a number.
-/

namespace RowTemplate.Number

/-- How the digits of a number are laid out. -/
structure Layout where
  /-- The exponent of the first digit allows positional notation. -/
  positional : Int → Bool
  /-- An integral number in positional notation ends in `.0`. -/
  fraction : Bool
  /-- A positive exponent carries a plus sign. -/
  plus : Bool
  /-- The choice between two equally near decimals. -/
  tie : Tie

/-- JSON text writes `1e-5` to below `1e16` positionally, and the sign of every exponent. Halfway
it takes the even digit. -/
def Layout.json : Layout := ⟨fun k => -5 ≤ k && k ≤ 15, true, true, .toEven⟩

/-- Token names write `1e-4` to below `1e16` positionally, and no plus sign. Halfway they take
the larger digit. -/
def Layout.token : Layout := ⟨fun k => -4 ≤ k && k ≤ 15, true, false, .up⟩

/-- Text never has an exponent, nor a fraction where there is none. Halfway it takes the larger
digit. -/
def Layout.text : Layout := ⟨fun _ => true, false, false, .up⟩

/-- The digits `s` with the point after the first `k + 1` of them. -/
def positionalText (fraction : Bool) (s : List Char) (k : Int) : List Char :=
  if k < 0 then '0' :: '.' :: List.replicate (-k - 1).toNat '0' ++ s
  else
    let whole := k.toNat + 1
    if whole < s.length then s.take whole ++ '.' :: s.drop whole
    else
      let s := s ++ List.replicate (whole - s.length) '0'
      if fraction then s ++ ['.', '0'] else s

/-- The digits `s` with a point after the first, and the exponent `k`. -/
def exponentText (plus : Bool) (s : List Char) (k : Int) : List Char :=
  let mantissa := match s with
    | [] => []
    | [c] => [c]
    | c :: s => c :: '.' :: s
  mantissa ++ 'e' :: (if 0 ≤ k ∧ plus then ['+'] else []) ++ integerText k

/-- The text of a decimal without its sign. -/
def Layout.write (layout : Layout) (d : Decimal) : List Char :=
  let s := digits d.coefficient
  let k := d.exponent + (s.length - 1 : Nat)
  if layout.positional k then positionalText layout.fraction s k
  else exponentText layout.plus s k

/-- The text of a number with the fewest digits that read back. -/
def Layout.writeFloat (layout : Layout) (x : Float) : List Char :=
  match shape x with
  | .nan => ['N', 'a', 'N']
  | .infinite negative => (if negative then ['-'] else []) ++ ['i', 'n', 'f']
  | .finite negative m e => (if negative then ['-'] else []) ++ layout.write (shortest layout.tie m e)

/-- The text of a number: all digits of an integral one, else the fewest that read back. -/
def floatText (x : Float) : List Char :=
  match shape x with
  | .nan => "NaN".toList
  | .infinite negative => (if negative then "-Infinity" else "Infinity").toList
  | .finite negative m e =>
    let sign := if negative then ['-'] else []
    if dyadicIsIntegral m e then sign ++ digits (scaleDown m e)
    else sign ++ Layout.text.write (shortest Layout.text.tie m e)

end RowTemplate.Number
