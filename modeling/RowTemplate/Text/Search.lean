/-! # Searching in texts

Everything goes back to cutting a text at the first occurrence of another one.
-/

namespace RowTemplate.Text

/-- What stands before and after the first occurrence of `needle`. -/
def cut? (needle : List Char) : List Char → Option (List Char × List Char)
  | [] => if needle = [] then some ([], []) else none
  | c :: s =>
    if needle.isPrefixOf (c :: s) then some ([], (c :: s).drop needle.length)
    else
      match cut? needle s with
      | some (before, after) => some (c :: before, after)
      | none => none

theorem eq_of_cut? {needle s before after : List Char}
    (h : cut? needle s = some (before, after)) : s = before ++ needle ++ after := by
  induction s generalizing before with
  | nil =>
    unfold cut? at h
    split at h <;> simp_all
  | cons c s ih =>
    unfold cut? at h
    split at h
    case isTrue hp =>
      obtain ⟨rfl, rfl⟩ := Prod.mk.inj (Option.some.inj h)
      obtain ⟨t, ht⟩ := List.isPrefixOf_iff_prefix.mp hp
      simp [← ht]
    case isFalse =>
      split at h
      case h_1 before' _ hs =>
        obtain ⟨rfl, rfl⟩ := Prod.mk.inj (Option.some.inj h)
        simp [ih hs]
      case h_2 => simp at h

/-- `needle` occurs in the text. -/
def contains (needle s : List Char) : Bool := (cut? needle s).isSome

/-- The number of characters before the first occurrence of `needle`. -/
def indexOf? (needle s : List Char) : Option Nat := (cut? needle s).map (·.1.length)

/-- The text with the first occurrence of `needle` replaced. -/
def replaceFirst (needle new s : List Char) : List Char :=
  match cut? needle s with
  | some (before, after) => before ++ new ++ after
  | none => s

/-- The parts between the occurrences of a non-empty separator. -/
def splitOn (c : Char) (rest s : List Char) : List (List Char) :=
  match h : cut? (c :: rest) s with
  | some (before, after) =>
    have : after.length < s.length := by
      have := congrArg List.length (eq_of_cut? h)
      simp only [List.length_append, List.length_cons] at this
      omega
    before :: splitOn c rest after
  | none => [s]
termination_by s.length

/-- The parts between the occurrences of a separator; the empty one splits into characters. -/
def split (separator s : List Char) : List (List Char) :=
  match separator with
  | [] => s.map fun c => [c]
  | c :: rest => splitOn c rest s

end RowTemplate.Text
