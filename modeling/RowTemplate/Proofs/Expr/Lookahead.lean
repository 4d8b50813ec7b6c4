import RowTemplate.Proofs.Expr.Derivation

/-! # One token ahead

Which tokens can stand behind and at the front of what a symbol derives. An
operator or an opening bracket behind an operand goes on with the symbols whose
operators bind no closer than it does.
-/

namespace RowTemplate.Grammar

/-- How close a mark behind an operand binds, for marks that can go on with an expression. -/
def strength? : Mark → Option Nat
  | .question => some 0
  | .doubleQuestion => some 1
  | .or => some 2
  | .and => some 3
  | .eq => some 4
  | .ne => some 4
  | .strictEq => some 4
  | .strictNe => some 4
  | .lt => some 5
  | .le => some 5
  | .gt => some 5
  | .ge => some 5
  | .plus => some 6
  | .minus => some 6
  | .star => some 7
  | .slash => some 7
  | .percent => some 7
  | .dot => some 8
  | .openBracket => some 8
  | .openParen => some 9
  | _ => none

/-- The least strength of the marks that can go on with a symbol. -/
def Symbol.strength : Symbol → Nat
  | .ternary => 0
  | .coalesced => 1
  | .alternatives => 1
  | .level k => k + 2
  | .operations k => k + 2
  | .unary => 8
  | .accesses => 8
  | .access => 8
  | .operand => 9
  | .items _ => 10
  | .fields => 10

/-- The tokens begin with no mark of the strength `k` or a greater one. -/
def Stops (k : Nat) (ts : List Token) : Prop :=
  ∀ m us s, ts = .mark m :: us → strength? m = some s → s < k

variable {k : Nat} {m : Mark} {ts : List Token}

theorem Joins.unique {join join' : Expr → Expr → Expr} (h : Joins k m join)
    (h' : Joins k m join') : join = join' := by
  cases h <;> cases h' <;> rfl

theorem Prefixes.unique {op op' : UnaryOp} (h : Prefixes m op) (h' : Prefixes m op') :
    op = op' := by
  cases h <;> cases h' <;> rfl

theorem Joins.strength {join : Expr → Expr → Expr} (h : Joins k m join) :
    strength? m = some (k + 2) := by
  cases h <;> rfl

namespace Stops

theorem nil (k : Nat) : Stops k [] := fun _ _ _ h => absurd h (by simp)

theorem of_none (h : strength? m = none) : Stops k (.mark m :: ts) := by
  rintro m' us s heq hs
  cases heq
  rw [h] at hs
  cases hs

theorem of_some {s : Nat} (h : strength? m = some s) (hk : s < k) : Stops k (.mark m :: ts) := by
  rintro m' us s' heq hs
  cases heq
  rw [h] at hs
  cases hs
  exact hk

theorem mono {k' : Nat} (h : Stops k ts) (hk : k ≤ k') : Stops k' ts :=
  fun m us s heq hs => Nat.lt_of_lt_of_le (h m us s heq hs) hk

theorem ne_mark {s : Nat} (h : Stops k ts) (hs : strength? m = some s) (hk : k ≤ s)
    (us : List Token) : ts ≠ .mark m :: us :=
  fun heq => Nat.not_lt_of_le hk (h m us s heq hs)

/-- No mark binds closer than an opening parenthesis. -/
theorem ten (ts : List Token) : Stops 10 ts := by
  intro m us s _ hs
  unfold strength? at hs
  split at hs
  all_goals first | cases hs; decide | cases hs

end Stops

namespace Derivation

theorem stops_alternatives (d : Derivation .alternatives) (h : Stops 1 ts) :
    Stops 2 (d.yield ++ ts) := by
  cases d with
  | noAlternative => exact h.mono (by decide)
  | alternative => exact .of_some rfl (by decide)

theorem stops_operations (d : Derivation (.operations k)) (h : Stops (k + 2) ts) :
    Stops (k + 3) (d.yield ++ ts) := by
  cases d with
  | noOperation => exact h.mono (Nat.le_succ _)
  | operation hj => exact .of_some hj.strength (Nat.lt_succ_self _)

theorem stops_access (d : Derivation .access) (h : Stops 8 ts) : Stops 9 (d.yield ++ ts) := by
  cases d with
  | noAccess => exact h.mono (by decide)
  | member => exact .of_some rfl (by decide)
  | method => exact .of_some rfl (by decide)
  | element => exact .of_some rfl (by decide)

end Derivation

/-- The tokens begin with one that is no mark, or with one of the marks. -/
def Begins (ms : List Mark) (ts : List Token) : Prop :=
  ∃ t us, ts = t :: us ∧ ∀ m, t = .mark m → m ∈ ms

namespace Begins

variable {ms : List Mark}

theorem other {t : Token} (h : ∀ m, t ≠ .mark m) (ts : List Token) : Begins ms (t :: ts) :=
  ⟨t, ts, rfl, fun m hm => absurd hm (h m)⟩

theorem mark (h : m ∈ ms) (ts : List Token) : Begins ms (.mark m :: ts) :=
  ⟨.mark m, ts, rfl, fun _ heq => by cases heq; exact h⟩

theorem append (h : Begins ms ts) (us : List Token) : Begins ms (ts ++ us) := by
  obtain ⟨t, vs, rfl, ht⟩ := h
  exact ⟨t, vs ++ us, rfl, ht⟩

theorem mono {ms' : List Mark} (h : Begins ms ts) (hms : ms ⊆ ms') : Begins ms' ts := by
  obtain ⟨t, us, rfl, ht⟩ := h
  exact ⟨t, us, rfl, fun m hm => hms (ht m hm)⟩

theorem ne_mark (h : Begins ms ts) (hm : m ∉ ms) (us : List Token) : ts ≠ .mark m :: us := by
  obtain ⟨t, vs, rfl, ht⟩ := h
  rintro heq
  cases heq
  exact hm (ht m rfl)

end Begins

theorem Literal.unique {t : Token} {v v' : Value} (h : Literal t v) (h' : Literal t v') :
    v = v' := by
  cases h <;> cases h' <;> rfl

theorem Key.unique {t : Token} {key key' : String} (h : Key t key) (h' : Key t key') :
    key = key' := by
  cases h <;> cases h' <;> rfl

theorem Literal.ne_mark {t : Token} {v : Value} (h : Literal t v) (m : Mark) : t ≠ .mark m := by
  cases h <;> simp

theorem Key.ne_mark {t : Token} {key : String} (h : Key t key) (m : Mark) : t ≠ .mark m := by
  cases h <;> simp

/-- The marks that begin an operand. -/
def operandMarks : List Mark := [.openParen, .openBracket, .openBrace]

theorem Prefixes.not_operand {op : UnaryOp} (h : Prefixes m op) : m ∉ operandMarks := by
  cases h <;> simp [operandMarks]

/-- The marks that begin an expression. -/
def openingMarks : List Mark := .not :: .minus :: operandMarks

namespace Bracket

variable (bracket : Bracket)

theorem strength : strength? bracket.close = none := by
  cases bracket <;> rfl

theorem ne_comma : bracket.close ≠ .comma := by
  cases bracket <;> simp [close]

theorem not_opening : bracket.close ∉ openingMarks := by
  cases bracket <;> simp [close, openingMarks, operandMarks]

end Bracket

/-- The marks that a symbol begins with, for symbols that are expressions. -/
def Symbol.opening? : Symbol → Option (List Mark)
  | .ternary => some openingMarks
  | .coalesced => some openingMarks
  | .level _ => some openingMarks
  | .unary => some openingMarks
  | .accesses => some operandMarks
  | .operand => some operandMarks
  | _ => none

namespace Derivation

theorem begins {sym : Symbol} (d : Derivation sym) {ms : List Mark} (h : sym.opening? = some ms) :
    Begins ms d.yield := by
  induction d generalizing ms with
  | plain _ ih => exact ih h
  | conditional _ _ _ ih => exact (ih h).append _
  | coalesced _ _ ih => exact (ih h).append _
  | level _ _ _ ih => exact (ih h).append _
  | closest _ ih => exact ih h
  | @prefixed m op hp _ =>
    cases h
    cases hp
    · exact .mark (by simp [openingMarks]) _
    · exact .mark (by simp [openingMarks]) _
  | unprefixed _ ih =>
    cases h
    exact (ih rfl).mono (by simp [openingMarks])
  | accesses _ _ ih => exact (ih h).append _
  | grouped => cases h; exact .mark (by simp [operandMarks]) _
  | literal hl => exact .other hl.ne_mark _
  | everything => exact .other (by simp) _
  | name => exact .other (by simp) _
  | call => exact .other (by simp) _
  | array => cases h; exact .mark (by simp [operandMarks]) _
  | object => cases h; exact .mark (by simp [operandMarks]) _
  | _ => cases h

end Derivation

end RowTemplate.Grammar
