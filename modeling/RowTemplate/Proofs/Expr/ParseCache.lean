import Mathlib.Data.List.Dedup
import RowTemplate.Expr.ParseCache
import RowTemplate.Proofs.Table

/-! # What remembering does not change

A remembered expression is the expression of its text, so evaluation with a
cache gives what reading the text and evaluating it gives. A cache remembers
those of the texts it has met that are expressions, each of them once.
-/

namespace RowTemplate.ParseCache

variable {cache : ParseCache} {texts : List String}

theorem parse_fst (cache : ParseCache) (text : String) :
    (cache.parse text).1 = Expr.parse text := by
  unfold parse
  split
  case h_1 e he => exact (cache.sound text e he).symm
  case h_2 => split <;> simp_all

/-- The value of an expression text. -/
def direct (text : String) (scope : Scope) : Except EvalError Value :=
  match Expr.parse text with
  | .ok e => e.eval scope
  | .error e => .error (.syntaxError e)

theorem evaluate_fst (cache : ParseCache) (text : String) (scope : Scope) :
    (cache.evaluate text scope).1 = direct text scope := by
  rw [direct, ← parse_fst cache, evaluate]
  rcases cache.parse text with ⟨e | e, cache⟩ <;> rfl

theorem evaluate_snd (cache : ParseCache) (text : String) (scope : Scope) :
    (cache.evaluate text scope).2 = (cache.parse text).2 := by
  rw [evaluate]
  rcases cache.parse text with ⟨e | e, cache⟩ <;> rfl

/-- A text that is read is remembered if it is an expression, and nothing else changes. -/
theorem find?_parse (cache : ParseCache) (text other : String) :
    (cache.parse text).2.parses.find? other =
      if other = text then (Expr.parse text).toOption else cache.parses.find? other := by
  unfold parse
  split
  case h_1 e he =>
    split
    case isTrue heq => rw [heq, he, cache.sound text e he, Except.toOption]
    case isFalse => rfl
  case h_2 hnone =>
    split
    case h_1 e he => rw [add, Table.find?_insert, he, Except.toOption]
    case h_2 e he =>
      split
      case isTrue heq => rw [heq, hnone, he, Except.toOption]
      case isFalse => rfl

/-- The expressions among some texts, each of them once. -/
def expressions (texts : List String) : List String :=
  (texts.filter fun text => (Expr.parse text).isOk).dedup

theorem mem_expressions {text : String} :
    text ∈ expressions texts ↔ text ∈ texts ∧ (Expr.parse text).isOk = true := by
  rw [expressions, List.mem_dedup, List.mem_filter]

/-- What a cache remembers are the expressions among some texts. -/
def Remembers (cache : ParseCache) (texts : List String) : Prop :=
  ∀ text, (cache.parses.find? text).isSome ↔ text ∈ expressions texts

theorem remembers_empty : empty.Remembers [] := fun text => by simp [empty, expressions]

theorem Remembers.evaluate (h : cache.Remembers texts) (text : String) (scope : Scope) :
    (cache.evaluate text scope).2.Remembers (texts ++ [text]) := by
  intro other
  rw [evaluate_snd, find?_parse, mem_expressions, List.mem_append, List.mem_singleton]
  split
  case isTrue heq =>
    subst heq
    cases Expr.parse other <;> simp [Except.toOption, Except.isOk, Except.toBool]
  case isFalse hne => rw [h other, mem_expressions, or_iff_left hne]

theorem Remembers.size_eq (h : cache.Remembers texts) :
    cache.size = (expressions texts).length := by
  have hnodup : (expressions texts).Nodup := List.nodup_dedup _
  have hkeys : (cache.parses.entries.map Prod.fst).Perm (expressions texts) := by
    refine (List.perm_ext_iff_of_nodup cache.parses.ascending.nodup_keys hnodup).mpr fun text => ?_
    rw [← h text, Table.find?, lookup_isSome_iff]
  rw [size, Table.size, ← hkeys.length_eq, List.length_map]

/-- The values of texts that are evaluated one after the other, each with the number of texts
remembered behind it. -/
def evaluateAll (cache : ParseCache) : List (String × Scope) → List (Except EvalError Value × Nat)
  | [] => []
  | (text, scope) :: calls =>
    let answer := cache.evaluate text scope
    (answer.1, answer.2.size) :: answer.2.evaluateAll calls

theorem Remembers.evaluateAll_eq (h : cache.Remembers texts) (calls : List (String × Scope)) :
    cache.evaluateAll calls = calls.mapIdx fun i call =>
      (direct call.1 call.2,
        (expressions (texts ++ (calls.take (i + 1)).map Prod.fst)).length) := by
  induction calls generalizing cache texts with
  | nil => rfl
  | cons call calls ih =>
    obtain ⟨text, scope⟩ := call
    have hnext := h.evaluate text scope
    simp only [evaluateAll, ih hnext, List.mapIdx_cons, evaluate_fst, hnext.size_eq,
      List.take_succ_cons, List.map_cons, List.append_assoc, List.singleton_append,
      List.take_zero, List.map_nil]

/-- Whatever texts are evaluated one after the other in whatever scopes, with one cache, each
comes to what it comes to when it is read and evaluated by itself; and behind each of them as many
texts are remembered as there are different expressions among those up to it. -/
theorem evaluateAll_empty (calls : List (String × Scope)) :
    empty.evaluateAll calls = calls.mapIdx fun i call =>
      (direct call.1 call.2, (expressions ((calls.take (i + 1)).map Prod.fst)).length) :=
  remembers_empty.evaluateAll_eq calls

/-- A text that is no expression is not remembered, and one that is only once. -/
example :
    let scope : Scope := ⟨fun _ => none, .null, ⟨2024, 6, 1, 9, 15, 0, 0, 7200⟩⟩
    (empty.evaluateAll [("1 +", scope), ("a", scope), ("a", scope), ("1 +", scope)]).map Prod.snd =
      [0, 1, 1, 1] := by
  decide +kernel

end RowTemplate.ParseCache
