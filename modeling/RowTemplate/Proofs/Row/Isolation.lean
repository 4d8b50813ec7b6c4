import RowTemplate.Proofs.Context.Alike
import RowTemplate.Proofs.Table
import RowTemplate.Row.Batch

/-! # Isolation of rows

What came of a row depends on the reserved values, the moment, the choice for
values that are no integers and the evaluator, none of which an expansion can
change. The rows before it leave nothing behind that it could see.
-/

namespace RowTemplate

namespace Bindings

theorem reserved_defineAll (b : Bindings) (entries : List (String × Value)) :
    (b.defineAll entries).reserved = b.reserved := by
  unfold defineAll
  induction entries generalizing b with
  | nil => rfl
  | cons p entries ih => rw [List.foldl_cons, ih, reserved_define]

theorem now_defineAll (b : Bindings) (entries : List (String × Value)) :
    (b.defineAll entries).now = b.now := by
  unfold defineAll
  induction entries generalizing b with
  | nil => rfl
  | cons p entries ih => rw [List.foldl_cons, ih, now_define]

theorem reserved_loadRow (b : Bindings) (row : Row) : (b.loadRow row).reserved = b.reserved := by
  cases row <;> exact reserved_defineAll ..

theorem now_loadRow (b : Bindings) (row : Row) : (b.loadRow row).now = b.now := by
  cases row <;> exact now_defineAll ..

/-- What a row finds in its bindings is what was reserved. -/
theorem loadRow_eq {b b' : Bindings} (hr : b.reserved = b'.reserved) (hn : b.now = b'.now)
    (row : Row) : b.loadRow row = b'.loadRow row := by
  have hreset : b.reset true = b'.reset true := by simp [reset, hr, hn]
  simp only [loadRow, hreset]

end Bindings

namespace Context

variable {ctx ctx' : Context}

theorem Alike.loadRow (h : ctx.Alike ctx') (row : Row) : ctx.Alike (ctx'.loadRow row) :=
  h.mapBindings (fun b => b.reserved_loadRow row) (fun b => b.now_loadRow row)

theorem Alike.agreesOn_loadRow (h : ctx.Alike ctx') (row : Row) (texts : List String) :
    (ctx.loadRow row).AgreesOn texts (ctx'.loadRow row) where
  bindings := Bindings.loadRow_eq (Table.ext_find? h.reserved) h.now row
  fallback := h.fallback
  evaluator := h.evaluator.agreesOn texts

end Context

variable {ctx ctx' : Context}

theorem alike_expandRow (template : Json) (row : Row) (ctx : Context) :
    ctx.Alike (expandRow template row ctx).2 :=
  ((Context.Alike.refl ctx).loadRow row).trans
    ((Template.steps template).restrained (ctx.loadRow row))

theorem expandRow_outcome_eq (h : ctx.Alike ctx') (template : Json) (row : Row) :
    (expandRow template row ctx).1 = (expandRow template row ctx').1 :=
  ((Template.steps template).uniform _ _ (h.agreesOn_loadRow row _)).1

/-- Every row of a batch comes to what it would come to alone, in any context that is alike. -/
theorem expandRowsFrom_fst (h : ctx.Alike ctx') (template : Json) (rows : List Row) (start : Nat) :
    (expandRowsFrom template start rows ctx).1 = rows.mapIdx fun i row =>
      ⟨row.lineNumber (start + i), row, (expandRow template row ctx').1⟩ := by
  induction rows generalizing start ctx with
  | nil => rfl
  | cons row rest ih =>
    have hrest := ih ((alike_expandRow template row ctx).symm.trans h) (start + 1)
    simp only [expandRowsFrom, List.mapIdx_cons, hrest, expandRow_outcome_eq h, Nat.add_zero]
    congr 2
    funext i row
    rw [Nat.add_right_comm, Nat.add_assoc]

theorem map_outcome_expandRows (h : ctx.Alike ctx') (template : Json) (rows : List Row) :
    ((expandRows template rows ctx).1.map fun r => (r.row, r.outcome)) =
      rows.map fun row => (row, (expandRow template row ctx').1) := by
  rw [expandRows, expandRowsFrom_fst h]
  apply List.ext_getElem <;> simp

/-- Rows are isolated: whatever rows come before it, in whatever order and with whatever outcome,
a row comes to what it would come to alone in any context that is alike; and rows in another
order come to the same outcomes in that order. -/
theorem expandRows_isolated (template : Json) (rows : List Row) (h : ctx.Alike ctx') :
    (expandRows template rows ctx).1 =
        rows.mapIdx (fun i row =>
          ⟨row.lineNumber i, row, (expandRow template row ctx').1⟩) ∧
      ∀ rows' : List Row, rows'.Perm rows →
        ((expandRows template rows' ctx').1.map fun r => (r.row, r.outcome)).Perm
          ((expandRows template rows ctx).1.map fun r => (r.row, r.outcome)) := by
  constructor
  · simpa [expandRows] using expandRowsFrom_fst h template rows 0
  · intro rows' hperm
    rw [map_outcome_expandRows h, map_outcome_expandRows (.refl ctx')]
    exact hperm.map _

/-- The first row fails after it has shadowed a reserved name; the second one is not affected, and
the order in which the names were reserved does not count. -/
theorem expandRows_isolated_shadowed :
    let now : Moment := ⟨2024, 6, 1, 9, 15, 0, 0, 7200⟩
    let fresh := Context.ofSettings {} now
    let ctx := fresh.mapBindings fun b =>
      ((b.reserve "region" (.string "eu")).reserve "zone" (.int 3)).define "left" (.string "over")
    let ctx' := fresh.mapBindings fun b =>
      (b.reserve "zone" (.int 3)).reserve "region" (.string "eu")
    let template : Json := .array
      [.object [("$\x7bvar region\x7d", .string "$\x7bname\x7d")],
        .object [("$\x7bif:name == 'bad'\x7d", .object [("$\x7berror\x7d", .string "no")])],
        .string "$\x7bregion\x7d"]
    let rows := [Row.cells [("name", some "bad")], Row.object [("name", .string "good")]]
    ctx.Alike ctx' ∧
      (expandRows template rows ctx).1 =
        rows.mapIdx (fun i row =>
          ⟨row.lineNumber i, row, (expandRow template row ctx').1⟩) := by
  intro now fresh ctx ctx' template rows
  have halike : ctx.Alike ctx' := by
    refine ⟨fun name => ?_, rfl, rfl, .refl _⟩
    by_cases hr : name = "region" <;> by_cases hz : name = "zone" <;>
      simp_all [ctx, ctx', Context.mapBindings, Bindings.reserved_define, Bindings.reserve,
        Table.find?_insert]
  exact ⟨halike, (expandRows_isolated template rows halike).1⟩

end RowTemplate
