import RowTemplate.Proofs.Context.Frame
import RowTemplate.Proofs.Row.Isolation

/-! # What is reserved and what is listed

Values, reserved values and columns are kept in three tables. Whatever is done
to a context, they fit together: the columns differ and are bound, and so is
what is reserved. A reset brings back what was reserved, each name with the
value that it was last reserved with.
-/

namespace RowTemplate

/-- The columns differ from each other and are bound, and so is what is reserved. -/
structure Bindings.Consistent (b : Bindings) : Prop where
  nodup : b.columns.Nodup
  listed : ∀ name ∈ b.columns, (b.get? name).isSome
  reserved : ∀ name, (b.reserved.find? name).isSome → (b.get? name).isSome

namespace Bindings

variable {b : Bindings}

theorem get?_set (b : Bindings) (name other : String) (v : Value) :
    (b.set name v).get? other = if other = name then some v else b.get? other :=
  b.values.find?_insert name other v

theorem get?_reserve (b : Bindings) (name other : String) (v : Value) :
    (b.reserve name v).get? other = if other = name then some v else b.get? other :=
  b.values.find?_insert name other v

theorem find?_reserved_reserve (b : Bindings) (name other : String) (v : Value) :
    (b.reserve name v).reserved.find? other =
      if other = name then some v else b.reserved.find? other :=
  b.reserved.find?_insert name other v

namespace Consistent

theorem empty (now : Moment) : (empty now).Consistent where
  nodup := List.nodup_nil
  listed := nofun
  reserved := nofun

theorem set (h : b.Consistent) (name : String) (v : Value) : (b.set name v).Consistent where
  nodup := h.nodup
  listed other hother := by
    rw [get?_set]
    split
    · rfl
    · exact h.listed other hother
  reserved other hother := by
    rw [get?_set]
    split
    · rfl
    · exact h.reserved other hother

theorem define (h : b.Consistent) (name : String) (v : Value) : (b.define name v).Consistent where
  nodup := by
    rw [columns_define]
    split
    · simpa using h.nodup
    · exact List.nodup_append.mpr ⟨h.nodup, List.nodup_singleton name, by grind⟩
  listed other hother := by
    rw [get?_define]
    split
    · rfl
    case isFalse hne =>
      rw [columns_define] at hother
      refine h.listed other ((List.mem_append.mp hother).resolve_right fun hnew => hne ?_)
      split at hnew
      · cases hnew
      · exact List.mem_singleton.mp hnew
  reserved other hother := by
    rw [reserved_define] at hother
    rw [get?_define]
    split
    · rfl
    · exact h.reserved other hother

theorem reserve (h : b.Consistent) (name : String) (v : Value) :
    (b.reserve name v).Consistent where
  nodup := h.nodup
  listed other hother := by
    rw [get?_reserve]
    split
    · rfl
    · exact h.listed other hother
  reserved other hother := by
    rw [find?_reserved_reserve] at hother
    rw [get?_reserve]
    split at hother
    case isTrue heq => rw [if_pos heq]; rfl
    case isFalse hne => rw [if_neg hne]; exact h.reserved other hother

theorem reset (b : Bindings) (keepReserved : Bool) : (b.reset keepReserved).Consistent := by
  cases keepReserved with
  | true => exact ⟨List.nodup_nil, nofun, fun _ => id⟩
  | false => exact ⟨List.nodup_nil, nofun, nofun⟩

theorem defineAll (h : b.Consistent) (entries : List (String × Value)) :
    (b.defineAll entries).Consistent := by
  unfold Bindings.defineAll
  induction entries generalizing b with
  | nil => exact h
  | cons p entries ih => exact ih (h.define p.1 p.2)

theorem loadRow (b : Bindings) (row : Row) : (b.loadRow row).Consistent := by
  cases row <;> exact ((reset b true).defineAll _).set ..

end Consistent

end Bindings

/-- An expansion keeps bindings consistent, whether it fails or not. -/
theorem Template.consistent_expand (template : Json) {ctx : Context}
    (h : ctx.bindings.Consistent) : ((expand template).runIn ctx).2.bindings.Consistent :=
  (steps template).keeps (R := fun ctx ctx' => ctx.bindings.Consistent → ctx'.bindings.Consistent)
    (fun _ => id) (fun h h' => h' ∘ h) (fun _ _ _ => id) (fun _ name _ _ h => h.define name _) ctx h

/-- The bindings that are left when a name is reserved with the value of a text. -/
theorem Session.bindings_reserveEvaluated (name text : String) (ctx : Context) :
    ((reserveEvaluated name text).runIn ctx).2.bindings =
      match ((evaluate text).runIn ctx).1 with
      | .ok v => ctx.bindings.reserve name v
      | .error _ => ctx.bindings := by
  obtain ⟨evaluator, -, hctx⟩ := runIn_evaluate_snd text ctx
  rcases hrun : (evaluate text).runIn ctx with ⟨e | v, ctx'⟩ <;> rw [hrun] at hctx
  · rw [reserveEvaluated, runIn_bind_error hrun, hctx]
  · obtain rfl : ctx' = { ctx with evaluator } := hctx
    rw [reserveEvaluated, runIn_bind_ok hrun, runIn_update]
    rfl

/-- Something that can be done to a context. -/
inductive Operation
  | bind (name : String) (v : Value)
  | define (name : String) (v : Value)
  | reserve (name : String) (v : Value)
  | reserveEvaluated (name text : String)
  | loadRow (row : Row)
  | reset (keepReserved : Bool)
  | expand (template : Json)

namespace Operation

/-- The context behind an operation, which may have failed. -/
def apply (ctx : Context) : Operation → Context
  | bind name v => ctx.mapBindings (·.set name v)
  | define name v => ctx.mapBindings (·.define name v)
  | reserve name v => ctx.mapBindings (·.reserve name v)
  | reserveEvaluated name text => ((Session.reserveEvaluated name text).runIn ctx).2
  | loadRow row => ctx.loadRow row
  | reset keepReserved => ctx.mapBindings (·.reset keepReserved)
  | expand template => ((Template.expand template).runIn ctx).2

/-- What has been reserved and not been given up, the latest first, behind an operation that
begins in a context. -/
def record (ctx : Context) (log : List (String × Value)) : Operation → List (String × Value)
  | reserve name v => (name, v) :: log
  | reserveEvaluated name text =>
    match ((Session.evaluate text).runIn ctx).1 with
    | .ok v => (name, v) :: log
    | .error _ => log
  | reset false => []
  | _ => log

end Operation

/-- A context and what has been reserved in it, the latest first. -/
structure Recorded where
  context : Context
  log : List (String × Value)

namespace Recorded

/-- The record behind an operation. -/
def step (r : Recorded) (op : Operation) : Recorded :=
  ⟨op.apply r.context, op.record r.context r.log⟩

/-- A context before the first row: the moment is reserved first, and then what the settings
reserve. -/
def ofSettings (settings : Settings) (now : Moment) : Recorded where
  context := .ofSettings settings now
  log := (settings.reserved.entries.map fun p => (p.1, .string p.2)).reverse ++
    [("now", .string (settings.timestamp.getD now).timestamp)]

/-- The bindings are consistent, and what is reserved has the value that it was last reserved
with. -/
structure Faithful (r : Recorded) : Prop where
  consistent : r.context.bindings.Consistent
  reserved : ∀ name, r.context.bindings.reserved.find? name = r.log.lookup name

variable {r : Recorded} {ctx : Context} {log : List (String × Value)}

theorem Faithful.reserve (h : Faithful ⟨ctx, log⟩) (name : String) (v : Value) :
    Faithful ⟨ctx.mapBindings (·.reserve name v), (name, v) :: log⟩ where
  consistent := h.consistent.reserve name v
  reserved other := by
    refine (ctx.bindings.find?_reserved_reserve name other v).trans ?_
    by_cases hother : other = name
    · simp [hother]
    · rw [if_neg hother, lookup_cons_of_ne hother]
      exact h.reserved other

/-- Only bindings and reserved values count. -/
theorem Faithful.of_reserved_eq (h : Faithful ⟨ctx, log⟩) {ctx' : Context}
    (hconsistent : ctx'.bindings.Consistent)
    (hreserved : ctx'.bindings.reserved = ctx.bindings.reserved) : Faithful ⟨ctx', log⟩ :=
  ⟨hconsistent, fun name => (congrArg (·.find? name) hreserved).trans (h.reserved name)⟩

theorem Faithful.step (h : r.Faithful) (op : Operation) : (r.step op).Faithful := by
  obtain ⟨ctx, log⟩ := r
  cases op with
  | bind name v => exact h.of_reserved_eq (h.consistent.set name v) rfl
  | define name v =>
    exact h.of_reserved_eq (h.consistent.define name v) (ctx.bindings.reserved_define name v)
  | reserve name v => exact h.reserve name v
  | reserveEvaluated name text =>
    have hbindings := Session.bindings_reserveEvaluated name text ctx
    simp only [Recorded.step, Operation.record, Operation.apply]
    cases hv : ((Session.evaluate text).runIn ctx).1 with
    | error e =>
      rw [hv] at hbindings
      exact h.of_reserved_eq (hbindings ▸ h.consistent) (congrArg Bindings.reserved hbindings)
    | ok v =>
      rw [hv] at hbindings
      have hreserved := h.reserve name v
      exact hreserved.of_reserved_eq (hbindings ▸ hreserved.consistent)
        (congrArg Bindings.reserved hbindings)
  | loadRow row =>
    exact h.of_reserved_eq (.loadRow ctx.bindings row) (ctx.bindings.reserved_loadRow row)
  | reset keepReserved =>
    cases keepReserved with
    | true => exact h.of_reserved_eq (.reset ctx.bindings true) rfl
    | false => exact ⟨.reset ctx.bindings false, fun _ => rfl⟩
  | expand template =>
    exact h.of_reserved_eq (Template.consistent_expand template h.consistent)
      ((Template.steps template).framed ctx).bindings.reserved

theorem Faithful.foldl_step (h : r.Faithful) (ops : List Operation) :
    (ops.foldl Recorded.step r).Faithful := by
  induction ops generalizing r with
  | nil => exact h
  | cons op ops ih => exact ih (h.step op)

theorem Faithful.foldl_reserve (h : Faithful ⟨ctx, log⟩) (entries : List (String × String)) :
    Faithful
      ⟨ctx.mapBindings fun b => entries.foldl (fun b p => b.reserve p.1 (.string p.2)) b,
        (entries.map fun p => (p.1, .string p.2)).reverse ++ log⟩ := by
  induction entries generalizing ctx log with
  | nil => exact h
  | cons p entries ih =>
    rw [List.map_cons, List.reverse_cons, List.append_assoc]
    exact ih (h.reserve p.1 (.string p.2))

theorem faithful_ofSettings (settings : Settings) (now : Moment) :
    (ofSettings settings now).Faithful := by
  have hnothing : Faithful
      ⟨⟨.empty (settings.timestamp.getD now), .language .empty, settings.fallback⟩, []⟩ :=
    ⟨.empty _, fun _ => rfl⟩
  exact (hnothing.reserve "now" _).foldl_reserve settings.reserved.entries

end Recorded

/-- Whatever is done to a context one after the other, with or without success, its columns differ
and are bound, and all that is reserved is bound. A reset that keeps what is reserved then leaves
these names and no others bound, each to the value that it was last reserved with, and no columns.
-/
theorem Context.reset_restores_reserved (settings : Settings) (now : Moment)
    (ops : List Operation) :
    let r := ops.foldl Recorded.step (.ofSettings settings now)
    let b := r.context.bindings
    (b.columns.Nodup ∧ (∀ name ∈ b.columns, (b.get? name).isSome) ∧
        ∀ name, (b.reserved.find? name).isSome → (b.get? name).isSome) ∧
      (∀ name, b.reserved.find? name = r.log.lookup name) ∧
      (∀ name, (b.reset true).get? name = r.log.lookup name) ∧ (b.reset true).columns = [] := by
  intro r b
  have h : r.Faithful := (Recorded.faithful_ofSettings settings now).foldl_step ops
  exact ⟨⟨h.consistent.nodup, h.consistent.listed, h.consistent.reserved⟩, h.reserved,
    h.reserved, rfl⟩

/-- A reserved name that a field and a variable shadow, before the expansion fails. -/
example :
    let template : Json := .array
      [.object [("$\x7bvar region\x7d", .string "$\x7bregion\x7d!")],
        .object [("$\x7berror\x7d", .string "$\x7bregion\x7d")]]
    let ops : List Operation := [.reserveEvaluated "region" "'e' + 'u'",
      .loadRow (.object [("region", .string "us")]), .expand template]
    let r := ops.foldl Recorded.step (.ofSettings {} ⟨2024, 6, 1, 9, 15, 0, 0, 7200⟩)
    let region (b : Bindings) := (b.get? "region").map Value.text
    region r.context.bindings = some "us!" ∧ region (r.context.bindings.reset true) = some "eu" := by
  decide +kernel

end RowTemplate
