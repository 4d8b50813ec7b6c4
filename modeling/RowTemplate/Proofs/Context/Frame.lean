import RowTemplate.Proofs.Context.Alike
import RowTemplate.Proofs.Table

/-! # The frame of an expansion

An expansion changes what its context binds to the names of its variables and
loops, and nothing else. These names are read off the keys of the template, and
they bound what changes whether the expansion fails or not.
-/

namespace RowTemplate

/-- Bindings that differ from earlier ones in some names only, which now have texts, and that may
list these names as columns behind the earlier ones. -/
structure Bindings.Framed (names : List String) (b b' : Bindings) : Prop where
  reserved : b'.reserved = b.reserved
  now : b'.now = b.now
  columns : ∃ added, added ⊆ names ∧ b'.columns = b.columns ++ added
  values : ∀ name, b'.get? name = b.get? name ∨
    name ∈ names ∧ ∃ s, b'.get? name = some (.string s)

/-- A context that differs from an earlier one in the bindings of some names only, and in what the
built-in language has read. -/
structure Context.Framed (names : List String) (ctx ctx' : Context) : Prop where
  bindings : ctx.bindings.Framed names ctx'.bindings
  fallback : ctx'.fallback = ctx.fallback
  evaluator : ctx.evaluator.Alike ctx'.evaluator

namespace Bindings

variable {names : List String} {b b₁ b₂ b₃ : Bindings}

theorem get?_define (b : Bindings) (name other : String) (v : Value) :
    (b.define name v).get? other = if other = name then some v else b.get? other := by
  have hvalues : (b.define name v).values = b.values.insert name v := by
    unfold define addColumn
    split <;> rfl
  rw [get?, hvalues, Table.find?_insert, get?]

theorem columns_define (b : Bindings) (name : String) (v : Value) :
    (b.define name v).columns = b.columns ++ if name ∈ b.columns then [] else [name] := by
  unfold define addColumn
  by_cases h : name ∈ b.columns <;> simp [set, h]

theorem Framed.refl (names : List String) (b : Bindings) : b.Framed names b :=
  ⟨rfl, rfl, ⟨[], List.nil_subset _, (List.append_nil _).symm⟩, fun _ => .inl rfl⟩

theorem Framed.trans (h : b₁.Framed names b₂) (h' : b₂.Framed names b₃) :
    b₁.Framed names b₃ where
  reserved := h'.reserved.trans h.reserved
  now := h'.now.trans h.now
  columns := by
    obtain ⟨added, hadded, heq⟩ := h.columns
    obtain ⟨more, hmore, heq'⟩ := h'.columns
    refine ⟨added ++ more, List.append_subset.mpr ⟨hadded, hmore⟩, ?_⟩
    rw [heq', heq, List.append_assoc]
  values name := by
    rcases h'.values name with hsame | hchanged
    · rw [hsame]
      exact h.values name
    · exact .inr hchanged

theorem framed_define (b : Bindings) {name : String} (hname : name ∈ names) (s : String) :
    b.Framed names (b.define name (.string s)) where
  reserved := b.reserved_define name _
  now := b.now_define name _
  columns := by
    refine ⟨_, ?_, b.columns_define name _⟩
    split
    · exact List.nil_subset _
    · simpa using hname
  values other := by
    rw [get?_define]
    split
    case isTrue heq => exact .inr ⟨heq ▸ hname, s, rfl⟩
    case isFalse => exact .inl rfl

/-- Where there are no names that may change, nothing changes. -/
theorem Framed.eq_of_nil (h : b.Framed [] b') : b' = b := by
  have hvalues : b'.values = b.values :=
    Table.ext_find? fun name => (h.values name).resolve_right (fun h => List.not_mem_nil h.1)
  obtain ⟨added, hadded, hcolumns⟩ := h.columns
  rw [List.subset_nil.mp hadded, List.append_nil] at hcolumns
  obtain ⟨values, reserved, columns, now⟩ := b
  obtain ⟨values', reserved', columns', now'⟩ := b'
  simp only [Bindings.mk.injEq]
  exact ⟨hvalues, h.reserved, hcolumns, h.now⟩

end Bindings

namespace Template

/-- An expansion leaves its context as it was but for the names that the template defines. -/
theorem Steps.framed {α : Type} {ts ns : List String} {m : Session ExpandError α}
    (h : Steps ts ns m) (ctx : Context) : ctx.Framed ns (m.runIn ctx).2 :=
  h.keeps (fun ctx => ⟨.refl ns ctx.bindings, rfl, .refl _⟩)
    (fun h h' => ⟨h.bindings.trans h'.bindings, h'.fallback.trans h.fallback,
      h.evaluator.trans h'.evaluator⟩)
    (fun ctx _ halike => ⟨.refl ns ctx.bindings, rfl, halike⟩)
    (fun ctx _ hname s => ⟨ctx.bindings.framed_define hname s, rfl, .refl _⟩) ctx

/-- Whether an expansion fails or not, it changes the values of names that are variables of the
template only, to texts, and adds columns at the end only; the reserved values, the moment and the
choice for values that are no integers stay. A template without variables changes nothing. -/
theorem expand_frame (template : Json) (ctx : Context) :
    let b := ctx.bindings
    let ctx' := ((expand template).runIn ctx).2
    let b' := ctx'.bindings
    (b'.reserved = b.reserved ∧ b'.now = b.now ∧ ctx'.fallback = ctx.fallback) ∧
      b.columns <+: b'.columns ∧
      (∀ name, name ∉ names template → b'.get? name = b.get? name) ∧
      (∀ name, b'.get? name ≠ b.get? name → ∃ s, b'.get? name = some (.string s)) ∧
      (names template = [] →
        b' = b ∧ ctx'.fallback = ctx.fallback ∧ ctx.evaluator.Alike ctx'.evaluator) := by
  intro b ctx' b'
  have h : ctx.Framed (names template) ctx' := (steps template).framed ctx
  refine ⟨⟨h.bindings.reserved, h.bindings.now, h.fallback⟩, ?_, ?_, ?_, ?_⟩
  · obtain ⟨added, -, heq⟩ := h.bindings.columns
    exact ⟨added, heq.symm⟩
  · exact fun name hname => (h.bindings.values name).resolve_right fun hin => hname hin.1
  · exact fun name hne => ((h.bindings.values name).resolve_left hne).2
  · intro hnone
    rw [hnone] at h
    exact ⟨h.bindings.eq_of_nil, h.fallback, h.evaluator⟩

/-- A variable and a loop that both take the name of a column, and then a failure: the other
column and the reserved name keep their values. -/
theorem expand_frame_failing :
    let template : Json := .array
      [.object [("$\x7bvar a\x7d", .string "<$\x7bc\x7d>")],
        .object
          [("$\x7bfor a:['p', 'q']\x7d", .object [("$\x7bvar b\x7d", .string "$\x7ba\x7d")])],
        .object [("$\x7berror\x7d", .string "stop")]]
    let plain : Json :=
      .array [.string "$\x7bc\x7d", .object [("$\x7berror\x7d", .string "stop")]]
    let start := Context.ofSettings {} ⟨2024, 6, 1, 9, 15, 0, 0, 7200⟩
    let ctx := start.mapBindings fun b => (b.define "a" (.int 1)).define "c" (.int 2)
    let ctx' := ((expand template).runIn ctx).2
    let plain' := ((expand plain).runIn ctx).2
    names template = ["a", "a", "b"] ∧
      ctx'.bindings.columns = ["a", "c", "b"] ∧
      ctx'.bindings.get? "c" = ctx.bindings.get? "c" ∧
      (ctx'.bindings.get? "a" ≠ ctx.bindings.get? "a" ∧
        ∃ s, ctx'.bindings.get? "a" = some (.string s)) ∧
      plain'.bindings = ctx.bindings := by
  intro template plain start ctx ctx' plain'
  have hnames : names template = ["a", "a", "b"] := by decide
  have hplain : names plain = [] := by decide
  have hchanged : ctx'.bindings.get? "a" ≠ ctx.bindings.get? "a" := by
    have hbefore : (ctx.bindings.get? "a").map Value.text = some "1" := by decide +kernel
    have hafter : (ctx'.bindings.get? "a").map Value.text = some "q" := by decide +kernel
    intro heq
    rw [heq, hbefore] at hafter
    exact absurd hafter (by decide)
  obtain ⟨-, -, hkept, htext, -⟩ := expand_frame template ctx
  obtain ⟨-, -, -, -, hnone⟩ := expand_frame plain ctx
  have hc : "c" ∉ names template := by
    rw [hnames]
    decide
  exact ⟨hnames, by decide +kernel, hkept "c" hc, ⟨hchanged, htext "a" hchanged⟩,
    (hnone hplain).1⟩

end Template

end RowTemplate
