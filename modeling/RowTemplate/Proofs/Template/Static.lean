import RowTemplate.Proofs.Json.Pruned
import RowTemplate.Proofs.Span.Opening
import RowTemplate.Proofs.Template.Composition

/-! # Templates without spans

A template in which no text and no name of a field holds a span says nothing
about its context. It expands to itself, pruned of what is empty, and what
comes of it expands to itself again.
-/

namespace RowTemplate

namespace Json

/-- The node has no span: it is no text that holds one, and none of its names does. -/
def IsSpanless : Json → Prop
  | .string s => hasSpan s.toList = false
  | .object fields => ∀ field ∈ fields, hasSpan field.1.toList = false
  | _ => True

/-- The node names each of its fields once. -/
def IsKeyed : Json → Prop
  | .object fields => Distinct fields
  | _ => True

variable {origin node : Json}

theorem IsSpanless.of_pruned? (h : origin.IsSpanless) (hnode : pruned? origin = some node) :
    node.IsSpanless := by
  cases origin with
  | array items =>
    obtain ⟨-, rfl⟩ := pruned?_array_eq_some_iff.mp hnode
    trivial
  | object fields =>
    obtain ⟨-, rfl⟩ := pruned?_object_eq_some_iff.mp hnode
    intro field hfield
    obtain ⟨before, hbefore, hleft⟩ := List.mem_filterMap.mp hfield
    obtain ⟨v, -, rfl⟩ := Option.map_eq_some_iff.mp hleft
    exact h before hbefore
  | _ =>
    obtain rfl := Option.some.inj hnode
    exact h

theorem map_fst_prunedField? (fields : List (String × Json)) :
    ((fields.filterMap prunedField?).map Prod.fst).Sublist (fields.map Prod.fst) := by
  induction fields with
  | nil => exact .slnil
  | cons field rest ih =>
    rw [List.filterMap_cons, prunedField?]
    cases pruned? field.2 with
    | none => exact ih.cons field.1
    | some v => exact ih.cons_cons field.1

theorem IsKeyed.of_pruned? (h : origin.IsKeyed) (hnode : pruned? origin = some node) :
    node.IsKeyed := by
  cases origin with
  | array items =>
    obtain ⟨-, rfl⟩ := pruned?_array_eq_some_iff.mp hnode
    trivial
  | object fields =>
    obtain ⟨-, rfl⟩ := pruned?_object_eq_some_iff.mp hnode
    exact List.Nodup.sublist (map_fst_prunedField? fields) h
  | _ =>
    obtain rfl := Option.some.inj hnode
    exact h

end Json

theorem firstSpan?_eq_none_of_hasSpan {s : List Char} (h : hasSpan s = false) :
    firstSpan? s = none := by
  simpa [hasSpan] using h

namespace Directive

theorem ofKey?_of_spanless {key : String} (h : hasSpan key.toList = false) :
    ofKey? key = none := by
  have hsingle : singleton? key.toList = none := by
    rw [singleton?, firstSpan?_eq_none_of_hasSpan h]
  rw [ofKey?, hsingle]
  rfl

end Directive

namespace Template

theorem expandText?_of_spanless {s : String} (h : hasSpan s.toList = false) :
    Session.expandText? s = pure (some (.string s)) := by
  have hspan := firstSpan?_eq_none_of_hasSpan h
  rw [Session.expandText?, singleton?, hspan]
  simp [Session.interpolate, replaceSpans, segments_of_none hspan]

theorem runParts_pure {α β : Type} (chain : Chain) (f : α → List β) (l : List α) :
    runParts chain (l.map fun a => .plain (pure (f a))) = pure (l.flatMap f) := by
  induction l with
  | nil => rfl
  | cons a l ih => simp only [List.map_cons, runParts_plain, ih, pure_bind, List.flatMap_cons]

theorem ofItem_of_spanless {item : Json} (h : item.IsSpanless) :
    Part.ofItem item = .plain (Option.toList <$> expand item) := by
  obtain ⟨key, body, rfl⟩ | hitem := single_field_or_other item
  · exact Part.ofItem_of_none (Directive.ofKey?_of_spanless (h (key, body) List.mem_cons_self)) body
  · rw [Part.ofItem.eq_2 _ hitem]

theorem ofField_of_spanless {field : String × Json} (h : hasSpan field.1.toList = false) :
    Part.ofField field = .plain ((fun node => node.toList.map (field.1, ·)) <$> expand field.2) := by
  obtain ⟨key, body⟩ := field
  rw [Part.ofField_of_none (Directive.ofKey?_of_spanless h), expandText?_of_spanless h,
    map_eq_pure_bind]
  rfl

/-- A template without spans is expanded without a look at the context. -/
theorem expand_eq_pure {template : Json} (hkeys : template.Throughout Json.IsKeyed)
    (hspans : template.Throughout Json.IsSpanless) :
    expand template = pure template.pruned? := by
  induction template using Json.descend with
  | step template ih =>
    have hchild : ∀ node, Json.Child node template → expand node = pure node.pruned? :=
      fun node hnode => ih node (.single hnode) (hkeys.child hnode) (hspans.child hnode)
    cases template with
    | null => rfl
    | bool b => rfl
    | number n => rfl
    | string s => exact expandText?_of_spanless (hspans _ .refl)
    | array items =>
      have hparts : items.map Part.ofItem = items.map fun item => .plain (pure item.pruned?.toList) := by
        refine List.map_congr_left fun item hitem => ?_
        rw [ofItem_of_spanless (hspans item (.single (.item hitem))),
          hchild item (.item hitem), map_pure]
      rw [expand_array, hparts, runParts_pure, map_pure, ← List.filterMap_eq_flatMap_toList,
        Json.pruned?, Json.prunedItems_eq]
      cases items.filterMap Json.pruned? <;> rfl
    | object fields =>
      have hparts : fields.map Part.ofField =
          fields.map fun field => .plain (pure (Json.prunedField? field).toList) := by
        refine List.map_congr_left fun field hfield => ?_
        rw [ofField_of_spanless (hspans _ .refl field hfield), hchild field.2 (.field hfield),
          map_pure, Json.prunedField?, Option.toList_map]
      have hdistinct : Distinct (fields.filterMap Json.prunedField?) :=
        List.Nodup.sublist (Json.map_fst_prunedField? fields) (hkeys _ .refl)
      rw [expand_object, hparts, runParts_pure, map_pure, ← List.filterMap_eq_flatMap_toList,
        objectNode_eq, putFields_nil hdistinct, Json.pruned?, Json.prunedFields_eq]
      cases fields.filterMap Json.prunedField? <;> rfl

/-- A template in which no text and no name holds a span expands to itself without its empty
arrays and objects, and leaves the context alone. It keeps every scalar, and comes to nothing if it
has none; what it comes to has nothing empty in it and expands to itself. -/
theorem expand_of_spanless {template : Json} (hkeys : template.Throughout Json.IsKeyed)
    (hspans : template.Throughout Json.IsSpanless) (ctx : Context) :
    (expand template).runIn ctx = (.ok template.pruned?, ctx) ∧
      (template.pruned? = none ↔ template.leaves = []) ∧
      ∀ v, template.pruned? = some v →
        v.leaves = template.leaves ∧
        (∀ node : Json, node.Within v → node ≠ .array [] ∧ node ≠ .object []) ∧
        ∀ ctx', (expand v).runIn ctx' = (.ok (some v), ctx') := by
  refine ⟨?_, template.pruned?_eq_none_iff, fun v hv => ?_⟩
  · rw [expand_eq_pure hkeys hspans, Session.runIn_pure]
  · refine ⟨Json.leaves_pruned? hv, fun node => Json.not_empty_of_pruned? hv, fun ctx' => ?_⟩
    have hkeys' : v.Throughout Json.IsKeyed :=
      hkeys.of_pruned? (fun _ _ => Json.IsKeyed.of_pruned?) hv
    have hspans' : v.Throughout Json.IsSpanless :=
      hspans.of_pruned? (fun _ _ => Json.IsSpanless.of_pruned?) hv
    rw [expand_eq_pure hkeys' hspans', Json.pruned?_of_pruned? hv, Session.runIn_pure]

/-- A span that has no end, a quote, a dollar and a brace, among things that are empty. -/
theorem expand_of_spanless_unended :
    let template : Json := .object
      [("$a", .array
        [.string "it's $\x7b open \x7b", .array [], .object [("b", .array [])], .null]),
        ("c", .object [("d", .object [])])]
    let v : Json := .object [("$a", .array [.string "it's $\x7b open \x7b", .null])]
    let ctx := Context.ofSettings {} ⟨2024, 6, 1, 9, 15, 0, 0, 7200⟩
    template.Throughout Json.IsKeyed ∧ template.Throughout Json.IsSpanless ∧
      (expand template).runIn ctx = (.ok (some v), ctx) ∧ v.leaves = template.leaves ∧
      (expand v).runIn ctx = (.ok (some v), ctx) := by
  intro template v ctx
  have hnull (P : Json → Prop) : Json.null.Throughout P ↔ P .null := Json.throughout_leaf nofun
  have hkeys : template.Throughout Json.IsKeyed := by
    simp [template, hnull, Json.IsKeyed, Distinct]
  have hspans : template.Throughout Json.IsSpanless := by
    simp only [template, Json.throughout_object, Json.throughout_array, Json.throughout_string,
      hnull, Json.IsSpanless, List.forall_mem_cons, List.not_mem_nil, false_implies, implies_true,
      and_true, true_and]
    decide
  have hv : template.pruned? = some v := rfl
  obtain ⟨hrun, -, hleft⟩ := expand_of_spanless hkeys hspans ctx
  obtain ⟨hleaves, -, hagain⟩ := hleft v hv
  rw [hv] at hrun
  exact ⟨hkeys, hspans, hrun, hleaves, hagain ctx⟩

end Template

end RowTemplate
