import RowTemplate.Proofs.Fields
import RowTemplate.Proofs.Json.Within
import RowTemplate.Proofs.Template.Scope

/-! # The shape of an expanded document

An expanded document has no empty array and no empty object in it, and no null
that does not stand in the template. What counts as nothing is left out where
it would stand, and a scope that comes to nothing is left out in turn.
-/

namespace RowTemplate

/-- An expansion can put the node where it stands: it is not empty, and where it is null, null is
allowed. -/
def Json.IsMade (nulls : Prop) : Json → Prop
  | .null => nulls
  | .array items => items ≠ []
  | .object fields => fields ≠ []
  | _ => True

/-- All of a document can come of an expansion. -/
def Json.Made (nulls : Prop) (j : Json) : Prop := j.Throughout (Json.IsMade nulls)

namespace Json

variable {nulls : Prop} {j : Json} {items : List Json} {fields : List (String × Json)}

theorem made_array : (array items).Made nulls ↔ items ≠ [] ∧ ∀ item ∈ items, item.Made nulls :=
  throughout_array

theorem made_object :
    (object fields).Made nulls ↔ fields ≠ [] ∧ ∀ field ∈ fields, field.2.Made nulls :=
  throughout_object

theorem made_null (h : nulls) : null.Made nulls := throughout_null.mpr h

theorem made_bool (b : Bool) : (bool b).Made nulls := throughout_bool.mpr trivial

theorem made_number (n : JsonNumber) : (number n).Made nulls := throughout_number.mpr trivial

theorem made_string (s : String) : (string s).Made nulls := throughout_string.mpr trivial

theorem Made.not_empty (h : j.Made nulls) {node : Json} (hnode : node.Within j) :
    node ≠ .array [] ∧ node ≠ .object [] := by
  have hmade := h node hnode
  constructor <;> (rintro rfl; exact hmade rfl)

end Json

namespace Value

theorem ne_nil_of_toTexts? {v : Value} {texts : List String} (h : v.toTexts? = some texts) :
    texts ≠ [] := by
  unfold toTexts? at h
  split at h
  case h_1 => cases h
  case h_2 hne =>
    obtain rfl := Option.some.inj h
    exact hne

/-- The node of a value is a number, a truth value or a text. -/
theorem made_of_toNode? {nulls : Prop} {v : Value} {j : Json} (h : v.toNode? = some j) :
    j.Made nulls := by
  cases v with
  | null => cases h
  | bool b => exact Option.some.inj h ▸ Json.made_bool b
  | int n => exact Option.some.inj h ▸ Json.made_number _
  | float x =>
    simp only [toNode?, Json.ofFloat?, Option.dite_none_right_eq_some] at h
    obtain ⟨hfinite, h⟩ := h
    exact Option.some.inj h ▸ Json.made_number _
  | string s => exact Option.some.inj h ▸ Json.made_string s
  | array items => exact Option.some.inj h ▸ Json.made_string _
  | object fields => exact Option.some.inj h ▸ Json.made_string _

end Value

namespace Template

open Session (Yields)

variable {nulls : Prop} {β : Type} {P : β → Prop}

/-! ### Texts -/

theorem typedNode?_yields (text : String) :
    (Session.typedNode? text).Yields (∀ j ∈ ·, j.Made nulls) := by
  unfold Session.typedNode?
  split
  case h_1 => exact .of_bind fun n => .some (Json.made_number _)
  case h_2 => exact .of_bind fun b => .some (Json.made_bool b)
  case h_3 e _ =>
    -- A list without texts has no node, so that the array is never empty.
    have htexts : (Session.during e (Session.asTexts? e)).Yields (∀ texts ∈ ·, texts ≠ []) :=
      .evaluated e fun v _ h => v.ne_nil_of_toTexts? h
    refine htexts.bind fun texts? h => .pure ?_
    intro j hj
    obtain ⟨texts, hmem, rfl⟩ := Option.map_eq_some_iff.mp hj
    refine Json.made_array.mpr ⟨by simpa using h texts hmem, fun item hitem => ?_⟩
    obtain ⟨s, -, rfl⟩ := List.mem_map.mp hitem
    exact Json.made_string s
  case h_4 => exact .of_bind fun s => .some (Json.made_string s)
  case h_5 e _ => exact .evaluated e fun v j h => v.made_of_toNode? h

theorem expandText?_yields (text : String) :
    (Session.expandText? text).Yields (∀ j ∈ ·, j.Made nulls) := by
  unfold Session.expandText?
  split
  case h_1 body _ => exact typedNode?_yields _
  case h_2 => exact .of_bind fun s => .some (Json.made_string _)

/-! ### Scopes -/

/-- What an entry adds to its scope has a property, if its body counts. -/
def Part.Yields (P : β → Prop) : Part β → Prop
  | .branch _ body => body.Yields (∀ x ∈ ·, P x)
  | .plain m => m.Yields (∀ x ∈ ·, P x)

theorem Part.Yields.run {part : Part β} (h : part.Yields P) (chain : Chain) :
    (part.run chain).Yields (fun result => ∀ x ∈ result.1, P x) := by
  cases part with
  | branch b body =>
    refine .of_bind fun ⟨taken, chain⟩ => ?_
    cases taken with
    | true => exact Session.Yields.bind h fun xs hxs => .pure hxs
    | false => exact .pure nofun
  | plain m => exact Session.Yields.bind h fun xs hxs => .pure hxs

theorem runParts_yields {parts : List (Part β)} (h : ∀ part ∈ parts, part.Yields P)
    (chain : Chain) : (runParts chain parts).Yields (∀ x ∈ ·, P x) := by
  induction parts generalizing chain with
  | nil => exact .pure nofun
  | cons part rest ih =>
    obtain ⟨hpart, hrest⟩ := List.forall_mem_cons.mp h
    refine (hpart.run chain).bind fun ⟨xs, chain⟩ hxs => (ih hrest chain).bind fun ys hys => ?_
    exact .pure (List.forall_mem_append.mpr ⟨hxs, hys⟩)

theorem rounds_yields {var : String} {body : Session ExpandError (List β)}
    (h : body.Yields (∀ x ∈ ·, P x)) (values : List String) :
    (rounds var body values).Yields (∀ x ∈ ·, P x) := by
  induction values with
  | nil => exact .pure nofun
  | cons value rest ih =>
    refine .of_bind fun _ => h.bind fun xs hxs => ih.bind fun ys hys => ?_
    exact .pure (List.forall_mem_append.mpr ⟨hxs, hys⟩)

theorem ofDirective_yields {body : Session ExpandError (List β)}
    (h : body.Yields (∀ x ∈ ·, P x)) (node : Session ExpandError (Option Json)) (d : Directive) :
    (Part.ofDirective body node d).Yields P := by
  cases d with
  | loop var source => exact Session.Yields.of_bind fun values => rounds_yields h values
  | branch b => exact h
  | var name => exact Session.Yields.of_bind fun _ => .pure nofun
  | error text =>
    refine Session.Yields.of_bind fun message => ?_
    cases text <;> exact .fail _

theorem made_of_mem_splice {node : Option Json} (h : ∀ j ∈ node, j.Made nulls) :
    ∀ item ∈ splice node, item.Made nulls := by
  unfold splice
  split
  case h_1 => exact nofun
  case h_2 items => exact (Json.made_array.mp (h _ rfl)).2
  case h_3 j _ => simpa using h j rfl

theorem spliceFields_yields {node : Option Json} (h : ∀ j ∈ node, j.Made nulls) (key : String) :
    (liftM (spliceFields key node) : Session ExpandError _).Yields
      (∀ field ∈ ·, field.2.Made nulls) := by
  unfold spliceFields
  split
  case h_1 => exact .pure nofun
  case h_2 fields => exact .pure (Json.made_object.mp (h _ rfl)).2
  case h_3 => exact .fail _

theorem ofItem_yields {item : Json}
    (h : ∀ node, node.Within item → (expand node).Yields (∀ j ∈ ·, j.Made nulls)) :
    (Part.ofItem item).Yields (Json.Made nulls) := by
  have hplain : (Option.toList <$> expand item).Yields (∀ j ∈ ·, j.Made nulls) :=
    (h item .refl).map fun node hnode => by simpa using hnode
  obtain ⟨key, body, rfl⟩ | hitem := single_field_or_other item
  · cases hd : Directive.ofKey? key with
    | none =>
      rw [Part.ofItem_of_none hd]
      exact hplain
    | some d =>
      rw [Part.ofItem_of_some hd]
      have hbody : body.Within (.object [(key, body)]) :=
        .single (@Json.Child.field (key, body) _ List.mem_cons_self)
      exact ofDirective_yields ((h body hbody).map fun node => made_of_mem_splice) _ d
  · rw [Part.ofItem.eq_2 _ hitem]
    exact hplain

theorem ofField_yields {field : String × Json}
    (h : (expand field.2).Yields (∀ j ∈ ·, j.Made nulls)) :
    (Part.ofField field).Yields fun field => field.2.Made nulls := by
  obtain ⟨key, body⟩ := field
  cases hd : Directive.ofKey? key with
  | none =>
    rw [Part.ofField_of_none hd]
    refine Session.Yields.of_bind fun name => h.bind fun node hnode => .pure ?_
    simpa using hnode
  | some d =>
    rw [Part.ofField_of_some hd]
    exact ofDirective_yields (h.bind fun node hnode => spliceFields_yields hnode key) _ d

theorem made_of_mem_arrayNode {items : List Json} (h : ∀ item ∈ items, item.Made nulls) :
    ∀ j ∈ arrayNode items, j.Made nulls := by
  cases items with
  | nil => exact nofun
  | cons item rest =>
    rintro _ ⟨⟩
    exact Json.made_array.mpr ⟨List.cons_ne_nil _ _, h⟩

theorem made_of_mem_objectNode {fields : List (String × Json)}
    (h : ∀ field ∈ fields, field.2.Made nulls) : ∀ j ∈ objectNode fields, j.Made nulls := by
  have hput : ∀ field ∈ putFields [] fields, field.2.Made nulls := fun field hfield =>
    h field ((mem_of_mem_putFields hfield).resolve_right List.not_mem_nil)
  unfold objectNode
  split
  case h_1 => rintro _ ⟨⟩
  case h_2 fields hne =>
    rintro _ ⟨⟩
    exact Json.made_object.mpr ⟨hne, hput⟩

/-! ### Templates -/

theorem expand_yields {template : Json} (hnulls : Json.null.Within template → nulls) :
    (expand template).Yields (∀ j ∈ ·, j.Made nulls) := by
  induction template using Json.descend with
  | step template ih =>
    have hbelow : ∀ node, Relation.TransGen Json.Child node template →
        (expand node).Yields (∀ j ∈ ·, j.Made nulls) := fun node hnode =>
      ih node hnode fun h => hnulls (h.trans hnode.to_reflTransGen)
    cases template with
    | null => exact .some (Json.made_null (hnulls .refl))
    | bool b => exact .some (Json.made_bool b)
    | number n => exact .some (Json.made_number n)
    | string s => exact expandText?_yields s
    | array items =>
      rw [expand_array]
      refine (runParts_yields ?_ .closed).map fun items => made_of_mem_arrayNode
      simp only [List.forall_mem_map]
      exact fun item hitem => ofItem_yields fun node hnode =>
        hbelow node (.tail' hnode (.item hitem))
    | object fields =>
      rw [expand_object]
      refine (runParts_yields ?_ .closed).map fun fields => made_of_mem_objectNode
      simp only [List.forall_mem_map]
      exact fun field hfield => ofField_yields (hbelow field.2 (.single (.field hfield)))

/-- Nothing in an expanded document is empty, and a null in it stands in the template; a text
expands to no null at all, whatever its expressions come to. -/
theorem expand_shape {template v : Json} {ctx ctx' : Context}
    (h : (expand template).runIn ctx = (.ok (some v), ctx')) :
    (∀ node : Json, node.Within v → node ≠ .array [] ∧ node ≠ .object []) ∧
      (Json.null.Within v → Json.null.Within template) ∧
      ∀ text j ctx₁ ctx₂, (Session.expandText? text).runIn ctx₁ = (.ok (some j), ctx₂) →
        ∀ node : Json, node.Within j → node ≠ .null ∧ node ≠ .array [] ∧ node ≠ .object [] := by
  have hmade : v.Made (Json.null.Within template) := expand_yields id ctx (some v) ctx' h v rfl
  refine ⟨fun node hnode => hmade.not_empty hnode, fun hnull => hmade .null hnull, ?_⟩
  intro text j ctx₁ ctx₂ htext node hnode
  have hj : j.Made False := expandText?_yields text ctx₁ (some j) ctx₂ htext j rfl
  exact ⟨fun hnull => hj .null (hnull ▸ hnode), hj.not_empty hnode⟩

/-- What is no number, a list without texts, a missing name and a branch that is not taken are
left out, and so is an array of nothing else. -/
theorem expand_shape_left_out :
    let template : Json := .array
      [.string "$\x7bNumber('x')\x7d", .string "$\x7b['']:array\x7d", .string "$\x7bmissing\x7d",
        .object [("a", .array [.string "$\x7b[]:array\x7d", .object []])],
        .object [("$\x7bif:false\x7d", .string "b")],
        .object [("c", .string "$\x7b['', 'd']:array\x7d")]]
    let ctx := Context.ofSettings {} ⟨2024, 6, 1, 9, 15, 0, 0, 7200⟩
    ∃ v ctx', (expand template).runIn ctx = (.ok (some v), ctx') ∧
      v.text = "[\x7b\"c\":[\"d\"]\x7d]" ∧
      (∀ node : Json, node.Within v → node ≠ .array [] ∧ node ≠ .object []) ∧
      ¬ Json.null.Within v := by
  intro template ctx
  have htext : ((expand template).runIn ctx).1.toOption.join.map Json.text =
      some "[\x7b\"c\":[\"d\"]\x7d]" := by decide +kernel
  rcases hexpand : (expand template).runIn ctx with ⟨_ | _ | v, ctx'⟩ <;> rw [hexpand] at htext
  · cases htext
  · cases htext
  · obtain ⟨hshape, hnull, -⟩ := expand_shape hexpand
    have hlacks : template.Throughout (· ≠ .null) := by simp [template]
    exact ⟨v, ctx', rfl, Option.some.inj htext, hshape, fun h => hlacks .null (hnull h) rfl⟩

end Template

end RowTemplate
