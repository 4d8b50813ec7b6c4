import RowTemplate.Proofs.Template.Composition
import RowTemplate.Proofs.Template.Shape

/-! # Directives in arrays and in objects

The same key and body can stand as a field of an object, or as an entry of an
array that is an object of one field. The two walks take the same steps. A body
that comes to anything but an object ends the walk over the object, and up to
there the array has the objects whose fields the object sets.
-/

namespace RowTemplate

theorem flatten_eq_nil_iff {α : Type} {objects : List (List α)} (h : ∀ fields ∈ objects, fields ≠ []) :
    objects.flatten = [] ↔ objects = [] := by
  rw [List.flatten_eq_nil_iff]
  refine ⟨fun hnil => List.eq_nil_iff_forall_not_mem.mpr fun fields hfields => ?_, ?_⟩
  · exact h fields hfields (hnil fields hfields)
  · rintro rfl
    exact nofun

namespace Template

theorem arrayNode_eq_none_iff {items : List Json} : arrayNode items = none ↔ items = [] := by
  cases items <;> simp [arrayNode]

theorem membersNode_eq_none_iff {fields : List (String × Json)} :
    membersNode fields = none ↔ fields = [] := by
  cases fields <;> simp [membersNode]

/-- What comes of a walk over an array, beside what comes of a walk over an object under a key: the
object has no place for a body, or both fail, or the object has set the fields of the objects that
the array has. -/
inductive Mirror (key : String) : Except ExpandError (List Json) × Context →
    Except ExpandError (List (String × Json)) × Context → Prop
  | notNested (result : Except ExpandError (List Json) × Context) (ctx : Context) :
    Mirror key result (.error (.notNested key), ctx)
  | failed (e : ExpandError) (ctx : Context) : Mirror key (.error e, ctx) (.error e, ctx)
  | added (objects : List (List (String × Json))) (ctx : Context) :
    (∀ fields ∈ objects, fields ≠ []) →
    Mirror key (.ok (objects.map .object), ctx) (.ok objects.flatten, ctx)

/-- The second session adds to an object under a key what the first one adds to an array. -/
def Mirrors (key : String) (m : Session ExpandError (List Json))
    (m' : Session ExpandError (List (String × Json))) : Prop :=
  ∀ ctx, Mirror key (m.runIn ctx) (m'.runIn ctx)

variable {key : String} {α : Type} {m n : Session ExpandError (List Json)}
variable {m' n' : Session ExpandError (List (String × Json))}

namespace Mirrors

theorem nil : Mirrors key (pure []) (pure []) := fun ctx => .added [] ctx nofun

theorem fail (e : ExpandError) : Mirrors key (throw e) (throw e) := fun ctx => .failed e ctx

theorem object {fields : List (String × Json)} (h : fields ≠ []) :
    Mirrors key (pure [.object fields]) (pure fields) := by
  intro ctx
  have hadded : Mirror key _ _ := .added [fields] ctx (by simpa using h)
  rwa [List.flatten_singleton] at hadded

/-- Two walks with the same beginning. -/
theorem after {x : Session ExpandError α} {f : α → Session ExpandError (List Json)}
    {f' : α → Session ExpandError (List (String × Json))} (h : ∀ a, Mirrors key (f a) (f' a)) :
    Mirrors key (x >>= f) (x >>= f') := by
  intro ctx
  rcases hx : x.runIn ctx with ⟨e | a, ctx'⟩
  · rw [Session.runIn_bind_error hx, Session.runIn_bind_error hx]
    exact .failed e ctx'
  · rw [Session.runIn_bind_ok hx, Session.runIn_bind_ok hx]
    exact h a ctx'

theorem append (hm : Mirrors key m m') (hn : Mirrors key n n') :
    Mirrors key (do return (← m) ++ (← n)) (do return (← m') ++ (← n')) := by
  intro ctx
  rw [Session.runIn_inTurn, Session.runIn_inTurn]
  unfold Session.inTurn
  have hm := hm ctx
  generalize m.runIn ctx = result at hm
  generalize m'.runIn ctx = result' at hm
  cases hm with
  | notNested _ ctx' => exact .notNested _ ctx'
  | failed e ctx' => exact .failed e ctx'
  | added objects ctx' hobjects =>
    have hn := hn ctx'
    simp only
    generalize n.runIn ctx' = result at hn
    generalize n'.runIn ctx' = result' at hn
    cases hn with
    | notNested _ ctx'' => exact .notNested _ ctx''
    | failed e ctx'' => exact .failed e ctx''
    | added more ctx'' hmore =>
      simp only [← List.map_append, ← List.flatten_append]
      exact .added _ ctx'' (List.forall_mem_append.mpr ⟨hobjects, hmore⟩)

theorem rounds (h : Mirrors key m m') (var : String) (values : List String) :
    Mirrors key (rounds var m values) (rounds var m' values) := by
  induction values with
  | nil => exact nil
  | cons value rest ih => exact after fun _ => h.append ih

theorem raise (text : Option String) (node : Session ExpandError (Option Json)) :
    Mirrors key (raise text node) (raise text node) := by
  refine after fun message => ?_
  cases text <;> exact fail _

/-- A body that comes to an object adds its fields to an object. -/
theorem body (key : String) (body : Json) :
    Mirrors key (splice <$> expand body) (do spliceFields key (← expand body)) := by
  intro ctx
  rw [map_eq_pure_bind]
  rcases hbody : (expand body).runIn ctx with ⟨e | node, ctx'⟩
  · rw [Session.runIn_bind_error hbody, Session.runIn_bind_error hbody]
    exact .failed e ctx'
  · have hmade : ∀ j ∈ node, j.Made True := expand_yields (fun _ => trivial) ctx node ctx' hbody
    rw [Session.runIn_bind_ok hbody, Session.runIn_bind_ok hbody]
    rcases node with _ | _ | _ | _ | _ | _ | fields
    case none => exact nil ctx'
    case some.object => exact object (Json.made_object.mp (hmade _ rfl)).1 ctx'
    all_goals exact .notNested _ ctx'

theorem ofDirective (h : Mirrors key m m') (node : Session ExpandError (Option Json))
    (d : Directive) :
    Mirrors key (runParts .closed [.ofDirective m node d])
      (runParts .closed [.ofDirective m' node d]) := by
  rw [runParts_ofDirective, runParts_ofDirective]
  cases d with
  | loop var source => exact after fun values => (h.rounds var values).append nil
  | branch b =>
    refine after fun ⟨taken, chain⟩ => ?_
    cases taken with
    | true => exact h.append nil
    | false => exact nil.append nil
  | var name => exact after fun _ => nil
  | error text => exact raise text node

/-- An object of one field mirrors the array of which it is the only entry. -/
theorem ofField (key : String) (body : Json) :
    Mirrors key (runParts .closed [.ofItem (.object [(key, body)])])
      (runParts .closed [.ofField (key, body)]) := by
  cases hd : Directive.ofKey? key with
  | some d =>
    rw [Part.ofItem_of_some hd, Part.ofField_of_some hd]
    exact (Mirrors.body key body).ofDirective _ d
  | none =>
    rw [Part.ofItem_of_none hd, expand_object, List.map_singleton, Part.ofField_of_none hd]
    simp only [runParts_plain]
    simp only [runParts, map_eq_pure_bind, bind_assoc, pure_bind, List.append_nil]
    refine after fun name => after fun node => ?_
    cases node with
    | none => exact nil
    | some v => exact object (List.cons_ne_nil _ _)

end Mirrors

/-- Where an object of one field is expanded, an array with this object as its only entry is
expanded to objects that, their fields set one after the other, make up what the first one comes
to, and the contexts behind them are the same. Where the array fails, the object fails too, for the
same reason if it has a place for every body. -/
theorem expand_entry_of_field (key : String) (body : Json) (ctx : Context) :
    let object : Json := .object [(key, body)]
    (∀ r ctx', (expand object).runIn ctx = (.ok r, ctx') →
      ∃ objects : List (List (String × Json)),
        (expand (.array [object])).runIn ctx =
            (.ok (arrayNode (objects.map .object)), ctx') ∧
          r = membersNode (objects.foldl putFields []) ∧
          (arrayNode (objects.map .object) = none ↔ r = none)) ∧
      ∀ e ctx', (expand (.array [object])).runIn ctx = (.error e, ctx') →
        ∃ e' ctx'', (expand object).runIn ctx = (.error e', ctx'') ∧
          (e' = e ∨ e' = .notNested key) := by
  intro object
  have hmirror := Mirrors.ofField key body ctx
  rw [expand_array, expand_object, Session.runIn_map, Session.runIn_map, List.map_singleton,
    List.map_singleton]
  generalize (runParts .closed [.ofItem object]).runIn ctx = result at hmirror ⊢
  generalize (runParts .closed [.ofField (key, body)]).runIn ctx = result' at hmirror ⊢
  simp only [Prod.mk.injEq]
  cases hmirror with
  | notNested _ ctx' =>
    constructor
    · rintro _ _ ⟨⟨⟩, -⟩
    · exact fun e _ _ => ⟨.notNested key, ctx', ⟨rfl, rfl⟩, .inr rfl⟩
  | failed e ctx' =>
    constructor
    · rintro _ _ ⟨⟨⟩, -⟩
    · rintro _ _ ⟨⟨⟩, -⟩
      exact ⟨e, ctx', ⟨rfl, rfl⟩, .inl rfl⟩
  | added objects ctx' hobjects =>
    constructor
    · rintro _ _ ⟨⟨⟩, ⟨⟩⟩
      refine ⟨objects, ⟨rfl, rfl⟩, ?_, ?_⟩
      · rw [objectNode_eq, putFields_flatten]
      · rw [arrayNode_eq_none_iff, List.map_eq_nil_iff, objectNode_eq, membersNode_eq_none_iff,
          putFields_eq_nil_iff, flatten_eq_nil_iff hobjects, and_iff_right rfl]
    · rintro _ _ ⟨⟨⟩, -⟩

/-- A loop whose rounds set one field again, leave one out and define a variable; and an `else`
without an `if`. -/
theorem expand_entry_of_field_loop :
    let key := "$\x7bfor i:['a', 'b', 'c']\x7d"
    let body : Json := .object
      [("$\x7bvar n\x7d", .string "$\x7bi\x7d$\x7bn\x7d"), ("n", .string "$\x7bn\x7d"),
        ("$\x7bif:i != 'b'\x7d", .object [("$\x7bi\x7d", .bool true)])]
    let ctx := Context.ofSettings {} ⟨2024, 6, 1, 9, 15, 0, 0, 7200⟩
    (∃ r ctx', ∃ objects : List (List (String × Json)),
      (expand (.object [(key, body)])).runIn ctx = (.ok (some r), ctx') ∧
      (expand (.array [.object [(key, body)]])).runIn ctx =
        (.ok (arrayNode (objects.map .object)), ctx') ∧
      some r = membersNode (objects.foldl putFields []) ∧
      r.text = "\x7b\"n\":\"cba\",\"a\":true,\"c\":true\x7d") ∧
      ∃ e e' ctx' ctx'', (expand (.array [.object [("$\x7belse\x7d", body)]])).runIn ctx =
          (.error e, ctx') ∧
        (expand (.object [("$\x7belse\x7d", body)])).runIn ctx = (.error e', ctx'') := by
  intro key body ctx
  constructor
  · have htext : ((expand (.object [(key, body)])).runIn ctx).1.toOption.join.map Json.text =
        some "\x7b\"n\":\"cba\",\"a\":true,\"c\":true\x7d" := by decide +kernel
    rcases hrun : (expand (.object [(key, body)])).runIn ctx with ⟨_ | _ | r, ctx'⟩ <;>
      rw [hrun] at htext
    · cases htext
    · cases htext
    · obtain ⟨objects, harray, hr, -⟩ := (expand_entry_of_field key body ctx).1 (some r) ctx' hrun
      exact ⟨r, ctx', objects, rfl, harray, hr, Option.some.inj htext⟩
  · have hfails : ((expand (.array [.object [("$\x7belse\x7d", body)]])).runIn ctx).1.isOk =
        false := by decide
    rcases hrun : (expand (.array [.object [("$\x7belse\x7d", body)]])).runIn ctx with
      ⟨e | _, ctx'⟩ <;> rw [hrun] at hfails
    · obtain ⟨e', ctx'', hobject, -⟩ :=
        (expand_entry_of_field "$\x7belse\x7d" body ctx).2 e ctx' hrun
      exact ⟨e, e', ctx', ctx'', rfl, hobject⟩
    · cases hfails

end Template

end RowTemplate
