import RowTemplate.Proofs.Fields
import RowTemplate.Proofs.Template.Scope

/-! # Composition of scopes

A scope can be cut in two wherever the first branch behind the cut is an `if`.
The second part is expanded in the context that the first one leaves, and what
it adds follows or is laid over what the first one adds. The chain that is open
at the cut does not matter, since an `if` begins a new one.
-/

namespace RowTemplate

namespace Session

variable {ε α β : Type}

/-- What comes of two sessions in turn: the second runs in the context that the first one leaves
unless that fails, and what they give is put together. -/
def inTurn (m₁ m₂ : Session ε α) (f : α → α → β) (ctx : Context) : Except ε β × Context :=
  match m₁.runIn ctx with
  | (.error e, ctx₁) => (.error e, ctx₁)
  | (.ok a, ctx₁) =>
    match m₂.runIn ctx₁ with
    | (.error e, ctx₂) => (.error e, ctx₂)
    | (.ok b, ctx₂) => (.ok (f a b), ctx₂)

theorem runIn_inTurn (m₁ m₂ : Session ε α) (f : α → α → β) (ctx : Context) :
    (do return f (← m₁) (← m₂)).runIn ctx = inTurn m₁ m₂ f ctx := by
  unfold inTurn
  rw [runIn_bind]
  rcases m₁.runIn ctx with ⟨e | a, ctx₁⟩
  · rfl
  · simp only
    rw [runIn_bind]
    rcases m₂.runIn ctx₁ with ⟨e | b, ctx₂⟩ <;> rfl

end Session

namespace Template

open Session (inTurn runIn_inTurn)

variable {β : Type} {parts : List (Part β)}

/-- The first of some branches, if there is one, is an `if`. -/
def beginsAnew : List Branch → Bool
  | [] => true
  | .ifTrue _ :: _ => true
  | _ => false

/-- The items of an expanded array; nothing has none. -/
def itemsOf : Option Json → List Json
  | some (.array items) => items
  | _ => []

/-- The fields of an expanded object; nothing has none. -/
def membersOf : Option Json → List (String × Json)
  | some (.object fields) => fields
  | _ => []

/-- The object with some fields, or nothing. -/
def membersNode : List (String × Json) → Option Json
  | [] => none
  | fields => some (.object fields)

@[simp] theorem itemsOf_arrayNode (items : List Json) : itemsOf (arrayNode items) = items := by
  cases items <;> rfl

theorem objectNode_eq (fields : List (String × Json)) :
    objectNode fields = membersNode (putFields [] fields) := by
  unfold objectNode
  cases putFields [] fields <;> rfl

@[simp] theorem membersOf_objectNode (fields : List (String × Json)) :
    membersOf (objectNode fields) = putFields [] fields := by
  rw [objectNode_eq]
  cases putFields [] fields <;> rfl

/-- A scope whose first branch is an `if` does not depend on the chain before it. -/
theorem runParts_of_beginsAnew (h : beginsAnew (parts.filterMap Part.branch?) = true)
    (chain chain' : Chain) : runParts chain parts = runParts chain' parts := by
  induction parts with
  | nil => rfl
  | cons part rest ih =>
    cases part with
    | plain m => rw [runParts_plain, runParts_plain, ih h]
    | branch b body =>
      cases b with
      | ifTrue e => rw [runParts_branch, runParts_branch]; rfl
      | elseIf e => cases h
      | otherwise => cases h

theorem runParts_append (before : List (Part β))
    (h : beginsAnew (parts.filterMap Part.branch?) = true) (chain : Chain) :
    runParts chain (before ++ parts) = do
      let xs ← runParts chain before
      let ys ← runParts .closed parts
      return xs ++ ys := by
  induction before generalizing chain with
  | nil =>
    -- The chain at the cut is whatever the first part has left.
    simp [runParts, runParts_of_beginsAnew h chain .closed]
  | cons part rest ih =>
    simp only [List.cons_append, runParts, ih, bind_assoc, pure_bind, List.append_assoc]

theorem expand_array_append (xs ys : List Json)
    (h : beginsAnew (ys.filterMap itemBranch?) = true) :
    expand (.array (xs ++ ys)) = do
      return arrayNode (itemsOf (← expand (.array xs)) ++ itemsOf (← expand (.array ys))) := by
  have h : beginsAnew ((ys.map Part.ofItem).filterMap Part.branch?) = true := by
    simpa [List.filterMap_map, Function.comp_def] using h
  simp only [expand_array, List.map_append, runParts_append _ h, map_eq_pure_bind, bind_assoc,
    pure_bind, itemsOf_arrayNode]

theorem expand_object_append (xs ys : List (String × Json))
    (h : beginsAnew (ys.filterMap fieldBranch?) = true) :
    expand (.object (xs ++ ys)) = do
      return membersNode
        (overlay (membersOf (← expand (.object xs))) (membersOf (← expand (.object ys)))) := by
  have h : beginsAnew ((ys.map Part.ofField).filterMap Part.branch?) = true := by
    simpa [List.filterMap_map, Function.comp_def] using h
  simp only [expand_object, List.map_append, runParts_append _ h, map_eq_pure_bind, bind_assoc,
    pure_bind, membersOf_objectNode, objectNode_eq (_ ++ _), putFields_nil_append]

/-- A scope is expanded by expanding its two parts in turn, wherever it is cut in front of an `if`
or where no branch follows: the items of the second part follow those of the first, and its
fields are laid over them. -/
theorem expand_append (ctx : Context) :
    (∀ xs ys : List Json, beginsAnew (ys.filterMap itemBranch?) = true →
      (expand (.array (xs ++ ys))).runIn ctx =
        inTurn (expand (.array xs)) (expand (.array ys))
          (fun a b => arrayNode (itemsOf a ++ itemsOf b)) ctx) ∧
      ∀ xs ys : List (String × Json), beginsAnew (ys.filterMap fieldBranch?) = true →
        (expand (.object (xs ++ ys))).runIn ctx =
          inTurn (expand (.object xs)) (expand (.object ys))
            (fun a b => membersNode (overlay (membersOf a) (membersOf b))) ctx := by
  constructor
  · intro xs ys h
    rw [expand_array_append xs ys h, runIn_inTurn]
  · intro xs ys h
    rw [expand_object_append xs ys h, runIn_inTurn]

/-- A chain is open at the cut. Behind it stand a text with a variable from before it, a loop and a
chain of its own, and in the object a field that both parts set. -/
theorem expand_append_open_chain :
    let ctx := Context.ofSettings {} ⟨2024, 6, 1, 9, 15, 0, 0, 7200⟩
    let xs : List Json :=
      [.object [("$\x7bif:false\x7d", .string "a")], .object [("$\x7bvar v\x7d", .string "b")]]
    let ys : List Json :=
      [.string "$\x7bv\x7d", .object [("$\x7bfor i:['c']\x7d", .string "$\x7bi\x7d")],
        .object [("$\x7bif:v\x7d", .bool true)], .object [("$\x7belse\x7d", .bool false)]]
    let fields : List (String × Json) :=
      [("a", .bool true), ("b", .bool true), ("$\x7bif:false\x7d", .object [])]
    let more : List (String × Json) :=
      [("c", .null), ("$\x7bif:true\x7d", .object [("a", .bool false)])]
    beginsAnew (ys.filterMap itemBranch?) = true ∧
      (expand (.array (xs ++ ys))).runIn ctx =
        inTurn (expand (.array xs)) (expand (.array ys))
          (fun a b => arrayNode (itemsOf a ++ itemsOf b)) ctx ∧
      beginsAnew (more.filterMap fieldBranch?) = true ∧
      (expand (.object (fields ++ more))).runIn ctx =
        inTurn (expand (.object fields)) (expand (.object more))
          (fun a b => membersNode (overlay (membersOf a) (membersOf b))) ctx := by
  intro ctx xs ys fields more
  have hitems : beginsAnew (ys.filterMap itemBranch?) = true := by decide
  have hfields : beginsAnew (more.filterMap fieldBranch?) = true := by decide
  exact ⟨hitems, (expand_append ctx).1 xs ys hitems, hfields,
    (expand_append ctx).2 fields more hfields⟩

end Template

end RowTemplate
