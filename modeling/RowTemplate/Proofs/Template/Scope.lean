import RowTemplate.Proofs.Session
import RowTemplate.Template.Expand

/-! # Scopes

The entries of an array and the fields of an object are expanded in the same
way. Each is a branch, whose body counts where its chain takes it, or something
that leaves the chain alone. A scope is a list of such parts, which are run one
after the other.
-/

namespace RowTemplate.Template

variable {α β : Type}

/-- The branch that a key is. -/
def keyBranch? (key : String) : Option Branch :=
  match Directive.ofKey? key with
  | some (.branch b) => some b
  | _ => none

/-- The branch that an entry of an array is. -/
def itemBranch? : Json → Option Branch
  | .object [(key, _)] => keyBranch? key
  | _ => none

/-- The branch that a field of an object is. -/
def fieldBranch? (field : String × Json) : Option Branch := keyBranch? field.1

/-- Only an object with a single field can be a directive. -/
theorem single_field_or_other (item : Json) :
    (∃ key body, item = .object [(key, body)]) ∨ ∀ key body, item ≠ .object [(key, body)] := by
  by_cases h : ∃ key body, item = .object [(key, body)]
  · exact .inl h
  · exact .inr fun key body heq => h ⟨key, body, heq⟩

/-- An entry of a scope, given by what it adds to the result. -/
inductive Part (β : Type)
  | branch (b : Branch) (body : Session ExpandError (List β))
  | plain (m : Session ExpandError (List β))

namespace Part

/-- What the entry adds behind a chain of conditions, and the chain behind it. -/
def run (part : Part β) (chain : Chain) : Session ExpandError (List β × Chain) :=
  match part with
  | .branch b body => do
    let (taken, chain) ← chain.step b condition
    let xs ← if taken then body else pure []
    return (xs, chain)
  | .plain m => do return (← m, chain)

/-- The branch that the entry is. -/
def branch? : Part β → Option Branch
  | .branch b _ => some b
  | .plain _ => none

/-- The entry that a directive is, given what its body adds and the node of its body. -/
def ofDirective (body : Session ExpandError (List β)) (node : Session ExpandError (Option Json)) :
    Directive → Part β
  | .loop var source => .plain do rounds var body (← loopValues source)
  | .branch b => .branch b body
  | .var name => .plain do
    bindVar name node
    return []
  | .error text => .plain (raise text node)

/-- An entry of an array. -/
def ofItem : Json → Part Json
  | .object [(key, body)] =>
    match Directive.ofKey? key with
    | some d => ofDirective (splice <$> expand body) (expand body) d
    | none => .plain (Option.toList <$> expand (.object [(key, body)]))
  | item => .plain (Option.toList <$> expand item)

/-- A field of an object. -/
def ofField : String × Json → Part (String × Json)
  | (key, body) =>
    match Directive.ofKey? key with
    | some d => ofDirective (do spliceFields key (← expand body)) (expand body) d
    | none => .plain do
      let name := nodeText (← Session.expandText? key)
      let node ← expand body
      return node.toList.map (name, ·)

variable {key : String} {d : Directive}

theorem ofItem_of_some (hd : Directive.ofKey? key = some d) (body : Json) :
    ofItem (.object [(key, body)]) = ofDirective (splice <$> expand body) (expand body) d := by
  simp only [ofItem, hd]

theorem ofItem_of_none (hd : Directive.ofKey? key = none) (body : Json) :
    ofItem (.object [(key, body)]) =
      .plain (Option.toList <$> expand (.object [(key, body)])) := by
  simp only [ofItem, hd]

theorem ofField_of_some (hd : Directive.ofKey? key = some d) (body : Json) :
    ofField (key, body) =
      ofDirective (do spliceFields key (← expand body)) (expand body) d := by
  simp only [ofField, hd]

theorem ofField_of_none (hd : Directive.ofKey? key = none) (body : Json) :
    ofField (key, body) = .plain do
      let name := nodeText (← Session.expandText? key)
      let node ← expand body
      return node.toList.map (name, ·) := by
  simp only [ofField, hd]

theorem branch?_ofDirective (body : Session ExpandError (List β))
    (node : Session ExpandError (Option Json)) (hd : Directive.ofKey? key = some d) :
    (ofDirective body node d).branch? = keyBranch? key := by
  cases d <;> simp only [ofDirective, branch?, keyBranch?, hd]

@[simp] theorem branch?_ofItem (item : Json) : (ofItem item).branch? = itemBranch? item := by
  obtain ⟨key, body, rfl⟩ | hitem := single_field_or_other item
  · cases hd : Directive.ofKey? key with
    | none => simp only [ofItem_of_none hd, branch?, itemBranch?, keyBranch?, hd]
    | some d => rw [ofItem_of_some hd, branch?_ofDirective _ _ hd, itemBranch?]
  · rw [ofItem.eq_2 _ hitem, itemBranch?.eq_2 _ hitem, branch?]

@[simp] theorem branch?_ofField (field : String × Json) :
    (ofField field).branch? = fieldBranch? field := by
  obtain ⟨key, body⟩ := field
  cases hd : Directive.ofKey? key with
  | none => simp only [ofField_of_none hd, branch?, fieldBranch?, keyBranch?, hd]
  | some d => rw [ofField_of_some hd, branch?_ofDirective _ _ hd, fieldBranch?]

end Part

/-- What the entries of a scope add, behind a chain of conditions. -/
def runParts (chain : Chain) : List (Part β) → Session ExpandError (List β)
  | [] => return []
  | part :: rest => do
    let (xs, chain) ← part.run chain
    let ys ← runParts chain rest
    return xs ++ ys

theorem runParts_plain (chain : Chain) (m : Session ExpandError (List β)) (rest : List (Part β)) :
    runParts chain (.plain m :: rest) = do
      let xs ← m
      let ys ← runParts chain rest
      return xs ++ ys := by
  simp only [runParts, Part.run, bind_assoc, pure_bind]

theorem runParts_branch (chain : Chain) (b : Branch) (body : Session ExpandError (List β))
    (rest : List (Part β)) :
    runParts chain (.branch b body :: rest) = do
      let (taken, chain) ← chain.step b condition
      let xs ← if taken then body else pure []
      let ys ← runParts chain rest
      return xs ++ ys := by
  simp only [runParts, Part.run, bind_assoc]
  refine bind_congr fun ⟨taken, chain⟩ => ?_
  cases taken <;> simp only [if_true, Bool.false_eq_true, if_false, bind_assoc, pure_bind]

theorem raise_bind (text : Option String) (node : Session ExpandError (Option Json))
    (f : α → Session ExpandError β) : (raise text node >>= f) = raise text node := by
  simp only [raise, bind_assoc]
  cases text <;> rfl

theorem runParts_ofDirective (chain : Chain) (body : Session ExpandError (List β))
    (node : Session ExpandError (Option Json)) (d : Directive) (rest : List (Part β)) :
    runParts chain (.ofDirective body node d :: rest) =
      match d with
      | .loop var source => do
        let values ← loopValues source
        let xs ← rounds var body values
        let ys ← runParts chain rest
        return xs ++ ys
      | .branch b => do
        let (taken, chain) ← chain.step b condition
        let xs ← if taken then body else pure []
        let ys ← runParts chain rest
        return xs ++ ys
      | .var name => do
        bindVar name node
        runParts chain rest
      | .error text => raise text node := by
  cases d with
  | loop var source => simp only [Part.ofDirective, runParts_plain, bind_assoc]
  | branch b => exact runParts_branch chain b body rest
  | var name =>
    simp only [Part.ofDirective, runParts_plain, bind_assoc, pure_bind, List.nil_append, bind_pure]
  | error text => simp only [Part.ofDirective, runParts_plain, raise_bind]

theorem expandItems_eq_runParts (chain : Chain) (items : List Json) :
    expandItems chain items = runParts chain (items.map .ofItem) := by
  induction items generalizing chain with
  | nil => rfl
  | cons item rest ih =>
    rw [List.map_cons]
    obtain ⟨key, body, rfl⟩ | hitem := single_field_or_other item
    · rw [expandItems]
      cases hd : Directive.ofKey? key with
      | none =>
        simp only [Part.ofItem_of_none hd, runParts_plain, map_eq_pure_bind, bind_assoc,
          pure_bind, ih]
      | some d =>
        rw [Part.ofItem_of_some hd, runParts_ofDirective]
        cases d <;> simp only [ih]
    · rw [expandItems.eq_3 _ _ _ hitem, Part.ofItem.eq_2 _ hitem]
      simp only [runParts_plain, map_eq_pure_bind, bind_assoc, pure_bind, ih]

theorem expandFields_eq_runParts (chain : Chain) (fields : List (String × Json)) :
    expandFields chain fields = runParts chain (fields.map .ofField) := by
  induction fields generalizing chain with
  | nil => rfl
  | cons field rest ih =>
    obtain ⟨key, body⟩ := field
    rw [List.map_cons, expandFields]
    cases hd : Directive.ofKey? key with
    | none => simp only [Part.ofField_of_none hd, runParts_plain, bind_assoc, pure_bind, ih]
    | some d =>
      rw [Part.ofField_of_some hd, runParts_ofDirective]
      cases d <;> simp only [ih, bind_assoc]

theorem expand_array (items : List Json) :
    expand (.array items) = arrayNode <$> runParts .closed (items.map .ofItem) := by
  rw [expand, expandItems_eq_runParts, map_eq_pure_bind]

theorem expand_object (fields : List (String × Json)) :
    expand (.object fields) = objectNode <$> runParts .closed (fields.map .ofField) := by
  rw [expand, expandFields_eq_runParts, map_eq_pure_bind]

end RowTemplate.Template
