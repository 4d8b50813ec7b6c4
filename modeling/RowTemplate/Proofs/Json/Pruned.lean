import Mathlib.Data.List.Basic
import RowTemplate.Proofs.Json.Within

/-! # Pruned documents

A document can be pruned of its empty arrays and objects, and of those that are
empty once theirs are gone. It keeps its scalars in their order, each with the
names of the fields on the way to it, and pruning it again changes nothing.
-/

namespace RowTemplate.Json

mutual

/-- What is left of a document without its empty arrays and objects, if anything is. -/
def pruned? : Json → Option Json
  | .array items =>
    match prunedItems items with
    | [] => none
    | items => some (.array items)
  | .object fields =>
    match prunedFields fields with
    | [] => none
    | fields => some (.object fields)
  | .null => some .null
  | .bool b => some (.bool b)
  | .number n => some (.number n)
  | .string s => some (.string s)

/-- What is left of the items of an array. -/
def prunedItems : List Json → List Json
  | [] => []
  | item :: rest => (pruned? item).toList ++ prunedItems rest

/-- What is left of the fields of an object. -/
def prunedFields : List (String × Json) → List (String × Json)
  | [] => []
  | (name, value) :: rest => (pruned? value).toList.map (name, ·) ++ prunedFields rest

end

mutual

/-- The scalars of a document in their order, each with the names of the fields that it is in. -/
def leaves : Json → List (List String × Json)
  | .array items => itemLeaves items
  | .object fields => fieldLeaves fields
  | .null => [([], .null)]
  | .bool b => [([], .bool b)]
  | .number n => [([], .number n)]
  | .string s => [([], .string s)]

/-- The scalars of the items of an array. -/
def itemLeaves : List Json → List (List String × Json)
  | [] => []
  | item :: rest => leaves item ++ itemLeaves rest

/-- The scalars of the fields of an object. -/
def fieldLeaves : List (String × Json) → List (List String × Json)
  | [] => []
  | (name, value) :: rest =>
    (leaves value).map (fun leaf => (name :: leaf.1, leaf.2)) ++ fieldLeaves rest

end

attribute [local simp] pruned? prunedItems prunedFields leaves itemLeaves fieldLeaves

variable {P : Json → Prop} {j v node : Json} {items : List Json} {fields : List (String × Json)}

/-- A field with what is left of its value, if anything is. -/
def prunedField? (field : String × Json) : Option (String × Json) :=
  (pruned? field.2).map (field.1, ·)

theorem prunedItems_eq (items : List Json) : prunedItems items = items.filterMap pruned? := by
  induction items with
  | nil => rfl
  | cons item rest ih =>
    rw [prunedItems, ih, List.filterMap_cons]
    cases pruned? item <;> rfl

theorem prunedFields_eq (fields : List (String × Json)) :
    prunedFields fields = fields.filterMap prunedField? := by
  induction fields with
  | nil => rfl
  | cons field rest ih =>
    rw [prunedFields, ih, List.filterMap_cons, prunedField?]
    cases pruned? field.2 <;> rfl

theorem pruned?_array_eq_some_iff :
    pruned? (.array items) = some v ↔
      items.filterMap pruned? ≠ [] ∧ v = .array (items.filterMap pruned?) := by
  rw [pruned?, prunedItems_eq]
  cases items.filterMap pruned? <;> simp [eq_comm]

theorem pruned?_object_eq_some_iff :
    pruned? (.object fields) = some v ↔
      fields.filterMap prunedField? ≠ [] ∧ v = .object (fields.filterMap prunedField?) := by
  rw [pruned?, prunedFields_eq]
  cases fields.filterMap prunedField? <;> simp [eq_comm]

theorem pruned?_array_eq_none_iff :
    pruned? (.array items) = none ↔ ∀ item ∈ items, pruned? item = none := by
  rw [← List.filterMap_eq_nil_iff, pruned?, prunedItems_eq]
  cases items.filterMap pruned? <;> simp

theorem pruned?_object_eq_none_iff :
    pruned? (.object fields) = none ↔ ∀ field ∈ fields, pruned? field.2 = none := by
  have hnil : (∀ field ∈ fields, pruned? field.2 = none) ↔ fields.filterMap prunedField? = [] := by
    simp only [List.filterMap_eq_nil_iff, prunedField?, Option.map_eq_none_iff]
  rw [hnil, pruned?, prunedFields_eq]
  cases fields.filterMap prunedField? <;> simp

theorem leaves_array (items : List Json) : leaves (.array items) = items.flatMap leaves := by
  rw [leaves]
  induction items with
  | nil => rfl
  | cons item rest ih => rw [itemLeaves, ih, List.flatMap_cons]

theorem leaves_object (fields : List (String × Json)) :
    leaves (.object fields) =
      fields.flatMap fun field => (leaves field.2).map fun leaf => (field.1 :: leaf.1, leaf.2) := by
  rw [leaves]
  induction fields with
  | nil => rfl
  | cons field rest ih => rw [fieldLeaves, ih, List.flatMap_cons]

/-- Nothing is left of a document that has no scalars, and of no other. -/
theorem pruned?_eq_none_iff (j : Json) : pruned? j = none ↔ leaves j = [] := by
  induction j using descend with
  | step j ih =>
    cases j with
    | array items =>
      rw [pruned?_array_eq_none_iff, leaves_array, List.flatMap_eq_nil_iff]
      exact forall₂_congr fun item hitem => ih item (.single (.item hitem))
    | object fields =>
      rw [pruned?_object_eq_none_iff, leaves_object, List.flatMap_eq_nil_iff]
      refine forall₂_congr fun field hfield => ?_
      rw [ih field.2 (.single (.field hfield)), List.map_eq_nil_iff]
    | _ => simp

theorem leaves_pruned? (h : pruned? j = some v) : leaves v = leaves j := by
  induction j using descend generalizing v with
  | step j ih =>
    cases j with
    | array items =>
      obtain ⟨-, rfl⟩ := pruned?_array_eq_some_iff.mp h
      rw [leaves_array, leaves_array, List.filterMap_eq_flatMap_toList, List.flatMap_assoc]
      refine List.flatMap_congr fun item hitem => ?_
      cases hv : pruned? item with
      | none => simp [(pruned?_eq_none_iff item).mp hv]
      | some v => simp [ih item (.single (.item hitem)) hv]
    | object fields =>
      obtain ⟨-, rfl⟩ := pruned?_object_eq_some_iff.mp h
      rw [leaves_object, leaves_object, List.filterMap_eq_flatMap_toList, List.flatMap_assoc]
      refine List.flatMap_congr fun field hfield => ?_
      cases hv : pruned? field.2 with
      | none => simp [prunedField?, hv, (pruned?_eq_none_iff field.2).mp hv]
      | some v => simp [prunedField?, hv, ih field.2 (.single (.field hfield)) hv]
    | _ =>
      obtain rfl := Option.some.inj h
      rfl

/-- Whatever stands in a pruned document is what is left of something in the document. -/
theorem exists_within_of_pruned? (h : pruned? j = some v) (hnode : Within node v) :
    ∃ origin, Within origin j ∧ pruned? origin = some node := by
  induction j using descend generalizing v with
  | step j ih =>
    rcases within_iff.mp hnode with rfl | ⟨child, hinner, hchild⟩
    · exact ⟨j, .refl, h⟩
    · obtain ⟨origin, horigin, hleft⟩ : ∃ origin, Child origin j ∧ pruned? origin = some child := by
        cases j with
        | array items =>
          obtain ⟨-, rfl⟩ := pruned?_array_eq_some_iff.mp h
          cases hchild with
          | item hmem =>
            obtain ⟨item, hitem, hleft⟩ := List.mem_filterMap.mp hmem
            exact ⟨item, .item hitem, hleft⟩
        | object fields =>
          obtain ⟨-, rfl⟩ := pruned?_object_eq_some_iff.mp h
          cases hchild with
          | field hmem =>
            obtain ⟨field, hfield, hleft⟩ := List.mem_filterMap.mp hmem
            obtain ⟨v, hv, rfl⟩ := Option.map_eq_some_iff.mp hleft
            exact ⟨field.2, .field hfield, hv⟩
        | _ =>
          obtain rfl := Option.some.inj h
          cases hchild
      obtain ⟨deeper, hdeeper, hnode⟩ := ih origin (.single horigin) hleft hinner
      exact ⟨deeper, hdeeper.tail horigin, hnode⟩

theorem not_empty_of_pruned? (h : pruned? j = some v) (hnode : Within node v) :
    node ≠ .array [] ∧ node ≠ .object [] := by
  obtain ⟨origin, -, hleft⟩ := exists_within_of_pruned? h hnode
  cases origin with
  | array items =>
    obtain ⟨hne, rfl⟩ := pruned?_array_eq_some_iff.mp hleft
    exact ⟨fun heq => hne (array.inj heq), nofun⟩
  | object fields =>
    obtain ⟨hne, rfl⟩ := pruned?_object_eq_some_iff.mp hleft
    exact ⟨nofun, fun heq => hne (object.inj heq)⟩
  | _ =>
    obtain rfl := Option.some.inj hleft
    exact ⟨nofun, nofun⟩

/-- A property that pruning keeps in each part of a document it keeps throughout. -/
theorem Throughout.of_pruned? (hP : ∀ origin node, P origin → pruned? origin = some node → P node)
    (hj : j.Throughout P) (h : pruned? j = some v) : v.Throughout P := by
  intro node hnode
  obtain ⟨origin, horigin, hleft⟩ := exists_within_of_pruned? h hnode
  exact hP origin node (hj origin horigin) hleft

theorem pruned?_of_pruned? (h : pruned? j = some v) : pruned? v = some v := by
  induction j using descend generalizing v with
  | step j ih =>
    cases j with
    | array items =>
      obtain ⟨hne, rfl⟩ := pruned?_array_eq_some_iff.mp h
      have htwice : (items.filterMap pruned?).filterMap pruned? = items.filterMap pruned? := by
        rw [List.filterMap_filterMap]
        refine List.filterMap_congr fun item hitem => ?_
        cases hv : pruned? item with
        | none => rfl
        | some v => exact ih item (.single (.item hitem)) hv
      rw [pruned?_array_eq_some_iff, htwice]
      exact ⟨hne, rfl⟩
    | object fields =>
      obtain ⟨hne, rfl⟩ := pruned?_object_eq_some_iff.mp h
      have htwice : (fields.filterMap prunedField?).filterMap prunedField? =
          fields.filterMap prunedField? := by
        rw [List.filterMap_filterMap]
        refine List.filterMap_congr fun field hfield => ?_
        cases hv : pruned? field.2 with
        | none => simp [prunedField?, hv]
        | some v => simp [prunedField?, hv, ih field.2 (.single (.field hfield)) hv]
      rw [pruned?_object_eq_some_iff, htwice]
      exact ⟨hne, rfl⟩
    | _ =>
      obtain rfl := Option.some.inj h
      rfl

end RowTemplate.Json
