import Mathlib.Logic.Relation
import RowTemplate.Json.Basic

/-! # Documents inside documents

The items of an array and the values of an object stand directly in it. Going
down this way ends, so that a fact about a document can be proved from what
holds of all that stands inside it.
-/

namespace RowTemplate.Json

/-- The document stands directly in another one, as an item or as the value of a field. -/
inductive Child : Json → Json → Prop
  | item {item : Json} {items : List Json} : item ∈ items → Child item (.array items)
  | field {field : String × Json} {fields : List (String × Json)} : field ∈ fields →
    Child field.2 (.object fields)

/-- The document stands somewhere in another one, or is that other one itself. -/
def Within : Json → Json → Prop := Relation.ReflTransGen Child

/-- Every document within a document has a property. -/
def Throughout (P : Json → Prop) (j : Json) : Prop := ∀ node, Within node j → P node

variable {P : Json → Prop} {j node : Json}

theorem sizeOf_lt_of_child (h : Child node j) : sizeOf node < sizeOf j := by
  cases h with
  | item h =>
    have hlt := List.sizeOf_lt_of_mem h
    simp only [array.sizeOf_spec]
    omega
  | @field field fields h =>
    have hlt := List.sizeOf_lt_of_mem h
    obtain ⟨name, value⟩ := field
    simp only [object.sizeOf_spec, Prod.mk.sizeOf_spec] at hlt ⊢
    omega

theorem wellFounded_child : WellFounded Child :=
  Subrelation.wf sizeOf_lt_of_child (measure sizeOf).wf

/-- A property of all that stands inside a document passes to the document: then all have it. -/
theorem descend (step : ∀ j, (∀ node, Relation.TransGen Child node j → P node) → P j) (j : Json) :
    P j :=
  wellFounded_child.transGen.induction j step

theorem within_iff : Within node j ↔ j = node ∨ ∃ child, Within node child ∧ Child child j :=
  Relation.ReflTransGen.cases_tail_iff Child node j

theorem Throughout.child (h : Throughout P j) (hnode : Child node j) : Throughout P node :=
  fun _ hinner => h _ (hinner.tail hnode)

theorem throughout_iff : Throughout P j ↔ P j ∧ ∀ child, Child child j → Throughout P child := by
  constructor
  · exact fun h => ⟨h j .refl, fun _ hchild => h.child hchild⟩
  · rintro ⟨hself, hchildren⟩ node hnode
    rcases within_iff.mp hnode with rfl | ⟨child, hinner, hchild⟩
    · exact hself
    · exact hchildren child hchild node hinner

@[simp] theorem throughout_array {items : List Json} :
    Throughout P (.array items) ↔ P (.array items) ∧ ∀ item ∈ items, Throughout P item := by
  rw [throughout_iff]
  refine and_congr_right fun _ =>
    ⟨fun h item hitem => h item (.item hitem), fun h child hchild => ?_⟩
  cases hchild with
  | item hitem => exact h child hitem

@[simp] theorem throughout_object {fields : List (String × Json)} :
    Throughout P (.object fields) ↔
      P (.object fields) ∧ ∀ field ∈ fields, Throughout P field.2 := by
  rw [throughout_iff]
  refine and_congr_right fun _ =>
    ⟨fun h field hfield => h field.2 (.field hfield), fun h child hchild => ?_⟩
  cases hchild with
  | field hfield => exact h _ hfield

/-- In a document with nothing inside it the property is its own. -/
theorem throughout_leaf (hleaf : ∀ child, ¬ Child child j) : Throughout P j ↔ P j := by
  rw [throughout_iff]
  exact and_iff_left fun child hchild => absurd hchild (hleaf child)

@[simp] theorem throughout_null : Throughout P .null ↔ P .null := throughout_leaf nofun

@[simp] theorem throughout_bool {b : Bool} : Throughout P (.bool b) ↔ P (.bool b) :=
  throughout_leaf nofun

@[simp] theorem throughout_number {n : JsonNumber} : Throughout P (.number n) ↔ P (.number n) :=
  throughout_leaf nofun

@[simp] theorem throughout_string {s : String} : Throughout P (.string s) ↔ P (.string s) :=
  throughout_leaf nofun

end RowTemplate.Json
