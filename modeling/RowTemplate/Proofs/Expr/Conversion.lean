import Mathlib.Data.List.Forall2
import RowTemplate.Proofs.Number.Binary64
import RowTemplate.Proofs.Template.Static

/-! # Documents as values and back

A document is read into a value, and the value is written as a document again.
The fields of an object come back in another order, and an integer above the
words as the binary64 number that is nearest to it. All else stays as it was.
-/

namespace RowTemplate

open Number (FitsWord IsInteger nearest word?)

/-- What comes back of a number: an integer that is no word becomes the nearest binary64 number. -/
inductive JsonNumber.ComesBack : JsonNumber → JsonNumber → Prop
  | word {z : Int} (bounded : Int64.minValue.toInt ≤ z ∧ z < UInt64.size) : FitsWord z →
    ComesBack (.integer z bounded) (.integer z bounded)
  | rounded {z : Int} {x : Float} (bounded : Int64.minValue.toInt ≤ z ∧ z < UInt64.size)
    (finite : x.isFinite = true) : ¬ FitsWord z → IsInteger x (nearest z) →
    ComesBack (.integer z bounded) (.real x finite)
  | real {x : Float} (finite : x.isFinite = true) : ComesBack (.real x finite) (.real x finite)

namespace Json

/-- The documents are the same up to a relation between numbers. Two objects are the same if every
name has the same value in them, or none. -/
inductive SameUpTo (R : JsonNumber → JsonNumber → Prop) : Json → Json → Prop
  | null : SameUpTo R .null .null
  | bool (b : Bool) : SameUpTo R (.bool b) (.bool b)
  | number {n m : JsonNumber} : R n m → SameUpTo R (.number n) (.number m)
  | string (s : String) : SameUpTo R (.string s) (.string s)
  | array {xs ys : List Json} : List.Forall₂ (SameUpTo R) xs ys →
    SameUpTo R (.array xs) (.array ys)
  | object {xs ys : List (String × Json)} :
    (∀ name, Option.Rel (SameUpTo R) (xs.lookup name) (ys.lookup name)) →
    SameUpTo R (.object xs) (.object ys)

theorem SameUpTo.of_number {R : JsonNumber → JsonNumber → Prop} {n m : JsonNumber}
    (h : SameUpTo R (.number n) (.number m)) : R n m := by
  cases h with
  | number h => exact h

/-- The node is no integer above the words. -/
def IsWordSized : Json → Prop
  | .number (.integer z _) => FitsWord z
  | _ => True

/-- What comes back of the node, if it is a number, is related to it. -/
def Returns (R : JsonNumber → JsonNumber → Prop) : Json → Prop
  | .number n => ∃ m, (Value.ofJsonNumber n).toJson = .number m ∧ R n m
  | _ => True

end Json

namespace Value

variable {R : JsonNumber → JsonNumber → Prop} {j : Json} {n : JsonNumber}

theorem itemsOfJson_eq (items : List Json) : itemsOfJson items = items.map ofJson := by
  induction items with
  | nil => rfl
  | cons item rest ih => rw [itemsOfJson, ih, List.map_cons]

theorem fieldsOfJson_eq (fields : List (String × Json)) :
    fieldsOfJson fields = fields.map fun p => (p.1, ofJson p.2) := by
  induction fields with
  | nil => rfl
  | cons field rest ih => rw [fieldsOfJson, ih, List.map_cons]

theorem itemsToJson_eq (items : List Value) : itemsToJson items = items.map toJson := by
  induction items with
  | nil => rfl
  | cons item rest ih => rw [itemsToJson, ih, List.map_cons]

theorem fieldsToJson_eq (fields : List (String × Value)) :
    fieldsToJson fields = fields.map fun p => (p.1, toJson p.2) := by
  induction fields with
  | nil => rfl
  | cons field rest ih => rw [fieldsToJson, ih, List.map_cons]

theorem distinct_fieldsOfJson {fields : List (String × Json)} (h : Distinct fields) :
    Distinct (fieldsOfJson fields) := by
  rw [fieldsOfJson_eq]
  exact h.map ofJson

/-! ### Numbers -/

theorem toJson_float {x : Float} (h : x.isFinite = true) :
    (Value.float x).toJson = .number (.real x h) := by
  simp only [toJson, Json.ofFloat?, dif_pos h, Option.getD_some]

theorem toJson_ofJsonNumber_integer {z : Int}
    (bounded : Int64.minValue.toInt ≤ z ∧ z < UInt64.size) (hz : FitsWord z) :
    (ofJsonNumber (.integer z bounded)).toJson = .number (.integer z bounded) := by
  obtain ⟨w, hw⟩ : ∃ w, word? z = some w := ⟨_, if_pos hz⟩
  obtain rfl := Number.toInt_of_word? hw
  rw [ofJsonNumber, hw]
  rfl

/-- What comes back of a number is a number, the same one unless it is an integer above the words.
-/
theorem exists_comesBack (n : JsonNumber) :
    ∃ m, (ofJsonNumber n).toJson = .number m ∧ n.ComesBack m := by
  cases n with
  | real x finite => exact ⟨_, toJson_float finite, .real finite⟩
  | integer z bounded =>
    by_cases hz : FitsWord z
    · exact ⟨_, toJson_ofJsonNumber_integer bounded hz, .word bounded hz⟩
    · have hsize : z.natAbs < 2 ^ 64 := by
        obtain ⟨hlow, hhigh⟩ := bounded
        have hmin : Int64.minValue.toInt = -2 ^ 63 := rfl
        have hmax : (UInt64.size : Int) = 2 ^ 64 := rfl
        omega
      have hx : IsInteger (Float.ofInt z) (nearest z) := Number.isInteger_ofInt hsize
      have hnone : word? z = none := if_neg hz
      refine ⟨_, ?_, .rounded bounded hx.isFinite hz hx⟩
      rw [ofJsonNumber, hnone]
      exact toJson_float hx.isFinite

theorem toJson_ofJsonNumber_of_isWordSized (h : (Json.number n).IsWordSized) :
    (ofJsonNumber n).toJson = .number n := by
  cases n with
  | real x finite => exact toJson_float finite
  | integer z bounded => exact toJson_ofJsonNumber_integer bounded h

theorem returns_comesBack (j : Json) : j.Throughout (Json.Returns JsonNumber.ComesBack) := by
  intro node _
  cases node with
  | number n => exact exists_comesBack n
  | _ => trivial

theorem returns_eq (h : j.IsWordSized) : j.Returns Eq := by
  cases j with
  | number n => exact ⟨n, toJson_ofJsonNumber_of_isWordSized h, rfl⟩
  | _ => trivial

/-! ### Documents -/

/-- The fields of an object come back under their names, in whatever order. -/
theorem toJson_ofJson_object {fields : List (String × Json)} (h : Distinct fields) :
    ∃ back, (ofJson (.object fields)).toJson = .object back ∧
      ∀ name, back.lookup name = (fields.lookup name).map fun v => (ofJson v).toJson := by
  refine ⟨_, rfl, fun name => ?_⟩
  have hfind : (Table.ofList (fieldsOfJson fields)).entries.lookup name =
      (fieldsOfJson fields).lookup name := (distinct_fieldsOfJson h).find?_ofList name
  rw [fieldsToJson_eq, lookup_map, hfind, fieldsOfJson_eq, lookup_map, Option.map_map]
  rfl

/-- A document that names its fields once comes back the same, as far as its numbers do. -/
theorem sameUpTo_toJson_ofJson (j : Json) (hkeys : j.Throughout Json.IsKeyed)
    (hnumbers : j.Throughout (Json.Returns R)) : j.SameUpTo R (ofJson j).toJson := by
  induction j using Json.descend with
  | step j ih =>
    have hchild (child : Json) (hchild : child.Child j) : child.SameUpTo R (ofJson child).toJson :=
      ih child (.single hchild) (hkeys.child hchild) (hnumbers.child hchild)
    cases j with
    | null => exact .null
    | bool b => exact .bool b
    | string s => exact .string s
    | number n =>
      obtain ⟨m, hm, hR⟩ := hnumbers _ .refl
      rw [ofJson, hm]
      exact .number hR
    | array items =>
      rw [ofJson, itemsOfJson_eq, toJson, itemsToJson_eq, List.map_map]
      refine .array (List.forall₂_map_right_iff.mpr (List.forall₂_same.mpr fun item hitem => ?_))
      exact hchild item (.item hitem)
    | object fields =>
      obtain ⟨back, hback, hlookup⟩ := toJson_ofJson_object (hkeys _ .refl)
      rw [hback]
      refine .object fun name => ?_
      rw [hlookup]
      cases hv : fields.lookup name with
      | none => exact .none
      | some v => exact .some (hchild v (.field (mem_of_lookup hv)))

end Value

end RowTemplate
