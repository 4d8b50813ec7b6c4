import RowTemplate.Proofs.Expr.Conversion
import RowTemplate.Proofs.Fields
import RowTemplate.Proofs.Number.Word

/-! # Values as documents and back

A value is written as a document, and the document is read into a value. The
kind of a number comes back, because an integer is written as an integer and a
binary64 number never is; an object comes back, because its fields ascend as in
the table that they are read into. So a value comes back just as it was, unless
there is an infinity or no number in it, which have no document.
-/

namespace RowTemplate.Value

/-- The values that stand directly in a value. -/
def children : Value → List Value
  | .array items => items
  | .object fields => fields.map Prod.snd
  | _ => []

/-- The value has a property, and so have all values inside it. -/
inductive Throughout (P : Value → Prop) : Value → Prop
  | intro {v : Value} : P v → (∀ child ∈ v.children, Throughout P child) → Throughout P v

/-- The value is no infinity and not the number that is none. -/
def IsFinite : Value → Prop
  | .float x => x.isFinite = true
  | _ => True

/-- The value is no object that lists its fields in another order than that of their names. -/
def IsOrdered : Value → Prop
  | .object fields => Ascending fields
  | _ => True

variable {P : Value → Prop} {v : Value}

theorem Throughout.mono {Q : Value → Prop} (hPQ : ∀ v, P v → Q v) (h : v.Throughout P) :
    v.Throughout Q := by
  induction h with
  | @intro v hself _ ih => exact .intro (hPQ v hself) ih

theorem throughout_leaf (hleaf : v.children = []) (h : P v) : v.Throughout P :=
  .intro h (by simp [hleaf])

/-! ### From a value -/

/-- A value comes back from its document if its numbers are finite and its objects are in order. -/
theorem ofJson_toJson (hfinite : v.Throughout IsFinite) (hordered : v.Throughout IsOrdered) :
    ofJson v.toJson = v := by
  induction hfinite with
  | @intro v hself hinner ih =>
    obtain ⟨hlist, hbelow⟩ := hordered
    have hback (child : Value) (hchild : child ∈ v.children) : ofJson child.toJson = child :=
      ih child hchild (hbelow child hchild)
    cases v with
    | null | bool | string => rfl
    | int n =>
      have hword : Number.word? n.toInt = some n := by
        rw [Number.word?, if_pos (Number.fitsWord_toInt n), Int64.ofInt_toInt]
      rw [toJson, Json.ofWord, ofJson, ofJsonNumber, hword]
    | float x =>
      rw [toJson_float hself]
      rfl
    | array items =>
      rw [toJson, ofJson, itemsToJson_eq, itemsOfJson_eq, List.map_map]
      exact congrArg Value.array ((List.map_congr_left hback).trans (List.map_id items))
    | object fields =>
      have hfields : fieldsOfJson (fieldsToJson fields) = fields := by
        rw [fieldsToJson_eq, fieldsOfJson_eq, List.map_map]
        refine (List.map_congr_left fun p hp => ?_).trans (List.map_id fields)
        exact Prod.ext rfl (hback p.2 (List.mem_map_of_mem hp))
      have hlist : Ascending fields := hlist
      rw [toJson, ofJson, hfields, ofFields, hlist.entries_ofList]

/-! ### From a document -/

theorem throughout_of_toJson {n : JsonNumber} (h : v.toJson = .number n) :
    v.Throughout fun v => v.IsFinite ∧ v.IsOrdered := by
  cases v with
  | int n => exact throughout_leaf rfl ⟨trivial, trivial⟩
  | float x =>
    have hx : x.isFinite = true := by
      by_contra hx
      rw [toJson, Json.ofFloat?, dif_neg hx] at h
      cases h
    exact throughout_leaf rfl ⟨hx, trivial⟩
  | _ => simp only [toJson] at h; cases h

/-- In a value that is read from a document all numbers are finite and all objects in order. -/
theorem throughout_ofJson (j : Json) :
    (ofJson j).Throughout fun v => v.IsFinite ∧ v.IsOrdered := by
  induction j using Json.descend with
  | step j ih =>
    cases j with
    | null | bool | string => exact throughout_leaf rfl ⟨trivial, trivial⟩
    | number n =>
      obtain ⟨m, hm, -⟩ := exists_comesBack n
      exact throughout_of_toJson hm
    | array items =>
      rw [ofJson, itemsOfJson_eq]
      refine .intro ⟨trivial, trivial⟩ fun child hchild => ?_
      obtain ⟨item, hitem, rfl⟩ := List.mem_map.mp hchild
      exact ih item (.single (.item hitem))
    | object fields =>
      refine .intro ⟨trivial, (Table.ofList (fieldsOfJson fields)).ascending⟩ fun child hchild => ?_
      obtain ⟨p, hp, rfl⟩ := List.mem_map.mp hchild
      have hread := mem_of_mem_ofList hp
      rw [fieldsOfJson_eq] at hread
      obtain ⟨field, hfield, rfl⟩ := List.mem_map.mp hread
      exact ih field.2 (.single (.field hfield))

/-- A value comes back from its document just as it was, integers as integers, binary64 numbers with
the same bits, and objects with the same names, if and only if its numbers are finite and its
objects are in order. -/
theorem ofJson_toJson_iff (v : Value) :
    ofJson v.toJson = v ↔ v.Throughout IsFinite ∧ v.Throughout IsOrdered := by
  refine ⟨fun h => ?_, fun h => ofJson_toJson h.1 h.2⟩
  have hread := throughout_ofJson v.toJson
  rw [h] at hread
  exact ⟨hread.mono fun _ hv => hv.1, hread.mono fun _ hv => hv.2⟩

end RowTemplate.Value
