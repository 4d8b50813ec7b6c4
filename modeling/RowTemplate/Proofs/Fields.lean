import RowTemplate.Proofs.Table

/-! # Sequences of fields

Setting fields one after the other lays them over those that are there: a name
keeps the place where it first stood and takes the value that it was last
given. It makes no difference whether the fields to set come as they are or as
what they amount to by themselves.
-/

namespace RowTemplate

universe u v
variable {α : Type u} {name other : String} {v w : α}
variable {fields more base : List (String × α)}

/-- No name occurs twice. -/
def Distinct (fields : List (String × α)) : Prop := (fields.map Prod.fst).Nodup

/-- A field with the value that other fields give it, if they do. -/
def renewed (more : List (String × α)) (p : String × α) : String × α :=
  (p.1, (more.lookup p.1).getD p.2)

/-- Fields with others laid over them: a name that both have keeps its place and takes the new
value, and the names that only the others have come last. -/
def overlay (fields more : List (String × α)) : List (String × α) :=
  fields.map (renewed more) ++ more.filter fun p => p.1 ∉ fields.map Prod.fst

theorem lookup_eq_none_of_not_mem (h : name ∉ fields.map Prod.fst) :
    fields.lookup name = none := by
  refine List.lookup_eq_none_iff.mpr fun p hp => ?_
  have hne : name ≠ p.1 := fun heq => h (heq ▸ List.mem_map_of_mem hp)
  simp [hne]

theorem Distinct.lookup_of_mem (h : Distinct fields) (hv : (name, v) ∈ fields) :
    fields.lookup name = some v := by
  induction fields with
  | nil => cases hv
  | cons p rest ih =>
    obtain ⟨hp, hrest⟩ := List.nodup_cons.mp h
    rcases List.mem_cons.mp hv with rfl | hv
    · simp
    · have hne : name ≠ p.1 := fun heq => hp (heq ▸ List.mem_map_of_mem hv)
      rw [lookup_cons_of_ne hne, ih hrest hv]

theorem Distinct.map {β : Type v} (h : Distinct fields) (f : α → β) :
    Distinct (fields.map fun p => (p.1, f p.2)) := by
  unfold Distinct
  rw [List.map_map]
  exact h

/-- After fields have been set one by one, by whatever means, the last one of a name can be read, and
other names as before. -/
theorem read_foldl {σ : Type v} {set : σ → String × α → σ} {read : σ → String → Option α}
    (hset : ∀ s p name, read (set s p) name = if name = p.1 then some p.2 else read s name)
    (fields : List (String × α)) (s : σ) (name : String) :
    read (fields.foldl set s) name = (fields.reverse.lookup name).or (read s name) := by
  induction fields generalizing s with
  | nil => rfl
  | cons p rest ih =>
    obtain ⟨other, value⟩ := p
    rw [List.foldl_cons, ih, hset, List.reverse_cons, List.lookup_append, Option.or_assoc]
    by_cases heq : name = other
    · simp [heq]
    · rw [if_neg heq, lookup_cons_of_ne heq, List.lookup_nil, Option.none_or]

theorem Distinct.lookup_reverse (h : Distinct fields) (name : String) :
    fields.reverse.lookup name = fields.lookup name := by
  have hreverse : Distinct fields.reverse := by
    unfold Distinct
    rw [List.map_reverse]
    exact List.pairwise_reverse.mpr (h.imp Ne.symm)
  cases hv : fields.lookup name with
  | some v => exact hreverse.lookup_of_mem (List.mem_reverse.mpr (mem_of_lookup hv))
  | none =>
    refine List.lookup_eq_none_iff.mpr fun p hp => ?_
    exact List.lookup_eq_none_iff.mp hv p (List.mem_reverse.mp hp)

theorem find?_ofList (fields : List (String × α)) (name : String) :
    (Table.ofList fields).find? name = fields.reverse.lookup name := by
  rw [Table.ofList, read_foldl (fun (t : Table α) p name => t.find?_insert p.1 name p.2),
    Table.find?_empty, Option.or_none]

theorem Distinct.find?_ofList (h : Distinct fields) (name : String) :
    (Table.ofList fields).find? name = fields.lookup name := by
  rw [RowTemplate.find?_ofList, h.lookup_reverse]

/-- A list in ascending order is its own table. -/
theorem Ascending.entries_ofList (h : Ascending fields) :
    (Table.ofList fields).entries = fields := by
  have hdistinct : Distinct fields := h.nodup_keys
  have htable : Table.ofList fields = ⟨fields, h⟩ := Table.ext_find? hdistinct.find?_ofList
  rw [htable]

theorem mem_of_mem_ofList {p : String × α} (h : p ∈ (Table.ofList fields).entries) :
    p ∈ fields := by
  have hdistinct : Distinct (Table.ofList fields).entries :=
    (Table.ofList fields).ascending.nodup_keys
  have hfind : (Table.ofList fields).find? p.1 = some p.2 := hdistinct.lookup_of_mem h
  rw [find?_ofList] at hfind
  exact List.mem_reverse.mp (mem_of_lookup hfind)

theorem map_fst_putField (name : String) (v : α) (fields : List (String × α)) :
    (putField name v fields).map Prod.fst =
      if name ∈ fields.map Prod.fst then fields.map Prod.fst
      else fields.map Prod.fst ++ [name] := by
  induction fields with
  | nil => rfl
  | cons p rest ih =>
    unfold putField
    split
    case isTrue h => simp [h]
    case isFalse h =>
      rw [List.map_cons, ih, List.map_cons]
      by_cases hr : name ∈ rest.map Prod.fst <;> simp [h, hr]

theorem mem_map_fst_putField :
    other ∈ (putField name v fields).map Prod.fst ↔
      other = name ∨ other ∈ fields.map Prod.fst := by
  rw [map_fst_putField]
  split
  case isTrue h => exact ⟨.inr, Or.rec (fun heq => heq ▸ h) id⟩
  case isFalse => rw [List.mem_append, List.mem_singleton, or_comm]

theorem lookup_putField (name other : String) (v : α) (fields : List (String × α)) :
    (putField name v fields).lookup other =
      if other = name then some v else fields.lookup other := by
  induction fields with
  | nil => simp only [putField, List.lookup_cons, List.lookup_nil]; grind
  | cons p rest ih =>
    obtain ⟨name', old⟩ := p
    unfold putField
    split
    · simp only [List.lookup_cons]; grind
    · simp only [List.lookup_cons, ih]; grind

theorem lookup_putFields (fields more : List (String × α)) (name : String) :
    (putFields fields more).lookup name = (more.reverse.lookup name).or (fields.lookup name) :=
  @read_foldl α (List (String × α)) (fun fields p => putField p.1 p.2 fields)
    (fun fields name => fields.lookup name)
    (fun fields p name => lookup_putField p.1 name p.2 fields) more fields name

theorem mem_map_fst_putFields :
    name ∈ (putFields fields more).map Prod.fst ↔
      name ∈ fields.map Prod.fst ∨ name ∈ more.map Prod.fst := by
  induction more generalizing fields with
  | nil => simp [putFields]
  | cons p rest ih =>
    rw [putFields, List.foldl_cons, ← putFields, ih, mem_map_fst_putField, List.map_cons,
      List.mem_cons, or_assoc, or_left_comm]

theorem putField_map {β : Type v} (f : α → β) (name : String) (v : α)
    (fields : List (String × α)) :
    putField name (f v) (fields.map fun p => (p.1, f p.2)) =
      (putField name v fields).map fun p => (p.1, f p.2) := by
  induction fields with
  | nil => rfl
  | cons p rest ih =>
    rw [List.map_cons, putField, ih, putField]
    split <;> rfl

theorem putFields_map {β : Type v} (f : α → β) (fields more : List (String × α)) :
    putFields (fields.map fun p => (p.1, f p.2)) (more.map fun p => (p.1, f p.2)) =
      (putFields fields more).map fun p => (p.1, f p.2) := by
  induction more generalizing fields with
  | nil => rfl
  | cons p rest ih =>
    simp only [putFields, List.map_cons, List.foldl_cons, putField_map]
    exact ih (putField p.1 p.2 fields)

theorem mem_of_mem_putField {p : String × α} (h : p ∈ putField name v fields) :
    p = (name, v) ∨ p ∈ fields := by
  induction fields with
  | nil => exact .inl (List.mem_singleton.mp h)
  | cons q rest ih =>
    unfold putField at h
    split at h
    case isTrue => exact (List.mem_cons.mp h).imp_right (List.mem_cons_of_mem q)
    case isFalse =>
      rcases List.mem_cons.mp h with rfl | h
      · exact .inr List.mem_cons_self
      · exact (ih h).imp_right (List.mem_cons_of_mem q)

theorem mem_of_mem_putFields {p : String × α} (h : p ∈ putFields fields more) :
    p ∈ more ∨ p ∈ fields := by
  induction more generalizing fields with
  | nil => exact .inr h
  | cons q rest ih =>
    rcases ih h with h | h
    · exact .inl (List.mem_cons_of_mem q h)
    · refine (mem_of_mem_putField h).imp_left ?_
      rintro rfl
      exact List.mem_cons_self

theorem Distinct.putField (h : Distinct fields) (name : String) (v : α) :
    Distinct (putField name v fields) := by
  unfold Distinct
  rw [map_fst_putField]
  split
  case isTrue => exact h
  case isFalse hn =>
    refine List.nodup_append.mpr ⟨h, by simp, fun a ha b hb => ?_⟩
    rintro rfl
    exact hn (List.mem_singleton.mp hb ▸ ha)

theorem Distinct.putFields (h : Distinct fields) (more : List (String × α)) :
    Distinct (putFields fields more) := by
  induction more generalizing fields with
  | nil => exact h
  | cons p rest ih => exact ih (h.putField p.1 p.2)

/-! ### Setting fields is laying them over -/

theorem filter_putField (hname : name ∉ more.map Prod.fst) :
    more.filter (fun p => p.1 ∉ (putField name v fields).map Prod.fst) =
      more.filter fun p => p.1 ∉ fields.map Prod.fst := by
  refine List.filter_congr fun p hp => ?_
  have hne : p.1 ≠ name := fun heq => hname (heq ▸ List.mem_map_of_mem hp)
  simp only [mem_map_fst_putField, hne, false_or]

theorem map_renewed_putField (h : Distinct fields) (hname : name ∉ more.map Prod.fst) :
    (putField name v fields).map (renewed more) =
      fields.map (renewed ((name, v) :: more)) ++
        if name ∈ fields.map Prod.fst then [] else [(name, v)] := by
  induction fields with
  | nil => simp [putField, renewed, lookup_eq_none_of_not_mem hname]
  | cons p rest ih =>
    obtain ⟨hp, hrest⟩ := List.nodup_cons.mp h
    by_cases heq : name = p.1
    · have hsame : rest.map (renewed more) = rest.map (renewed ((name, v) :: more)) := by
        refine List.map_congr_left fun q hq => ?_
        have hne : q.1 ≠ name := fun h' => hp (heq ▸ h' ▸ List.mem_map_of_mem hq)
        rw [renewed, renewed, lookup_cons_of_ne hne]
      simp [putField, renewed, heq, hsame, lookup_eq_none_of_not_mem (heq ▸ hname)]
    · have hsame : renewed more p = renewed ((name, v) :: more) p := by
        rw [renewed, renewed, lookup_cons_of_ne (Ne.symm heq)]
      simp only [putField, heq, if_false, List.map_cons, ih hrest, hsame, List.cons_append,
        List.mem_cons, false_or]

theorem overlay_putField (h : Distinct fields) (hname : name ∉ more.map Prod.fst) :
    overlay (putField name v fields) more = overlay fields ((name, v) :: more) := by
  unfold overlay
  rw [filter_putField hname, map_renewed_putField h hname]
  by_cases hn : name ∈ fields.map Prod.fst <;> simp [hn]

theorem putFields_eq_overlay (h : Distinct fields) (hmore : Distinct more) :
    putFields fields more = overlay fields more := by
  induction more generalizing fields with
  | nil =>
    have hsame : renewed ([] : List (String × α)) = id := rfl
    simp [putFields, overlay, hsame]
  | cons p rest ih =>
    obtain ⟨hp, hrest⟩ := List.nodup_cons.mp hmore
    rw [← overlay_putField h hp, ← ih (h.putField p.1 p.2) hrest]
    rfl

theorem putFields_nil (h : Distinct fields) : putFields [] fields = fields := by
  have hnil : Distinct ([] : List (String × α)) := List.nodup_nil
  simp [putFields_eq_overlay hnil h, overlay]

theorem putFields_eq_nil_iff : putFields fields more = [] ↔ fields = [] ∧ more = [] := by
  induction more generalizing fields with
  | nil => exact (and_iff_left rfl).symm
  | cons p rest ih =>
    have hput : putField p.1 p.2 fields ≠ [] := by
      intro hnil
      have hmem : p.1 ∈ (putField p.1 p.2 fields).map Prod.fst := mem_map_fst_putField.mpr (.inl rfl)
      rw [hnil] at hmem
      cases hmem
    exact ⟨fun h => absurd (ih.mp h).1 hput, fun h => absurd h.2 (List.cons_ne_nil _ _)⟩

/-! ### Setting what other fields amount to -/

theorem putFields_flatten (objects : List (List (String × α))) :
    putFields fields objects.flatten = objects.foldl putFields fields :=
  List.foldl_flatten

theorem putFields_append (fields xs ys : List (String × α)) :
    putFields fields (xs ++ ys) = putFields (putFields fields xs) ys :=
  List.foldl_append

theorem putField_putField (name : String) (v w : α) (fields : List (String × α)) :
    putField name v (putField name w fields) = putField name v fields := by
  induction fields with
  | nil => simp [putField]
  | cons p rest ih =>
    by_cases h : name = p.1
    · simp [putField, h]
    · simp [putField, h, ih]

/-- A name that has its place already can be set before or after another one. -/
theorem putField_comm (hname : name ∈ fields.map Prod.fst) (hne : other ≠ name) :
    putField name v (putField other w fields) = putField other w (putField name v fields) := by
  induction fields with
  | nil => simp at hname
  | cons p rest ih =>
    by_cases hn : name = p.1
    · have ho : other ≠ p.1 := hn ▸ hne
      simp [putField, hn, ho]
    · have hrest : name ∈ rest.map Prod.fst := by simpa [hn] using hname
      by_cases ho : other = p.1
      · have hno : name ≠ p.1 := hn
        simp [putField, ho, hno]
      · simp [putField, hn, ho, ih hrest]

theorem putField_putFields (hname : name ∈ fields.map Prod.fst)
    (hmore : name ∉ more.map Prod.fst) :
    putField name v (putFields fields more) = putFields (putField name v fields) more := by
  induction more generalizing fields with
  | nil => rfl
  | cons p rest ih =>
    simp only [List.map_cons, List.mem_cons, not_or] at hmore
    have hmem : name ∈ (putField p.1 p.2 fields).map Prod.fst :=
      mem_map_fst_putField.mpr (.inr hname)
    have hrest := ih hmem hmore.2
    rw [putField_comm hname (Ne.symm hmore.1)] at hrest
    exact hrest

theorem putFields_putField (h : Distinct more) :
    putFields fields (putField name v more) = putField name v (putFields fields more) := by
  induction more generalizing fields with
  | nil => rfl
  | cons p rest ih =>
    obtain ⟨hp, hrest⟩ := List.nodup_cons.mp h
    by_cases hn : name = p.1
    · -- The name is set here and by no later field, so its last value can be set at once.
      have hmem : p.1 ∈ (putField p.1 p.2 fields).map Prod.fst :=
        mem_map_fst_putField.mpr (.inl rfl)
      have hlast := putField_putFields (v := v) hmem hp
      rw [putField_putField] at hlast
      subst hn
      simp only [putField, if_true]
      exact hlast.symm
    · simp only [putField, hn, if_false]
      exact ih hrest

/-- Setting what some fields amount to on top of others is setting them one after the other. -/
theorem putFields_putFields (h : Distinct base) (fields more : List (String × α)) :
    putFields fields (putFields base more) = putFields (putFields fields base) more := by
  induction more generalizing base with
  | nil => rfl
  | cons p rest ih =>
    have hp : putFields fields (putField p.1 p.2 base) = putField p.1 p.2 (putFields fields base) :=
      putFields_putField h
    have hrest := ih (h.putField p.1 p.2)
    rw [hp] at hrest
    exact hrest

/-- The fields of two sequences one after the other are those of the second laid over those of
the first. -/
theorem putFields_nil_append (xs ys : List (String × α)) :
    putFields [] (xs ++ ys) = overlay (putFields [] xs) (putFields [] ys) := by
  have hnil : Distinct ([] : List (String × α)) := List.nodup_nil
  rw [putFields_append, ← putFields_eq_overlay (hnil.putFields xs) (hnil.putFields ys),
    putFields_putFields hnil]
  rfl

end RowTemplate
