import Mathlib.Data.List.Forall2
import RowTemplate.Table

/-! # Tables are what they bind

An ascending list is determined by the values of its names, and so is a table.
-/

namespace RowTemplate

universe u v
variable {α : Type u} {name other : String} {value : α} {es fs : List (String × α)}

theorem lookup_cons_of_ne (h : other ≠ name) :
    ((name, value) :: es).lookup other = es.lookup other := by
  simp [List.lookup_cons, beq_false_of_ne h]

theorem lookup_isSome_iff : (es.lookup name).isSome ↔ name ∈ es.map Prod.fst := by
  induction es with
  | nil => simp
  | cons p es ih =>
    obtain ⟨other, value⟩ := p
    by_cases h : name = other
    · simp [h]
    · simp [lookup_cons_of_ne h, ih, h]

theorem mem_of_lookup (h : es.lookup name = some value) : (name, value) ∈ es := by
  obtain ⟨before, behind, rfl, -⟩ := List.lookup_eq_some_iff.mp h
  exact List.mem_append_right _ List.mem_cons_self

theorem lookup_map {β : Type v} (f : α → β) (es : List (String × α)) (name : String) :
    (es.map fun p => (p.1, f p.2)).lookup name = (es.lookup name).map f := by
  induction es with
  | nil => rfl
  | cons p es ih =>
    obtain ⟨other, value⟩ := p
    by_cases h : name = other
    · simp [h]
    · rw [List.map_cons, lookup_cons_of_ne h, lookup_cons_of_ne h, ih]

theorem Ascending.nodup_keys (h : Ascending es) : (es.map Prod.fst).Nodup := by
  refine List.pairwise_map.mpr (h.imp fun {p q} hlt heq => ?_)
  rw [heq] at hlt
  exact String.lt_irrefl q.1 hlt

theorem lookup_eq_none_of_forall_lt (h : ∀ p ∈ es, name < p.1) : es.lookup name = none := by
  refine List.lookup_eq_none_iff.mpr fun p hp => ?_
  have hne : name ≠ p.1 := fun heq => String.lt_irrefl name (heq ▸ h p hp)
  simp [hne]

/-- A name below the first one of an ascending list is not bound. -/
theorem Ascending.lookup_eq_none (h : Ascending ((name, value) :: es)) (hlt : other < name) :
    ((name, value) :: es).lookup other = none := by
  refine lookup_eq_none_of_forall_lt (List.forall_mem_cons.mpr ⟨hlt, fun p hp => ?_⟩)
  exact String.lt_trans hlt ((List.pairwise_cons.mp h).1 p hp)

section Related

variable {β : Type v} {R : α → β → Prop} {gs : List (String × β)}

theorem forall₂_fields_iff :
    List.Forall₂ (fun p q => p.1 = q.1 ∧ R p.2 q.2) es gs ↔
      es.map Prod.fst = gs.map Prod.fst ∧
        List.Forall₂ R (es.map Prod.snd) (gs.map Prod.snd) := by
  induction es generalizing gs with
  | nil => cases gs <;> simp
  | cons p es ih =>
    cases gs with
    | nil => simp
    | cons q gs => simp [ih, and_assoc, and_left_comm]

theorem rel_lookup_of_forall₂ (h : List.Forall₂ (fun p q => p.1 = q.1 ∧ R p.2 q.2) es gs)
    (name : String) : Option.Rel R (es.lookup name) (gs.lookup name) := by
  induction h with
  | nil => exact .none
  | @cons p q es gs hpq _ ih =>
    obtain ⟨other, value⟩ := p
    obtain ⟨_, value'⟩ := q
    obtain ⟨rfl, hR⟩ := hpq
    by_cases h : name = other
    · subst h
      simpa using Option.Rel.some hR
    · rwa [lookup_cons_of_ne h, lookup_cons_of_ne h]

/-- Two ascending lists that bind related values to the same names are related entry by entry. -/
theorem Ascending.forall₂_of_rel_lookup (he : Ascending es) (hg : Ascending gs)
    (h : ∀ name, Option.Rel R (es.lookup name) (gs.lookup name)) :
    List.Forall₂ (fun p q => p.1 = q.1 ∧ R p.2 q.2) es gs := by
  induction es generalizing gs with
  | nil =>
    cases gs with
    | nil => exact .nil
    | cons q gs =>
      obtain ⟨name, value⟩ := q
      have hname := h name
      rw [List.lookup_cons_self] at hname
      cases hname
  | cons p es ih =>
    obtain ⟨name, value⟩ := p
    have hfirst := h name
    rw [List.lookup_cons_self] at hfirst
    cases gs with
    | nil => cases hfirst
    | cons q gs =>
      obtain ⟨other, value'⟩ := q
      -- The lesser of two different first names would be bound in one list only.
      have hle : ¬ name < other := fun hlt => by
        rw [hg.lookup_eq_none hlt] at hfirst
        cases hfirst
      have hge : ¬ other < name := fun hlt => by
        have hother := h other
        rw [he.lookup_eq_none hlt, List.lookup_cons_self] at hother
        cases hother
      obtain rfl : name = other := Std.le_antisymm hge hle
      rw [List.lookup_cons_self] at hfirst
      cases hfirst with
      | some hR =>
        obtain ⟨hname, he⟩ := List.pairwise_cons.mp he
        obtain ⟨hname', hg⟩ := List.pairwise_cons.mp hg
        refine .cons ⟨rfl, hR⟩ (ih he hg fun other => ?_)
        by_cases ho : other = name
        · rw [ho, lookup_eq_none_of_forall_lt hname, lookup_eq_none_of_forall_lt hname']
          exact .none
        · simpa [lookup_cons_of_ne ho] using h other

end Related

theorem Ascending.eq_of_lookup (he : Ascending es) (hf : Ascending fs)
    (h : ∀ name, es.lookup name = fs.lookup name) : es = fs := by
  have hrel (name : String) : Option.Rel Eq (es.lookup name) (fs.lookup name) := by
    rw [h]
    cases fs.lookup name with
    | none => exact .none
    | some value => exact .some rfl
  have hentries := he.forall₂_of_rel_lookup hf hrel
  simpa only [← Prod.ext_iff, List.forall₂_eq_eq_eq] using hentries

theorem Table.ext_find? {t t' : Table α} (h : ∀ name, t.find? name = t'.find? name) :
    t = t' := by
  obtain ⟨es, he⟩ := t
  obtain ⟨fs, hf⟩ := t'
  obtain rfl := he.eq_of_lookup hf h
  rfl

end RowTemplate
