/-! # Tables of named entries

Two kinds of list of named entries. An ascending one has its names in the order
of their characters and each name once, so that it is determined by what it
binds; `Table` packages it with that order. A sequence of fields keeps the
order of first insertion.
-/

namespace RowTemplate

universe u
variable {α : Type u}

/-- Binds a name in an ascending list, in place of an earlier entry. -/
def insertEntry (name : String) (value : α) : List (String × α) → List (String × α)
  | [] => [(name, value)]
  | (other, old) :: rest =>
    if name < other then (name, value) :: (other, old) :: rest
    else if name = other then (name, value) :: rest
    else (other, old) :: insertEntry name value rest

/-- The names ascend, each one occurring once. -/
def Ascending (entries : List (String × α)) : Prop :=
  entries.Pairwise fun p q => p.1 < q.1

theorem mem_insertEntry {name : String} {value : α} {entries : List (String × α)}
    {p : String × α} (h : p ∈ insertEntry name value entries) :
    p = (name, value) ∨ p ∈ entries := by
  induction entries with
  | nil => simpa [insertEntry] using h
  | cons q rest ih =>
    obtain ⟨other, old⟩ := q
    unfold insertEntry at h
    split at h
    · simpa using h
    · split at h
      · rcases List.mem_cons.mp h with rfl | h
        · exact .inl rfl
        · exact .inr (List.mem_cons_of_mem _ h)
      · rcases List.mem_cons.mp h with rfl | h
        · exact .inr List.mem_cons_self
        · exact (ih h).imp_right (List.mem_cons_of_mem _)

theorem Ascending.insertEntry {entries : List (String × α)} (h : Ascending entries)
    (name : String) (value : α) : Ascending (insertEntry name value entries) := by
  induction entries with
  | nil => simp [RowTemplate.insertEntry, Ascending]
  | cons q rest ih =>
    obtain ⟨other, old⟩ := q
    obtain ⟨hq, hrest⟩ := List.pairwise_cons.mp h
    unfold RowTemplate.insertEntry
    split
    case isTrue hlt =>
      refine List.pairwise_cons.mpr ⟨fun p hp => ?_, h⟩
      rcases List.mem_cons.mp hp with rfl | hp
      · exact hlt
      · exact String.lt_trans hlt (hq p hp)
    case isFalse hge =>
      split
      case isTrue heq => subst heq; exact List.pairwise_cons.mpr ⟨hq, hrest⟩
      case isFalse hne =>
        refine List.pairwise_cons.mpr ⟨fun p hp => ?_, ih hrest⟩
        rcases mem_insertEntry hp with rfl | hp
        · exact Std.lt_of_le_of_ne hge (Ne.symm hne)
        · exact hq p hp

theorem lookup_insertEntry (name other : String) (value : α) (entries : List (String × α)) :
    (RowTemplate.insertEntry name value entries).lookup other =
      if other = name then some value else entries.lookup other := by
  induction entries with
  | nil => simp only [RowTemplate.insertEntry, List.lookup_cons, List.lookup_nil]; grind
  | cons q rest ih =>
    obtain ⟨name', old⟩ := q
    unfold RowTemplate.insertEntry
    split
    · simp only [List.lookup_cons]; grind
    · split
      · simp only [List.lookup_cons]; grind
      · simp only [List.lookup_cons, ih]; grind

/-- A finite map from names, listed in ascending order. -/
structure Table (α : Type u) where
  entries : List (String × α)
  ascending : Ascending entries

namespace Table

/-- The table that binds nothing. -/
def empty : Table α := ⟨[], .nil⟩

/-- Binds a name, in place of an earlier value. -/
def insert (t : Table α) (name : String) (value : α) : Table α :=
  ⟨insertEntry name value t.entries, t.ascending.insertEntry name value⟩

/-- The value bound to a name. -/
def find? (t : Table α) (name : String) : Option α := t.entries.lookup name

theorem find?_insert (t : Table α) (name other : String) (value : α) :
    (t.insert name value).find? other = if other = name then some value else t.find? other :=
  lookup_insertEntry ..

@[simp] theorem find?_empty (name : String) : (empty : Table α).find? name = none := rfl

/-- The number of names bound. -/
def size (t : Table α) : Nat := t.entries.length

/-- The table of a list of entries; the last entry of a name counts. -/
def ofList (entries : List (String × α)) : Table α :=
  entries.foldl (fun t p => t.insert p.1 p.2) empty

end Table

/-- Sets a field: an existing one keeps its place, a new one comes last. -/
def putField (name : String) (value : α) : List (String × α) → List (String × α)
  | [] => [(name, value)]
  | (other, old) :: rest =>
    if name = other then (name, value) :: rest else (other, old) :: putField name value rest

/-- Sets several fields one after the other. -/
def putFields (fields more : List (String × α)) : List (String × α) :=
  more.foldl (fun fields p => putField p.1 p.2 fields) fields

end RowTemplate
