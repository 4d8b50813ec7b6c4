import Mathlib
import RowTemplate.Row.Csv

/-! # Records of a table

A record begins at a byte that ends no line, where the reader stands between two
records. Every record of a table begins at one such place, and what is read from
there on are this record and those behind it.
-/

namespace RowTemplate.Csv

open Progress (start step isLineEnd)

variable {bytes before before' : List UInt8} {j : Nat}

/-- A line break at the place ends the record: no blank line ends there, nor a line of a field
between quotes. -/
def Place.endsRecord (place : Place) : Bool := place ≠ .betweenRecords && place ≠ .quoted

namespace Progress

variable {p : Progress} {b : UInt8}

/-- What a byte can do: end a blank line, a record or a line between quotes, or go on with a record,
perhaps with a new one. -/
inductive Does (p : Progress) (b : UInt8) : Progress → Prop
  | blank : p.place = .betweenRecords → isLineEnd b = true → Does p b p
  | endRecord : p.place.endsRecord = true → isLineEnd b = true → Does p b p.endRecord
  | inQuotes {p' : Progress} : p.place = .quoted → isLineEnd b = true → p'.place = .quoted →
    p'.records = p.records → Does p b p'
  | goOn {p' : Progress} : isLineEnd b = false → p'.place ≠ .betweenRecords →
    p'.records = p.records → Does p b p'

theorem does_stepPlain (h : isLineEnd b = true → p.place.endsRecord = true) :
    p.Does b (p.stepPlain b) := by
  unfold stepPlain
  split
  case isTrue hcomma =>
    subst hcomma
    exact .goOn rfl nofun rfl
  case isFalse =>
    split
    case isTrue hend => exact .endRecord (h hend) hend
    case isFalse hend => exact .goOn (by simpa using hend) nofun rfl

theorem does_step (p : Progress) (b : UInt8) : p.Does b (p.step b) := by
  have hquote : isLineEnd quote = false := rfl
  unfold step
  split
  case h_1 hplace =>
    split
    case isTrue hend => exact .blank hplace hend
    case isFalse hend =>
      split
      · exact .goOn (by simpa using hend) nofun rfl
      · exact does_stepPlain fun h => absurd h hend
  case h_2 hplace =>
    split
    case isTrue hb => exact .goOn (hb ▸ hquote) nofun rfl
    case isFalse => exact does_stepPlain fun _ => by simp [hplace, Place.endsRecord]
  case h_3 hplace => exact does_stepPlain fun _ => by simp [hplace, Place.endsRecord]
  case h_4 hplace =>
    split
    case isTrue hb => exact .goOn (hb ▸ hquote) nofun rfl
    case isFalse =>
      cases hend : isLineEnd b with
      | true => exact .inQuotes hplace hend rfl rfl
      | false => exact .goOn hend nofun rfl
  case h_5 hplace =>
    split
    case isTrue hb => exact .goOn (hb ▸ hquote) nofun rfl
    case isFalse => exact does_stepPlain fun _ => by simp [hplace, Place.endsRecord]

/-! ### Counting records -/

theorem length_finish (p : Progress) :
    p.finish.length = p.records.length + if p.place = .betweenRecords then 0 else 1 := by
  obtain ⟨place, field, fields, records⟩ := p
  cases place <;> simp [finish, endRecord]

/-- A byte begins a record where none is being read, unless it ends a line. -/
theorem length_finish_step (p : Progress) (b : UInt8) :
    (p.step b).finish.length =
      p.finish.length + if p.place = .betweenRecords ∧ isLineEnd b = false then 1 else 0 := by
  rw [length_finish, length_finish]
  have hdoes := p.does_step b
  generalize p.step b = p' at hdoes ⊢
  cases hdoes with
  | blank _ hend => simp [hend]
  | endRecord hplace hend =>
    have hne : p.place ≠ .betweenRecords := by
      intro heq
      simp [heq, Place.endsRecord] at hplace
    simp [hne, Progress.endRecord]
  | inQuotes hplace _ hplace' hrecords => simp [hplace, hplace', hrecords]
  | goOn hend hplace hrecords =>
    rw [hrecords, if_neg hplace]
    by_cases heq : p.place = .betweenRecords <;> simp [heq, hend]

theorem length_finish_le_foldl (p : Progress) (bytes : List UInt8) :
    p.finish.length ≤ (bytes.foldl step p).finish.length := by
  induction bytes generalizing p with
  | nil => exact Nat.le_refl _
  | cons b bytes ih =>
    have hstep : p.finish.length ≤ (p.step b).finish.length :=
      p.length_finish_step b ▸ Nat.le_add_right _ _
    exact Nat.le_trans hstep (ih (p.step b))

/-! ### Reading on -/

/-- The same progress behind other records. -/
def behind (p : Progress) (older : List (List Field)) : Progress :=
  { p with records := p.records ++ older }

theorem step_behind (p : Progress) (older : List (List Field)) (b : UInt8) :
    (p.behind older).step b = (p.step b).behind older := by
  have hplain : (p.behind older).stepPlain b = (p.stepPlain b).behind older := by
    unfold stepPlain
    split
    · rfl
    · split <;> rfl
  obtain ⟨place, field, fields, records⟩ := p
  cases place <;> simp only [step, behind] at hplain ⊢ <;> (repeat' split) <;>
    first | rfl | exact hplain

theorem foldl_step_behind (p : Progress) (older : List (List Field)) (bytes : List UInt8) :
    bytes.foldl step (p.behind older) = (bytes.foldl step p).behind older := by
  induction bytes generalizing p with
  | nil => rfl
  | cons b bytes ih => rw [List.foldl_cons, List.foldl_cons, step_behind, ih]

theorem finish_behind (p : Progress) (older : List (List Field)) :
    (p.behind older).finish = older.reverse ++ p.finish := by
  obtain ⟨place, field, fields, records⟩ := p
  cases place <;> simp [finish, behind, endRecord]

/-- Between records nothing is kept of a record. -/
def IsSettled (p : Progress) : Prop :=
  p.place = .betweenRecords → p = start.behind p.records

theorem IsSettled.step (h : p.IsSettled) (b : UInt8) : (p.step b).IsSettled := by
  have hdoes := p.does_step b
  generalize p.step b = p' at hdoes
  intro hplace
  cases hdoes with
  | blank hp _ => exact h hp
  | endRecord => rfl
  | inQuotes _ _ hp => simp [hp] at hplace
  | goOn _ hne _ => exact absurd hplace hne

theorem isSettled_foldl (h : p.IsSettled) (bytes : List UInt8) :
    (bytes.foldl Progress.step p).IsSettled := by
  induction bytes generalizing p with
  | nil => exact h
  | cons b bytes ih => exact ih (h.step b)

end Progress

/-! ### Where records begin -/

/-- The record with the index `j` begins behind the bytes: the reader has read as many records and
stands between two of them, and the next byte ends no line. -/
structure StartsBehind (bytes : List UInt8) (j : Nat) (before : List UInt8) : Prop where
  goesOn : ∃ b rest, bytes = before ++ b :: rest ∧ isLineEnd b = false
  between : (before.foldl step start).place = .betweenRecords
  count : (before.foldl step start).records.length = j

/-- What is read where a record begins are this record and those behind it. -/
theorem StartsBehind.finish_drop (h : StartsBehind bytes j before) :
    ((bytes.drop before.length).foldl step start).finish =
      (bytes.foldl step start).finish.drop j := by
  obtain ⟨⟨b, rest, rfl, -⟩, hplace, rfl⟩ := h
  have hsettled : (before.foldl step start) = start.behind (before.foldl step start).records :=
    Progress.isSettled_foldl (fun _ => rfl) before hplace
  have hlength : (before.foldl step start).records.reverse.length =
      (before.foldl step start).records.length := List.length_reverse
  rw [List.drop_left, List.foldl_append, hsettled, Progress.foldl_step_behind,
    Progress.finish_behind, ← hsettled, ← hlength, List.drop_left]

theorem StartsBehind.length_finish (h : StartsBehind bytes j before) :
    (before.foldl step start).finish.length = j := by
  rw [Progress.length_finish, h.between, if_pos rfl, h.count, Nat.add_zero]

/-- With its first byte the record counts. -/
theorem StartsBehind.lt_length (h : StartsBehind bytes j before) {b : UInt8} {u : List UInt8}
    (hnext : before ++ b :: u <+: bytes) :
    j < ((before ++ b :: u).foldl step start).finish.length := by
  obtain ⟨b', rest, rfl, hb⟩ := h.goesOn
  obtain rfl : b = b' := (List.cons_prefix_cons.mp ((List.prefix_append_right_inj _).mp hnext)).1
  have hstep := (before.foldl step start).length_finish_step b
  rw [h.length_finish, if_pos ⟨h.between, hb⟩] at hstep
  rw [List.foldl_append, List.foldl_cons]
  exact Nat.lt_of_lt_of_le (hstep ▸ Nat.lt_succ_self j) (Progress.length_finish_le_foldl _ u)

theorem StartsBehind.eq_of_prefix (h : StartsBehind bytes j before)
    (h' : StartsBehind bytes j before') (hshort : before <+: before') : before' = before := by
  obtain ⟨v, rfl⟩ := hshort
  cases v with
  | nil => exact List.append_nil _
  | cons b u =>
    obtain ⟨_, rest, hbytes, -⟩ := h'.goesOn
    have hlt := h.lt_length ⟨_, hbytes.symm⟩
    rw [h'.length_finish] at hlt
    exact absurd hlt (Nat.lt_irrefl j)

/-- A record that is counted at the end and not at first begins in between. -/
theorem exists_start {p : Progress} (hlow : p.finish.length ≤ j)
    (hhigh : j < (bytes.foldl step p).finish.length) :
    ∃ before, (∃ b rest, bytes = before ++ b :: rest ∧ isLineEnd b = false) ∧
      (before.foldl step p).place = .betweenRecords ∧
      (before.foldl step p).records.length = j := by
  induction bytes generalizing p with
  | nil => exact absurd hhigh (Nat.not_lt.mpr hlow)
  | cons b bytes ih =>
    rcases Nat.lt_or_ge j (p.step b).finish.length with hlt | hge
    · rw [p.length_finish_step] at hlt
      by_cases hbegins : p.place = .betweenRecords ∧ isLineEnd b = false
      · rw [if_pos hbegins] at hlt
        have hcount : p.finish.length = j := Nat.le_antisymm hlow (Nat.le_of_lt_succ hlt)
        rw [p.length_finish, if_pos hbegins.1, Nat.add_zero] at hcount
        exact ⟨[], ⟨b, bytes, rfl, hbegins.2⟩, hbegins.1, hcount⟩
      · rw [if_neg hbegins] at hlt
        exact absurd hlt (Nat.not_lt.mpr hlow)
    · obtain ⟨before, ⟨b', rest, rfl, hb'⟩, hplace, hcount⟩ := ih hge hhigh
      exact ⟨b :: before, ⟨b', rest, rfl, hb'⟩, hplace, hcount⟩

/-- Every record begins behind one part of the input. -/
theorem existsUnique_startsBehind (h : j < (bytes.foldl step start).finish.length) :
    ∃! before, StartsBehind bytes j before := by
  obtain ⟨before, hgoes, hplace, hcount⟩ := exists_start (Nat.zero_le j) h
  have hstarts : StartsBehind bytes j before := ⟨hgoes, hplace, hcount⟩
  refine ⟨before, hstarts, fun before' h' => ?_⟩
  obtain ⟨_, _, hbytes, -⟩ := hgoes
  obtain ⟨_, _, hbytes', -⟩ := h'.goesOn
  rcases List.prefix_or_prefix_of_prefix ⟨_, hbytes'.symm⟩ ⟨_, hbytes.symm⟩ with hpre | hpre
  · exact (h'.eq_of_prefix hstarts hpre).symm
  · exact hstarts.eq_of_prefix h' hpre

/-! ### Rows -/

theorem getElem?_of_mapM {α β : Type} {f : α → Option β} {as : List α} {bs : List β}
    (h : as.mapM f = some bs) (i : Nat) : bs[i]? = as[i]?.bind f := by
  induction as generalizing bs i with
  | nil =>
    obtain rfl : [] = bs := by simpa using h
    rfl
  | cons a as ih =>
    rw [List.mapM_cons] at h
    obtain ⟨b, hb, h⟩ := Option.bind_eq_some_iff.mp h
    obtain ⟨bs, hbs, h⟩ := Option.bind_eq_some_iff.mp h
    obtain rfl := Option.some.inj h
    cases i with
    | zero => simp [hb]
    | succ i => simpa using ih hbs i

/-- The rows of a table are its records behind the first one, under the names in that one. -/
theorem exists_texts_of_rows? {rows : List Row} (h : rows? bytes = some rows) {i : Nat} {row : Row}
    (hrow : rows[i]? = some row) :
    ∃ head fields, ((records bytes)[0]?.bind fun r => r.mapM fieldText?) = some head ∧
      ((records bytes)[i + 1]?.bind fun r => r.mapM fieldText?) = some fields ∧
      row = .cells (cells head fields) := by
  obtain ⟨texts, htexts, h⟩ := Option.bind_eq_some_iff.mp h
  have hread := getElem?_of_mapM htexts
  cases texts with
  | nil =>
    obtain rfl := Option.some.inj h
    cases hrow
  | cons head rest =>
    obtain rfl := Option.some.inj h
    rw [List.getElem?_map] at hrow
    obtain ⟨fields, hfields, rfl⟩ := Option.map_eq_some_iff.mp hrow
    exact ⟨head, fields, (hread 0).symm, (hread (i + 1)).symm.trans hfields, rfl⟩

end RowTemplate.Csv
