import RowTemplate.Json.Reader
import RowTemplate.Proofs.Template.Static

/-! # Documents that are read

In a document that is read from text every object names its fields once: a
field that is repeated takes the place of the earlier one. The machine keeps
this of all that it has read so far.
-/

namespace RowTemplate.Json

variable {j : Json} {s : List Char} {text : String}

/-! ### Scalars -/

/-- The document is no array and no object. -/
def IsScalar : Json → Prop
  | .array _ => False
  | .object _ => False
  | _ => True

theorem IsScalar.throughout_isKeyed (h : j.IsScalar) : j.Throughout IsKeyed := by
  cases j with
  | array => cases h
  | object => cases h
  | _ => simp [IsKeyed]

theorem isScalar_of_ofFloat? {x : Float} (h : ofFloat? x = some j) : j.IsScalar := by
  unfold ofFloat? at h
  split at h
  · cases h
    trivial
  · cases h

theorem isScalar_of_readNumeral? (h : readNumeral? s = some j) : j.IsScalar := by
  unfold readNumeral? at h
  split at h
  all_goals
    obtain ⟨-, -, h⟩ := Option.bind_eq_some_iff.mp h
    obtain ⟨⟨fraction, rest⟩, -, h⟩ := Option.bind_eq_some_iff.mp h
    obtain ⟨exponent, -, h⟩ := Option.bind_eq_some_iff.mp h
    dsimp only at h
    split at h
    all_goals
      split at h
      · cases h
        trivial
      · obtain ⟨x, -, h⟩ := Option.bind_eq_some_iff.mp h
        exact isScalar_of_ofFloat? h

theorem isScalar_of_readScalar? (h : readScalar? s = some j) : j.IsScalar := by
  unfold readScalar? at h
  split at h
  · cases h
    trivial
  split at h
  · cases h
    trivial
  split at h
  · cases h
    trivial
  · exact isScalar_of_readNumeral? h

/-- The token is no scalar, or one that is no array and no object. -/
def Token.IsPlain : Token → Prop
  | .scalar j => j.IsScalar
  | _ => True

theorem isPlain_of_tokens? {ts : List Token} (h : tokens? s = some ts) :
    ∀ token ∈ ts, token.IsPlain := by
  -- Every token that is read stands in front of those of the rest.
  have cons {t : Token} {rest : Option (List Token)} {ts : List Token}
      (h : rest.map (t :: ·) = some ts) (ht : t.IsPlain)
      (ih : ∀ {ts}, rest = some ts → ∀ token ∈ ts, token.IsPlain) :
      ∀ token ∈ ts, token.IsPlain := by
    obtain ⟨us, hus, rfl⟩ := Option.map_eq_some_iff.mp h
    exact List.forall_mem_cons.mpr ⟨ht, ih hus⟩
  fun_induction tokens? s generalizing ts with
  | case1 =>
    cases h
    exact nofun
  | case2 c s hspace ih => exact ih h
  | case9 => cases h
  | case10 s raw rest _ _ _ ih =>
    obtain ⟨t, -, h⟩ := Option.bind_eq_some_iff.mp h
    exact cons h trivial ih
  | case11 c s _ _ _ _ _ _ _ _ _ _ ih =>
    obtain ⟨j, hj, h⟩ := Option.bind_eq_some_iff.mp h
    exact cons h (isScalar_of_readScalar? hj) ih
  | case12 => cases h
  | _ => exact cons h trivial ‹_›

/-! ### The machine -/

/-- Every object in a container that is still open names its fields once. -/
def Frame.Keyed : Frame → Prop
  | .array items => ∀ item ∈ items, item.Throughout IsKeyed
  | .object fields _ => (Json.object fields).Throughout IsKeyed

/-- Every object among all that has been read names its fields once. -/
def State.Keyed : State → Prop
  | .value stack => ∀ frame ∈ stack, frame.Keyed
  | .firstItem stack => ∀ frame ∈ stack, frame.Keyed
  | .firstName stack => ∀ frame ∈ stack, frame.Keyed
  | .fieldName fields stack =>
    (Json.object fields).Throughout IsKeyed ∧ ∀ frame ∈ stack, frame.Keyed
  | .colon fields _ stack => (Json.object fields).Throughout IsKeyed ∧ ∀ frame ∈ stack, frame.Keyed
  | .after last stack => last.Throughout IsKeyed ∧ ∀ frame ∈ stack, frame.Keyed

theorem throughout_isKeyed_putField {fields : List (String × Json)}
    (h : (Json.object fields).Throughout IsKeyed) (name : String) (hj : j.Throughout IsKeyed) :
    (Json.object (putField name j fields)).Throughout IsKeyed := by
  obtain ⟨hdistinct, hvalues⟩ := throughout_object.mp h
  refine throughout_object.mpr ⟨Distinct.putField hdistinct name j, fun field hfield => ?_⟩
  rcases mem_of_mem_putField hfield with rfl | hfield
  · exact hj
  · exact hvalues field hfield

theorem State.keyed_begin {stack : List Frame} {token : Token} {state : State}
    (hstack : ∀ frame ∈ stack, frame.Keyed) (htoken : token.IsPlain)
    (h : begin stack token = some state) : state.Keyed := by
  cases token with
  | scalar j =>
    cases h
    exact ⟨htoken.throughout_isKeyed, hstack⟩
  | openArray =>
    obtain ⟨-, ⟨⟩⟩ := Option.ite_none_right_eq_some.mp h
    exact hstack
  | openObject =>
    obtain ⟨-, ⟨⟩⟩ := Option.ite_none_right_eq_some.mp h
    exact hstack
  | _ => cases h

theorem State.Keyed.step {state state' : State} {token : Token} (hstate : state.Keyed)
    (htoken : token.IsPlain) (h : state.step token = some state') : state'.Keyed := by
  have hnothing : (Json.object []).Throughout IsKeyed := by simp [IsKeyed, Distinct]
  have hopened : (Frame.array []).Keyed := List.forall_mem_nil _
  unfold State.step at h
  split at h
  case h_1 => exact keyed_begin hstate htoken h
  case h_2 =>
    cases h
    exact ⟨by simp [IsKeyed], hstate⟩
  case h_3 => exact keyed_begin (List.forall_mem_cons.mpr ⟨hopened, hstate⟩) htoken h
  case h_4 =>
    cases h
    exact ⟨hnothing, hstate⟩
  case h_5 =>
    cases h
    exact ⟨hnothing, hstate⟩
  case h_6 =>
    cases h
    exact hstate
  case h_7 =>
    cases h
    exact List.forall_mem_cons.mpr hstate
  case h_8 =>
    cases h
    obtain ⟨hlast, hstack⟩ := hstate
    obtain ⟨hitems, hstack⟩ := List.forall_mem_cons.mp hstack
    exact List.forall_mem_cons.mpr ⟨List.forall_mem_cons.mpr ⟨hlast, hitems⟩, hstack⟩
  case h_9 =>
    cases h
    obtain ⟨hlast, hstack⟩ := hstate
    obtain ⟨hitems, hstack⟩ := List.forall_mem_cons.mp hstack
    refine ⟨throughout_array.mpr ⟨trivial, fun item hitem => ?_⟩, hstack⟩
    rcases List.mem_cons.mp (List.mem_reverse.mp hitem) with rfl | hitem
    · exact hlast
    · exact hitems item hitem
  case h_10 =>
    cases h
    obtain ⟨hlast, hstack⟩ := hstate
    obtain ⟨hfields, hstack⟩ := List.forall_mem_cons.mp hstack
    exact ⟨throughout_isKeyed_putField hfields _ hlast, hstack⟩
  case h_11 =>
    cases h
    obtain ⟨hlast, hstack⟩ := hstate
    obtain ⟨hfields, hstack⟩ := List.forall_mem_cons.mp hstack
    exact ⟨throughout_isKeyed_putField hfields _ hlast, hstack⟩
  case h_12 => cases h

theorem State.Keyed.foldlM_step {ts : List Token} {state state' : State} (hstate : state.Keyed)
    (hts : ∀ token ∈ ts, token.IsPlain) (h : ts.foldlM State.step state = some state') :
    state'.Keyed := by
  induction ts generalizing state with
  | nil =>
    cases h
    exact hstate
  | cons token ts ih =>
    obtain ⟨htoken, hts⟩ := List.forall_mem_cons.mp hts
    rw [List.foldlM_cons] at h
    obtain ⟨next, hnext, h⟩ := Option.bind_eq_some_iff.mp h
    exact ih (hstate.step htoken hnext) hts h

/-- In a document that is read every object names its fields once. -/
theorem throughout_isKeyed_of_read? (h : read? text = some j) : j.Throughout IsKeyed := by
  unfold read? at h
  split at h
  case h_1 last hread =>
    cases h
    obtain ⟨ts, hts, hrun⟩ := Option.bind_eq_some_iff.mp hread
    have hstart : (State.value []).Keyed := nofun
    exact (hstart.foldlM_step (isPlain_of_tokens? hts) hrun).1
  case h_2 => cases h

end RowTemplate.Json
