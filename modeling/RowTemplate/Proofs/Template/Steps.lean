import RowTemplate.Proofs.Session
import RowTemplate.Template.Expand

/-! # The steps of an expansion

An expansion evaluates texts that stand in the template, reads the columns and
defines names that the template gives. Every expansion is put together from
these steps, so that what each of them keeps, the expansion keeps.
-/

namespace RowTemplate

/-- The failure is the template's own: no expression was evaluated to get there. -/
def ExpandError.IsDirect : ExpandError → Prop
  | .evaluation .. => False
  | .notInteger .. => False
  | _ => True

namespace Directive

/-- The expression texts that a directive evaluates. -/
def texts : Directive → List String
  | .loop _ (.expression e) => [e]
  | .branch (.ifTrue e) => [e]
  | .branch (.elseIf e) => [e]
  | _ => []

/-- The names that a directive defines. -/
def names : Directive → List String
  | .loop name _ => [name]
  | .var name => [name]
  | _ => []

end Directive

namespace Template

/-- The expression texts in a text: that of a single span without its type, or those of all
spans. -/
def spanTexts (text : String) : List String :=
  match singleton? text.toList with
  | some body => [(splitSuffix (String.ofList body)).1]
  | none => (segments text.toList).filterMap fun
    | .plain _ => none
    | .span body => some (String.ofList body)

/-- The expression texts in a key. -/
def keyTexts (key : String) : List String :=
  match Directive.ofKey? key with
  | some d => d.texts
  | none => spanTexts key

/-- The names that a key defines. -/
def keyNames (key : String) : List String :=
  match Directive.ofKey? key with
  | some d => d.names
  | none => []

mutual

/-- The expression texts in a template. -/
def texts : Json → List String
  | .string s => spanTexts s
  | .array items => itemTexts items
  | .object fields => fieldTexts fields
  | _ => []

/-- The expression texts in the entries of an array. -/
def itemTexts : List Json → List String
  | [] => []
  | item :: rest => texts item ++ itemTexts rest

/-- The expression texts in the fields of an object. -/
def fieldTexts : List (String × Json) → List String
  | [] => []
  | (key, body) :: rest => keyTexts key ++ texts body ++ fieldTexts rest

end

mutual

/-- The names that a template defines. -/
def names : Json → List String
  | .array items => itemNames items
  | .object fields => fieldNames fields
  | _ => []

/-- The names that the entries of an array define. -/
def itemNames : List Json → List String
  | [] => []
  | item :: rest => names item ++ itemNames rest

/-- The names that the fields of an object define. -/
def fieldNames : List (String × Json) → List String
  | [] => []
  | (key, body) :: rest => keyNames key ++ names body ++ fieldNames rest

end

open Session (during during_evaluate)

/-- The sessions put together from the steps that an expansion can take, where `texts` can be
evaluated and `names` defined. -/
inductive Steps (texts names : List String) : {α : Type} → Session ExpandError α → Prop
  | pure {α : Type} (a : α) : Steps texts names (pure a)
  | bind {α β : Type} {m : Session ExpandError α} {f : α → Session ExpandError β} :
    Steps texts names m → (∀ a, Steps texts names (f a)) → Steps texts names (m >>= f)
  | fail {α : Type} {e : ExpandError} : e.IsDirect →
    Steps texts names (throw e : Session ExpandError α)
  | evaluate {text : String} : text ∈ texts →
    Steps texts names (during text (Session.evaluate text))
  | integer {text : String} : text ∈ texts → Steps texts names (Session.asInt text)
  | columns : Steps texts names (do return (← get).bindings.columns)
  | define {name : String} (s : String) : name ∈ names →
    Steps texts names (Session.update (·.define name (.string s)))

namespace Steps

variable {ts ns : List String} {α β : Type}

theorem map {m : Session ExpandError α} (h : Steps ts ns m) (f : α → β) :
    Steps ts ns (f <$> m) := by
  rw [map_eq_pure_bind]
  exact h.bind fun a => .pure (f a)

theorem mapM {f : α → Session ExpandError β} {l : List α} (h : ∀ a ∈ l, Steps ts ns (f a)) :
    Steps ts ns (l.mapM f) := by
  induction l with
  | nil => exact .pure []
  | cons a l ih =>
    rw [List.mapM_cons]
    have hl := ih fun a ha => h a (List.mem_cons_of_mem _ ha)
    exact (h a List.mem_cons_self).bind fun b => hl.bind fun bs => .pure (b :: bs)

/-- A text evaluated and turned into something else. -/
theorem evaluated {text : String} (h : text ∈ ts) (f : Value → α) :
    Steps ts ns (during text (do return f (← Session.evaluate text))) := by
  rw [during_evaluate]
  exact (evaluate h).map f

theorem condition {e : String} (h : e ∈ ts) : Steps ts ns (condition e) :=
  evaluated h Value.toBool

theorem typedNode? {text : String} (h : (splitSuffix text).1 ∈ ts) :
    Steps ts ns (Session.typedNode? text) := by
  unfold Session.typedNode?
  split <;> rename_i e heq <;> rw [heq] at h
  · exact (integer h).bind fun n => .pure _
  · exact (evaluated h Value.toBool).bind fun b => .pure _
  · exact (evaluated h Value.toTexts?).bind fun texts => .pure _
  · exact (evaluated h Value.toText).bind fun s => .pure _
  · exact evaluated h Value.toNode?

theorem interpolate {s : List Char}
    (h : ∀ body, .span body ∈ segments s → String.ofList body ∈ ts) :
    Steps ts ns (Session.interpolate s) := by
  unfold Session.interpolate replaceSpans
  refine (mapM fun part hpart => ?_).bind fun parts => .pure _
  cases part with
  | plain t => exact .pure t
  | span body => exact (evaluated (h body hpart) Value.toText).bind fun s => .pure _

theorem expandText? {text : String} (h : spanTexts text ⊆ ts) :
    Steps ts ns (Session.expandText? text) := by
  unfold Session.expandText?
  unfold spanTexts at h
  cases hbody : singleton? text.toList with
  | some body =>
    simp only [hbody] at h
    exact typedNode? (h List.mem_cons_self)
  | none =>
    simp only [hbody] at h
    refine (interpolate fun body hb => h ?_).bind fun s => .pure _
    exact List.mem_filterMap.mpr ⟨.span body, hb, rfl⟩

theorem loopValues {source : LoopSource} {var : String}
    (h : (Directive.loop var source).texts ⊆ ts) : Steps ts ns (loopValues source) := by
  cases source with
  | expression e =>
    exact (evaluated (h List.mem_cons_self) Value.toTexts?).bind fun vs => .pure _
  | columns pattern =>
    unfold Template.loopValues
    simp only
    cases Pattern.ColumnPattern.ofText? pattern with
    | none => exact .fail (e := .columnPattern pattern) trivial
    | some p => exact columns.bind fun names => .pure (names.filterMap p.value?)

theorem rounds {var : String} {body : Session ExpandError (List α)} (hvar : var ∈ ns)
    (hbody : Steps ts ns body) (values : List String) : Steps ts ns (rounds var body values) := by
  induction values with
  | nil => exact .pure []
  | cons value rest ih =>
    exact (define value hvar).bind fun _ => hbody.bind fun xs => ih.bind fun ys => .pure _

theorem bindVar {name : String} {body : Session ExpandError (Option Json)} (hname : name ∈ ns)
    (hbody : Steps ts ns body) : Steps ts ns (bindVar name body) :=
  hbody.bind fun node => define (nodeText node) hname

theorem raise {text : Option String} {body : Session ExpandError (Option Json)}
    (hbody : Steps ts ns body) : Steps ts ns (raise text body : Session ExpandError α) := by
  refine hbody.bind fun node => ?_
  cases text <;> exact .fail trivial

theorem chain {branch : Branch} (h : (Directive.branch branch).texts ⊆ ts) (chain : Chain) :
    Steps ts ns (chain.step branch Template.condition) := by
  cases branch with
  | ifTrue e => exact (condition (h List.mem_cons_self)).bind fun taken => .pure _
  | elseIf e =>
    rcases chain with _ | _ | _
    · exact .fail trivial
    · exact (condition (h List.mem_cons_self)).bind fun taken => .pure _
    · exact .pure _
  | otherwise =>
    cases chain with
    | closed => exact .fail trivial
    | opened satisfied => exact .pure _

theorem spliceFields (key : String) (node : Option Json) :
    Steps ts ns (liftM (spliceFields key node) : Session ExpandError _) := by
  rcases node with _ | _ | _ | _ | _ | _ | _ <;>
    first | exact .pure _ | exact Steps.fail (e := .notNested key) trivial

end Steps

variable {ts ns : List String} {key : String} {d : Directive}

theorem keyTexts_of_some (h : Directive.ofKey? key = some d) : keyTexts key = d.texts := by
  simp [keyTexts, h]

theorem keyTexts_of_none (h : Directive.ofKey? key = none) : keyTexts key = spanTexts key := by
  simp [keyTexts, h]

theorem keyNames_of_some (h : Directive.ofKey? key = some d) : keyNames key = d.names := by
  simp [keyNames, h]

theorem itemTexts_entry (key : String) (body : Json) (rest : List Json) :
    itemTexts (.object [(key, body)] :: rest) = keyTexts key ++ texts body ++ itemTexts rest := by
  simp [itemTexts, texts, fieldTexts]

theorem itemNames_entry (key : String) (body : Json) (rest : List Json) :
    itemNames (.object [(key, body)] :: rest) = keyNames key ++ names body ++ itemNames rest := by
  simp [itemNames, names, fieldNames]

/-- The expansion of a template, of fields or of items takes steps only, on texts and names that
stand in them. -/
theorem steps_mutual :
    (∀ template, texts template ⊆ ts → names template ⊆ ns → Steps ts ns (expand template)) ∧
      (∀ chain fields, fieldTexts fields ⊆ ts → fieldNames fields ⊆ ns →
        Steps ts ns (expandFields chain fields)) ∧
      ∀ chain items, itemTexts items ⊆ ts → itemNames items ⊆ ns →
        Steps ts ns (expandItems chain items) := by
  apply expand.mutual_induct
  case case1 =>
    intro s ht hn
    exact .expandText? ht
  case case2 =>
    intro items ih ht hn
    exact (ih ht hn).bind fun items => .pure _
  case case3 =>
    intro fields ih ht hn
    exact (ih ht hn).bind fun fields => .pure _
  case case4 =>
    intro ht hn
    exact .pure _
  case case5 =>
    intro b ht hn
    exact .pure _
  case case6 =>
    intro n ht hn
    exact .pure _
  case case7 =>
    intro chain ht hn
    exact .pure _
  case case8 =>
    intro chain key body rest var source hd ihb ihr ht hn
    simp only [itemTexts_entry, itemNames_entry, keyTexts_of_some hd, keyNames_of_some hd,
      List.append_subset] at ht hn
    rw [expandItems, hd]
    have hround := (ihb ht.1.2 hn.1.2).map splice
    exact (Steps.loopValues ht.1.1).bind fun values =>
      (Steps.rounds (hn.1.1 List.mem_cons_self) hround values).bind fun xs =>
        (ihr ht.2 hn.2).bind fun ys => .pure _
  case case9 =>
    intro chain key body rest branch hd ihr ihb ht hn
    simp only [itemTexts_entry, itemNames_entry, keyTexts_of_some hd,
      List.append_subset] at ht hn
    rw [expandItems, hd]
    refine (Steps.chain ht.1.1 chain).bind fun ⟨taken, chain⟩ => ?_
    have hrest := ihr chain ht.2 hn.2
    cases taken with
    | true =>
      exact ((ihb ht.1.2 hn.1.2).map splice).bind fun xs => hrest.bind fun ys => .pure _
    | false => exact (Steps.pure []).bind fun xs => hrest.bind fun ys => .pure _
  case case10 =>
    intro chain key body rest name hd ihb ihr ht hn
    simp only [itemTexts_entry, itemNames_entry, keyNames_of_some hd,
      List.append_subset] at ht hn
    rw [expandItems, hd]
    exact (Steps.bindVar (hn.1.1 List.mem_cons_self) (ihb ht.1.2 hn.1.2)).bind fun _ =>
      ihr ht.2 hn.2
  case case11 =>
    intro chain key body rest text hd ihb ht hn
    simp only [itemTexts_entry, itemNames_entry, List.append_subset] at ht hn
    rw [expandItems, hd]
    exact .raise (ihb ht.1.2 hn.1.2)
  case case12 =>
    intro chain key body rest hd iho ihr ht hn
    simp only [itemTexts, itemNames, List.append_subset] at ht hn
    rw [expandItems, hd]
    exact (iho ht.1 hn.1).bind fun node => (ihr ht.2 hn.2).bind fun ys => .pure _
  case case13 =>
    intro chain item rest hitem ihi ihr ht hn
    simp only [itemTexts, itemNames, List.append_subset] at ht hn
    rw [expandItems.eq_3 _ _ _ hitem]
    exact (ihi ht.1 hn.1).bind fun node => (ihr ht.2 hn.2).bind fun ys => .pure _
  case case14 =>
    intro chain ht hn
    exact .pure _
  case case15 =>
    intro chain key body rest branch hd ihr ihb ht hn
    simp only [fieldTexts, fieldNames, keyTexts_of_some hd, List.append_subset] at ht hn
    rw [expandFields, hd]
    refine (Steps.chain ht.1.1 chain).bind fun ⟨taken, chain⟩ => ?_
    have hrest := ihr chain ht.2 hn.2
    cases taken with
    | true =>
      exact (ihb ht.1.2 hn.1.2).bind fun node =>
        (Steps.spliceFields key node).bind fun xs => hrest.bind fun ys => .pure _
    | false => exact (Steps.pure []).bind fun xs => hrest.bind fun ys => .pure _
  case case16 =>
    intro chain key body rest var source hd ihb ihr ht hn
    simp only [fieldTexts, fieldNames, keyTexts_of_some hd, keyNames_of_some hd,
      List.append_subset] at ht hn
    rw [expandFields, hd]
    have hround := (ihb ht.1.2 hn.1.2).bind fun node => Steps.spliceFields key node
    exact (Steps.loopValues ht.1.1).bind fun values =>
      (Steps.rounds (hn.1.1 List.mem_cons_self) hround values).bind fun xs =>
        (ihr ht.2 hn.2).bind fun ys => .pure _
  case case17 =>
    intro chain key body rest name hd ihb ihr ht hn
    simp only [fieldTexts, fieldNames, keyNames_of_some hd, List.append_subset] at ht hn
    rw [expandFields, hd]
    exact (Steps.bindVar (hn.1.1 List.mem_cons_self) (ihb ht.1.2 hn.1.2)).bind fun _ =>
      ihr ht.2 hn.2
  case case18 =>
    intro chain key body rest text hd ihb ht hn
    simp only [fieldTexts, fieldNames, List.append_subset] at ht hn
    rw [expandFields, hd]
    exact .raise (ihb ht.1.2 hn.1.2)
  case case19 =>
    intro chain key body rest hd ihb ihr ht hn
    simp only [fieldTexts, fieldNames, keyTexts_of_none hd, List.append_subset] at ht hn
    rw [expandFields, hd]
    exact (Steps.expandText? ht.1.1).bind fun node => (ihb ht.1.2 hn.1.2).bind fun node =>
      (ihr ht.2 hn.2).bind fun ys => .pure _

theorem expand_steps {template : Json} (ht : texts template ⊆ ts) (hn : names template ⊆ ns) :
    Steps ts ns (expand template) :=
  steps_mutual.1 template ht hn

theorem expandItems_steps {chain : Chain} {items : List Json} (ht : itemTexts items ⊆ ts)
    (hn : itemNames items ⊆ ns) : Steps ts ns (expandItems chain items) :=
  steps_mutual.2.2 chain items ht hn

theorem steps (template : Json) : Steps (texts template) (names template) (expand template) :=
  expand_steps (.refl _) (.refl _)

end Template

end RowTemplate
