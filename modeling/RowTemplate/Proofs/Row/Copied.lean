import RowTemplate.Proofs.Context.Reserved
import RowTemplate.Proofs.Expr.Conversion
import RowTemplate.Proofs.Span.Verbatim

/-! # Fields of rows in documents

A template that is one span copies the value of its expression into the
document, and the name of a field is an expression for the value of the field.
A scalar comes out as it went in, as far as its value does; null leaves
nothing, and an array or an object leaves its text.
-/

namespace RowTemplate

variable {name text : String} {s : List Char} {ctx : Context} {v : Value} {j : Json}

/-! ### What the name of a field evaluates to -/

namespace Bindings

theorem get?_defineAll (b : Bindings) {entries : List (String × Value)} (h : Distinct entries)
    (name : String) :
    (b.defineAll entries).get? name = (entries.lookup name).or (b.get? name) := by
  rw [← h.lookup_reverse]
  exact read_foldl (fun b p name => b.get?_define p.1 name p.2) entries b name

theorem get?_loadRow_object (b : Bindings) {fields : List (String × Json)} (h : Distinct fields)
    (hj : (name, j) ∈ fields) (hname : name ≠ "data") :
    (b.loadRow (.object fields)).get? name = some (.ofJson j) := by
  have hlookup : (Value.fieldsOfJson fields).lookup name = some (.ofJson j) := by
    rw [Value.fieldsOfJson_eq, lookup_map, h.lookup_of_mem hj, Option.map_some]
  rw [loadRow, get?_set, if_neg hname, get?_defineAll _ (Value.distinct_fieldsOfJson h), hlookup,
    Option.some_or]

end Bindings

theorem splitSuffix_of_not_mem (h : ':' ∉ text.toList) : splitSuffix text = (text, none) := by
  have hnone (t : NodeType) : t.beforeSuffix? (Text.trimRight text.toList) = none := by
    refine if_neg fun hsuffix => h ?_
    have hmem : ':' ∈ Text.trimRight text.toList :=
      (List.isSuffixOf_iff_suffix.mp hsuffix).subset List.mem_cons_self
    exact (Text.trimRight_isPrefix _).subset hmem
  have hfind : NodeType.all.findSome? (fun t =>
      (t.beforeSuffix? (Text.trimRight text.toList)).map fun e => (e, t)) = none :=
    List.findSome?_eq_none_iff.mpr fun t _ => by rw [hnone, Option.map_none]
  rw [splitSuffix, hfind]

theorem datePattern?_eq_none (h : '(' ∉ s) : datePattern? s = none := by
  have hnone (quote : Char) : datePatternIn? quote s = none := by
    have hprefix : ("date(".toList ++ [quote]).isPrefixOf s = false := by
      refine Bool.eq_false_iff.mpr fun hprefix => h ?_
      exact (List.isPrefixOf_iff_prefix.mp hprefix).subset (by simp)
    rw [datePatternIn?, hprefix]
    rfl
  rw [datePattern?, hnone, hnone]
  rfl

theorem Session.runIn_evaluate_name {cache : ParseCache} (hctx : ctx.evaluator = .language cache)
    (hname : IsWord name.toList) (hkey : ∀ t, (name, t) ∉ keywords)
    (hv : ctx.bindings.get? name = some v) : ((evaluate name).runIn ctx).1 = .ok v := by
  have hlookup : ctx.lookup? name = none ∨ ctx.lookup? name = some v := by
    rw [Context.lookup?, hv, datePattern?_eq_none (hname.not_mem (by decide))]
    cases v with
    | string s => exact .inr rfl
    | _ => exact .inl rfl
  rw [runIn_evaluate_language hctx]
  rcases hlookup with hnone | hsome
  · rw [hnone, ParseCache.direct, parse_name hname hkey]
    simp [Expr.eval, Bindings.scope, hv, settle]
  · rw [hsome]

/-! ### What a span leaves -/

/-- Between the delimiters of a span the text is an expression without a type, and its value in the
context is `v`. -/
structure Context.Evaluates (ctx : Context) (text : String) (v : Value) : Prop where
  balanced : Balanced text.toList
  untyped : splitSuffix text = (text, none)
  evaluates : ((Session.evaluate text).runIn ctx).1 = .ok v

theorem Context.evaluates_name {cache : ParseCache} (hctx : ctx.evaluator = .language cache)
    (hname : IsWord name.toList) (hkey : ∀ t, (name, t) ∉ keywords)
    (hv : ctx.bindings.get? name = some v) : ctx.Evaluates name v where
  balanced := .of_plain hname.isPlain
  untyped := splitSuffix_of_not_mem (hname.not_mem (by decide))
  evaluates := Session.runIn_evaluate_name hctx hname hkey hv

theorem Template.expand_span (h : Balanced text.toList) :
    expand (.string ("$\x7b" ++ text ++ "\x7d")) = Session.typedNode? text := by
  have htext : ("$\x7b" ++ text ++ "\x7d").toList = spanText text.toList := by simp [spanText]
  rw [expand, Session.expandText?, htext, singleton?_spanText h]
  simp only [String.ofList_toList]

theorem Template.runIn_expand_span (h : ctx.Evaluates text v) :
    ((expand (.string ("$\x7b" ++ text ++ "\x7d"))).runIn ctx).1 = .ok v.toNode? := by
  have hexpand : expand (.string ("$\x7b" ++ text ++ "\x7d")) =
      Value.toNode? <$> Session.during text (Session.evaluate text) := by
    rw [expand_span h.balanced, Session.typedNode?, h.untyped, ← Session.during_evaluate]
    rfl
  rw [hexpand, Session.runIn_map, Session.runIn_during, h.evaluates]
  rfl

/-- The node that a span leaves of a document. -/
inductive Json.CopiedAs : Json → Option Json → Prop
  | null : CopiedAs .null none
  | bool (b : Bool) : CopiedAs (.bool b) (some (.bool b))
  | number {n m : JsonNumber} : n.ComesBack m → CopiedAs (.number n) (some (.number m))
  | string (s : String) : CopiedAs (.string s) (some (.string s))
  | array (items : List Json) :
    CopiedAs (.array items) (some (.string (Value.ofJson (.array items)).text))
  | object {fields : List (String × Json)} {v : Json} :
    (Json.object fields).SameUpTo JsonNumber.ComesBack v →
    CopiedAs (.object fields) (some (.string v.text))

theorem Value.toNode?_of_toJson {v : Value} {m : JsonNumber} (h : v.toJson = .number m) :
    v.toNode? = some (.number m) := by
  cases v with
  | int n => exact congrArg some h
  | float x =>
    rw [Value.toJson] at h
    rw [Value.toNode?]
    cases hx : Json.ofFloat? x with
    | none => rw [hx] at h; cases h
    | some node => rw [hx] at h; exact congrArg some h
  | _ => simp only [Value.toJson] at h; cases h

theorem Json.copiedAs_toNode?_ofJson (j : Json) (hkeys : j.Throughout Json.IsKeyed) :
    j.CopiedAs (Value.ofJson j).toNode? := by
  cases j with
  | null => exact .null
  | bool b => exact .bool b
  | string s => exact .string s
  | array items => exact .array items
  | number n =>
    obtain ⟨m, hm, hback⟩ := Value.exists_comesBack n
    rw [Value.ofJson, Value.toNode?_of_toJson hm]
    exact .number hback
  | object fields =>
    have hsame := Value.sameUpTo_toJson_ofJson (.object fields) hkeys (Value.returns_comesBack _)
    exact .object hsame

/-- A document in which objects name their fields once comes back from its value the same, but for
integers above the words, which come back as the nearest binary64 number. A row binds the name of a
field to the value of its document. Where the name can stand in an expression it has that value, and
a span of any expression with that value leaves a copy of the document. -/
theorem Json.survives_binding (hkeys : j.Throughout Json.IsKeyed) :
    j.SameUpTo JsonNumber.ComesBack (Value.ofJson j).toJson ∧
      (j.Throughout Json.IsWordSized → j.SameUpTo Eq (Value.ofJson j).toJson) ∧
      (∀ (ctx : Context) (fields : List (String × Json)) (name : String), Distinct fields →
        (name, j) ∈ fields → name ≠ "data" →
        (ctx.loadRow (.object fields)).bindings.get? name = some (.ofJson j)) ∧
      (∀ (ctx : Context) (cache : ParseCache) (name : String), ctx.evaluator = .language cache →
        IsWord name.toList → (∀ t, (name, t) ∉ keywords) →
        ctx.bindings.get? name = some (.ofJson j) → ctx.Evaluates name (.ofJson j)) ∧
      ∀ (ctx : Context) (text : String), ctx.Evaluates text (.ofJson j) →
        ∃ node, ((Template.expand (.string ("$\x7b" ++ text ++ "\x7d"))).runIn ctx).1 = .ok node ∧
          j.CopiedAs node := by
  refine ⟨?_, fun hwords => ?_, ?_, ?_, fun ctx text heval => ?_⟩
  · exact Value.sameUpTo_toJson_ofJson j hkeys (Value.returns_comesBack j)
  · refine Value.sameUpTo_toJson_ofJson j hkeys fun node hnode => ?_
    exact Value.returns_eq (hwords node hnode)
  · intro ctx fields name hfields hj hdata
    exact ctx.bindings.get?_loadRow_object hfields hj hdata
  · intro ctx cache name hctx hname hkey hv
    exact Context.evaluates_name hctx hname hkey hv
  · exact ⟨_, Template.runIn_expand_span heval, copiedAs_toNode?_ofJson j hkeys⟩

/-- An object inside an array inside an object, the names of which are not in order. -/
theorem Json.survives_binding_nested :
    let one : Json := .number (.integer 1 (by decide))
    let j : Json := .object [("z", .array [one, .object [("y", .null), ("x", .bool true)]]),
      ("a", .string "b")]
    let ctx := Context.ofSettings {} ⟨2024, 6, 1, 9, 15, 0, 0, 7200⟩
    j.Throughout IsKeyed ∧ j.Throughout IsWordSized ∧ j.SameUpTo Eq (Value.ofJson j).toJson ∧
      ∃ node, (expandRow (.string "$\x7bfield\x7d") (.object [("field", j)]) ctx).1 = .ok node ∧
        j.CopiedAs node := by
  intro one j ctx
  have hkeys : j.Throughout IsKeyed := by simp [j, one, IsKeyed, Distinct]
  have hwords : j.Throughout IsWordSized := by
    have hone : Number.FitsWord 1 := by decide
    simpa [j, one, IsWordSized] using hone
  have hname : IsWord "field".toList := .mk rfl (List.all_eq_true.mp rfl)
  obtain ⟨-, hsame, hbound, hevaluates, hcopied⟩ := survives_binding hkeys
  have hv := hbound ctx [("field", j)] "field" (by simp [Distinct]) (by simp) (by decide)
  have heval : (ctx.loadRow (.object [("field", j)])).Evaluates "field" (.ofJson j) :=
    hevaluates _ .empty "field" rfl hname (by simp [keywords]) hv
  exact ⟨hkeys, hwords, hsame hwords, hcopied _ _ heval⟩

/-- An integer above the words comes back and is copied as another number, and an array is copied
as its text. -/
theorem Json.altered_by_binding :
    let large : Json := .number (.integer 9223372036854775809 (by decide))
    let pair : Json := .array [.number (.integer 1 (by decide)), .number (.integer 2 (by decide))]
    let row : Row := .object [("a", large), ("b", pair)]
    let ctx := Context.ofSettings {} ⟨2024, 6, 1, 9, 15, 0, 0, 7200⟩
    large.Throughout IsKeyed ∧ ¬ large.SameUpTo Eq (Value.ofJson large).toJson ∧
      (¬ ∃ node, (expandRow (.string "$\x7ba\x7d") row ctx).1 = .ok (some node) ∧
        large.SameUpTo Eq node) ∧
      (expandRow (.string "$\x7bb\x7d") row ctx).1 = .ok (some (.string "1,2")) := by
  intro large pair row ctx
  obtain ⟨m, hm, hback⟩ := Value.exists_comesBack (.integer 9223372036854775809 (by decide))
  have hdiffers : ¬ large.SameUpTo Eq (.number m) := by
    intro hsame
    obtain rfl := hsame.of_number
    cases hback with
    | word _ hfits => exact absurd hfits (by decide)
  have hcopied (name : String) (j : Json) (hj : (name, j) ∈ [("a", large), ("b", pair)])
      (hname : IsWord name.toList) (hkey : name ∉ keywords.map Prod.fst) (hdata : name ≠ "data") :
      (expandRow (.string ("$\x7b" ++ name ++ "\x7d")) row ctx).1 =
        .ok (Value.ofJson j).toNode? := by
    have hv := ctx.bindings.get?_loadRow_object (by simp [Distinct]) hj hdata
    have hevaluator : (ctx.loadRow row).evaluator = .language .empty := rfl
    exact Template.runIn_expand_span
      (Context.evaluates_name hevaluator hname (fun t ht => hkey (List.mem_map_of_mem ht)) hv)
  have hlarge := hcopied "a" large (by simp) (.mk rfl (List.forall_mem_nil _)) (by decide) (by decide)
  have hpair := hcopied "b" pair (by simp) (.mk rfl (List.forall_mem_nil _)) (by decide) (by decide)
  have htext : (Value.ofJson pair).text = "1,2" := by decide +kernel
  refine ⟨by simp [large, IsKeyed], ?_, ?_, htext ▸ hpair⟩
  · rw [Value.ofJson, hm]
    exact hdiffers
  · rintro ⟨node, hnode, hsame⟩
    rw [Value.ofJson, Value.toNode?_of_toJson hm] at hlarge
    obtain rfl : node = .number m := by simpa using hnode.symm.trans hlarge
    exact hdiffers hsame

end RowTemplate
