import RowTemplate.Proofs.Context.Alike
import RowTemplate.Proofs.Context.Lookup
import RowTemplate.Proofs.Directive.Key
import RowTemplate.Proofs.Expr.Quoting
import RowTemplate.Proofs.Template.Scope

/-! # Loops

A loop reads its source once, before its first round. It can be replaced by a
loop over the list of the values that it has then: whatever its body binds, the
two have the same rounds.
-/

namespace RowTemplate

open Template Session

variable {ctx : Context} {texts values : List String} {source : LoopSource}

/-! ### The values of a list of literals -/

theorem toTexts?_strings (h : ∀ s ∈ texts, s ≠ "") :
    (Value.array (texts.map .string)).toTexts?.getD [] = texts := by
  have htexts : (Value.array (texts.map .string)).toTexts = texts := by
    have hmap : (texts.map Value.string).map Value.toText = texts := by
      simp [Value.toText, Value.text, Value.chars, Function.comp_def]
    rw [Value.toTexts, hmap]
    exact List.filter_eq_self.mpr fun s hs => by simpa using h s hs
  rw [Value.toTexts?, htexts]
  cases texts <;> rfl

/-- A list is no call of `date`, so that only a binding can stand in its way. -/
theorem Context.lookup?_listText (h : ctx.bindings.get? (listText texts) = none) :
    ctx.lookup? (listText texts) = none := by
  refine Option.eq_none_iff_forall_ne_some.mpr fun v hv => ?_
  obtain ⟨p, -, hp, -⟩ := (lookup?_eq_some_iff (by simp [h])).mp hv
  obtain ⟨quote, -, hcall, -⟩ := exists_dateCall_of_datePattern? hp
  simp [listText, dateCall] at hcall

namespace Template

theorem loopValues_expression (e : String) :
    loopValues (.expression e) =
      (fun v => v.toTexts?.getD []) <$> during e (evaluate e) := by
  rw [loopValues, asTexts?, during_evaluate, ← map_eq_pure_bind, Functor.map_map]

/-- The loop over a list of literals has the texts for its values, whatever else is bound. -/
theorem runIn_loopValues_listText {cache : ParseCache} (hctx : ctx.evaluator = .language cache)
    (hfree : ctx.bindings.get? (listText texts) = none) (hne : ∀ s ∈ texts, s ≠ "") :
    ((loopValues (.expression (listText texts))).runIn ctx).1 = .ok texts := by
  have hvalue : ((evaluate (listText texts)).runIn ctx).1 = .ok (.array (texts.map .string)) := by
    rw [runIn_evaluate_language hctx, Context.lookup?_listText hfree, direct_listText]
    rfl
  rw [loopValues_expression, runIn_map, runIn_during, hvalue]
  exact congrArg Except.ok (toTexts?_strings hne)

/-- To find its values a loop changes no binding. -/
theorem runIn_loopValues_snd (source : LoopSource) (ctx : Context) :
    ∃ evaluator, ctx.evaluator.Alike evaluator ∧
      ((loopValues source).runIn ctx).2 = { ctx with evaluator } := by
  have hsteps : Steps (Directive.loop "" source).texts [] (loopValues source) :=
    .loopValues (.refl _)
  refine hsteps.keeps
    (R := fun ctx ctx' => ∃ e, ctx.evaluator.Alike e ∧ ctx' = { ctx with evaluator := e })
    (fun ctx => ⟨_, .refl _, rfl⟩) ?_ (fun ctx evaluator h => ⟨_, h, rfl⟩)
    (fun _ _ h => absurd h List.not_mem_nil) ctx
  rintro ctx _ _ ⟨e₁, h₁, rfl⟩ ⟨e₂, h₂, rfl⟩
  exact ⟨e₂, h₁.trans h₂, rfl⟩

/-- Two loops find their values at the same place, and go on from contexts that agree. -/
theorem agreesOn_loopValues (ts : List String) (source source' : LoopSource) (ctx : Context) :
    ((loopValues source).runIn ctx).2.AgreesOn ts ((loopValues source').runIn ctx).2 := by
  obtain ⟨e, halike, hctx⟩ := runIn_loopValues_snd source ctx
  obtain ⟨e', halike', hctx'⟩ := runIn_loopValues_snd source' ctx
  rw [hctx, hctx']
  exact ⟨rfl, rfl, (halike.symm.trans halike').agreesOn ts⟩

/-! ### Arrays with a loop -/

/-- Behind entries that do not fail a scope goes on with what they leave. -/
theorem exists_runIn_runParts_append {β : Type} {before : List (Part β)} {chain : Chain}
    {reached : Context} {xs : List β} (h : (runParts chain before).runIn ctx = (.ok xs, reached)) :
    ∃ chain', ∀ parts, (runParts chain (before ++ parts)).runIn ctx =
      ((xs ++ ·) <$> runParts chain' parts).runIn reached := by
  induction before generalizing chain ctx xs with
  | nil =>
    obtain ⟨hxs, rfl⟩ := Prod.mk.inj h
    obtain rfl := Except.ok.inj hxs
    exact ⟨chain, fun parts => by simp⟩
  | cons part before ih =>
    rw [runParts] at h
    obtain ⟨⟨ys, chain₁⟩, ctx₁, hpart, h⟩ := exists_runIn_of_bind h
    obtain ⟨zs, ctx₂, hrest, h⟩ := exists_runIn_of_bind h
    obtain ⟨hxs, rfl⟩ := Prod.mk.inj h
    obtain rfl := Except.ok.inj hxs
    obtain ⟨chain', hparts⟩ := ih hrest
    refine ⟨chain', fun parts => ?_⟩
    rw [List.cons_append, runParts, runIn_bind_ok hpart]
    simp only [← map_eq_pure_bind]
    rw [runIn_map, hparts, ← runIn_map, Functor.map_map]
    simp only [List.append_assoc]

theorem rounds_eq_mapM {α : Type} (v : String) (body : Session ExpandError (List α))
    (values : List String) :
    rounds v body values = List.flatten <$> values.mapM fun s =>
      Session.update (·.define v (.string s)) >>= fun _ => body := by
  induction values with
  | nil => rfl
  | cons s values ih =>
    simp only [rounds, ih, List.mapM_cons, map_eq_pure_bind, bind_assoc, pure_bind,
      List.flatten_cons]

/-- What an array does when a loop in it has its values: one round for each of them, and then the
entries behind the loop. -/
def loopOver (xs : List Json) (v : String) (body : Json) (chain : Chain) (after : List Json)
    (values : List String) : Session ExpandError (Option Json) := do
  let yss ← values.mapM fun s => do
    Session.update (·.define v (.string s))
    splice <$> expand body
  let zs ← expandItems chain after
  return arrayNode (xs ++ (yss.flatten ++ zs))

variable {before : List Json} {key v : String} {reached : Context} {xs : List Json}
  {cache : ParseCache}

theorem uniform_loopOver (xs : List Json) (v : String) (body : Json) (chain : Chain)
    (after : List Json) (values : List String) :
    Uniform (Template.texts body ++ itemTexts after) (loopOver xs v body chain after values) := by
  let ns := v :: (names body ++ itemNames after)
  have hbody : Steps (Template.texts body ++ itemTexts after) ns (expand body) :=
    expand_steps (List.subset_append_left ..) fun n hn => by simp [ns, hn]
  have hafter : Steps (Template.texts body ++ itemTexts after) ns (expandItems chain after) :=
    expandItems_steps (List.subset_append_right ..) fun n hn => by simp [ns, hn]
  have hround (s : String) : Steps (Template.texts body ++ itemTexts after) ns (do
      Session.update (·.define v (.string s))
      splice <$> expand body) :=
    (Steps.define s List.mem_cons_self).bind fun _ => hbody.map splice
  have hsteps := (Steps.mapM fun s (_ : s ∈ values) => hround s).bind fun yss =>
    hafter.bind fun zs => .pure (arrayNode (xs ++ (yss.flatten ++ zs)))
  exact hsteps.uniform

/-- From a loop on, an array depends on the source of the loop only by the values that it has when
the loop is reached. -/
theorem exists_runIn_expand_loop
    (h : (expandItems .closed before).runIn ctx = (.ok xs, reached)) (v : String) (body : Json)
    (after : List Json) :
    ∃ chain, ∀ key source, Directive.ofKey? key = some (.loop v source) →
      (expand (.array (before ++ .object [(key, body)] :: after))).runIn ctx =
        (loopValues source >>= loopOver xs v body chain after).runIn reached := by
  rw [expandItems_eq_runParts] at h
  obtain ⟨chain, hparts⟩ := exists_runIn_runParts_append h
  refine ⟨chain, fun key source hkey => ?_⟩
  rw [expand_array, List.map_append, List.map_cons, runIn_map, hparts, ← runIn_map,
    Part.ofItem_of_some hkey, runParts_ofDirective]
  simp only [← expandItems_eq_runParts, rounds_eq_mapM, map_eq_pure_bind, bind_assoc, pure_bind]
  rfl

/-- A loop is the loop over the values that it has when it is reached, each written as a literal:
an array has the same outcome with either and leaves the same bindings. There is one round for each
value, whatever the rounds bind, and the list has these values in every scope. -/
theorem expand_loop_evaluated_once (body : Json) (after : List Json)
    (hlanguage : ctx.evaluator = .language cache)
    (hkey : Directive.ofKey? key = some (.loop v source))
    (hreached : (expandItems .closed before).runIn ctx = (.ok xs, reached))
    (hvalues : ((loopValues source).runIn reached).1 = .ok values)
    (hne : ∀ s ∈ values, s ≠ "") (hfree : reached.bindings.get? (listText values) = none) :
    let listed := (Directive.loop v (.expression (listText values))).key
    let run (key : String) := (expand (.array (before ++ .object [(key, body)] :: after))).runIn ctx
    Directive.ofKey? listed = some (.loop v (.expression (listText values))) ∧
      (run key).1 = (run listed).1 ∧ (run key).2.bindings = (run listed).2.bindings ∧
      (∃ chain evaluator, run key =
        (loopOver xs v body chain after values).runIn { reached with evaluator }) ∧
      ∀ scope, ParseCache.direct (listText values) scope = .ok (.array (values.map .string)) := by
  intro listed run
  have hlisted : Directive.ofKey? listed = some (.loop v (.expression (listText values))) := by
    obtain ⟨opened, -, hloop⟩ := Directive.loop?_of_ofKey? hkey
    have hwritable : (Directive.loop v (.expression (listText values))).IsWritable :=
      ⟨Directive.isVariable_of_loop? hloop, balanced_of_parse (parse_listText values)⟩
    exact hwritable.ofKey?_key
  obtain ⟨cache', hcache⟩ : ∃ cache', reached.evaluator = .language cache' := by
    have hsteps : Steps (itemTexts before) (itemNames before) (expandItems .closed before) :=
      expandItems_steps (.refl _) (.refl _)
    have halike := (hsteps.restrained ctx).evaluator
    rw [hreached, hlanguage] at halike
    exact halike.exists_language
  obtain ⟨chain, hrun⟩ := exists_runIn_expand_loop hreached v body after
  have hsame := Uniform.agree_bind (uniform_loopOver xs v body chain after)
    (hvalues.trans (runIn_loopValues_listText hcache hfree hne).symm)
    (agreesOn_loopValues _ _ _ reached)
  rw [← hrun key source hkey, ← hrun listed _ hlisted] at hsame
  obtain ⟨evaluator, -, hleft⟩ := runIn_loopValues_snd source reached
  have hrounds : run key =
      (loopOver xs v body chain after values).runIn { reached with evaluator } :=
    (hrun key source hkey).trans (runIn_bind_ok (Prod.ext hvalues hleft))
  exact ⟨hlisted, hsame.1, hsame.2.bindings, ⟨chain, evaluator, hrounds⟩, direct_listText values⟩

/-- The body binds the name that the source of its loop uses, and the values have a quote and a
backslash. -/
theorem expand_loop_evaluated_once_rebound :
    let ctx := Context.ofSettings {} ⟨2024, 6, 1, 9, 15, 0, 0, 7200⟩
    let before : List Json := [.object [("$\x7bvar x\x7d", .string "it's")]]
    let body : Json := .array [.object [("$\x7bvar x\x7d", .string "new")], .string "$\x7bi\x7d"]
    let after : List Json := [.string "$\x7bx\x7d"]
    let source := "[x, x + '\\\\']"
    let key := "$\x7bfor i:[x, x + '\\\\']\x7d"
    let listed := "$\x7bfor i:['it\\'s','it\\'s\\\\']\x7d"
    let reached := ((expandItems .closed before).runIn ctx).2
    let run (key : String) := (expand (.array (before ++ .object [(key, body)] :: after))).runIn ctx
    Directive.ofKey? key = some (.loop "i" (.expression source)) ∧
      ((expandItems .closed before).runIn ctx).1 = .ok [] ∧
      ((loopValues (.expression source)).runIn reached).1 = .ok ["it's", "it's\\"] ∧
      (run key).1.toOption.join.map Json.text = some "[\"it's\",\"it's\\\\\",\"new\"]" ∧
      (run key).1 = (run listed).1 ∧ (run key).2.bindings = (run listed).2.bindings := by
  intro ctx before body after source key listed reached run
  have hlanguage : ctx.evaluator = .language .empty := rfl
  have hkey : Directive.ofKey? key = some (.loop "i" (.expression source)) := by decide
  have hitems : ((expandItems .closed before).runIn ctx).1 = .ok [] := by
    have hempty : ((expandItems .closed before).runIn ctx).1.toOption.map List.isEmpty =
        some true := by decide +kernel
    obtain ⟨xs, hxs, hnil⟩ := Option.map_eq_some_iff.mp hempty
    obtain rfl := List.isEmpty_iff.mp hnil
    exact ok_of_toOption hxs
  have hvalues : ((loopValues (.expression source)).runIn reached).1 = .ok ["it's", "it's\\"] :=
    ok_of_toOption (by decide +kernel)
  have hfree : reached.bindings.get? (listText ["it's", "it's\\"]) = none :=
    Option.isNone_iff_eq_none.mp (by decide +kernel)
  have hlisted : (Directive.loop "i" (.expression (listText ["it's", "it's\\"]))).key = listed := by
    decide
  obtain ⟨-, hout, hbindings, -, -⟩ := expand_loop_evaluated_once body after hlanguage hkey
    (Prod.ext hitems rfl) hvalues (by decide) hfree
  rw [hlisted] at hout hbindings
  exact ⟨hkey, hitems, hvalues, by decide +kernel, hout, hbindings⟩

end Template

end RowTemplate
