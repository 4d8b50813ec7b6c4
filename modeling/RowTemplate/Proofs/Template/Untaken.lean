import Mathlib.Data.List.Forall2
import RowTemplate.Proofs.Directive.Condition
import RowTemplate.Proofs.Template.Scope

/-! # Branches that are not taken

A run of a scope decides for every branch whether it is taken. The body of a
branch that is not taken has no part in what comes of the run, nor has the
condition of an `else if` behind the taken branch of its chain: with any others
in their place the run comes to the same.
-/

namespace RowTemplate.Template

open Session (runIn_bind runIn_map runIn_pure)
open Directive (Reworded)

variable {β ε : Type}

/-- What a run makes of an entry of its scope. -/
inductive Fate
  /-- It is expanded: it is no branch, or a branch that is taken. -/
  | expanded
  /-- It is a branch that is not taken. -/
  | untaken
  /-- It is an `else if` behind the taken branch of its chain. -/
  | passed
  /-- The run has failed before it. -/
  | unreached
deriving DecidableEq

/-- What a run makes of the entry that it has come to. -/
def Part.fate (part : Part β) (chain : Chain) (ctx : Context) : Fate :=
  match part, chain with
  | .plain _, _ => .expanded
  | .branch (.elseIf _) _, .opened true => .passed
  | .branch b _, chain =>
    match ((chain.step b condition).runIn ctx).1 with
    | .ok (true, _) => .expanded
    | _ => .untaken

/-- What a run makes of the entries of a scope. -/
def fates (chain : Chain) (ctx : Context) : List (Part β) → List Fate
  | [] => []
  | part :: rest =>
    part.fate chain ctx ::
      match (part.run chain).runIn ctx with
      | (.ok (_, chain), ctx) => fates chain ctx rest
      | (.error _, _) => rest.map fun _ => .unreached

/-- What may stand in the place of a field without counting in a run, given what the run makes of
the field: a branch that is not expanded may have any other body, and an `else if` whose condition
is not tested any other condition. -/
inductive FieldVariant : Fate → String × Json → String × Json → Prop
  | same (fate : Fate) (field : String × Json) : FieldVariant fate field field
  | body {fate : Fate} {key : String} (body body' : Json) : (keyBranch? key).isSome →
    fate ≠ .expanded → FieldVariant fate (key, body) (key, body')
  | condition {fate : Fate} {key key' : String} (body body' : Json) : Reworded key key' →
    fate = .passed ∨ fate = .unreached → FieldVariant fate (key, body) (key', body')

/-- What may stand in the place of an entry of an array without counting in a run. -/
inductive ItemVariant : Fate → Json → Json → Prop
  | same (fate : Fate) (item : Json) : ItemVariant fate item item
  | entry {fate : Fate} {field field' : String × Json} : FieldVariant fate field field' →
    ItemVariant fate (.object [field]) (.object [field'])

/-- The second part differs from the first one in nothing that counts, given what a run makes of
the first one. -/
inductive Part.Alike : Fate → Part β → Part β → Prop
  | same (fate : Fate) (part : Part β) : Alike fate part part
  | body {fate : Fate} (b : Branch) (m m' : Session ExpandError (List β)) : fate ≠ .expanded →
    Alike fate (.branch b m) (.branch b m')
  | condition {fate : Fate} (e e' : String) (m m' : Session ExpandError (List β)) :
    fate = .passed ∨ fate = .unreached →
    Alike fate (.branch (.elseIf e) m) (.branch (.elseIf e') m')

/-- A branch whose body is not expanded is run without it. -/
theorem Part.runIn_branch_of_fate {b : Branch} {m : Session ExpandError (List β)} {chain : Chain}
    {ctx : Context} (h : (Part.branch b m).fate chain ctx ≠ .expanded)
    (m' : Session ExpandError (List β)) :
    ((Part.branch b m').run chain).runIn ctx = ((Part.branch b m).run chain).runIn ctx := by
  simp only [Part.run, runIn_bind]
  rcases hstep : (chain.step b condition).runIn ctx with ⟨e | ⟨taken, chain'⟩, ctx'⟩
  · rfl
  · cases taken with
    | false => rfl
    | true =>
      -- A step that takes the branch makes it one that is expanded.
      refine absurd ?_ h
      unfold Part.fate
      split
      case h_1 heq => cases heq
      case h_2 heq =>
        cases heq
        cases hstep
      case h_3 heq _ =>
        cases heq
        rw [hstep]

theorem Part.chain_of_passed {part : Part β} {chain : Chain} {ctx : Context}
    (h : part.fate chain ctx = .passed) : chain = .opened true := by
  unfold Part.fate at h
  split at h
  case h_1 => cases h
  case h_2 => rfl
  case h_3 => split at h <;> cases h

theorem Part.fate_ne_unreached (part : Part β) (chain : Chain) (ctx : Context) :
    part.fate chain ctx ≠ .unreached := by
  intro h
  unfold Part.fate at h
  split at h
  case h_1 => cases h
  case h_2 => cases h
  case h_3 => split at h <;> cases h

theorem Part.Alike.runIn_eq {part part' : Part β} {chain : Chain} {ctx : Context}
    (h : Part.Alike (part.fate chain ctx) part part') :
    (part'.run chain).runIn ctx = (part.run chain).runIn ctx := by
  generalize hfate : part.fate chain ctx = fate at h
  cases h with
  | same => rfl
  | body b m m' hne => exact runIn_branch_of_fate (hfate ▸ hne) m'
  | condition e e' m m' hpassed =>
    rcases hpassed with rfl | rfl
    · -- Behind the taken branch of its chain a condition is not even looked at.
      obtain rfl := chain_of_passed hfate
      rfl
    · exact absurd hfate (fate_ne_unreached _ chain ctx)

/-- A scope runs like one that differs from it in nothing that counts: step by step the two come
to the same chain and context, up to a failure behind which nothing runs. -/
theorem runParts_of_alike {parts parts' : List (Part β)} {chain : Chain} {ctx : Context}
    (h : List.Forall₂ (fun p part' => Part.Alike p.2 p.1 part')
      (parts.zip (fates chain ctx parts)) parts') :
    (runParts chain parts').runIn ctx = (runParts chain parts).runIn ctx := by
  induction parts generalizing parts' chain ctx with
  | nil =>
    cases h
    rfl
  | cons part rest ih =>
    rw [fates, List.zip_cons_cons] at h
    cases h with
    | @cons _ part' _ rest' hpart hrest =>
      simp only [runParts, runIn_bind, hpart.runIn_eq]
      rcases hrun : (part.run chain).runIn ctx with ⟨e | ⟨xs, chain'⟩, ctx'⟩
      · rfl
      · rw [hrun] at hrest
        simp only [ih hrest]

theorem ofKey?_of_keyBranch? {key : String} (h : (keyBranch? key).isSome) :
    ∃ b, Directive.ofKey? key = some (.branch b) := by
  unfold keyBranch? at h
  split at h
  case h_1 b hb => exact ⟨b, hb⟩
  case h_2 => cases h

/-- A field that stands in the place of another one is the same, or the two are branches that
differ in nothing that counts. -/
theorem FieldVariant.eq_or_branches {fate : Fate} {field field' : String × Json}
    (h : FieldVariant fate field field') :
    field = field' ∨ ∃ b b', Directive.ofKey? field.1 = some (.branch b) ∧
      Directive.ofKey? field'.1 = some (.branch b') ∧
      ∀ m m' : Session ExpandError (List β), Part.Alike fate (.branch b m) (.branch b' m') := by
  cases h with
  | same => exact .inl rfl
  | body body body' hkey hfate =>
    obtain ⟨b, hb⟩ := ofKey?_of_keyBranch? hkey
    exact .inr ⟨b, b, hb, hb, fun m m' => .body b m m' hfate⟩
  | condition body body' hkey hfate =>
    obtain ⟨⟨e, he⟩, e', he'⟩ := hkey.ofKey?_eq
    exact .inr ⟨.elseIf e, .elseIf e', he, he', fun m m' => .condition e e' m m' hfate⟩

theorem FieldVariant.alike {fate : Fate} {field field' : String × Json}
    (h : FieldVariant fate field field') : Part.Alike fate (.ofField field) (.ofField field') := by
  rcases h.eq_or_branches with rfl | ⟨b, b', hb, hb', halike⟩
  · exact .same fate _
  · rw [← Prod.eta field, ← Prod.eta field', Part.ofField_of_some hb, Part.ofField_of_some hb']
    exact halike _ _

theorem ItemVariant.alike {fate : Fate} {item item' : Json} (h : ItemVariant fate item item') :
    Part.Alike fate (.ofItem item) (.ofItem item') := by
  cases h with
  | same => exact .same fate _
  | @entry field field' h =>
    rcases h.eq_or_branches with rfl | ⟨b, b', hb, hb', halike⟩
    · exact .same fate _
    · rw [← Prod.eta field, ← Prod.eta field', Part.ofItem_of_some hb, Part.ofItem_of_some hb']
      exact halike _ _

theorem runParts_map_of_variants (part : ε → Part β) {R : Fate → ε → ε → Prop}
    (hR : ∀ fate x x', R fate x x' → Part.Alike fate (part x) (part x')) {xs xs' : List ε}
    {chain : Chain} {ctx : Context}
    (h : List.Forall₂ (fun p x' => R p.2 p.1 x') (xs.zip (fates chain ctx (xs.map part))) xs') :
    (runParts chain (xs'.map part)).runIn ctx = (runParts chain (xs.map part)).runIn ctx := by
  refine runParts_of_alike ?_
  rw [List.zip_map_left, List.forall₂_map_left_iff, List.forall₂_map_right_iff]
  exact h.imp fun p x' hp => hR p.2 p.1 x' hp

theorem runIn_map_congr {α γ : Type} {m m' : Session ExpandError α} {ctx : Context} (f : α → γ)
    (h : m'.runIn ctx = m.runIn ctx) : (f <$> m').runIn ctx = (f <$> m).runIn ctx := by
  rw [runIn_map, runIn_map, h]

/-- A scope comes to the same, with the same context behind it, when branches that its run does
not take have other bodies and the `else if`s behind taken ones other conditions. -/
theorem expand_of_untaken_replaced (ctx : Context) :
    (∀ items items' : List Json,
      List.Forall₂ (fun p item' => ItemVariant p.2 p.1 item')
        (items.zip (fates .closed ctx (items.map .ofItem))) items' →
      (expand (.array items')).runIn ctx = (expand (.array items)).runIn ctx) ∧
      ∀ fields fields' : List (String × Json),
        List.Forall₂ (fun p field' => FieldVariant p.2 p.1 field')
          (fields.zip (fates .closed ctx (fields.map .ofField))) fields' →
        (expand (.object fields')).runIn ctx = (expand (.object fields)).runIn ctx := by
  simp only [expand_array, expand_object]
  constructor
  · intro items items' h
    have hrun := runParts_map_of_variants Part.ofItem (fun _ _ _ h => ItemVariant.alike h) h
    exact runIn_map_congr arrayNode hrun
  · intro fields fields' h
    have hrun := runParts_map_of_variants Part.ofField (fun _ _ _ h => FieldVariant.alike h) h
    exact runIn_map_congr objectNode hrun

/-- An array that fails at a second `else`, with other bodies and another condition behind the
taken branch that is no expression; and an object with a body that no field may have. -/
theorem expand_of_untaken_replaced_invalid :
    let ctx := Context.ofSettings {} ⟨2024, 6, 1, 9, 15, 0, 0, 7200⟩
    let entry (key : String) (body : Json) : Json := .object [(key, body)]
    let items : List Json :=
      [entry "$\x7bif:true\x7d" (.string "a"), entry "$\x7belse if:b\x7d" (.string "c"),
        .string "t", entry "$\x7belse\x7d" .null, entry "$\x7belse\x7d" .null,
        entry "$\x7bif:d\x7d" .null]
    let items' : List Json :=
      [entry "$\x7bif:true\x7d" (.string "a"),
        entry "$\x7belse if:1 +\x7d" (entry "$\x7berror\x7d" (.string "no")),
        .string "t", entry "$\x7belse\x7d" (.string "$\x7b1 +\x7d"),
        entry "$\x7belse\x7d" (.bool true), entry "$\x7bif:d\x7d" (.array [])]
    let fields : List (String × Json) :=
      [("$\x7bif:false\x7d", .null), ("$\x7belse if:true\x7d", .object [("a", .null)]),
        ("$\x7belse\x7d", .null)]
    let fields' : List (String × Json) :=
      [("$\x7bif:false\x7d", .string "b"), ("$\x7belse if:true\x7d", .object [("a", .null)]),
        ("$\x7belse\x7d", .bool true)]
    (List.Forall₂ (fun p item' => ItemVariant p.2 p.1 item')
        (items.zip (fates .closed ctx (items.map .ofItem))) items' ∧
      (expand (.array items')).runIn ctx = (expand (.array items)).runIn ctx) ∧
      List.Forall₂ (fun p field' => FieldVariant p.2 p.1 field')
        (fields.zip (fates .closed ctx (fields.map .ofField))) fields' ∧
      (expand (.object fields')).runIn ctx = (expand (.object fields)).runIn ctx := by
  intro ctx entry items items' fields fields'
  have hitems : List.Forall₂ (fun p item' => ItemVariant p.2 p.1 item')
      (items.zip (fates .closed ctx (items.map .ofItem))) items' := by
    have hfates : fates .closed ctx (items.map .ofItem) =
        [.expanded, .passed, .expanded, .untaken, .untaken, .unreached] := by decide +kernel
    rw [hfates]
    refine .cons (.same _ _) (.cons (.entry ?_) (.cons (.same _ _) (.cons (.entry ?_)
      (.cons (.entry ?_) (.cons (.entry ?_) .nil)))))
    · refine .condition _ _ ⟨"$\x7belse if:", "b", "1 +", ?_, ?_, ?_, ?_⟩ (.inl rfl) <;>
        decide
    · exact .body _ _ (by decide) (by decide)
    · exact .body _ _ (by decide) (by decide)
    · exact .body _ _ (by decide) (by decide)
  have hfields : List.Forall₂ (fun p field' => FieldVariant p.2 p.1 field')
      (fields.zip (fates .closed ctx (fields.map .ofField))) fields' := by
    have hfates : fates .closed ctx (fields.map .ofField) = [.untaken, .expanded, .untaken] := by
      decide +kernel
    rw [hfates]
    refine .cons (.body _ _ ?_ ?_) (.cons (.same _ _) (.cons (.body _ _ ?_ ?_) .nil))
    · decide
    · decide
    · decide
    · decide
  exact ⟨⟨hitems, (expand_of_untaken_replaced ctx).1 items items' hitems⟩, hfields,
    (expand_of_untaken_replaced ctx).2 fields fields' hfields⟩

end RowTemplate.Template
