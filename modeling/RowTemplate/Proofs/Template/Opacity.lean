import RowTemplate.Proofs.Context.Alike
import RowTemplate.Row.Batch

/-! # Opacity of values

The texts that an expansion evaluates are those that the template itself holds.
What a row, a variable, a loop or an evaluation brings in is copied and never
read: an evaluator that treats all other texts differently makes no difference.
-/

namespace RowTemplate.Template

/-- An expansion depends on the answers to the expression texts of the template only, whatever
texts the context and its row hold: evaluators that agree on those give the same outcome and the
same bindings. -/
theorem expand_eq_of_agreesOn_texts (template : Json) (ctx : Context) {e₁ e₂ : Evaluator}
    (h : e₁.AgreesOn (texts template) e₂) :
    let ctx₁ := { ctx with evaluator := e₁ }
    let ctx₂ := { ctx with evaluator := e₂ }
    (((expand template).runIn ctx₁).1 = ((expand template).runIn ctx₂).1 ∧
        ((expand template).runIn ctx₁).2.bindings = ((expand template).runIn ctx₂).2.bindings) ∧
      ∀ row,
        (expandRow template row ctx₁).1 = (expandRow template row ctx₂).1 ∧
          (expandRow template row ctx₁).2.bindings = (expandRow template row ctx₂).2.bindings := by
  have hrun : ∀ b : Bindings,
      let ctx₁ : Context := ⟨b, e₁, ctx.fallback⟩
      let ctx₂ : Context := ⟨b, e₂, ctx.fallback⟩
      ((expand template).runIn ctx₁).1 = ((expand template).runIn ctx₂).1 ∧
        ((expand template).runIn ctx₁).2.bindings =
          ((expand template).runIn ctx₂).2.bindings := by
    intro b ctx₁ ctx₂
    obtain ⟨hout, hctx⟩ := (steps template).uniform ctx₁ ctx₂ ⟨rfl, rfl, h⟩
    exact ⟨hout, hctx.bindings⟩
  exact ⟨hrun ctx.bindings, fun row => hrun (ctx.bindings.loadRow row)⟩

/-- A row whose fields look like spans and directives, a variable and a loop that pass them on,
and a second evaluator that fails on every text that is not in the template. -/
theorem expand_eq_of_agreesOn_texts_guarded :
    let template : Json := .array
      [.object [("$\x7bvar x\x7d", .string "<$\x7bname\x7d>")],
        .object [("$\x7bfor i:items\x7d", .object [("$\x7bi\x7d", .string "$\x7bi:string\x7d")])],
        .object [("$\x7belse if:x\x7d", .string "$\x7bx\x7d$\x7bname\x7d")]]
    let ctx : Context := Context.ofSettings {} ⟨2024, 6, 1, 9, 15, 0, 0, 7200⟩
    let row := Row.object
      [("name", .string "$\x7bsecret\x7d"),
        ("items", .array [.string "$\x7berror\x7d", .string "secret"])]
    let own := ["name", "items", "i", "x"]
    let e₁ := Evaluator.plugged fun text b => .ok ((b.get? text).getD (.string text))
    let e₂ := Evaluator.plugged fun text b =>
      if text ∈ own then .ok ((b.get? text).getD (.string text)) else .error .overflow
    e₁.AgreesOn (texts template) e₂ ∧
      (expandRow template row { ctx with evaluator := e₁ }).1 =
        (expandRow template row { ctx with evaluator := e₂ }).1 := by
  intro template ctx row own e₁ e₂
  have htexts : ∀ text ∈ texts template, text ∈ own := by
    have : texts template = ["name", "items", "i", "i", "x", "x", "name"] := by decide +kernel
    simp [this, own]
  have h : e₁.AgreesOn (texts template) e₂ := by
    intro text ht b
    simp only [e₁, e₂, Evaluator.answer, htexts text ht, if_true]
  exact ⟨h, ((expand_eq_of_agreesOn_texts template ctx h).2 row).1⟩

end RowTemplate.Template
