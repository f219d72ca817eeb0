import SexprShell.Proofs.Script.Children
import SexprShell.Proofs.Script.Defect
import SexprShell.Script.Dialect

/-!
# Entry points

A form can be rendered as an expression, or by the operation for its kind: as a special form, an
infix operator or a call, as a function, as a script. The two agree (`emit_agrees`), since an
expression is its template with the form attached to failures, and the operations render the
template alone.
-/

namespace SexprShell.Script

open Sexpr Template

/-- The infix operator that an expression is the head of. Only symbols are. -/
def Operator.ofHead? : Sexpr → Option String
  | .name .symbol s => if isInfix s then some s else none
  | _ => none

/-- Outcomes of rendering a form in two ways: the same text, or failures for the same cause. The
first may have the head of the form for a rule where the second has none, and they may differ in the
attached form and its location. -/
inductive Agree (n : Sexpr) : Outcome → Outcome → Prop where
  | text (s : String) : Agree n (.ok s) (.ok s)
  | overflow : Agree n (.error .overflow) (.error .overflow)
  | refused {f g : EmitError} : f.cause = g.cause →
      f.rule = g.rule ∨ g.rule = none ∧ f.rule = n.headName? →
      Agree n (.error (.refused f)) (.error (.refused g))

theorem Agree.refl (n : Sexpr) (o : Outcome) : Agree n o o := by
  rcases o with (_ | f) | s
  · exact .overflow
  · exact .refused rfl (.inl rfl)
  · exact .text s

theorem EmitError.cause_attach (n : Sexpr) (f : EmitError) : (f.attach n).cause = f.cause := by
  unfold attach
  split <;> rfl

/-- Attaching a form adds its head as a rule at most. -/
theorem EmitError.rule_attach (n : Sexpr) (f : EmitError) :
    (f.attach n).rule = f.rule ∨ f.rule = none ∧ (f.attach n).rule = n.headName? := by
  unfold attach
  split
  · exact .inl rfl
  · cases f.rule with
    | none => exact .inr ⟨rfl, rfl⟩
    | some r => exact .inl rfl

theorem agree_mapError_within (n : Sexpr) (o : Outcome) :
    Agree n (o.mapError (Failure.within n)) o := by
  rcases o with (_ | f) | s
  · exact .overflow
  · change Agree n (.error (if n.isForm then .refused (f.attach n) else .refused f))
      (.error (.refused f))
    split
    · exact .refused (f.cause_attach n) (f.rule_attach n)
    · exact .refl n _
  · exact .text s

/-- An expression agrees with its template. -/
theorem agree_render {n : Sexpr} {ctx : Context} {t : Template} (h : template n ctx = t) :
    Agree n (emit n ctx) (t.render emit) := by
  rw [emit_eq, h]
  exact agree_mapError_within n _

/-! ## Heads -/

section

variable {items : List Sexpr} {location : Option Location} {ctx : Context}

theorem Special.ofHead?_of_operator {h : Sexpr} {op : String} (hop : Operator.ofHead? h = some op) :
    h = .symbol op ∧ Operator.isInfix op ∧ ofHead? h = none := by
  unfold Operator.ofHead? at hop
  split at hop
  · split at hop
    · next hinfix =>
      cases hop
      exact ⟨rfl, hinfix, ofSymbol?_of_isInfix hinfix⟩
    · cases hop
  · cases hop

theorem template_of_operatorHead {op : String} (hop : Operator.ofHead? (headOf items) = some op) :
    template (.form items location) ctx = Operator.template op items.tail ctx := by
  obtain ⟨hhead, hinfix, hspecial⟩ := Special.ofHead?_of_operator hop
  cases items with
  | nil => cases hhead
  | cons x args =>
    obtain rfl : x = .symbol op := hhead
    exact template_of_operator hspecial hinfix

/-- A form whose head is neither special nor an operator is a command, also without any head. -/
theorem template_of_commandHead (hspecial : Special.ofHead? (headOf items) = none)
    (hop : Operator.ofHead? (headOf items) = none) :
    template (.form items location) ctx = command (headOf items) items.tail ctx := by
  cases items with
  | nil => rfl
  | cons x args =>
    change Special.ofHead? x = none at hspecial
    change Operator.ofHead? x = none at hop
    cases hx : x.isSymbol with
    | false => exact template_of_not_symbol hx
    | true =>
      obtain ⟨s, rfl⟩ := exists_eq_symbol hx
      cases hinfix : Operator.isInfix s with
      | false => exact template_of_word hspecial hinfix
      | true => simp [Operator.ofHead?, hinfix] at hop

end

/-! ## Functions -/

/-- Only a text after the name is a help text. -/
theorem definition_of_not_text {signature : Sexpr} (h : signature.isText = false) (name : Sexpr)
    (body : List Sexpr) (ctx : Context) :
    definition (name :: signature :: body) ctx = function name .nil signature body ctx := by
  cases signature with
  | text s => cases h
  | _ => rfl

/-! ## Agreement -/

/-- The ways to render a form agree. Its head is special, or an infix operator, or neither, and the
operation for each of the three agrees with rendering the form as an expression. So does a function
with a definition of it, with a help text or without, and a script with a block. -/
theorem emit_agrees :
    (∀ (items : List Sexpr) (location : Option Location) (ctx : Context),
      let n := Sexpr.form items location
      (∃ special, Special.ofHead? n.head = some special ∧ Operator.ofHead? n.head = none ∧
        Agree n (emit n ctx) (Dialect.bash.renderSpecial n ctx)) ∨
      (∃ op, Special.ofHead? n.head = none ∧ Operator.ofHead? n.head = some op ∧
        Agree n (emit n ctx) (Dialect.bash.renderInfix op n.args ctx)) ∨
      (Special.ofHead? n.head = none ∧ Operator.ofHead? n.head = none ∧
        Agree n (emit n ctx) (Dialect.bash.renderCall n.head n.args ctx))) ∧
    (∀ (name signature : Sexpr) (doc : String) (body : List Sexpr) (location : Option Location)
      (ctx : Context),
      let n := Sexpr.form (.symbol "defn" :: name :: .text doc :: signature :: body) location
      Agree n (emit n ctx) (emitFunction name (.text doc) signature body ctx) ∧
      Agree n (emit n ctx) (Dialect.bash.renderFunction name (.text doc) signature body ctx)) ∧
    (∀ (name signature : Sexpr) (body : List Sexpr) (location : Option Location) (ctx : Context),
      signature.isText = false →
      let n := Sexpr.form (.symbol "defn" :: name :: signature :: body) location
      Agree n (emit n ctx) (emitFunction name .nil signature body ctx)) ∧
    ∀ (es : List Sexpr) (location : Option Location) (ctx : Context),
      let n := Sexpr.form (.symbol "do" :: es) location
      Agree n (emit n ctx) (emitScript es ctx) := by
  have defn : Special.ofSymbol? "defn" = some .definition := by decide
  have block : Special.ofSymbol? "do" = some .block := by decide
  refine ⟨?_, ?_, ?_, ?_⟩
  · intro items location ctx n
    cases hop : Operator.ofHead? n.head with
    | some op =>
      have hspecial := (Special.ofHead?_of_operator hop).2.2
      exact .inr (.inl ⟨op, hspecial, rfl, agree_render (template_of_operatorHead hop)⟩)
    | none =>
      cases hspecial : Special.ofHead? n.head with
      | some special =>
        refine .inl ⟨special, rfl, rfl, ?_⟩
        rw [Dialect.renderSpecial, hspecial]
        exact .refl n _
      | none => exact .inr (.inr ⟨rfl, rfl, agree_render (template_of_commandHead hspecial hop)⟩)
  · intro name signature doc body location ctx n
    have agree : Agree n (emit n ctx) (emitFunction name (.text doc) signature body ctx) :=
      agree_render ((template_of_special defn).trans rfl)
    exact ⟨agree, agree⟩
  · intro name signature body location ctx hsignature n
    exact agree_render
      ((template_of_special defn).trans (definition_of_not_text hsignature name body ctx))
  · intro es location ctx n
    exact agree_render (template_of_special block)

/-- A function of one argument that passes it on. -/
theorem emit_agrees_function :
    let signature := Sexpr.seq .list [.symbol "x"]
    let body := [Sexpr.form [.symbol "build", .symbol "$x"] none]
    let n := Sexpr.form (.symbol "defn" :: .symbol "f" :: signature :: body) none
    signature.isText = false ∧
    emitFunction (.symbol "f") .nil signature body {} = .ok "f() \x7b\nx=$1\nbuild $x\n\x7d\n" ∧
    Agree n (emit n {}) (emitFunction (.symbol "f") .nil signature body {}) := by
  intro signature body n
  exact ⟨rfl, rfl, emit_agrees.2.2.1 (.symbol "f") signature body none {} rfl⟩

end SexprShell.Script
