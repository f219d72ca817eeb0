import SexprShell.Script.Emit

/-!
# Templates in other contexts

`Template.adapted` changes the contexts that the expressions in a template are rendered in, and the
comments behind statements. The template of an expression in a changed context is its template in
the context itself, adapted, unless it is a sequence and the change is one for sequences
(`template_adapted`).
-/

namespace SexprShell.Script

open Sexpr Template

/-- A text that is finished in the same way, but for the comment behind a statement. -/
@[simp] def Finish.withComment (γ : String → String) : Finish → Finish
  | .statement comment => .statement (γ comment)
  | f => f

/-- A change of contexts that does not depend on the forms around, and what it does to comments. -/
structure Adapting (κ : Context → Context) (γ : String → String) : Prop where
  quiet (ctx : Context) : κ ctx.quiet = (κ ctx).quiet
  undelimited (ctx : Context) : κ ctx.undelimited = (κ ctx).undelimited
  comment (e : Sexpr) (ctx : Context) : γ (commentFor e ctx) = commentFor e (κ ctx)

variable {κ : Context → Context} {γ : String → String} {args : List Sexpr} {ctx : Context}

/-! ## Building templates -/

namespace Template

/-- A template with its expressions in changed contexts, and with changed comments. -/
@[simp] def adapted (κ : Context → Context) (γ : String → String) : Template → Template
  | text s => text s
  | sub e ctx => sub e (κ ctx)
  | fail f => fail f
  | append a b => append (a.adapted κ γ) (b.adapted κ γ)
  | late a b => late (a.adapted κ γ) (b.adapted κ γ)
  | chain op a b => chain op (a.adapted κ γ) (b.adapted κ γ)
  | finish f t => finish (f.withComment γ) (t.adapted κ γ)

/-- With its comments as they are, it is rendered as the template itself in changed contexts. -/
theorem render_adapted (emit : Sexpr → Context → Outcome) (t : Template) :
    (t.adapted κ id).render emit = t.render fun e ctx => emit e (κ ctx) := by
  induction t with
  | text | sub | fail => rfl
  | append a b iha ihb | late a b iha ihb | chain _ a b iha ihb =>
    simp only [adapted, render, iha, ihb]
  | finish f t ih =>
    have same : f.withComment id = f := by cases f <;> rfl
    simp only [adapted, render, ih, same]

@[simp] theorem adapted_concat : ∀ ts : List Template,
    (concat ts).adapted κ γ = concat (ts.map (adapted κ γ))
  | [] => rfl
  | [t] => rfl
  | t :: u :: ts => by
    have rest := adapted_concat (u :: ts)
    simp only [concat, adapted, rest, List.map_cons]

@[simp] theorem adapted_separated (sep : String) : ∀ ts : List Template,
    (separated sep ts).adapted κ γ = separated sep (ts.map (adapted κ γ))
  | [] => rfl
  | [t] => rfl
  | t :: u :: ts => by
    have rest := adapted_separated sep (u :: ts)
    simp only [separated, adapted, rest, List.map_cons]

@[simp] theorem adapted_chainOf (op : String) (ts : List Template) :
    (chainOf op ts).adapted κ γ = chainOf op (ts.map (adapted κ γ)) := by
  induction ts with
  | nil => rfl
  | cons t ts ih => simp only [chainOf, adapted, ih, List.map_cons]

@[simp] theorem map_adapted_each {es : List Sexpr} :
    (each es ctx).map (adapted κ γ) = each es (κ ctx) := by
  simp [each]

@[simp] theorem adapted_ofOutcome (o : Outcome) : (ofOutcome o).adapted κ γ = ofOutcome o := by
  cases o <;> rfl

end Template

theorem Adapting.statements (h : Adapting κ γ) (es : List Sexpr) :
    (statements es ctx).adapted κ γ = Template.statements es (κ ctx) := by
  simp [Template.statements, h.comment, Function.comp_def]

/-! ## Special forms -/

theorem adapted_command (head : Sexpr) :
    (command head args ctx).adapted κ γ = command head args (κ ctx) := by
  simp [command, Function.comp_def]

theorem adapted_branch (e : Sexpr) : (branch e ctx).adapted κ γ = branch e (κ ctx) := rfl

theorem adapted_alternative : (alternative args ctx).adapted κ γ = alternative args (κ ctx) := by
  unfold alternative
  split <;> rfl

theorem adapted_condition (negated : Bool) :
    (condition negated args ctx).adapted κ γ = condition negated args (κ ctx) := by
  cases negated <;> rfl

theorem adapted_choice : (choice args ctx).adapted κ γ = choice args (κ ctx) := by
  unfold choice
  split
  · rfl
  · have arms : adapted κ γ ∘ arm ctx = arm (κ ctx) := by
      funext clause
      simp [arm]
    simp [arms]

theorem Adapting.iteration (h : Adapting κ γ) :
    (iteration args ctx).adapted κ γ = Script.iteration args (κ ctx) := by
  unfold Script.iteration
  split
  · simp only [adapted, adapted_concat, List.map_cons, List.map_nil, h.statements, h.undelimited]
  · rfl

theorem adapted_setEntries (target : Sexpr) (entries : List (Sexpr × Sexpr)) :
    (setEntries target entries ctx).adapted κ γ = setEntries target entries (κ ctx) := by
  simp [setEntries, setEntry, mungedSub, Function.comp_def]

theorem adapted_newVariable : (newVariable args ctx).adapted κ γ = newVariable args (κ ctx) := by
  unfold newVariable
  split
  · simp [checkedName, adapted_setEntries]
  · rfl

theorem adapted_merge : (merge args ctx).adapted κ γ = merge args (κ ctx) := by
  unfold merge
  split
  · exact adapted_setEntries _ _
  · rfl

theorem Adapting.expansion (h : Adapting κ γ) :
    (expansion args ctx).adapted κ γ = Script.expansion args (κ ctx) := by
  unfold Script.expansion
  split
  · rfl
  · split
    · simp [h.quiet]
    · split <;> simp [h.quiet]

theorem adapted_operator (op : String) :
    (Operator.template op args ctx).adapted κ γ = Operator.template op args (κ ctx) := by
  have operand (e : Sexpr) : (Operator.operand op e ctx).adapted κ γ =
      Operator.operand op e (κ ctx) := by
    unfold Operator.operand
    split <;> rfl
  unfold Operator.template
  split
  · simp [operand]
  · rfl

theorem Adapting.function (h : Adapting κ γ) (name doc signature : Sexpr) (body : List Sexpr) :
    (function name doc signature body ctx).adapted κ γ =
      Script.function name doc signature body (κ ctx) := by
  unfold Script.function
  split
  · split
    · rfl
    · simp [argumentNames, h.statements, Function.comp_def]
  · rfl

theorem Adapting.definition (h : Adapting κ γ) :
    (definition args ctx).adapted κ γ = Script.definition args (κ ctx) := by
  unfold Script.definition
  split
  · exact h.function _ _ _ _
  · rfl
  · rfl
  · exact h.function _ _ _ _

theorem Adapting.special (h : Adapting κ γ) (special : Special) :
    (special.template args ctx).adapted κ γ = special.template args (κ ctx) := by
  cases special with
  | conditional negated =>
    simp [Special.template, conditional, adapted_condition, adapted_branch, adapted_alternative]
  | guarded negated => simp [Special.template, guarded, adapted_condition, h.statements]
  | choice => exact adapted_choice
  | loop => simp [Special.template, loop, h.statements]
  | iteration => exact h.iteration
  | newVariable => exact adapted_newVariable
  | merge => exact adapted_merge
  | expansion => exact h.expansion
  | definition => exact h.definition
  | group | block | chain | concatenation | quotation | echo | method | dotted | construction =>
    simp [Special.template, grouped, concatenation, quotation, words, echo, methodCall,
      construction, argumentList, h.statements]
  | _ => rfl

/-- The template of an expression in a changed context. Only a sequence asks whether it is to be
delimited. -/
theorem template_adapted (h : Adapting κ γ) {e : Sexpr}
    (hseq : e.isSeq = false ∨ (κ ctx).delimited = ctx.delimited) :
    (template e ctx).adapted κ γ = template e (κ ctx) := by
  cases e with
  | form items location =>
    simp only [template, formTemplate]
    split
    · split
      · exact h.special _
      · split
        · exact adapted_operator _
        · exact adapted_command _
    · exact adapted_command _
  | seq kind items =>
    have delimited : (κ ctx).delimited = ctx.delimited := hseq.resolve_left (by simp [isSeq])
    simp only [template, sequence, delimited]
    split <;> simp
  | map entries =>
    have literals : adapted κ γ ∘ entryLiteral ctx = entryLiteral (κ ctx) := by
      funext entry
      simp [entryLiteral]
    simp [template, mapping, literals]
  | _ =>
    simp only [template]
    exact adapted_ofOutcome _

end SexprShell.Script
