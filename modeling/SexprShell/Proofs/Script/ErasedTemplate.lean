import SexprShell.Proofs.Script.Erasure
import SexprShell.Proofs.Script.Provenance

/-!
# Templates without locations

`Template.erased` takes the locations out of the expressions in a template. Where no comments are
due to locations, the template of an expression without its locations is the template without them
(`template_erased`), and it is rendered in the same way if that holds of the expressions in it
(`Template.render_erased`).
-/

namespace SexprShell.Script

open Sexpr

/-! ## Templates -/

/-- A change of contexts that leaves sequences as they are, and does not depend on the forms
around. -/
structure Dimming (κ : Context → Context) : Prop where
  delimited (ctx : Context) : (κ ctx).delimited = ctx.delimited
  quiet (ctx : Context) : κ ctx.quiet = (κ ctx).quiet
  undelimited (ctx : Context) : κ ctx.undelimited = (κ ctx).undelimited

theorem dimming_id : Dimming id where
  delimited _ := rfl
  quiet _ := rfl
  undelimited _ := rfl

theorem dimming_quiet : Dimming Context.quiet where
  delimited _ := rfl
  quiet _ := rfl
  undelimited _ := rfl

namespace Template

/-- A template with the locations taken out of all expressions, in changed contexts. -/
@[simp] def erased (κ : Context → Context) : Template → Template
  | text s => text s
  | sub e ctx => sub e.unlocated (κ ctx)
  | fail f => fail f.unlocated
  | append a b => append (a.erased κ) (b.erased κ)
  | late a b => late (a.erased κ) (b.erased κ)
  | chain op a b => chain op (a.erased κ) (b.erased κ)
  | finish f t => finish f (t.erased κ)

variable {κ : Context → Context} {emit : Sexpr → Context → Outcome} {f : Failure}

/-- Of two outcomes that are both needed, changing the failures changes the failure of both. -/
theorem both_mapError {φ : Failure → Failure} {k : String → String → String} (x y : Outcome) :
    (do let a ← x.mapError φ; let b ← y.mapError φ; .ok (k a b) : Outcome) =
      (do let a ← x; let b ← y; .ok (k a b) : Outcome).mapError φ := by
  cases x with
  | error g => rfl
  | ok a => cases y <;> rfl

/-- To put a text into shape fails for no reason that has a location. -/
theorem apply_unlocated (x : Finish) (s : String) :
    (x.apply s).mapError Failure.unlocated = x.apply s := by
  cases x with
  | identifier rule =>
    simp only [Finish.apply, Script.identifier]
    split <;> rfl
  | _ => rfl

theorem render_erased {t : Template} (h : ∀ q ∈ t.subs,
    emit q.1.unlocated (κ q.2) = (emit q.1 q.2).mapError Failure.unlocated) :
    (t.erased κ).render emit = (t.render emit).mapError Failure.unlocated := by
  induction t with
  | text s => rfl
  | sub e ctx => exact h (e, ctx) (by simp [subs])
  | fail f => rfl
  | append a b iha ihb | chain _ a b iha ihb =>
    simp only [subs, List.mem_append] at h
    have ha := iha fun q hq => h q (.inl hq)
    have hb := ihb fun q hq => h q (.inr hq)
    simp only [erased, render, ha, hb]
    exact both_mapError _ _
  | late a b iha ihb =>
    simp only [subs, List.mem_append] at h
    have ha := iha fun q hq => h q (.inr hq)
    have hb := ihb fun q hq => h q (.inl hq)
    simp only [erased, render, ha, hb]
    exact both_mapError (k := fun y x => x ++ y) _ _
  | finish x t ih =>
    simp only [erased, render, ih h]
    cases t.render emit with
    | error g => rfl
    | ok s => exact (apply_unlocated x s).symm

/-! ## Parts of templates -/

variable {ts : List Template} {es : List Sexpr} {ctx : Context}

@[simp] theorem erased_concat : ∀ ts : List Template,
    (concat ts).erased κ = concat (ts.map (erased κ))
  | [] => rfl
  | [t] => rfl
  | t :: u :: ts => by
    have rest := erased_concat (u :: ts)
    simp only [concat, erased, rest, List.map_cons]

@[simp] theorem erased_separated (sep : String) : ∀ ts : List Template,
    (separated sep ts).erased κ = separated sep (ts.map (erased κ))
  | [] => rfl
  | [t] => rfl
  | t :: u :: ts => by
    have rest := erased_separated sep (u :: ts)
    simp only [separated, erased, rest, List.map_cons]

@[simp] theorem erased_chainOf (op : String) (ts : List Template) :
    (chainOf op ts).erased κ = chainOf op (ts.map (erased κ)) := by
  induction ts with
  | nil => rfl
  | cons t ts ih => simp only [chainOf, erased, ih, List.map_cons]

@[simp] theorem map_erased_each :
    (each es ctx).map (erased κ) = each (es.map Sexpr.unlocated) (κ ctx) := by
  simp [each]

@[simp] theorem erased_ofOutcome (o : Outcome) :
    (ofOutcome o).erased κ = ofOutcome (o.mapError Failure.unlocated) := by
  cases o <;> rfl

end Template

/-! ## Special forms -/

open Template

variable {κ : Context → Context} {args es : List Sexpr} {ctx : Context} {e : Sexpr}

/-- No comment is due to the locations in an expression: there are no comments, or no locations. -/
def Silent (ctx : Context) (e : Sexpr) : Prop := ctx.comments = false ∨ e.unlocated = e

theorem commentFor_unlocated (h : Silent ctx e) :
    commentFor e.unlocated (κ ctx) = commentFor e ctx := by
  have nowhere : commentFor e.unlocated (κ ctx) = "" := by
    unfold commentFor
    rw [location?_unlocated]
    split
    · next h => cases h
    · rfl
  rw [nowhere]
  rcases h with h | h
  · simp [commentFor, h]
  · rw [← h]
    simp [commentFor]

theorem erased_statements (h : ∀ e ∈ es, Silent ctx e) :
    (statements es ctx).erased κ = statements (es.map unlocated) (κ ctx) := by
  rw [statements, erased_concat, statements, List.map_map, List.map_map]
  congr 1
  refine List.map_congr_left fun e he => ?_
  simp [commentFor_unlocated (h e he)]

theorem erased_words : (words args ctx).erased κ = words (args.map unlocated) (κ ctx) := by
  simp [words]

theorem erased_argumentList :
    (argumentList args ctx).erased κ = argumentList (args.map unlocated) (κ ctx) := by
  simp [argumentList]

theorem erased_methodCall (object method : Sexpr) : (methodCall object method args ctx).erased κ =
    methodCall object.unlocated method.unlocated (args.map unlocated) (κ ctx) := by
  simp [methodCall, erased_argumentList]

theorem erased_command (head : Sexpr) : (command head args ctx).erased κ =
    command head.unlocated (args.map unlocated) (κ ctx) := by
  simp [command, Function.comp_def]

theorem erased_condition (negated : Bool) : (condition negated args ctx).erased κ =
    condition negated (args.map unlocated) (κ ctx) := by
  cases negated <;> simp [condition]

theorem erased_branch : (branch e ctx).erased κ = branch e.unlocated (κ ctx) := by
  simp [branch]

theorem isBranch_unlocated (e : Sexpr) : isBranch e.unlocated = isBranch e := by
  cases e <;> rfl

theorem erased_alternative :
    (alternative args ctx).erased κ = alternative (args.map unlocated) (κ ctx) := by
  unfold alternative
  rw [argAt_unlocated, isBranch_unlocated]
  split <;> simp [erased_branch]

theorem erased_setEntry (target : Sexpr) (p : Sexpr × Sexpr) :
    (setEntry target ctx p).erased κ =
      setEntry target.unlocated (κ ctx) (p.1.unlocated, p.2.unlocated) := by
  simp [setEntry, mungedSub]

theorem erased_setEntries (target : Sexpr) (entries : List (Sexpr × Sexpr)) :
    (setEntries target entries ctx).erased κ =
      setEntries target.unlocated (unlocatedEntries entries) (κ ctx) := by
  simp [setEntries, unlocatedEntries_eq_map, erased_setEntry, Function.comp_def]

theorem map_unlocated_drop (n : Nat) :
    (args.map unlocated).drop n = (args.drop n).map unlocated :=
  List.map_drop.symm

theorem erased_choice : (choice args ctx).erased κ = choice (args.map unlocated) (κ ctx) := by
  unfold choice
  rw [map_unlocated_drop, List.length_map, pairUp_map]
  split
  · rfl
  · simp [arm, Function.comp_def]

theorem erased_newVariable :
    (newVariable args ctx).erased κ = newVariable (args.map unlocated) (κ ctx) := by
  unfold newVariable
  rw [argAt_unlocated, argAt_unlocated]
  cases argAt args 1 <;> simp [checkedName, unlocated, erased_setEntries]

theorem erased_merge : (merge args ctx).erased κ = merge (args.map unlocated) (κ ctx) := by
  unfold merge
  rw [argAt_unlocated, argAt_unlocated]
  cases argAt args 1 <;> simp [unlocated, erased_setEntries] <;> rfl

theorem erased_iteration (hκ : Dimming κ) (h : ∀ e ∈ args, Silent ctx e) :
    (iteration args ctx).erased κ = iteration (args.map unlocated) (κ ctx) := by
  have body : (statements (args.drop 1) ctx).erased κ =
      statements ((args.map unlocated).drop 1) (κ ctx) := by
    rw [map_unlocated_drop]
    exact erased_statements fun e he => h e (List.mem_of_mem_drop he)
  unfold iteration
  rw [argAt_unlocated]
  cases argAt args 0 with
  | seq kind items =>
    match items with
    | [target, values] =>
      simp [unlocated_seq, body, hκ.undelimited, -List.drop_one]
    | [] | [_] | _ :: _ :: _ :: _ => rfl
  | _ => rfl

theorem optionValue?_unlocated (pairs : List (Sexpr × Sexpr)) (option : String) :
    optionValue? (pairs.map fun p => (p.1.unlocated, p.2.unlocated)) option =
      (optionValue? pairs option).map unlocated := by
  simp [optionValue?, ← List.map_reverse, List.find?_map, Function.comp_def]

theorem chosenOption?_unlocated (pairs : List (Sexpr × Sexpr)) :
    chosenOption? (pairs.map fun p => (p.1.unlocated, p.2.unlocated)) =
      (chosenOption? pairs).map fun o => (o.1, o.2.unlocated) := by
  simp only [chosenOption?, optionValue?_unlocated]
  generalize expansionOptions = options
  induction options with
  | nil => rfl
  | cons o options ih =>
    simp only [List.findSome?_cons, ih]
    cases optionValue? pairs o.1 <;> rfl

theorem erased_expansion (hκ : Dimming κ) :
    (expansion args ctx).erased κ = expansion (args.map unlocated) (κ ctx) := by
  unfold expansion
  rw [map_unlocated_drop, List.length_map, argAt_unlocated, pairUp_map, chosenOption?_unlocated]
  split
  · rfl
  · cases h : argAt args 0 with
    | form items location => simp [unlocated, hκ.quiet]
    | _ =>
      simp only [unlocated]
      cases chosenOption? (pairUp (args.drop 1)) <;> simp [hκ.quiet, unlocated]

theorem erased_operator (op : String) : (Operator.template op args ctx).erased κ =
    Operator.template op (args.map unlocated) (κ ctx) := by
  have operand : ∀ e, (Operator.operand op e ctx).erased κ =
      Operator.operand op e.unlocated (κ ctx) := by
    intro e
    unfold Operator.operand
    split <;> rfl
  cases args with
  | nil => rfl
  | cons x args =>
    cases args with
    | nil => rfl
    | cons y args => simp [Operator.template, operand]

/-! ## Functions -/

theorem erased_argumentNames (names : List String) :
    (argumentNames names ctx).erased κ = argumentNames names (κ ctx) := by
  simp [argumentNames, Function.comp_def, unlocated]

theorem erased_function {name doc signature : Sexpr} {body : List Sexpr}
    (h : ∀ e ∈ body, Silent ctx e) :
    (function name doc signature body ctx).erased κ =
      function name.unlocated doc.unlocated signature.unlocated (body.map unlocated) (κ ctx) := by
  cases name with
  | name kind s =>
    cases kind with
    | symbol =>
      simp only [function, unlocated, Signature.ofSexpr_unlocated]
      cases Signature.ofSexpr signature with
      | error f => rfl
      | ok g =>
        simp [Except.map, mapError_ok, Signature.unlocated, erased_argumentNames,
          erased_statements h, declarations_unlocated]
    | _ => rfl
  | _ => rfl

theorem erased_definition (h : ∀ e ∈ args, Silent ctx e) :
    (definition args ctx).erased κ = definition (args.map unlocated) (κ ctx) := by
  have hdrop : ∀ e ∈ args.drop 1, Silent ctx e := fun e he => h e (List.mem_of_mem_drop he)
  unfold definition
  rw [map_unlocated_drop, argAt_unlocated]
  generalize args.drop 1 = rest at hdrop
  match rest with
  | [] => rfl
  | [x] =>
    cases x with
    | text doc => rfl
    | _ => exact erased_function (List.forall_mem_nil _)
  | x :: y :: rest =>
    simp only [List.forall_mem_cons] at hdrop
    cases x with
    | text doc => exact erased_function hdrop.2.2
    | _ => exact erased_function (List.forall_mem_cons.mpr hdrop.2)

/-! ## All templates -/

theorem Special.erased (hκ : Dimming κ) (special : Special) (h : ∀ e ∈ args, Silent ctx e) :
    (special.template args ctx).erased κ = special.template (args.map unlocated) (κ ctx) := by
  have body : (statements (args.drop 1) ctx).erased κ =
      statements ((args.map unlocated).drop 1) (κ ctx) := by
    rw [map_unlocated_drop]
    exact erased_statements fun e he => h e (List.mem_of_mem_drop he)
  cases special with
  | fileTest flag => simp [Special.template, Script.fileTest]
  | negation => simp [Special.template, Script.negation]
  | conditional negated =>
    simp [Special.template, Script.conditional, erased_condition, erased_branch, erased_alternative]
  | guarded negated =>
    simp [Special.template, Script.guarded, erased_condition, body, -List.drop_one]
  | choice => exact erased_choice
  | loop => simp [Special.template, Script.loop, body, -List.drop_one]
  | iteration => exact erased_iteration hκ h
  | group => simp [Special.template, grouped, erased_statements h]
  | block => exact erased_statements h
  | chain op => simp [Special.template]
  | returning => simp [Special.template, Script.returning]
  | assignment a => simp [Special.template, Script.assignment]
  | newVariable => exact erased_newVariable
  | setVariable => simp [Special.template, Script.setVariable, checkedName]
  | merge => exact erased_merge
  | associate =>
    simp [Special.template, Script.associate, checkedName, erased_setEntry]
  | setItem => simp [Special.template, Script.setItem]
  | lookup => simp [Special.template, Script.lookup, mungedSub]
  | item => simp [Special.template, Script.item]
  | expansion => exact erased_expansion hκ
  | concatenation => simp [Special.template, Script.concatenation]
  | quotation => simp [Special.template, Script.quotation, erased_words]
  | echo newline => simp [Special.template, Script.echo, erased_words]
  | method => simp [Special.template, erased_methodCall]
  | dotted m => simp [Special.template, erased_methodCall, unlocated]
  | construction =>
    simp [Special.template, Script.construction, erased_argumentList]
  | definition => exact erased_definition h

theorem unlocated_of_mem_parts {x : Sexpr} (h : e.unlocated = e) (hx : x ∈ e.parts) :
    x.unlocated = x := by
  cases e with
  | seq kind items =>
    rw [unlocated_seq, Sexpr.seq.injEq] at h
    exact List.map_inj_left.mp (h.2.trans (List.map_id items).symm) x hx
  | form items location =>
    rw [unlocated_form, Sexpr.form.injEq] at h
    exact List.map_inj_left.mp (h.1.trans (List.map_id items).symm) x hx
  | map entries =>
    rw [unlocated, Sexpr.map.injEq, unlocatedEntries_eq_map] at h
    obtain ⟨p, hp, hx⟩ := mem_keysAndValues.mp hx
    have same := List.map_inj_left.mp (h.trans (List.map_id entries).symm) p hp
    rw [id, Prod.ext_iff] at same
    rcases hx with rfl | rfl
    · exact same.1
    · exact same.2
  | _ => cases hx

theorem Silent.part {x : Sexpr} (h : Silent ctx e) (hx : x ∈ e.parts) : Silent ctx x :=
  h.imp_right fun h => unlocated_of_mem_parts h hx

theorem template_erased (hκ : Dimming κ) (h : Silent ctx e) :
    (template e ctx).erased κ = template e.unlocated (κ ctx) := by
  cases e with
  | form items location =>
    have hargs : ∀ x ∈ items.tail, Silent ctx x := fun x hx => h.part (List.mem_of_mem_tail hx)
    have head : headOf (items.map unlocated) = (headOf items).unlocated := by
      cases items <;> rfl
    rw [unlocated_form]
    simp only [template, formTemplate, head, ← List.map_tail]
    cases headOf items with
    | name kind s =>
      cases kind with
      | symbol =>
        simp only [unlocated]
        cases Special.ofSymbol? s with
        | some special => exact special.erased hκ hargs
        | none =>
          simp only
          split
          · exact erased_operator s
          · exact erased_command _
      | keyword | bare => exact erased_command _
    | _ => exact erased_command _
  | seq kind items =>
    rw [unlocated_seq]
    simp only [template, sequence, hκ.delimited]
    split <;> simp
  | map entries =>
    simp [template, unlocated, mapping, entryLiteral, unlocatedEntries_eq_map, Function.comp_def]
  | _ =>
    simp only [template, unlocated, erased_ofOutcome, ← literal_unlocated]

end SexprShell.Script
