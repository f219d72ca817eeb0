import SexprShell.Proofs.Script.FunctionText
import SexprShell.Script.Dialect

/-!
# Where failures are located

A refusal gets its form and the location of that form together, when it passes the form on its way
out. So whatever is rendered, a refusal that names a form cites its location
(`run_located_iff`). The operation for special forms names a form with another head by itself, which
then is not located.
-/

namespace SexprShell.Script

open Sexpr Template

/-- The operations that render something. -/
inductive Operation where
  | emit (e : Sexpr)
  | emitScript (es : List Sexpr)
  | emitFunction (name doc signature : Sexpr) (body : List Sexpr)
  | render (d : Dialect) (e : Sexpr)
  | renderLiteral (d : Dialect) (e : Sexpr)
  | renderInfix (d : Dialect) (op : String) (args : List Sexpr)
  | renderSpecial (d : Dialect) (e : Sexpr)
  | renderFunction (d : Dialect) (name doc signature : Sexpr) (body : List Sexpr)
  | renderCall (d : Dialect) (head : Sexpr) (args : List Sexpr)

namespace Operation

def run : Operation → Context → Outcome
  | emit e, ctx => Script.emit e ctx
  | emitScript es, ctx => Script.emitScript es ctx
  | emitFunction f doc signature body, ctx => Script.emitFunction f doc signature body ctx
  | render d e, ctx => d.render e ctx
  | renderLiteral d e, _ => d.renderLiteral e
  | renderInfix d op args, ctx => d.renderInfix op args ctx
  | renderSpecial d e, ctx => d.renderSpecial e ctx
  | renderFunction d f doc signature body, ctx => d.renderFunction f doc signature body ctx
  | renderCall d head args, ctx => d.renderCall head args ctx

/-- The operation for special forms, asked for a form with another head whose location is known. -/
inductive Misplaced : Operation → Prop where
  | special {d : Dialect} {e : Sexpr} : Special.ofHead? e.head = none → e.location? ≠ none →
      Misplaced (renderSpecial d e)

end Operation

/-- A refusal that names a form has the location of that form. -/
inductive Failure.Located : Failure → Prop where
  | overflow : Located .overflow
  | formless {err : EmitError} : err.form = none → Located (.refused err)
  | form {err : EmitError} {g : Sexpr} : err.form = some g → err.location = g.location? →
      Located (.refused err)

variable {e : Sexpr} {ctx : Context} {f : Failure} {t : Template}

theorem Failure.Bare.located (h : f.Bare) : f.Located := by
  cases h with
  | overflow => exact .overflow
  | ofCause => exact .formless rfl

/-- A form comes with its location. -/
theorem Failure.Located.within (h : f.Located) (e : Sexpr) : (f.within e).Located := by
  cases he : e.isForm with
  | false => rwa [f.within_of_not_form he]
  | true =>
    cases h with
    | overflow => exact .overflow
    | @formless err hform =>
      rw [Failure.refused_within_of_form he, EmitError.attach, hform]
      exact .form rfl rfl
    | @form err g hform hlocation =>
      rw [Failure.refused_within_of_form he, EmitError.attach, hform]
      exact .form hform hlocation

theorem located_of_emit (h : emit e ctx = .error f) : f.Located := by
  obtain ⟨_, _, g, hdefect, ⟨_, _, rfl⟩ | ⟨n, _, _, _, _, _, rfl⟩⟩ :=
    exists_origin (Nat.le_refl _) h
  · exact hdefect.bare.located
  · exact hdefect.bare.located.within n

/-- Failures of templates are located, unless a fault of the template's own is not. -/
theorem located_of_render (hfault : ∀ g, t.Faulty emit g → g.Located)
    (h : t.render emit = .error f) : f.Located := by
  rcases render_error h with ⟨q, _, hq⟩ | hf
  · exact located_of_emit hq
  · exact hfault f hf

theorem located_of_emitFunction {name doc signature : Sexpr} {body : List Sexpr}
    (h : emitFunction name doc signature body ctx = .error f) : f.Located := by
  cases emitFunction_error_iff.mp h with
  | name | help => exact .formless rfl
  | signature _ hfault => exact hfault.bare.located
  | field _ _ _ hfault => exact hfault.bare.located
  | statement _ _ _ _ _ _ he => exact located_of_emit he

theorem located_of_emitScript {es : List Sexpr} (h : emitScript es ctx = .error f) : f.Located :=
  located_of_render (fun _ hg => absurd hg faulty_statements) h

/-- The failure of a misplaced form names the form and has no location. -/
theorem Operation.Misplaced.run {op : Operation} (h : op.Misplaced) (ctx : Context) :
    ∃ e : Sexpr, e.location? ≠ none ∧
      op.run ctx = .error (.refused { cause := .notSpecial e.head, form := some e }) := by
  cases h with
  | @special d e hspecial hlocation =>
    cases d
    exact ⟨e, hlocation, by rw [Operation.run, Dialect.renderSpecial, hspecial]; rfl⟩

/-- All other failures are located. -/
theorem run_located {op : Operation} (hop : ¬ op.Misplaced) (h : op.run ctx = .error f) :
    f.Located := by
  cases op with
  | emit e => exact located_of_emit h
  | emitScript es => exact located_of_emitScript h
  | emitFunction name doc signature body => exact located_of_emitFunction h
  | render d e =>
    cases d
    exact located_of_emit h
  | renderLiteral d e =>
    cases d
    exact (literal_error_iff.mp h).bare.located
  | renderInfix d op args =>
    cases d
    refine located_of_render (fun g hg => ?_) h
    obtain ⟨-, rfl⟩ := operator_faulty_iff.mp hg
    exact .formless rfl
  | renderSpecial d e =>
    cases d
    rw [Operation.run, Dialect.renderSpecial] at h
    split at h
    · exact located_of_emit h
    · next hspecial =>
      rw [Option.isSome_iff_ne_none, not_not] at hspecial
      have unknown : e.location? = none := by
        by_contra hlocation
        exact hop (.special hspecial hlocation)
      cases h
      exact .form rfl unknown.symm
  | renderFunction d name doc signature body =>
    cases d
    exact located_of_emitFunction h
  | renderCall d head args =>
    cases d
    exact located_of_render (fun _ hg => absurd hg faulty_command) h

/-- A refusal that names a form has the location of that form, and cites it, unless a form with a
location is misplaced. The refusal of a misplaced form has no location. -/
theorem run_located_iff (op : Operation) (ctx : Context) (err : EmitError) (g : Sexpr)
    (hrun : op.run ctx = .error (.refused err)) (hform : err.form = some g) :
    (err.location = g.location? ↔ ¬ op.Misplaced) ∧
    (¬ op.Misplaced → ∀ l, g.location? = some l →
      ∃ what, err.message = what ++ " (" ++ l.cite ++ ")") ∧
    (op.Misplaced → err.location = none) := by
  by_cases hop : op.Misplaced
  · obtain ⟨e, hlocation, heq⟩ := hop.run ctx
    cases heq.symm.trans hrun
    cases hform
    refine ⟨iff_of_false (fun h => hlocation h.symm) (not_not_intro hop), fun h => absurd hop h, ?_⟩
    exact fun _ => rfl
  · have located : err.location = g.location? := by
      cases run_located hop hrun with
      | formless hnone => cases hnone.symm.trans hform
      | form hform' hlocation =>
        cases hform'.symm.trans hform
        exact hlocation
    refine ⟨iff_of_true located hop, fun _ l hl => ?_, fun h => absurd h hop⟩
    simp only [EmitError.message, located, hl, ← String.append_assoc]
    exact ⟨_, rfl⟩

/-- An operator without its second operand, on the third line of a file. -/
theorem run_located_iff_operand :
    let n := Sexpr.form [.symbol "+", .int 1] (some ⟨3, some "a.sh", none⟩)
    let err : EmitError := ⟨.tooFewOperands "+" 1, some "+", some n, n.location?⟩
    (Operation.emit n).run {} = .error (.refused err) ∧ err.form = some n ∧
    err.location = n.location? ∧ ¬ (Operation.emit n).Misplaced ∧
    err.message = "Infix operator + needs 2 arguments; got 1 (in +) (a.sh:3)" := by
  intro n err
  have run : (Operation.emit n).run {} = .error (.refused err) := rfl
  have placed : ¬ (Operation.emit n).Misplaced := by rintro ⟨⟩
  have located := run_located_iff (.emit n) {} err n run rfl
  exact ⟨run, rfl, located.1.mpr placed, placed, rfl⟩

/-- A command is handed to the operation for special forms: its location is left out, although the
form is named. -/
theorem run_unlocated :
    let n := Sexpr.form [.symbol "ls"] (some ⟨3, some "a.sh", none⟩)
    let err : EmitError := { cause := .notSpecial (.symbol "ls"), form := some n }
    (Operation.renderSpecial .bash n).run {} = .error (.refused err) ∧ err.form = some n ∧
    err.location ≠ n.location? ∧ err.message = "Symbol('ls') is not a special form" ∧
    n.location?.map Location.cite = some "a.sh:3" :=
  ⟨rfl, rfl, nofun, by decide +kernel, rfl⟩

end SexprShell.Script
