import SexprShell.Proofs.Script.AdaptedTemplate

/-!
# Templates without comments

`Template.hushed` takes the comments out of a template, and lets the expressions in it be rendered
without any. The template of an expression in a context without comments is its template in the
context with them, hushed (`template_hushed`).
-/

namespace SexprShell.Script

open Sexpr

/-- A statement loses its comment; a text behind a statement that is none stays. -/
def Finish.hushed : Finish → Finish
  | .statement comment => .statement (if '#' ∈ comment.toList then "" else comment)
  | f => f

namespace Template

/-- A template whose expressions are rendered without comments, and which has none of its own. -/
@[simp] def hushed : Template → Template
  | text s => text s
  | sub e ctx => sub e ctx.quiet
  | fail f => fail f
  | append a b => append a.hushed b.hushed
  | late a b => late a.hushed b.hushed
  | chain op a b => chain op a.hushed b.hushed
  | finish f t => finish f.hushed t.hushed

/-- To hush a template is to adapt it to contexts without comments. -/
theorem hushed_eq_adapted (t : Template) :
    t.hushed = t.adapted Context.quiet fun c => if '#' ∈ c.toList then "" else c := by
  induction t with
  | text | sub | fail => rfl
  | append a b iha ihb | late a b iha ihb | chain _ a b iha ihb =>
    simp only [hushed, adapted, iha, ihb]
  | finish f t ih =>
    simp only [hushed, adapted, ih]
    cases f <;> rfl

end Template

/-- A comment has a number sign, if there is a comment at all. -/
theorem adapting_quiet :
    Adapting Context.quiet fun c => if '#' ∈ c.toList then "" else c where
  quiet _ := rfl
  undelimited _ := rfl
  comment e ctx := by
    have silent : Template.commentFor e ctx.quiet = "" := rfl
    rw [silent]
    split
    · rfl
    · next h =>
      unfold Template.commentFor at h ⊢
      split
      · simp_all
      · rfl

/-- The template of an expression in a context without comments is its template without them. -/
theorem template_hushed (e : Sexpr) (ctx : Context) :
    (template e ctx).hushed = template e ctx.quiet := by
  rw [Template.hushed_eq_adapted]
  exact template_adapted adapting_quiet (.inr rfl)

end SexprShell.Script
