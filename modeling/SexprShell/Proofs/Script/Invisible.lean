import SexprShell.Proofs.Script.ErasedTemplate
import SexprShell.Proofs.Script.Everywhere

/-!
# Locations that do not show

Without comments, locations do not show in script text: an expression without its locations is
rendered as the expression itself (`emit_unlocated`). Expansions are rendered without comments
anyway. What follows for pairs of expressions is `emit_locations_invisible`.
-/

namespace SexprShell.Script

open Sexpr Template

variable {κ : Context → Context} {ctx : Context} {e : Sexpr}

/-! ## All texts -/

theorem hereditary_unlocated : Hereditary fun e => e.unlocated = e where
  nil := rfl
  method _ _ := rfl
  part h _ hx := unlocated_of_mem_parts h hx

theorem Silent.children {q : Sexpr × Context} (h : Silent ctx e) (hq : q ∈ children e ctx) :
    Silent q.2 q.1 := by
  rcases h with h | h
  · exact .inl ((handsOn_of_mem_children hq).comments h)
  · exact .inr (hereditary_unlocated.children (fun x => unlocated_of_mem_parts h) q hq)

theorem mapError_mapError_within (e : Sexpr) (o : Outcome) :
    (o.mapError Failure.unlocated).mapError (Failure.within e.unlocated) =
      (o.mapError (Failure.within e)).mapError Failure.unlocated := by
  cases o with
  | error f => exact congrArg Except.error (f.unlocated_within e).symm
  | ok s => rfl

/-- Without comments, an expression without its locations has the same text, or fails in the same
way up to locations. -/
theorem emit_unlocated (hκ : Dimming κ) (h : Silent ctx e) :
    emit e.unlocated (κ ctx) = (emit e ctx).mapError Failure.unlocated := by
  induction e, ctx using children_induction with
  | step e ctx ih =>
    rw [emit_eq, emit_eq e, ← template_erased hκ h, render_erased, mapError_mapError_within]
    intro q hq
    rw [subs_template] at hq
    exact ih q hq (h.children hq)

/-! ## What does not show -/

/-- The outcomes are the same text, or failures of the same kind, words, rule and refused name, with
the same attached form up to locations. -/
inductive Alike : Outcome → Outcome → Prop where
  | text (s : String) : Alike (.ok s) (.ok s)
  | overflow : Alike (.error .overflow) (.error .overflow)
  | refused {f g : EmitError} : f.cause.kind = g.cause.kind → f.cause.text = g.cause.text →
      f.cause.refusedName? = g.cause.refusedName? → f.rule = g.rule →
      f.form.map Sexpr.unlocated = g.form.map Sexpr.unlocated →
      Alike (.error (.refused f)) (.error (.refused g))

theorem alike_of_mapError {x y : Outcome}
    (h : x.mapError Failure.unlocated = y.mapError Failure.unlocated) : Alike x y := by
  cases x with
  | ok s =>
    cases y with
    | ok t => cases h; exact .text s
    | error g => cases h
  | error f =>
    cases y with
    | ok t => cases h
    | error g =>
      have same : f.unlocated = g.unlocated := Except.error.inj h
      cases f with
      | overflow =>
        cases g with
        | overflow => exact .overflow
        | refused g => cases same
      | refused f =>
        cases g with
        | overflow => cases same
        | refused g =>
          obtain ⟨hcause, hrule, hform, _⟩ := EmitError.mk.inj (Failure.refused.inj same)
          refine .refused ?_ ?_ ?_ hrule hform
          · rw [← f.cause.kind_unlocated, hcause, g.cause.kind_unlocated]
          · rw [← f.cause.text_unlocated, hcause, g.cause.text_unlocated]
          · rw [← f.cause.refusedName?_unlocated, hcause, g.cause.refusedName?_unlocated]

/-- Without comments, expressions that differ in locations only have the same outcome. -/
theorem emit_mapError_eq {a b : Sexpr} (h : a.unlocated = b.unlocated)
    (hctx : ctx.comments = false) : (emit a ctx).mapError Failure.unlocated =
      (emit b ctx).mapError Failure.unlocated := by
  rw [← emit_unlocated dimming_id (.inl hctx), h, emit_unlocated dimming_id (.inl hctx)]

/-- An expression without locations is written the same with comments and without. -/
theorem emit_quiet (h : e.unlocated = e) (ctx : Context) : emit e ctx.quiet = emit e ctx := by
  have silent : Silent ctx e := .inr h
  have changed := emit_unlocated dimming_quiet silent
  have same := emit_unlocated dimming_id silent
  rw [h] at changed same
  rw [changed, ← same]
  rfl

/-- An expansion does not ask whether there are comments. -/
theorem emit_expansion_quiet (h : e.headName? = some "deref") (ctx : Context) :
    emit e ctx.quiet = emit e ctx := by
  obtain ⟨args, location, rfl⟩ : ∃ args location, e = .form (.symbol "deref" :: args) location := by
    unfold headName? at h
    split at h
    · next s args location =>
      cases h
      exact ⟨args, location, rfl⟩
    · cases h
  have special : Special.ofSymbol? "deref" = some .expansion := by decide
  have same : Special.expansion.template args ctx.quiet = Special.expansion.template args ctx := rfl
  rw [emit_eq, emit_eq (.form _ _), template_of_special special, template_of_special special, same]

/-- Where locations do not show: without comments, two expressions that differ in locations only
have the same text, or fail alike; an expression without locations has the same outcome with
comments and without; and the text of an expansion does not depend on the locations inside it, nor
on whether there are comments around it. -/
theorem emit_locations_invisible :
    (∀ (a b : Sexpr) (ctx : Context), a.unlocated = b.unlocated → ctx.comments = false →
      Alike (emit a ctx) (emit b ctx)) ∧
    (∀ (e : Sexpr) (ctx : Context), e.unlocated = e →
      emit e { ctx with comments := true } = emit e { ctx with comments := false }) ∧
    ∀ (a b : Sexpr) (ctx : Context) (comments : Bool) (s : String), a.headName? = some "deref" →
      a.unlocated = b.unlocated → emit a ctx = .ok s → emit b { ctx with comments } = .ok s := by
  refine ⟨?_, ?_, ?_⟩
  · intro a b ctx h hctx
    exact alike_of_mapError (emit_mapError_eq h hctx)
  · intro e ctx h
    exact (emit_quiet h { ctx with comments := true }).symm
  · intro a b ctx comments s ha h hs
    have hb : b.headName? = some "deref" := by
      rw [← headName?_unlocated, ← h, headName?_unlocated, ha]
    have off : ctx.quiet.comments = false := rfl
    have alike := emit_mapError_eq h off
    rw [emit_expansion_quiet ha, hs] at alike
    have quiet : emit b ctx.quiet = emit b { ctx with comments } :=
      emit_expansion_quiet hb { ctx with comments }
    rw [← quiet]
    cases hq : emit b ctx.quiet with
    | error f => rw [hq] at alike; cases alike
    | ok t => rw [hq] at alike; cases alike; rfl

/-- A statement that is written elsewhere, by itself and inside a substitution. -/
theorem emit_locations_invisible_statement :
    let statement (location : Option Location) : Sexpr :=
      .form [.symbol "do", .form [.symbol "b"] location] none
    let substitution (location : Option Location) : Sexpr :=
      .form [.symbol "deref", statement location] none
    let here : Option Location := some ⟨1, some "f", none⟩
    emit (statement here) ⟨true, true⟩ = .ok "b # f:1\n" ∧
    Alike (emit (statement here) ⟨true, false⟩) (emit (statement none) ⟨true, false⟩) ∧
    emit (statement none) ⟨true, true⟩ = emit (statement none) ⟨true, false⟩ ∧
    emit (substitution here) ⟨true, true⟩ = .ok "$(b\n)" ∧
    emit (substitution none) ⟨true, false⟩ = .ok "$(b\n)" := by
  intro statement substitution here
  obtain ⟨alike, silent, expanded⟩ := emit_locations_invisible
  have cited : emit (.form [.symbol "do", .form [.symbol "b"] (some ⟨1, some "f", none⟩)] none)
      ⟨true, true⟩ = .ok "b # f:1\n" := rfl
  have text : emit (substitution here) ⟨true, true⟩ = .ok "$(b\n)" := rfl
  exact ⟨cited, alike _ _ _ rfl rfl, silent (statement none) ⟨true, true⟩ rfl, text,
    expanded _ (substitution none) ⟨true, true⟩ false _ rfl rfl text⟩

end SexprShell.Script
