import Mathlib.Logic.Relation
import SexprShell.Proofs.Script.Defect

/-!
# Which expressions fail

An expression fails exactly if a defect is reached from it through rendered children. The failure
is that of the defect, with the innermost form around it attached.
-/

namespace SexprShell.Script

open Template Sexpr Relation

/-- An expression in a context is rendered in the course of rendering another. -/
def Reaches : Sexpr × Context → Sexpr × Context → Prop :=
  ReflTransGen fun p q => q ∈ children p.1 p.2

/-- The same, with no other form on the way nor at its end. -/
def Surrounds : Sexpr × Context → Sexpr × Context → Prop :=
  ReflTransGen fun p q => q ∈ children p.1 p.2 ∧ q.1.isForm = false

section

variable {e x : Sexpr} {ctx c : Context} {f g : Failure}

theorem Failure.within_of_not_form (he : e.isForm = false) (f : Failure) : f.within e = f := by
  cases f with
  | overflow => rfl
  | refused err => simp [within, he]

theorem Failure.refused_within_of_form (he : e.isForm) (err : EmitError) :
    (refused err).within e = refused (err.attach e) := if_pos he

/-- An attached form stays. -/
theorem Failure.within_within_of_form (hx : x.isForm) (f : Failure) :
    (f.within x).within e = f.within x := by
  cases f with
  | overflow => rfl
  | refused err =>
    have attached : ((err.attach x).attach e) = err.attach x := by
      cases h : err.form <;> simp [EmitError.attach, h]
    simp only [within, hx, if_true, attached, ite_self]

theorem emit_error_iff : emit e ctx = .error f ↔
    ∃ g, (template e ctx).render emit = .error g ∧ f = g.within e := by
  rw [emit_eq]
  cases (template e ctx).render emit with
  | ok s =>
    constructor
    · rintro ⟨⟩
    · rintro ⟨_, ⟨⟩, _⟩
  | error g =>
    constructor
    · intro h
      exact ⟨g, rfl, (Except.error.inj h).symm⟩
    · rintro ⟨_, ⟨⟩, rfl⟩
      rfl

/-- A child is lower. -/
theorem height_lt_of_mem_children {q : Sexpr × Context} (h : q ∈ children e ctx) :
    q.1.height < e.height :=
  template_below e ctx q (by rwa [subs_template])

/-- An expression without a defect of its own fails because of the first of its children that
does. -/
theorem emit_error_iff_of_children {es : List Sexpr} (hdefect : ∀ g, ¬ Defect e ctx g)
    (hchildren : children e ctx = inContext ctx es) : emit e ctx = .error f ↔
      ∃ earlier x later g, es = earlier ++ x :: later ∧
        (∀ u ∈ earlier, ∃ s, emit u ctx = .ok s) ∧ emit x ctx = .error g ∧ f = g.within e := by
  have hfault (g : Failure) : ¬ (template e ctx).Faulty emit g :=
    mt template_faulty_iff.mp (hdefect g)
  rw [emit_error_iff]
  simp only [render_eq_error_iff hfault, subs_template, hchildren, inContext,
    List.map_eq_append_iff, List.map_eq_cons_iff]
  constructor
  · rintro ⟨g, ⟨_, _, _, ⟨earlier, _, hes, rfl, x, later, rfl, rfl, rfl⟩, hearlier, hx⟩, rfl⟩
    exact ⟨earlier, x, later, g, hes, fun u hu => hearlier _ (List.mem_map_of_mem hu), hx, rfl⟩
  · rintro ⟨earlier, x, later, g, hes, hearlier, hx, rfl⟩
    exact ⟨g, ⟨_, _, _, ⟨earlier, _, hes, rfl, x, later, rfl, rfl, rfl⟩,
      List.forall_mem_map.mpr hearlier, hx⟩, rfl⟩

/-- The step that leads from a failure towards its defect. -/
theorem child_or_defect_of_error (h : emit e ctx = .error f) :
    ∃ g, f = g.within e ∧ ((∃ q ∈ children e ctx, emit q.1 q.2 = .error g) ∨ Defect e ctx g) := by
  obtain ⟨g, hg, rfl⟩ := emit_error_iff.mp h
  refine ⟨g, rfl, ?_⟩
  rcases render_error hg with ⟨q, hq, hf⟩ | hf
  · rw [← subs_template]
    exact .inl ⟨q, (asked_prefix_subs _).subset hq, hf⟩
  · exact .inr (template_faulty_iff.mp hf)

/-- Every failure comes from a defect. Unless there is no form on the way to it, the last of these
forms fails in the same way. -/
theorem exists_origin : ∀ {k : Nat} {e : Sexpr} {ctx : Context} {f : Failure}, e.height ≤ k →
    emit e ctx = .error f → ∃ n c g, Defect n c g ∧
      ((e.isForm = false ∧ Surrounds (e, ctx) (n, c) ∧ f = g) ∨
        ∃ h d, h.isForm ∧ Reaches (e, ctx) (h, d) ∧ Surrounds (h, d) (n, c) ∧
          emit h d = .error f ∧ f = g.within h)
  | 0, e, _, _, hk, _ => by have := one_le_height e; omega
  | k + 1, e, ctx, f, hk, hf => by
    -- A child that fails is lower and has an origin; `e` matters to it only if `e` is a form and
    -- no form has been attached below.
    obtain ⟨f', rfl, ⟨q, hq, hf'⟩ | hd⟩ := child_or_defect_of_error hf
    · have hlt := height_lt_of_mem_children hq
      obtain ⟨n, c, g, hg, ⟨hnot, hs, rfl⟩ | ⟨h, d, hh, hr, hs, heq, rfl⟩⟩ :=
        exists_origin (k := k) (by omega) hf'
      · have hs' : Surrounds (e, ctx) (n, c) := .head ⟨hq, hnot⟩ hs
        cases he : e.isForm with
        | false =>
          exact ⟨n, c, f', hg, .inl ⟨rfl, hs', f'.within_of_not_form he⟩⟩
        | true => exact ⟨n, c, f', hg, .inr ⟨e, ctx, he, .refl, hs', hf, rfl⟩⟩
      · have hsame : (g.within h).within e = g.within h := g.within_within_of_form hh
        rw [hsame]
        exact ⟨n, c, g, hg, .inr ⟨h, d, hh, .head hq hr, hs, heq, rfl⟩⟩
    · cases he : e.isForm with
      | false =>
        exact ⟨e, ctx, f', hd, .inl ⟨rfl, .refl, f'.within_of_not_form he⟩⟩
      | true => exact ⟨e, ctx, f', hd, .inr ⟨e, ctx, he, .refl, .refl, hf, rfl⟩⟩

theorem exists_error_of_defect (h : Defect e ctx f) : ∃ g, emit e ctx = .error g := by
  obtain ⟨g, hg⟩ := exists_error_of_faulty (template_faulty_iff.mpr h)
  exact ⟨_, emit_error_iff.mpr ⟨g, hg, rfl⟩⟩

theorem exists_error_of_child {q : Sexpr × Context} (hq : q ∈ children e ctx)
    (h : emit q.1 q.2 = .error f) : ∃ g, emit e ctx = .error g := by
  rw [← subs_template] at hq
  obtain ⟨g, hg⟩ := exists_error_of_mem_subs hq h
  exact ⟨_, emit_error_iff.mpr ⟨g, hg, rfl⟩⟩

end

theorem Surrounds.reaches {p q : Sexpr × Context} (h : Surrounds p q) : Reaches p q := by
  induction h with
  | refl => exact .refl
  | tail _ hq ih => exact ih.tail hq.1

theorem Reaches.exists_error {p q : Sexpr × Context} (h : Reaches p q)
    (hq : ∃ f, emit q.1 q.2 = .error f) : ∃ f, emit p.1 p.2 = .error f := by
  induction h using ReflTransGen.head_induction_on with
  | refl => exact hq
  | head hchild _ ih =>
    obtain ⟨f, hf⟩ := ih
    exact exists_error_of_child hchild hf

/-- The children are all that is asked for, if nothing fails. -/
theorem asked_eq_children {e : Sexpr} {ctx : Context} {s : String} (h : emit e ctx = .ok s) :
    (template e ctx).asked emit = children e ctx := by
  rw [← subs_template]
  cases ht : (template e ctx).render emit with
  | ok x => exact (render_ok ht).1
  | error g => cases (emit_error_iff.mpr ⟨g, ht, rfl⟩).symm.trans h

/-- An expression fails exactly if a defect is reached from it through rendered children, and it
fails as such a defect does within some expression. The children are what is asked for where
nothing fails. -/
theorem emit_fails_iff (e : Sexpr) (ctx : Context) :
    ((∃ f, emit e ctx = .error f) ↔ ∃ n c f, Reaches (e, ctx) (n, c) ∧ Defect n c f) ∧
    (∀ f, emit e ctx = .error f →
      ∃ n c g h, Reaches (e, ctx) (n, c) ∧ Defect n c g ∧ f = g.within h) ∧
    ∀ s, emit e ctx = .ok s → (template e ctx).asked emit = children e ctx := by
  have origin : ∀ f, emit e ctx = .error f →
      ∃ n c g h, Reaches (e, ctx) (n, c) ∧ Defect n c g ∧ f = g.within h := by
    intro f hf
    obtain ⟨n, c, g, hg, ⟨he, hs, rfl⟩ | ⟨h, d, _, hr, hs, _, rfl⟩⟩ :=
      exists_origin (Nat.le_refl _) hf
    · exact ⟨n, c, f, e, hs.reaches, hg, (f.within_of_not_form he).symm⟩
    · exact ⟨n, c, g, h, hr.trans hs.reaches, hg, rfl⟩
  refine ⟨⟨?_, ?_⟩, origin, fun _ => asked_eq_children⟩
  · rintro ⟨f, hf⟩
    obtain ⟨n, c, g, _, hr, hg, _⟩ := origin f hf
    exact ⟨n, c, g, hr, hg⟩
  · rintro ⟨n, c, f, hr, hf⟩
    exact hr.exists_error (exists_error_of_defect hf)

end SexprShell.Script
