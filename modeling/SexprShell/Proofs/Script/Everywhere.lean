import SexprShell.Proofs.Script.Provenance

/-!
# Properties of everything inside an expression

What holds everywhere in an expression holds everywhere in what it is rendered with. Hence a
property of texts that is passed on from the texts an expression is rendered with to its own text
belongs to all the texts of such expressions (`emit_of_everywhere`).
-/

namespace SexprShell.Script

open Sexpr

/-- A property of single expressions that nil has, and the method of a head if the head has it. -/
structure Nodewise (N : Sexpr → Prop) : Prop where
  nil : N .nil
  method {s m : String} : Special.dotted? s = some m → N (.symbol s) → N (.symbol m)

variable {N : Sexpr → Prop} {e : Sexpr} {ctx : Context}

theorem Nodewise.hereditary (hN : Nodewise N) : Hereditary (Everywhere N) where
  nil := everywhere_iff.mpr ⟨hN.nil, List.forall_mem_nil _⟩
  method hm h := everywhere_iff.mpr ⟨hN.method hm h.here, List.forall_mem_nil _⟩
  part h _ hy := h.part hy

theorem Nodewise.children (hN : Nodewise N) (h : e.Everywhere N) :
    ∀ q ∈ children e ctx, q.1.Everywhere N :=
  hN.hereditary.children fun _ => h.part

/-- The method that a head names is written with characters of the head. -/
theorem Special.mem_of_dotted? {s m : String} (h : dotted? s = some m) :
    ∀ c ∈ m.toList, c ∈ s.toList := by
  unfold dotted? at h
  split at h
  · next cs heq =>
    split at h
    · cases h
      rw [heq, String.toList_ofList]
      exact fun c => List.mem_cons_of_mem _
    · cases h
  · cases h

/-! ## Functions -/

/-- The fields of the flags in a signature are in it. -/
theorem everywhere_field {signature : Sexpr} {g : Signature} {f : FlagSpec}
    (hg : Signature.ofSexpr signature = .ok g) (h : signature.Everywhere N) (hf : f ∈ g.flags)
    (he : e ∈ f.fields) : e.Everywhere N := by
  obtain ⟨k, rfl⟩ := Signature.ofSexpr_eq_ok_iff.mp hg
  have flag : f.toSexpr.Everywhere N := h.part (List.mem_append_right _ (List.mem_map_of_mem hf))
  apply flag.part
  simp only [FlagSpec.fields, List.mem_cons, List.not_mem_nil, or_false] at he
  rcases he with rfl | rfl | rfl | rfl | rfl <;> simp [FlagSpec.toSexpr, parts]

/-- A property of failures, and of functions made of such expressions, is one of definitions. -/
theorem definition_of_everywhere {P : Template → Prop} (hN : Nodewise N) {args : List Sexpr}
    (hargs : ∀ e ∈ args, e.Everywhere N) (fail : ∀ f, P (.fail f))
    (function : ∀ {name doc signature : Sexpr} {body : List Sexpr}, N name → N doc →
      signature.Everywhere N → (∀ e ∈ body, e.Everywhere N) →
      P (function name doc signature body ctx)) : P (definition args ctx) := by
  have hdrop : ∀ e ∈ args.drop 1, e.Everywhere N :=
    fun e he => hargs e (List.mem_of_mem_drop he)
  have name : N (argAt args 0) := (hN.hereditary.argAt hargs 0).here
  unfold definition
  split
  · next doc signature body heq =>
    rw [heq] at hdrop
    exact function name (hdrop _ (by simp)).here (hdrop _ (by simp))
      fun e he => hdrop e (by simp [he])
  · exact fail _
  · exact fail _
  · next signature body _ _ heq =>
    rw [heq] at hdrop
    exact function name hN.nil (hdrop _ (by simp)) fun e he => hdrop e (by simp [he])

/-! ## Induction on rendering -/

/-- What holds of an expression in a context if it holds of all that the expression is rendered
with holds of every expression. -/
theorem children_induction {R : Sexpr → Context → Prop}
    (step : ∀ e ctx, (∀ q ∈ children e ctx, R q.1 q.2) → R e ctx) (e : Sexpr) (ctx : Context) :
    R e ctx :=
  step e ctx fun q hq =>
    have := height_lt_of_mem_children hq
    children_induction step q.1 q.2
termination_by e.height

theorem emit_ok_iff {s : String} :
    emit e ctx = .ok s ↔ (template e ctx).render emit = .ok s := by
  rw [emit_eq]
  cases (template e ctx).render emit with
  | ok x => rfl
  | error f => exact iff_of_false (by rintro ⟨⟩) (by rintro ⟨⟩)

/-- A property of texts that templates pass on is one of all texts. -/
theorem emit_of_everywhere {Q : String → Prop} (hN : Nodewise N)
    (step : ∀ e ctx s, e.Everywhere N →
      (∀ q ∈ (template e ctx).subs, ∀ x, emit q.1 q.2 = .ok x → Q x) →
      (template e ctx).render emit = .ok s → Q s) :
    e.Everywhere N → ∀ s, emit e ctx = .ok s → Q s := by
  apply children_induction (R := fun e ctx => e.Everywhere N → ∀ s, emit e ctx = .ok s → Q s)
  intro e ctx ih h s hs
  refine step e ctx s h ?_ (emit_ok_iff.mp hs)
  intro q hq x hx
  rw [subs_template] at hq
  exact ih q hq (hN.children h q hq) x hx

end SexprShell.Script
