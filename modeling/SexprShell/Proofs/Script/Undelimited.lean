import SexprShell.Proofs.Script.AdaptedTemplate
import SexprShell.Proofs.Script.Everywhere
import SexprShell.Proofs.Script.Texts

/-!
# Undelimited sequences

Whether sequences are delimited shows in sequences only, and the words of a loop are never
delimited. So an expression has the same outcome in both cases if its sequences are confined to the
bindings of loops and to signatures (`emit_confined`).
-/

namespace SexprShell.Script

open Template Sexpr Relation

/-- Sequences occur only as the binding of a loop, in the second item of such a binding, and as the
signature of a definition or inside it. -/
inductive Confined : Sexpr → Prop where
  | plain {e : Sexpr} : e.isSeq = false → (∀ x ∈ e.parts, Confined x) → Confined e
  | loop {kind : SequenceKind} {binding body : List Sexpr} {location : Option Location} :
      (∀ x ∈ binding.eraseIdx 1, Confined x) → (∀ x ∈ body, Confined x) →
      Confined (.form (.symbol "doseq" :: .seq kind binding :: body) location)
  | definition {args body : List Sexpr} {name signature : Sexpr} {location : Option Location} :
      IsDefinition args name signature body → Confined name → (∀ x ∈ body, Confined x) →
      Confined (.form (.symbol "defn" :: args) location)

variable {e x : Sexpr} {ctx : Context} {q : Sexpr × Context}

/-! ## Where sequences are delimited -/

theorem confined_symbol (s : String) : Confined (.symbol s) := .plain rfl (List.forall_mem_nil _)

theorem hereditary_confined : Hereditary Confined where
  nil := .plain rfl (List.forall_mem_nil _)
  method _ _ := confined_symbol _
  part h hform hy := by
    cases h with
    | plain _ hparts => exact hparts _ hy
    | loop | definition => cases hform

theorem Confined.isSeq (h : Confined e) : e.isSeq = false := by
  cases h with
  | plain hseq _ => exact hseq
  | loop | definition => rfl

theorem definitionChildren_eq {args body : List Sexpr} {name signature : Sexpr}
    (h : IsDefinition args name signature body) :
    definitionChildren args = functionChildren name signature body := by
  cases h with
  | documented => rfl
  | plain _ _ hsignature =>
    cases signature with
    | text => cases hsignature
    | _ => rfl

/-- What a confined expression is rendered with is confined, but for the words of a loop, which are
not delimited. -/
theorem Confined.children (h : Confined e) (hq : q ∈ children e ctx) :
    Confined q.1 ∨ q.2.delimited = false := by
  cases h with
  | plain _ hparts => exact .inl (hereditary_confined.children hparts q hq)
  | @loop kind binding body location hbinding hbody =>
    have special : Special.ofSymbol? "doseq" = some .iteration := by decide
    rw [children_of_special special] at hq
    simp only [Special.children] at hq
    split at hq
    · next target values heq =>
      cases heq
      rcases List.mem_cons.mp hq with rfl | hq
      · exact .inr rfl
      · refine .inl (forall_inContext.mpr (List.forall_mem_cons.mpr ⟨?_, hbody⟩) q hq)
        exact hbinding target List.mem_cons_self
    · cases hq
  | @definition args body name signature location hdefinition _ hbody =>
    have special : Special.ofSymbol? "defn" = some .definition := by decide
    rw [children_of_special special] at hq
    simp only [Special.children, definitionChildren_eq hdefinition, functionChildren] at hq
    refine .inl (forall_inContext.mpr (fun x hx => ?_) q hq)
    split at hx
    · rcases List.mem_append.mp hx with hx | hx
      · obtain ⟨s, -, rfl⟩ := List.mem_map.mp hx
        exact confined_symbol s
      · exact hbody x hx
    · cases hx

/-- On the way down from a confined expression, sequences are met undelimited only. -/
theorem Confined.of_reaches (h : Confined e) (hr : Reaches (e, ctx) q) :
    Confined q.1 ∨ q.2.delimited = false := by
  induction hr with
  | refl => exact .inl h
  | tail _ hq ih =>
    rcases ih with ih | ih
    · exact ih.children hq
    · exact .inr ((handsOn_of_mem_children hq).delimited ih)

/-! ## What does not show -/

theorem adapting_undelimited : Adapting Context.undelimited id where
  quiet _ := rfl
  undelimited _ := rfl
  comment _ _ := rfl

/-- Apart from its children, an expression other than a sequence is rendered in the same way. -/
theorem render_undelimited (h : e.isSeq = false ∨ ctx.delimited = false)
    (emit : Sexpr → Context → Outcome) : (template e ctx.undelimited).render emit =
      (template e ctx).render fun x c => emit x c.undelimited := by
  have adapted : (template e ctx).adapted Context.undelimited id = template e ctx.undelimited :=
    template_adapted adapting_undelimited (h.imp_right Eq.symm)
  rw [← adapted, render_adapted]

/-- An expression has the same outcome if all sequences below it are undelimited anyway. -/
theorem emit_undelimited (h : ∀ q, Reaches (e, ctx) q → q.2.delimited = true → q.1.isSeq = false) :
    emit e ctx.undelimited = emit e ctx := by
  induction e, ctx using children_induction with
  | step e ctx ih =>
    have here : e.isSeq = false ∨ ctx.delimited = false := by
      rw [or_iff_not_imp_right, Bool.not_eq_false]
      exact h (e, ctx) .refl
    rw [emit_eq, emit_eq e ctx, render_undelimited here]
    congr 1
    refine render_congr fun q hq => ?_
    rw [subs_template] at hq
    exact ih q hq fun r hr => h r (.head hq hr)

theorem Confined.emit_undelimited (h : Confined e) (ctx : Context) :
    emit e ctx.undelimited = emit e ctx := by
  refine Script.emit_undelimited fun q hq hdelimited => ?_
  rcases h.of_reaches hq with hq | hq
  · exact hq.isSeq
  · rw [hq] at hdelimited
    cases hdelimited

/-- The words of a loop are rendered undelimited, its variable and its body as the loop itself. -/
theorem emit_iteration_eq_ok_iff {kind : SequenceKind} {target values : Sexpr} {body : List Sexpr}
    {location : Option Location} {s : String} :
    emit (.form (.symbol "doseq" :: .seq kind [target, values] :: body) location) ctx = .ok s ↔
      ∃ v t b, emit values ctx.undelimited = .ok v ∧ emit target ctx = .ok t ∧
        emitScript body ctx = .ok b ∧
        s = "for " ++ t ++ " in " ++ v ++ "; do\n" ++ b ++ "done" := by
  have special : Special.ofSymbol? "doseq" = some .iteration := by decide
  have iteration_eq : Special.iteration.template (.seq kind [target, values] :: body) ctx =
      append (late (concat [text "for ", sub target ctx, text " in "]) (sub values ctx.undelimited))
        (concat [text "; do\n", statements body ctx, text "done"]) := rfl
  rw [emit_ok_iff, template_of_special special, iteration_eq]
  simp only [render_append_eq_ok_iff, render_late_eq_ok_iff, render_enclosed_eq_ok_iff, render_sub,
    emitScript]
  constructor
  · rintro ⟨_, _, ⟨v, _, hv, ⟨t, ht, rfl⟩, rfl⟩, ⟨b, hb, rfl⟩, rfl⟩
    exact ⟨v, t, b, hv, ht, hb, by simp only [String.append_assoc]⟩
  · rintro ⟨v, t, b, hv, ht, hb, rfl⟩
    exact ⟨_, _, ⟨v, _, hv, ⟨t, ht, rfl⟩, rfl⟩, ⟨b, hb, rfl⟩, by simp only [String.append_assoc]⟩

/-- Where sequences occur only as bindings of loops, in the words of loops and in signatures, it
does not show whether sequences are delimited: the text or the error is the same. It shows only
where a sequence is reached that is to be delimited, and in an expression other than a sequence only
by its children. The words of a loop are undelimited in either case, while its variable and its body
are rendered as the loop is. -/
theorem emit_confined :
    (∀ e ctx ctx', Confined e → ctx.comments = ctx'.comments → emit e ctx = emit e ctx') ∧
    (∀ e ctx, (∀ q, Reaches (e, ctx) q → q.2.delimited = true → q.1.isSeq = false) →
      emit e ctx.undelimited = emit e ctx) ∧
    (∀ e ctx f, e.isSeq = false → (template e ctx.undelimited).render f =
      (template e ctx).render fun x c => f x c.undelimited) ∧
    ∀ kind target values body location ctx s,
      emit (.form (.symbol "doseq" :: .seq kind [target, values] :: body) location) ctx = .ok s ↔
        ∃ v t b, emit values ctx.undelimited = .ok v ∧ emit target ctx = .ok t ∧
          emitScript body ctx = .ok b ∧
          s = "for " ++ t ++ " in " ++ v ++ "; do\n" ++ b ++ "done" := by
  refine ⟨fun e ctx ctx' h hcomments => ?_, fun e ctx => emit_undelimited,
    fun e ctx f h => render_undelimited (.inl h) f,
    fun kind target values body location ctx s => emit_iteration_eq_ok_iff⟩
  have undelimited : ctx.undelimited = ctx'.undelimited := by
    rw [Context.undelimited, hcomments]
    rfl
  rw [← h.emit_undelimited ctx, ← h.emit_undelimited ctx', undelimited]

/-- A loop over a nested list, within an expansion, in a function. -/
theorem emit_confined_loop :
    let loop := Sexpr.form [.symbol "doseq", .seq .list [.symbol "i", .seq .list [.int 1,
      .seq .tuple [.int 2]]], .form [.symbol "deref", .symbol "i"] none] none
    let function := Sexpr.form [.symbol "defn", .symbol "f", .seq .list [.symbol "x"],
      .form [.symbol "deref", loop] none] none
    Confined function ∧ (⟨true, true⟩ : Context).comments = (⟨false, true⟩ : Context).comments ∧
      emit function ⟨true, true⟩ = emit function ⟨false, true⟩ := by
  intro loop function
  have expansion (e : Sexpr) (he : Confined e) : Confined (.form [.symbol "deref", e] none) :=
    .plain rfl (List.forall_mem_cons.mpr
      ⟨confined_symbol _, List.forall_mem_singleton.mpr he⟩)
  have confinedLoop : Confined loop := by
    refine .loop (List.forall_mem_singleton.mpr (confined_symbol "i")) ?_
    exact List.forall_mem_singleton.mpr (expansion _ (confined_symbol "i"))
  have confined : Confined function := by
    refine .definition (.plain (.symbol "f") _ rfl) (confined_symbol "f") ?_
    exact List.forall_mem_singleton.mpr (expansion _ confinedLoop)
  obtain ⟨same, -⟩ := emit_confined
  exact ⟨confined, rfl, same function _ _ confined rfl⟩

end SexprShell.Script
