import SexprShell.Script.Depth

/-!
# From expressions to script text

The template of an expression, and the text that comes of rendering it with the texts of the
expressions it asks for. All of these are lower than the expression, so the rendering ends;
`emit_eq` is the equation that it satisfies.
-/

namespace SexprShell.Script

open Template Sexpr

/-- The template of a form: a special form or an infix operator if its head is a symbol for one,
otherwise a command. -/
def formTemplate (items : List Sexpr) (ctx : Context) : Template :=
  match headOf items with
  | .name .symbol s =>
    match Special.ofSymbol? s with
    | some special => special.template items.tail ctx
    | none =>
      if Operator.isInfix s then Operator.template s items.tail ctx
      else command (.symbol s) items.tail ctx
  | head => command head items.tail ctx

/-- The template of an expression. -/
def template (e : Sexpr) (ctx : Context) : Template :=
  match e with
  | .form items _ => formTemplate items ctx
  | .seq _ items => sequence items ctx
  | .map entries => mapping entries ctx
  | e => ofOutcome (literal e)

theorem argsBelow_tail (items : List Sexpr) (location : Option Location) :
    ArgsBelow (form items location).height items.tail := by
  have h1 := one_le_heightOfItems items
  refine ⟨by simp only [height]; omega, fun e he => ?_⟩
  have := height_le_of_mem (List.mem_of_mem_tail he)
  simp only [height]; omega

theorem height_headOf_lt (items : List Sexpr) (location : Option Location) :
    (headOf items).height < (form items location).height := by
  have h1 := one_le_heightOfItems items
  cases items with
  | nil => simp [headOf, height, heightOfItems]
  | cons e es =>
    have := height_le_of_mem (List.mem_cons_self (a := e) (l := es))
    simp only [headOf, List.headD_cons, height]; omega

/-- An expression is higher than what its template asks for. -/
theorem template_below (e : Sexpr) (ctx : Context) : (template e ctx).Below e.height := by
  cases e with
  | form items location =>
    have h := argsBelow_tail items location
    have hh := height_headOf_lt items location
    unfold template formTemplate
    simp only
    split
    · split
      · exact Special.below h _
      · split
        · exact Operator.template_below h.height_lt
        · exact command_below h.one_lt h.height_lt
    · exact command_below hh h.height_lt
  | seq k items =>
    have h : ∀ t ∈ each items ctx, t.Below (seq k items).height := below_each fun e he => by
      have := height_le_of_mem he
      simp only [height]; omega
    unfold template sequence
    simp only
    split
    · exact below_append (below_text _) (below_append (below_separated h) (below_text _))
    · exact below_separated h
  | map entries =>
    refine below_append (below_text _) (below_append (below_separated fun t ht => ?_)
      (below_text _))
    obtain ⟨⟨k, v⟩, hp, rfl⟩ := List.mem_map.mp ht
    have := height_key_le hp
    have hk : k.height < (map entries).height := by simp only [height]; omega
    have hv : v.height < (map entries).height := by simp only [height]; omega
    exact below_append (below_text _) (below_append (below_sub hk) (below_append (below_text _)
      (below_sub hv)))
  | _ => simp only [template]; exact below_ofOutcome _

/-! ## Emission -/

/-- Render templates down to a given depth. Every depth from the height of the expression on gives
the same text, by `emitWithin_eq`, so that what stands for depth zero never shows. -/
def emitWithin : Nat → Sexpr → Context → Outcome
  | 0, _, _ => .error .overflow
  | n + 1, e, ctx => ((template e ctx).render (emitWithin n)).mapError (Failure.within e)

/-- The script text of an expression. -/
def emit (e : Sexpr) (ctx : Context) : Outcome := emitWithin e.height e ctx

theorem emitWithin_eq : ∀ {n m : Nat} {e : Sexpr} {ctx : Context}, e.height ≤ n → e.height ≤ m →
    emitWithin n e ctx = emitWithin m e ctx
  | 0, _, e, _, h, _ | _ + 1, 0, e, _, _, h => by have := one_le_height e; omega
  | n + 1, m + 1, e, ctx, hn, hm => by
    simp only [emitWithin]
    congr 1
    refine render_congr fun s hs => ?_
    have := template_below e ctx s hs
    exact emitWithin_eq (by omega) (by omega)

/-- The text of an expression is its template rendered with the texts of other expressions; a form
attaches itself to the failure. -/
theorem emit_eq (e : Sexpr) (ctx : Context) :
    emit e ctx = ((template e ctx).render emit).mapError (Failure.within e) := by
  have h := one_le_height e
  obtain ⟨n, hn⟩ : ∃ n, e.height = n + 1 := ⟨e.height - 1, by omega⟩
  rw [emit, hn, emitWithin]
  congr 1
  refine render_congr fun s hs => ?_
  have := template_below e ctx s hs
  exact emitWithin_eq (by omega) (Nat.le_refl _)

/-- The script text of top-level expressions, one statement after another. -/
def emitScript (es : List Sexpr) (ctx : Context) : Outcome :=
  (statements es ctx).render emit

/-- The script text of a function. -/
def emitFunction (name doc signature : Sexpr) (body : List Sexpr) (ctx : Context) : Outcome :=
  (function name doc signature body ctx).render emit

end SexprShell.Script
