import SexprShell.Script.Context
import SexprShell.Script.Fragment

/-!
# Templates

What the text of an expression is made of: fixed text, the texts of other expressions, and changes
to them. A template is rendered with the help of a function that gives texts to expressions; its
parts are rendered one after the other, and the first failure is the failure of the whole.

A brace that is alone in a fixed text is written by its number, `\x7b` for the opening one and
`\x7d` for the closing one.
-/

namespace SexprShell.Script

/-- What happens to a text once it has been rendered. -/
inductive Finish where
  /-- It is refused as a variable's name if it cannot be one. -/
  | identifier (rule : String)
  | munged
  | operand
  | branch (block : Bool)
  | statement (comment : String)
  | stripped
  /-- It is left out: only its failures count. -/
  | dropped
  deriving DecidableEq

def Finish.apply : Finish → String → Outcome
  | .identifier rule, s => Script.identifier (some rule) s
  | .munged, s => .ok (Script.munged s)
  | .operand, s => .ok (asOperand s)
  | .branch block, s => .ok (asBranch block s)
  | .statement comment, s => .ok (asStatement comment s)
  | .stripped, s => .ok (Text.strip s)
  | .dropped, _ => .ok ""

inductive Template where
  | text (s : String)
  /-- The text of an expression in a context. -/
  | sub (e : Sexpr) (ctx : Context)
  | fail (f : Failure)
  | append (first second : Template)
  /-- The text of `front` followed by that of `back`, but `back` is rendered first. -/
  | late (front back : Template)
  /-- A part in front of a chain of parts joined by an operator. -/
  | chain (operator : String) (first rest : Template)
  | finish (f : Finish) (t : Template)

namespace Template

def render (emit : Sexpr → Context → Outcome) : Template → Outcome
  | text s => .ok s
  | sub e ctx => emit e ctx
  | fail f => .error f
  | append a b => do
    let x ← a.render emit
    let y ← b.render emit
    .ok (x ++ y)
  | late a b => do
    let y ← b.render emit
    let x ← a.render emit
    .ok (x ++ y)
  | chain op a b => do
    let x ← a.render emit
    let y ← b.render emit
    .ok (chainOnto op x y)
  | finish f t => do f.apply (← t.render emit)

/-- The expressions that a template asks the texts of, in the order of rendering. -/
def subs : Template → List (Sexpr × Context)
  | text _ | fail _ => []
  | sub e ctx => [(e, ctx)]
  | append a b | chain _ a b => a.subs ++ b.subs
  | late a b => b.subs ++ a.subs
  | finish _ t => t.subs

/-- Rendering depends on the texts of these expressions alone. -/
theorem render_congr {f g : Sexpr → Context → Outcome} : ∀ {t : Template},
    (∀ s ∈ t.subs, f s.1 s.2 = g s.1 s.2) → t.render f = t.render g
  | text _, _ | fail _, _ => rfl
  | sub e ctx, h => h (e, ctx) (by simp [subs])
  | append a b, h | late a b, h | chain _ a b, h => by
    have ha : a.render f = a.render g := render_congr fun s hs => h s (by simp [subs, hs])
    have hb : b.render f = b.render g := render_congr fun s hs => h s (by simp [subs, hs])
    simp [render, ha, hb]
  | finish _ t, h => by
    have ht : t.render f = t.render g := render_congr h
    simp [render, ht]

/-! ## Building templates -/

/-- A text that may have failed already. -/
def ofOutcome : Outcome → Template
  | .ok s => text s
  | .error f => fail f

/-- A refusal by a rule. -/
def refuse (cause : Cause) (rule : Option String := none) : Template :=
  fail (.ofCause cause rule)

/-- Parts one after another. -/
def concat : List Template → Template
  | [] => text ""
  | [t] => t
  | t :: ts => append t (concat ts)

/-- Parts with a text between them. -/
def separated (separator : String) : List Template → Template
  | [] => text ""
  | [t] => t
  | t :: ts => append t (append (text separator) (separated separator ts))

/-- Parts joined by an operator, those with blank texts left out. -/
def chainOf (operator : String) : List Template → Template
  | [] => text ""
  | t :: ts => chain operator t (chainOf operator ts)

/-- Expressions in one context. -/
def each (es : List Sexpr) (ctx : Context) : List Template := es.map (sub · ctx)

/-- The comment behind a statement: the location of the form that it comes from. -/
def commentFor (e : Sexpr) (ctx : Context) : String :=
  match ctx.comments, e.location? with
  | true, some l => " # " ++ l.cite
  | _, _ => ""

/-- Expressions as statements, each on lines of its own. -/
def statements (es : List Sexpr) (ctx : Context) : Template :=
  concat (es.map fun e => finish (.statement (commentFor e ctx)) (sub e ctx))

/-! ## The expressions asked for -/

theorem mem_subs_concat {s : Sexpr × Context} : ∀ {ts : List Template},
    s ∈ (concat ts).subs ↔ ∃ t ∈ ts, s ∈ t.subs
  | [] => by simp [concat, subs]
  | [t] => by simp [concat]
  | t :: u :: ts => by
    simp only [concat, subs, List.mem_append, @mem_subs_concat s (u :: ts), List.mem_cons,
      exists_eq_or_imp]

theorem mem_subs_separated {s : Sexpr × Context} {sep : String} : ∀ {ts : List Template},
    s ∈ (separated sep ts).subs ↔ ∃ t ∈ ts, s ∈ t.subs
  | [] => by simp [separated, subs]
  | [t] => by simp [separated]
  | t :: u :: ts => by
    simp only [separated, subs, List.mem_append, @mem_subs_separated s sep (u :: ts),
      List.mem_cons, exists_eq_or_imp, List.not_mem_nil, false_or]

theorem mem_subs_chainOf {s : Sexpr × Context} {op : String} : ∀ {ts : List Template},
    s ∈ (chainOf op ts).subs ↔ ∃ t ∈ ts, s ∈ t.subs
  | [] => by simp [chainOf, subs]
  | t :: ts => by
    simp only [chainOf, subs, List.mem_append, @mem_subs_chainOf s op ts, List.mem_cons,
      exists_eq_or_imp]

theorem subs_ofOutcome (o : Outcome) : (ofOutcome o).subs = [] := by
  cases o <;> rfl

theorem mem_subs_statements {s : Sexpr × Context} {es : List Sexpr} {ctx : Context} :
    s ∈ (statements es ctx).subs ↔ s.1 ∈ es ∧ s.2 = ctx := by
  obtain ⟨e, c⟩ := s
  simp only [statements, mem_subs_concat, List.mem_map]
  constructor
  · rintro ⟨_, ⟨x, hx, rfl⟩, h⟩
    simp only [subs, List.mem_singleton, Prod.mk.injEq] at h
    exact ⟨h.1 ▸ hx, h.2⟩
  · rintro ⟨h, rfl⟩
    exact ⟨_, ⟨e, h, rfl⟩, by simp [subs]⟩

end Template

end SexprShell.Script
