import SexprShell.Proofs.Script.Everywhere
import SexprShell.Proofs.Script.HushedTemplate
import SexprShell.Proofs.Script.Lasting

/-!
# Hyphens

The changes to a rendered text neither put hyphens in nor take them out, apart from names that are
munged. In a template, hyphens come from its own texts, from those of its expressions, and from the
comments behind statements; and the names that it checks are those of the form that it is for
(`template_vetted`).
-/

namespace SexprShell.Script

open Sexpr Text Template

/-- A text that is refused as a name. -/
def Hyphened (s : String) : Prop := '-' ∈ s.toList

variable {s t op comment : String}

instance : Decidable (Hyphened s) := inferInstanceAs (Decidable ('-' ∈ s.toList))

@[simp] theorem hyphened_append : Hyphened (s ++ t) ↔ Hyphened s ∨ Hyphened t := by
  simp [Hyphened]

theorem not_hyphened_empty : ¬ Hyphened "" := by simp [Hyphened]

/-! ## Changes to texts -/

/-- A hyphen is among the characters that are kept. -/
theorem hyphened_iff_of_filter (h : s.toList.filter (· == '-') = t.toList.filter (· == '-')) :
    Hyphened s ↔ Hyphened t := by
  have kept (u : String) : Hyphened u ↔ '-' ∈ u.toList.filter (· == '-') := by simp [Hyphened]
  rw [kept, kept, h]

theorem hyphened_dropEndWhile {p : Char → Bool} (hp : p '-' = false) :
    Hyphened (dropEndWhile p s) ↔ Hyphened s := by
  refine hyphened_iff_of_filter (filter_dropEndWhile (fun c hc => ?_) s)
  rwa [eq_of_beq hc]

theorem hyphened_strip : Hyphened (strip s) ↔ Hyphened s := by
  have kept (c : Char) (hc : (c == '-') = true) : isBlank c = false := by
    rw [eq_of_beq hc]
    rfl
  rw [strip, hyphened_dropEndWhile rfl]
  apply hyphened_iff_of_filter
  rw [String.toList_ofList, filter_dropWhile kept]

theorem not_hyphened_of_allBlank (h : allBlank s = true) : ¬ Hyphened s := fun hs =>
  absurd (List.all_eq_true.mp h '-' hs) (by decide)

theorem not_hyphened_munged (s : String) : ¬ Hyphened (munged s) := notMem_munged (by decide) s

theorem hyphened_terminated : Hyphened (terminated s) ↔ Hyphened s := by
  unfold terminated
  split
  · rfl
  · simp [Hyphened]

theorem hyphened_asBranch {block : Bool} : Hyphened (asBranch block s) ↔ Hyphened s := by
  have added : ¬ Hyphened "\n" ∧ ¬ Hyphened " " ∧ ¬ Hyphened ";" := by simp [Hyphened]
  unfold asBranch
  split <;> simp [hyphened_strip, added]

theorem hyphened_asOperand : Hyphened (asOperand s) ↔ Hyphened s := by
  unfold asOperand
  split
  · rfl
  · simp [doubleQuoted, Hyphened]

/-- The empty text is no statement, and has no comment. -/
theorem hyphened_asStatement :
    Hyphened (asStatement comment s) ↔ Hyphened s ∨ s ≠ "" ∧ Hyphened comment := by
  unfold asStatement
  split
  · next h => simp [h, Hyphened]
  · next h =>
    split
    · next hc => simp [hyphened_terminated, hc, not_hyphened_empty]
    · have kept : Hyphened (dropEndWhile (· == '\n') s) ↔ Hyphened s := hyphened_dropEndWhile rfl
      simp [hyphened_terminated, kept, h]

/-- Blank texts are left out of a chain, but they hold no hyphens. -/
theorem hyphened_chainOnto (hop : ¬ Hyphened op) :
    Hyphened (chainOnto op s t) ↔ Hyphened s ∨ Hyphened t := by
  unfold chainOnto
  split
  · next h => simp [not_hyphened_of_allBlank h]
  · split
    · next h => simp [h, not_hyphened_empty]
    · have blank : ¬ Hyphened " " := by simp [Hyphened]
      simp [hop, blank]

/-! ## Templates -/

namespace Template

variable {names : String → Sexpr × Context → Prop} {H : Prop}

/-- A template whose operators hold no hyphens, whose comments are marked as such and hold some only
if `H`, and whose names are checked as they are rendered, each by a rule. -/
@[simp] def Vetted (names : String → Sexpr × Context → Prop) (H : Prop) : Template → Prop
  | text _ | sub _ _ | fail _ => True
  | append a b | late a b => a.Vetted names H ∧ b.Vetted names H
  | chain op a b => ¬ Hyphened op ∧ a.Vetted names H ∧ b.Vetted names H
  | finish (.identifier rule) t => ∃ e ctx, t = sub e ctx ∧ names rule (e, ctx)
  | finish (.statement comment) t =>
    (comment = "" ∨ '#' ∈ comment.toList ∧ (Hyphened comment → H)) ∧ t.Vetted names H
  | finish _ t => t.Vetted names H

variable {ts : List Template} {es args : List Sexpr} {ctx : Context} {e : Sexpr}

@[simp] theorem vetted_concat : (concat ts).Vetted names H ↔ ∀ t ∈ ts, t.Vetted names H := by
  induction ts with
  | nil => simp [concat]
  | cons t ts ih =>
    cases ts with
    | nil => simp [concat]
    | cons u ts => rw [concat, Vetted, ih, ← List.forall_mem_cons]; simp

@[simp] theorem vetted_separated {sep : String} :
    (separated sep ts).Vetted names H ↔ ∀ t ∈ ts, t.Vetted names H := by
  induction ts with
  | nil => simp [separated]
  | cons t ts ih =>
    cases ts with
    | nil => simp [separated]
    | cons u ts =>
      rw [separated, Vetted, Vetted, ih, List.forall_mem_cons (l := u :: ts)]
      · simp
      · simp

theorem vetted_chainOf (hop : ¬ Hyphened op) :
    (chainOf op ts).Vetted names H ↔ ∀ t ∈ ts, t.Vetted names H := by
  induction ts with
  | nil => simp [chainOf]
  | cons t ts ih => simp [chainOf, hop, ih]

@[simp] theorem vetted_each : (∀ t ∈ each es ctx, t.Vetted names H) ↔ True :=
  iff_true_intro (List.forall_mem_map.mpr fun _ _ => trivial)

@[simp] theorem vetted_ofOutcome (o : Outcome) : (ofOutcome o).Vetted names H := by
  cases o <;> trivial

end Template

/-! ## Special forms -/

/-- A hyphen in the citation of an expression's location means that `H`. -/
def CitesHyphen (H : Prop) (e : Sexpr) : Prop :=
  ∀ l, e.location? = some l → Hyphened l.cite → H

theorem citesHyphen_of_unlocated {H : Prop} {e : Sexpr} (h : e.location? = none) :
    CitesHyphen H e := by
  intro l hl
  rw [h] at hl
  cases hl

theorem nodewise_citesHyphen {H : Prop} : Nodewise (CitesHyphen H) where
  nil := citesHyphen_of_unlocated rfl
  method _ _ := citesHyphen_of_unlocated rfl

section

variable {names : String → Sexpr × Context → Prop} {H : Prop} {args es : List Sexpr}
  {ctx : Context} {e : Sexpr}

theorem vetted_statements (h : ∀ e ∈ es, CitesHyphen H e) :
    (statements es ctx).Vetted names H := by
  refine vetted_concat.mpr (List.forall_mem_map.mpr fun e he => ⟨?_, trivial⟩)
  unfold commentFor
  split
  · next l _ hl =>
    refine .inr ⟨by simp, fun hc => h e he l hl ?_⟩
    have mark : ¬ Hyphened " # " := by simp [Hyphened]
    exact (hyphened_append.mp hc).resolve_left mark
  · exact .inl rfl

theorem vetted_setEntries (target : Sexpr) (entries : List (Sexpr × Sexpr)) :
    (setEntries target entries ctx).Vetted names H := by
  have calls : (concat (entries.map fun p => append (setEntry target ctx p) (text "; "))).Vetted
      names H :=
    vetted_concat.mpr (List.forall_mem_map.mpr fun p _ => by simp [setEntry, mungedSub])
  exact ⟨trivial, calls, trivial⟩

theorem vetted_newVariable (hname : names "var" (argAt args 0, ctx)) :
    (newVariable args ctx).Vetted names H := by
  unfold newVariable
  split
  · exact ⟨⟨_, _, rfl, hname⟩, vetted_setEntries _ _⟩
  · exact ⟨⟨_, _, rfl, hname⟩, trivial, trivial⟩

theorem vetted_merge : (merge args ctx).Vetted names H := by
  unfold merge
  split
  · exact vetted_setEntries _ _
  · trivial

theorem vetted_choice : (choice args ctx).Vetted names H := by
  unfold choice
  split
  · trivial
  · have arms : ∀ t ∈ (pairUp (args.drop 1)).map (arm ctx), t.Vetted names H :=
      List.forall_mem_map.mpr fun p _ => by simp [arm]
    exact ⟨⟨trivial, trivial, trivial⟩, vetted_separated.mpr arms, trivial⟩

theorem vetted_iteration (h : ∀ e ∈ args, CitesHyphen H e) :
    (iteration args ctx).Vetted names H := by
  have body : (statements (args.drop 1) ctx).Vetted names H :=
    vetted_statements fun e he => h e (List.mem_of_mem_drop he)
  unfold iteration
  split
  · simp [body, -List.drop_one]
  · trivial

theorem vetted_expansion : (expansion args ctx).Vetted names H := by
  unfold expansion
  split
  · trivial
  · split
    · simp
    · split <;> simp

theorem vetted_operator (op : String) : (Operator.template op args ctx).Vetted names H := by
  unfold Operator.template
  split
  · simp only [Operator.operand]
    split <;> simp
  · trivial

theorem vetted_function {name doc signature : Sexpr} {body : List Sexpr}
    (h : ∀ e ∈ body, CitesHyphen H e) : (function name doc signature body ctx).Vetted names H := by
  unfold function
  split
  · split
    · trivial
    · next g _ =>
      have arguments : (argumentNames g.positional ctx).Vetted names H :=
        vetted_concat.mpr (List.forall_mem_map.mpr fun p _ => ⟨trivial, trivial⟩)
      simp [arguments, vetted_statements h]
  · trivial

theorem vetted_definition (h : ∀ e ∈ args, e.Everywhere (CitesHyphen H)) :
    (definition args ctx).Vetted names H :=
  definition_of_everywhere nodewise_citesHyphen h (fun _ => trivial)
    fun _ _ _ hbody => vetted_function fun e he => (hbody e he).here

theorem vetted_condition (negated : Bool) : (condition negated args ctx).Vetted names H := by
  cases negated <;> simp [condition]

theorem vetted_alternative : (alternative args ctx).Vetted names H := by
  unfold alternative
  split <;> simp [branch]

theorem vetted_command (head : Sexpr) : (command head args ctx).Vetted names H :=
  ⟨trivial, vetted_concat.mpr (List.forall_mem_map.mpr fun _ _ => ⟨trivial, trivial⟩)⟩

theorem vetted_methodCall (object method : Sexpr) :
    (methodCall object method args ctx).Vetted names H := by
  simp [methodCall, argumentList]

/-- The rule by which a special form checks its first argument as a name. -/
def Special.nameRule? : Special → Option String
  | newVariable => some "var"
  | setVariable => some "set!"
  | associate => some "assoc!"
  | _ => none

/-- The rule of a check is the word at the head of the form. -/
theorem Special.eq_of_nameRule? {s rule : String} {special : Special}
    (hs : ofSymbol? s = some special) (h : special.nameRule? = some rule) :
    s = rule ∧ rule ∈ ["var", "set!", "assoc!"] := by
  cases special with
  | newVariable =>
    cases h
    exact ⟨eq_of_ofSymbol? "var" hs nofun (by decide), by simp⟩
  | setVariable =>
    cases h
    exact ⟨eq_of_ofSymbol? "set!" hs nofun (by decide), by simp⟩
  | associate =>
    cases h
    exact ⟨eq_of_ofSymbol? "assoc!" hs nofun (by decide), by simp⟩
  | _ => cases h

theorem Special.not_hyphened_of_chain {s op : String} (hs : ofSymbol? s = some (chain op)) :
    ¬ Hyphened op := by
  rcases Option.or_eq_some_iff.mp hs with h | ⟨_, h⟩
  · obtain ⟨_, _, heq, _⟩ := List.lookup_eq_some_iff.mp h
    have words : ∀ p ∈ table, ¬ Hyphened (match p.2 with | chain op => op | _ => "") := by decide
    exact words (s, chain op) (heq ▸ by simp)
  · obtain ⟨_, _, h⟩ := Option.map_eq_some_iff.mp h
    cases h

theorem Special.vetted {s : String} {special : Special} (hs : ofSymbol? s = some special)
    (hname : ∀ rule, special.nameRule? = some rule → names rule (argAt args 0, ctx))
    (hargs : ∀ e ∈ args, e.Everywhere (CitesHyphen H)) :
    (special.template args ctx).Vetted names H := by
  have body : ∀ k, (statements (args.drop k) ctx).Vetted names H := fun k =>
    vetted_statements fun e he => (hargs e (List.mem_of_mem_drop he)).here
  have block : (statements args ctx).Vetted names H := body 0
  cases special with
  | newVariable => exact vetted_newVariable (hname _ rfl)
  | setVariable => exact ⟨⟨_, _, rfl, hname _ rfl⟩, trivial, trivial⟩
  | associate =>
    refine ⟨⟨_, _, rfl, hname _ rfl⟩, ?_⟩
    simp [setEntry, mungedSub]
  | merge => exact vetted_merge
  | choice => exact vetted_choice
  | iteration => exact vetted_iteration fun e he => (hargs e he).here
  | expansion => exact vetted_expansion
  | definition => exact vetted_definition hargs
  | chain op => simp [template, vetted_chainOf (not_hyphened_of_chain hs)]
  | block => exact block
  | group => simp [template, grouped, block]
  | loop => simp [template, Script.loop, body, -List.drop_one]
  | guarded negated =>
    simp [template, Script.guarded, vetted_condition, body, -List.drop_one]
  | conditional negated =>
    simp [template, Script.conditional, vetted_condition, vetted_alternative, branch]
  | method | dotted => exact vetted_methodCall _ _
  | _ =>
    simp [template, Script.fileTest, Script.negation, Script.returning, Script.assignment,
      Script.setItem, Script.lookup, Script.item, Script.concatenation, Script.quotation, words,
      Script.echo, Script.construction, argumentList, mungedSub]

/-- The first argument of a form that checks a name, in the context of the form. -/
inductive IsCheckedName (e : Sexpr) (ctx : Context) : String → Sexpr × Context → Prop where
  | name {rule : String} {args : List Sexpr} {location : Option Location} :
      rule ∈ ["var", "set!", "assoc!"] → e = .form (.symbol rule :: args) location →
      IsCheckedName e ctx rule (argAt args 0, ctx)

/-- The only names that an expression checks are those of forms that set a variable. -/
theorem template_vetted (h : e.Everywhere (CitesHyphen H)) :
    (template e ctx).Vetted (IsCheckedName e ctx) H := by
  cases e with
  | form items location =>
    have hargs : ∀ x ∈ items.tail, x.Everywhere (CitesHyphen H) :=
      fun x hx => h.part (List.mem_of_mem_tail hx)
    rw [template]
    obtain ⟨s, special, hhead, hspecial, ht⟩ | ⟨op, -, ht⟩ | ht := formTemplate_cases items ctx
    · rw [ht]
      obtain ⟨args, rfl⟩ : ∃ args, items = .symbol s :: args := by
        cases items with
        | nil => cases hhead
        | cons x args => exact ⟨args, congrArg (· :: args) hhead⟩
      refine Special.vetted hspecial (fun rule hrule => ?_) hargs
      obtain ⟨rfl, hmem⟩ := Special.eq_of_nameRule? hspecial hrule
      exact .name hmem rfl
    · rw [ht]
      exact vetted_operator op
    · rw [ht]
      exact vetted_command _
  | seq kind items =>
    simp only [template, sequence]
    split <;> simp
  | map entries =>
    refine ⟨trivial, vetted_separated.mpr (List.forall_mem_map.mpr fun p _ => ?_), trivial⟩
    simp [entryLiteral]
  | _ =>
    rw [template]
    · exact vetted_ofOutcome _
    all_goals simp

end

end SexprShell.Script
