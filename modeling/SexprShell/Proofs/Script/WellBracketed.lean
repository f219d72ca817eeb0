import SexprShell.Proofs.Script.Bracketing
import SexprShell.Proofs.Script.Everywhere

/-!
# Brackets of script text

The templates of special forms other than choices, of operators, commands and data are balanced
(`template_balanced`). So the text of an expression without brackets and double quotes of its own is
well nested (`emit_wellNested`). The arms of a choice end with a round bracket that nothing opens.
-/

namespace SexprShell.Script

open Sexpr

variable {s : String}

/-! ## Special forms -/

/-- An expression whose own characters and whose file hold no brackets and double quotes, and that
is no choice. -/
structure Unmarked (e : Sexpr) : Prop where
  spelling {s : String} : e.spelling? = some s → Markless s
  file {l : Location} {f : String} : e.location? = some l → l.file = some f → Markless f
  noChoice : e.headName? ≠ some "case"

theorem nodewise_unmarked : Nodewise Unmarked where
  nil := ⟨nofun, nofun, nofun⟩
  method := by
    intro s m hm h
    refine ⟨?_, nofun, nofun⟩
    rintro _ ⟨⟩ c hc
    exact h.spelling rfl c (Special.mem_of_dotted? hm c hc)

variable {args es : List Sexpr} {ctx : Context} {e : Sexpr}

open Template

theorem markless_commentFor (h : Unmarked e) : Markless (commentFor e ctx) := by
  have named : ∀ {f : String}, Markless f → ∀ n : Int,
      Markless (" # " ++ (f ++ ":" ++ toString n)) := by
    intro f hf n
    have place : Markless (f ++ ":" ++ toString n) :=
      (hf.append (by decide)).append (plain_toString_int n).markless
    exact .append (by decide) place
  have unnamed : ∀ n : Int, Markless (" # " ++ ("line " ++ toString n)) := by
    intro n
    exact .append (by decide) (.append (by decide) (plain_toString_int n).markless)
  unfold commentFor
  split
  · next l _ hl =>
    unfold Location.cite
    split
    · exact unnamed l.line
    · exact unnamed l.line
    · next f _ hf => exact named (h.file hl hf) l.line
  · exact fun _ hc => nomatch hc

theorem balanced_body (h : ∀ e ∈ es, e.Everywhere Unmarked) : (statements es ctx).Balanced :=
  balanced_statements fun e he => markless_commentFor (h e he).here

theorem balanced_words : (words args ctx).Balanced :=
  balanced_separated (by decide) balanced_each

theorem balanced_argumentList : (argumentList args ctx).Balanced := by
  have arguments : (separated ", " (each args ctx)).Balanced :=
    balanced_separated (by decide) balanced_each
  intro n
  simp [argumentList, Nesting.next, arguments]

theorem balanced_methodCall (object method : Sexpr) :
    (methodCall object method args ctx).Balanced := by
  intro n
  simp [methodCall, Nesting.next, balanced_argumentList]

theorem balanced_command (head : Sexpr) : (command head args ctx).Balanced := by
  have arguments : (concat (args.map fun e => append (text " ") (sub e ctx))).Balanced :=
    balanced_concat (List.forall_mem_map.mpr fun e _ n => by simp [Nesting.next])
  exact arguments

theorem balanced_condition (negated : Bool) : (condition negated args ctx).Balanced := by
  intro n
  cases negated <;> simp [condition, Nesting.next]

theorem balanced_alternative : (alternative args ctx).Balanced := by
  intro n
  unfold alternative
  split <;> simp [branch, Nesting.next]

theorem balanced_setEntry (target : Sexpr) (entry : Sexpr × Sexpr) :
    (setEntry target ctx entry).Balanced := by
  intro n
  simp [setEntry, mungedSub, Nesting.next]

theorem balanced_setEntries (target : Sexpr) (entries : List (Sexpr × Sexpr)) :
    (setEntries target entries ctx).Balanced := by
  have calls :
      (concat (entries.map fun p => append (setEntry target ctx p) (text "; "))).Balanced :=
    balanced_concat (List.forall_mem_map.mpr fun p _ n => by
      simp [balanced_setEntry target p, Nesting.next])
  intro n
  simp [setEntries, Nesting.next, calls]

theorem balanced_newVariable : (newVariable args ctx).Balanced := by
  intro n
  unfold newVariable
  split
  · simp [balanced_setEntries]
  · simp [checkedName, Nesting.next]

theorem balanced_merge : (merge args ctx).Balanced := by
  unfold merge
  split
  · exact balanced_setEntries _ _
  · exact fun _ => rfl

theorem balanced_iteration (h : ∀ e ∈ args, e.Everywhere Unmarked) :
    (iteration args ctx).Balanced := by
  have body : (statements (args.drop 1) ctx).Balanced :=
    balanced_body fun e he => h e (List.mem_of_mem_drop he)
  intro n
  unfold iteration
  split
  · simp [Nesting.next, body, -List.drop_one]
  · rfl

theorem balanced_expansion : (expansion args ctx).Balanced := by
  intro n
  unfold expansion
  split
  · rfl
  · split
    · simp [Nesting.next]
    · split
      · next mark value h =>
        have plain : ∀ n : Nesting, n.after mark.toList = some n := fun n =>
          Nesting.after_plain (chosenOption?_plain h)
        simp [Nesting.next, plain]
      · simp [Nesting.next]

theorem balanced_operator {op : String} (hop : Operator.isInfix op) :
    (Operator.template op args ctx).Balanced := by
  have operand : ∀ e, (Operator.operand op e ctx).Balanced := by
    intro e n
    unfold Operator.operand
    split <;> rfl
  have spelled : ∀ n : Nesting, n.after (Operator.spelled op).toList = some n := fun n =>
    Nesting.after_plain (plain_spelled hop)
  intro n
  unfold Operator.template
  split
  · unfold Operator.delimiters
    split
    · simp [Nesting.next, operand, spelled]
    · split <;> simp [Nesting.next, operand, spelled]
  · rfl

theorem balanced_argumentNames (names : List String) : (argumentNames names ctx).Balanced := by
  refine balanced_concat (List.forall_mem_map.mpr fun p _ => ?_)
  have value : Neutral ("=$" ++ toString p.2 ++ "\n") :=
    .append (.append (neutral_property.plain (by decide))
      (neutral_property.plain (plain_toString_nat p.2))) neutral_property.newline
  exact Balanced.append (balanced_sub _) (balanced_text value)

theorem balanced_function {name doc signature : Sexpr} {body : List Sexpr}
    (hname : Unmarked name) (hdoc : Unmarked doc) (hsignature : signature.Everywhere Unmarked)
    (hbody : ∀ e ∈ body, e.Everywhere Unmarked) :
    (function name doc signature body ctx).Balanced := by
  unfold function
  split
  · next s =>
    split
    · exact fun _ => rfl
    · next g hg =>
      have declared : (ofOutcome (declarations doc g.flags)).Balanced := by
        cases hd : declarations doc g.flags with
        | error f => exact fun _ => rfl
        | ok x =>
          refine balanced_text (neutral_property.declarations ?_ ?_ hd)
          · exact fun x hx => (hdoc.spelling hx).neutral
          · intro f hf e he x hx
            exact ((everywhere_field hg hsignature hf he).here.spelling hx).neutral
      have head : ∀ n : Nesting, n.after s.toList = some n := (hname.spelling rfl).neutral
      intro n
      simp [Nesting.next, head, declared, balanced_argumentNames, balanced_body hbody]
  · exact fun _ => rfl

theorem balanced_definition (h : ∀ e ∈ args, e.Everywhere Unmarked) :
    (definition args ctx).Balanced :=
  definition_of_everywhere nodewise_unmarked h (fun _ _ => rfl) balanced_function

theorem Special.balanced (special : Special) (hcarried : Plain special.carried)
    (hno : special ≠ .choice) (hargs : ∀ e ∈ args, e.Everywhere Unmarked) :
    (special.template args ctx).Balanced := by
  have hdrop : ∀ k, ∀ e ∈ args.drop k, e.Everywhere Unmarked :=
    fun k e he => hargs e (List.mem_of_mem_drop he)
  have body : ∀ k, (statements (args.drop k) ctx).Balanced := fun k => balanced_body (hdrop k)
  cases special with
  | choice => exact absurd rfl hno
  | fileTest f =>
    have flag : ∀ n : Nesting, n.after f.toList = some n := fun n => Nesting.after_plain hcarried
    intro n
    simp [Special.template, Script.fileTest, Nesting.next, flag]
  | chain op =>
    exact balanced_chainOf hcarried.markless balanced_each
  | negation => intro n; simp [Special.template, Script.negation, Nesting.next]
  | conditional negated =>
    intro n
    simp [Special.template, Script.conditional, branch, Nesting.next, balanced_condition,
      balanced_alternative]
  | guarded negated =>
    intro n
    simp [Special.template, Script.guarded, Nesting.next, balanced_condition, body, -List.drop_one]
  | loop =>
    intro n
    simp [Special.template, Script.loop, Nesting.next, body, -List.drop_one]
  | iteration => exact balanced_iteration hargs
  | group =>
    intro n
    simp [Special.template, grouped, Nesting.next, balanced_body hargs]
  | block => exact balanced_body hargs
  | returning => intro n; simp [Special.template, Script.returning, Nesting.next]
  | assignment a =>
    intro n
    cases a <;> simp [Special.template, Script.assignment, Nesting.next, Assignment.keyword,
      Assignment.quote]
  | newVariable => exact balanced_newVariable
  | setVariable =>
    intro n
    simp [Special.template, Script.setVariable, checkedName, Nesting.next]
  | merge => exact balanced_merge
  | associate =>
    intro n
    simp [Special.template, Script.associate, balanced_setEntry]
  | setItem => intro n; simp [Special.template, Script.setItem, Nesting.next]
  | lookup =>
    intro n
    simp [Special.template, Script.lookup, mungedSub, Nesting.next]
  | item => intro n; simp [Special.template, Script.item, Nesting.next]
  | expansion => exact balanced_expansion
  | concatenation => exact balanced_concat balanced_each
  | quotation =>
    intro n
    simp [Special.template, Script.quotation, Nesting.next, balanced_words]
  | echo newline =>
    intro n
    cases newline <;> simp [Special.template, Script.echo, Nesting.next, balanced_words]
  | method => exact balanced_methodCall _ _
  | dotted m => exact balanced_methodCall _ _
  | construction =>
    intro n
    simp [Special.template, Script.construction, Nesting.next, balanced_argumentList]
  | definition => exact balanced_definition hargs

theorem template_balanced (h : e.Everywhere Unmarked) : (template e ctx).Balanced := by
  cases e with
  | form items location =>
    have hitems : ∀ x ∈ items, x.Everywhere Unmarked := fun x => h.part
    have hargs : ∀ x ∈ items.tail, x.Everywhere Unmarked :=
      fun x hx => hitems x (List.mem_of_mem_tail hx)
    rw [template]
    obtain ⟨s, special, hs, hspecial, ht⟩ | ⟨op, hop, ht⟩ | ht := formTemplate_cases items ctx
    · rw [ht]
      apply special.balanced (Special.carried_plain hspecial) _ hargs
      rintro rfl
      obtain rfl := Special.eq_of_ofSymbol? "case" hspecial (by rintro m ⟨⟩) (by decide)
      apply h.here.noChoice
      cases items with
      | nil => cases hs
      | cons x xs => rw [show x = .symbol "case" from hs]; rfl
    · rw [ht]
      exact balanced_operator hop
    · rw [ht]
      exact balanced_command _
  | seq kind items =>
    intro n
    have words : (separated " " (each items ctx)).Balanced := balanced_words
    simp only [template, sequence]
    split
    · simp [Nesting.next, words]
    · exact words n
  | map entries =>
    have inner : (separated " " (entries.map (entryLiteral ctx))).Balanced :=
      balanced_separated (by decide) (List.forall_mem_map.mpr fun p _ n => by
        simp [entryLiteral, Nesting.next])
    intro n
    simp [template, mapping, Nesting.next, inner]
  | _ =>
    simp only [template]
    cases hl : literal _ with
    | error f => exact fun _ => rfl
    | ok x =>
      refine balanced_text ?_
      rcases literal_plain hl with hx | hx
      · exact (h.here.spelling hx).neutral
      · exact hx.markless.neutral

/-! ## All texts -/

/-- Where no text, name or file holds brackets or double quotes, and where there are no choices, the
text of an expression has all its brackets nested properly, and an even number of double quotes. -/
theorem emit_wellNested {e : Sexpr} {ctx : Context} {s : String} (h : e.Everywhere Unmarked)
    (hs : emit e ctx = .ok s) : WellNested s.toList ∧ Even (s.toList.count '"') := by
  have neutral : Neutral s := by
    refine emit_of_everywhere nodewise_unmarked ?_ h s hs
    intro e ctx s h hsubs hs n
    exact after_render hsubs hs (template_balanced h n)
  exact ⟨Nesting.wellNested_of_after (neutral ⟨[], false⟩) rfl,
    Nesting.even_of_after (neutral ⟨[], false⟩)⟩

/-- An expansion between double quotes, written in a file. -/
theorem emit_wellNested_quotation :
    let e : Sexpr := .form [.symbol "quoted", .form [.symbol "deref", .symbol "x"] none]
      (some ⟨1, some "f", none⟩)
    emit e {} = .ok "\"${x}\"" ∧ e.Everywhere Unmarked ∧
      WellNested "\"${x}\"".toList ∧ Even ("\"${x}\"".toList.count '"') := by
  intro e
  have symbol : ∀ s, Markless s → (Sexpr.symbol s).Everywhere Unmarked := by
    intro s h
    have here : Unmarked (.symbol s) := by
      constructor
      · intro t ht
        cases ht
        exact h
      · intro l f hl
        cases hl
      · intro hhead
        cases hhead
    exact everywhere_iff.mpr ⟨here, List.forall_mem_nil _⟩
  have form : ∀ items location, (∀ x ∈ items, x.Everywhere Unmarked) →
      (∀ l f, location = some l → l.file = some f → Markless f) →
      (Sexpr.form items location).headName? ≠ some "case" →
      (Sexpr.form items location).Everywhere Unmarked := by
    intro items location hitems hfile hhead
    have here : Unmarked (.form items location) := by
      constructor
      · intro t ht
        cases ht
      · exact @hfile
      · exact hhead
    exact everywhere_iff.mpr ⟨here, hitems⟩
  have unmarked : e.Everywhere Unmarked := by
    apply form
    · simp only [List.forall_mem_cons]
      refine ⟨symbol _ (by decide), ?_, List.forall_mem_nil _⟩
      apply form
      · simp only [List.forall_mem_cons]
        exact ⟨symbol _ (by decide), symbol _ (by decide), List.forall_mem_nil _⟩
      · intro l f hl
        cases hl
      · decide
    · intro l f hl hf
      cases hl
      cases hf
      decide
    · decide
  have text : emit e {} = .ok "\"${x}\"" := rfl
  exact ⟨text, unmarked, emit_wellNested unmarked text⟩

end SexprShell.Script
