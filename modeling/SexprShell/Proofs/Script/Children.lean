import SexprShell.Proofs.Script.Rendering
import SexprShell.Proofs.Script.Signature
import SexprShell.Proofs.Sexpr.Entries
import SexprShell.Script.Emit

/-!
# Rendered children

The expressions that an expression is rendered with, and their contexts, in the order of rendering
(`subs_template`). Some arguments of a form are left out, some are rendered more than once, and a
missing argument is rendered as nil.
-/

namespace SexprShell.Script

open Template Sexpr

/-! ## Templates by heads -/

section

variable {s : String} {args : List Sexpr} {location : Option Location} {ctx : Context}

theorem template_of_special {special : Special} (hs : Special.ofSymbol? s = some special) :
    template (.form (.symbol s :: args) location) ctx = special.template args ctx := by
  simp only [template, formTemplate, headOf, List.headD_cons, hs, List.tail_cons]

theorem template_of_operator (hs : Special.ofSymbol? s = none) (hop : Operator.isInfix s = true) :
    template (.form (.symbol s :: args) location) ctx = Operator.template s args ctx := by
  simp only [template, formTemplate, headOf, List.headD_cons, hs, hop, if_true, List.tail_cons]

theorem template_of_word (hs : Special.ofSymbol? s = none) (hop : Operator.isInfix s = false) :
    template (.form (.symbol s :: args) location) ctx = command (.symbol s) args ctx := by
  simp [template, formTemplate, headOf, hs, hop]

/-- The template of a form is that of a special form, an operator or a command. -/
theorem formTemplate_cases (items : List Sexpr) (ctx : Context) :
    (∃ s special, headOf items = .symbol s ∧ Special.ofSymbol? s = some special ∧
      formTemplate items ctx = special.template items.tail ctx) ∨
    (∃ op, Operator.isInfix op = true ∧
      formTemplate items ctx = Operator.template op items.tail ctx) ∨
    formTemplate items ctx = command (headOf items) items.tail ctx := by
  unfold formTemplate
  split
  · next s hs =>
    split
    · next special hspecial => exact .inl ⟨s, special, hs, hspecial, rfl⟩
    · split
      · next hop => exact .inr (.inl ⟨s, hop, rfl⟩)
      · rw [hs]
        exact .inr (.inr rfl)
  · exact .inr (.inr rfl)

theorem template_of_not_symbol {head : Sexpr} (h : head.isSymbol = false) :
    template (.form (head :: args) location) ctx = command head args ctx := by
  cases head with
  | name kind s =>
    cases kind with
    | symbol => cases h
    | keyword | bare => rfl
  | _ => rfl

end

/-! ## Children -/

/-- Expressions that are rendered in one context. -/
def inContext (ctx : Context) (es : List Sexpr) : List (Sexpr × Context) := es.map (·, ctx)

/-- Each entry of a mapping comes with the variable that it is set in. -/
def entryChildren (target : Sexpr) (entries : List (Sexpr × Sexpr)) : List Sexpr :=
  entries.flatMap fun p => [target, p.1, p.2]

/-- The names of positional arguments, then the body; nothing where the signature is refused. -/
def functionChildren (name signature : Sexpr) (body : List Sexpr) : List Sexpr :=
  match name, Signature.ofSexpr signature with
  | .name .symbol _, .ok g => g.positional.map symbol ++ body
  | _, _ => []

def definitionChildren (args : List Sexpr) : List Sexpr :=
  match args.drop 1 with
  | .text _ :: signature :: body => functionChildren (argAt args 0) signature body
  | [.text _] | [] => []
  | signature :: body => functionChildren (argAt args 0) signature body

/-- The expression, and the value of the option that counts unless the expression is a form. -/
def expansionChildren (args : List Sexpr) : List Sexpr :=
  if (args.drop 1).length % 2 = 1 then []
  else if (argAt args 0).isForm then [argAt args 0]
  else argAt args 0 :: ((chosenOption? (pairUp (args.drop 1))).map (·.2)).toList

def Special.children (special : Special) (args : List Sexpr) (ctx : Context) :
    List (Sexpr × Context) :=
  match special with
  | .fileTest _ | .negation | .returning => inContext ctx [argAt args 0]
  | .conditional _ =>
    inContext ctx ([argAt args 0, argAt args 1] ++ [argAt args 2].filter isBranch)
  | .guarded _ | .loop | .construction => inContext ctx (argAt args 0 :: args.drop 1)
  | .choice =>
    if (args.drop 1).length % 2 = 1 then [] else inContext ctx (args.drop 1 ++ [argAt args 0])
  | .iteration =>
    match argAt args 0 with
    | .seq _ [target, values] =>
      (values, ctx.undelimited) :: inContext ctx (target :: args.drop 1)
    | _ => []
  | .group | .block | .chain _ | .concatenation | .quotation | .echo _ => inContext ctx args
  | .assignment _ | .setVariable | .lookup | .item =>
    inContext ctx [argAt args 0, argAt args 1]
  | .setItem => inContext ctx [argAt args 0, argAt args 1, argAt args 2]
  | .newVariable =>
    match argAt args 1 with
    | .map entries => inContext ctx (argAt args 0 :: entryChildren (argAt args 0) entries)
    | value => inContext ctx [argAt args 0, value]
  | .merge =>
    match argAt args 1 with
    | .map entries => inContext ctx (entryChildren (argAt args 0) entries)
    | _ => []
  | .associate =>
    inContext ctx (argAt args 0 :: entryChildren (argAt args 0) [(argAt args 1, argAt args 2)])
  | .expansion => inContext ctx.quiet (expansionChildren args)
  | .method => inContext ctx (argAt args 0 :: argAt args 1 :: args.drop 2)
  | .dotted m => inContext ctx (argAt args 0 :: symbol m :: args.drop 1)
  | .definition => inContext ctx (definitionChildren args)

/-- An infix operator has its first two operands. -/
def operatorChildren (args : List Sexpr) : List Sexpr :=
  match args with
  | left :: right :: _ => [left, right]
  | _ => []

def formChildren (items : List Sexpr) (ctx : Context) : List (Sexpr × Context) :=
  match headOf items with
  | .name .symbol s =>
    match Special.ofSymbol? s with
    | some special => special.children items.tail ctx
    | none =>
      if Operator.isInfix s then inContext ctx (operatorChildren items.tail)
      else inContext ctx (items.tail ++ [.symbol s])
  | head => inContext ctx (items.tail ++ [head])

/-- What an expression is rendered with. -/
def children (e : Sexpr) (ctx : Context) : List (Sexpr × Context) :=
  match e with
  | .form items _ => formChildren items ctx
  | .seq _ items => inContext ctx items
  | .map entries => inContext ctx (keysAndValues entries)
  | _ => []

section

variable {args : List Sexpr} {ctx : Context}

theorem subs_command (head : Sexpr) : (command head args ctx).subs =
    inContext ctx (args ++ [head]) := by
  simp [command, subs, inContext, List.flatMap_map, ← List.map_eq_flatMap]

theorem subs_operator (op : String) : (Operator.template op args ctx).subs =
    inContext ctx (operatorChildren args) := by
  unfold operatorChildren
  split
  · simp only [Operator.template, subs_concat, Operator.operand]
    split <;> simp [subs, inContext]
  · next h => rw [Operator.template]; rfl; exact h

theorem subs_condition (negated : Bool) :
    (condition negated args ctx).subs = [(argAt args 0, ctx)] := by
  cases negated <;> simp [condition, subs]

theorem subs_alternative :
    (alternative args ctx).subs = inContext ctx ([argAt args 2].filter isBranch) := by
  unfold alternative
  split
  · next h => simp [branch, subs, inContext, h]
  · next h => simp [subs, inContext, h]

theorem flatMap_subs_arms (es : List Sexpr) (h : es.length % 2 ≠ 1) :
    ((pairUp es).map (arm ctx)).flatMap subs = inContext ctx es := by
  conv => rhs; rw [← keysAndValues_pairUp es h]
  simp [keysAndValues, arm, subs, inContext, List.flatMap_map, List.map_flatMap]

theorem subs_choice : (choice args ctx).subs = Special.choice.children args ctx := by
  simp only [choice, Special.children]
  split
  · rfl
  · next h =>
    simp only [subs, subs_separated, flatMap_subs_arms _ h, subs_concat]
    simp [subs, inContext]

theorem subs_iteration : (iteration args ctx).subs = Special.iteration.children args ctx := by
  simp only [iteration, Special.children]
  cases argAt args 0 with
  | seq kind items =>
    rcases items with _ | ⟨target, _ | ⟨values, _ | ⟨_, _⟩⟩⟩
    · rfl
    · rfl
    · simp [subs, inContext]
    · rfl
  | _ => rfl

theorem subs_setEntries (target : Sexpr) (entries : List (Sexpr × Sexpr)) :
    (setEntries target entries ctx).subs = inContext ctx (entryChildren target entries) := by
  simp [setEntries, setEntry, mungedSub, subs, entryChildren, inContext, List.flatMap_map,
    List.map_flatMap]

theorem subs_newVariable : (newVariable args ctx).subs = Special.newVariable.children args ctx := by
  simp only [newVariable, Special.children]
  cases argAt args 1 with
  | map entries => simp [subs, checkedName, subs_setEntries, inContext]
  | _ => simp [subs, checkedName, inContext]

theorem subs_merge : (merge args ctx).subs = Special.merge.children args ctx := by
  simp only [merge, Special.children]
  cases argAt args 1 with
  | map entries => exact subs_setEntries _ _
  | _ => rfl

theorem subs_expansion : (expansion args ctx).subs = Special.expansion.children args ctx := by
  simp only [expansion, Special.children, expansionChildren]
  split
  · rfl
  · split
    · next h => simp [h, isForm, subs, inContext]
    · next h =>
      have : (argAt args 0).isForm = false := by
        cases h0 : argAt args 0 with
        | form items location => exact absurd h0 (h items location)
        | _ => rfl
      split <;> simp_all [subs, inContext]

theorem subs_argumentNames (names : List String) :
    (argumentNames names ctx).subs = inContext ctx (names.map symbol) := by
  have fst : (names.zipIdx 1).map ((fun s => (symbol s, ctx)) ∘ Prod.fst) =
      names.map fun s => (symbol s, ctx) := by
    rw [← List.map_map, List.zipIdx_map_fst]
  simp only [argumentNames, subs_concat, List.flatMap_map, subs, List.append_nil, inContext,
    ← List.map_eq_flatMap, List.map_map]
  exact fst

theorem subs_function (name doc signature : Sexpr) (body : List Sexpr) :
    (function name doc signature body ctx).subs =
      inContext ctx (functionChildren name signature body) := by
  cases h : name.isSymbol with
  | false =>
    cases name with
    | name kind s => cases kind <;> first | rfl | cases h
    | _ => rfl
  | true =>
    obtain ⟨s, rfl⟩ := exists_eq_symbol h
    simp only [function, functionChildren]
    cases Signature.ofSexpr signature with
    | error f => rfl
    | ok g => simp [subs, subs_ofOutcome, subs_argumentNames, inContext]

theorem subs_definition : (definition args ctx).subs = inContext ctx (definitionChildren args) := by
  simp only [definition, definitionChildren]
  cases args.drop 1 with
  | nil => rfl
  | cons a rest =>
    cases a with
    | text doc =>
      cases rest with
      | nil => rfl
      | cons signature body => exact subs_function _ _ _ _
    | _ => exact subs_function _ _ _ _

theorem Special.subs_template (special : Special) :
    (special.template args ctx).subs = special.children args ctx := by
  cases special with
  | fileTest | negation | returning | assignment | setVariable | setItem | lookup | item =>
    simp [Special.template, children, inContext, Script.fileTest, Script.negation,
      Script.returning, Script.setVariable, Script.setItem, Script.lookup, Script.item,
      Script.assignment, checkedName, mungedSub, subs]
  | loop | group | block | chain | concatenation | quotation | echo | method | dotted
  | construction =>
    simp [Special.template, children, inContext, Script.loop, grouped, Script.concatenation,
      Script.quotation, words, Script.echo, methodCall, Script.construction, argumentList, subs]
  | conditional negated =>
    simp [Special.template, children, Script.conditional, subs_condition, subs_alternative, branch,
      subs, inContext]
  | guarded negated =>
    simp [Special.template, children, Script.guarded, subs_condition, subs, inContext]
  | choice => exact subs_choice
  | iteration => exact subs_iteration
  | newVariable => exact subs_newVariable
  | merge => exact subs_merge
  | associate =>
    simp [Special.template, children, Script.associate, setEntry, checkedName, mungedSub, subs,
      entryChildren, inContext]
  | expansion => exact subs_expansion
  | definition => exact subs_definition

end

/-- An expression is rendered with its children, in their order. -/
theorem subs_template (e : Sexpr) (ctx : Context) : (template e ctx).subs = children e ctx := by
  cases e with
  | form items location =>
    simp only [template, children, formTemplate, formChildren]
    cases headOf items with
    | name kind s =>
      cases kind with
      | symbol =>
        simp only
        cases Special.ofSymbol? s with
        | some special => exact special.subs_template
        | none =>
          simp only
          split
          · exact subs_operator s
          · exact subs_command _
      | keyword | bare => exact subs_command _
    | _ => exact subs_command _
  | seq kind items =>
    simp only [template, sequence, children]
    split <;> simp [subs, inContext]
  | map entries =>
    simp [template, children, mapping, entryLiteral, keysAndValues, subs, inContext,
      List.flatMap_map, List.map_flatMap]
  | _ => simp only [template]; exact subs_ofOutcome _

theorem children_of_special {s : String} {special : Special} {args : List Sexpr}
    {location : Option Location} {ctx : Context} (hs : Special.ofSymbol? s = some special) :
    children (.form (.symbol s :: args) location) ctx = special.children args ctx := by
  rw [← subs_template, template_of_special hs, special.subs_template]

/-! ## Contexts of children -/

/-- The contexts that an expression hands on to its children. -/
inductive Context.HandsOn (ctx : Context) : Context → Prop where
  | same : HandsOn ctx ctx
  | quiet : HandsOn ctx ctx.quiet
  | undelimited : HandsOn ctx ctx.undelimited

/-- No expression switches comments on. -/
theorem Context.HandsOn.comments {ctx c : Context} (h : ctx.HandsOn c)
    (hcomments : ctx.comments = false) : c.comments = false := by
  cases h with
  | same | undelimited => exact hcomments
  | quiet => rfl

/-- No expression has sequences delimited again. -/
theorem Context.HandsOn.delimited {ctx c : Context} (h : ctx.HandsOn c)
    (hdelimited : ctx.delimited = false) : c.delimited = false := by
  cases h with
  | same | quiet => exact hdelimited
  | undelimited => rfl

section

variable {args es : List Sexpr} {ctx : Context} {e : Sexpr} {q : Sexpr × Context}

theorem snd_of_mem_inContext (hq : q ∈ inContext ctx es) : q.2 = ctx := by
  obtain ⟨e, _, rfl⟩ := List.mem_map.mp hq
  rfl

theorem handsOn_of_mem_inContext (hq : q ∈ inContext ctx es) : ctx.HandsOn q.2 :=
  snd_of_mem_inContext hq ▸ .same

theorem Special.handsOn_of_mem_children (special : Special) (hq : q ∈ special.children args ctx) :
    ctx.HandsOn q.2 := by
  cases special with
  | expansion =>
    rw [snd_of_mem_inContext hq]
    exact .quiet
  | choice =>
    simp only [children] at hq
    split at hq
    · cases hq
    · exact handsOn_of_mem_inContext hq
  | iteration =>
    simp only [children] at hq
    split at hq
    · rcases List.mem_cons.mp hq with rfl | hq
      · exact .undelimited
      · exact handsOn_of_mem_inContext hq
    · cases hq
  | newVariable =>
    simp only [children] at hq
    split at hq <;> exact handsOn_of_mem_inContext hq
  | merge =>
    simp only [children] at hq
    split at hq
    · exact handsOn_of_mem_inContext hq
    · cases hq
  | _ => exact handsOn_of_mem_inContext hq

theorem handsOn_of_mem_children (hq : q ∈ children e ctx) : ctx.HandsOn q.2 := by
  cases e with
  | form items location =>
    simp only [children, formChildren] at hq
    split at hq
    · split at hq
      · next special _ => exact special.handsOn_of_mem_children hq
      · split at hq <;> exact handsOn_of_mem_inContext hq
    · exact handsOn_of_mem_inContext hq
  | seq | map => exact handsOn_of_mem_inContext hq
  | _ => cases hq

end

end SexprShell.Script
