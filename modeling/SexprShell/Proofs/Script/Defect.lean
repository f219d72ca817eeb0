import SexprShell.Proofs.Script.Children

/-!
# Defects

The ways in which an expression fails although everything that it is rendered with has a text.
These are the faults of its template (`template_faulty_iff`).
-/

namespace SexprShell.Script

open Template Sexpr

/-! ## Definitions of functions -/

/-- The arguments of a definition: a name, perhaps a help text, a signature and a body. -/
inductive IsDefinition : List Sexpr → Sexpr → Sexpr → List Sexpr → Prop where
  | documented (name : Sexpr) (doc : String) (signature : Sexpr) (body : List Sexpr) :
      IsDefinition (name :: .text doc :: signature :: body) name signature body
  | plain (name : Sexpr) {signature : Sexpr} (body : List Sexpr) : signature.isText = false →
      IsDefinition (name :: signature :: body) name signature body

theorem IsDefinition.unique {args body body' : List Sexpr} {name name' signature signature' : Sexpr}
    (h : IsDefinition args name signature body) (h' : IsDefinition args name' signature' body') :
    name' = name ∧ signature' = signature ∧ body' = body := by
  cases h with
  | documented =>
    cases h' with
    | documented => exact ⟨rfl, rfl, rfl⟩
    | plain _ _ hs => cases hs
  | plain _ _ hs =>
    cases h' with
    | documented => cases hs
    | plain => exact ⟨rfl, rfl, rfl⟩

/-- What is wrong with the arguments of a definition. -/
inductive DefinitionFault (args : List Sexpr) : Failure → Prop where
  | signatureMissing : (∀ name signature body, ¬ IsDefinition args name signature body) →
      DefinitionFault args (.ofCause .signatureMissing (some "defn"))
  | name {name signature : Sexpr} {body : List Sexpr} : IsDefinition args name signature body →
      name.isSymbol = false → DefinitionFault args (.ofCause (.functionName name))
  | signature {s : String} {signature : Sexpr} {body : List Sexpr} {f : Failure} :
      IsDefinition args (.symbol s) signature body → SignatureFault signature f →
      DefinitionFault args f
  /-- The first field of a flag that has no text. -/
  | field {s : String} {k : SequenceKind} {g : Signature} {body : List Sexpr} {f : Failure} :
      IsDefinition args (.symbol s) (.seq k g.items) body →
      FirstUnwritable (g.flags.flatMap FlagSpec.fields) f → DefinitionFault args f

/-! ## Defects of forms -/

/-- What is wrong with a form that has this symbol at its head. -/
inductive FormDefect : String → List Sexpr → Context → Failure → Prop where
  /-- The text of the variable's name holds a hyphen. -/
  | variableName {head t : String} {args : List Sexpr} {ctx : Context} :
      head ∈ ["var", "set!", "assoc!"] → emit (argAt args 0) ctx = .ok t → '-' ∈ t.toList →
      FormDefect head args ctx (.ofCause (.invalidIdentifier t) (some head))
  | mergeTarget {args : List Sexpr} {ctx : Context} : (argAt args 1).isMap = false →
      FormDefect "merge!" args ctx (.ofCause .mergeTarget (some "merge!"))
  | caseClauses {args : List Sexpr} {ctx : Context} : (args.drop 1).length % 2 = 1 →
      FormDefect "case" args ctx (.ofCause .oddCaseClauses (some "case"))
  | derefOptions {args : List Sexpr} {ctx : Context} : (args.drop 1).length % 2 = 1 →
      FormDefect "deref" args ctx (.ofCause .oddDerefOptions (some "deref"))
  | loopBinding {args : List Sexpr} {ctx : Context} :
      (∀ kind target values, argAt args 0 ≠ .seq kind [target, values]) →
      FormDefect "doseq" args ctx (.ofCause .loopBinding (some "doseq"))
  | definition {args : List Sexpr} {ctx : Context} {f : Failure} : DefinitionFault args f →
      FormDefect "defn" args ctx f
  | operands {op : String} {args : List Sexpr} {ctx : Context} : Operator.isInfix op →
      args.length < 2 → FormDefect op args ctx (.ofCause (.tooFewOperands op args.length) (some op))

/-- What is wrong with an expression, apart from what it is rendered with. -/
inductive Defect : Sexpr → Context → Failure → Prop where
  | foreign (t : String) (ctx : Context) : Defect (.foreign t) ctx (.ofCause (.unknownValue t))
  | ratio {q : Rat} (ctx : Context) : Number.Format.double.encode? q = none →
      Defect (.ratio q) ctx .overflow
  | form {s : String} {args : List Sexpr} (location : Option Location) {ctx : Context}
      {f : Failure} : FormDefect s args ctx f → Defect (.form (.symbol s :: args) location) ctx f

/-! ## Faults of templates -/

section

variable {args : List Sexpr} {ctx : Context} {f : Failure}

theorem definition_of_isDefinition (ctx : Context) {name signature : Sexpr} {body : List Sexpr}
    (h : IsDefinition args name signature body) : ∃ doc : Sexpr,
    (doc = .nil ∨ ∃ s, doc = .text s) ∧
      definition args ctx = function name doc signature body ctx := by
  cases h with
  | documented _ doc => exact ⟨.text doc, .inr ⟨doc, rfl⟩, rfl⟩
  | plain _ _ hs =>
    refine ⟨.nil, .inl rfl, ?_⟩
    cases signature with
    | text s => cases hs
    | _ => rfl

/-- Other arguments lack a signature. -/
theorem definition_of_not_isDefinition
    (h : ∀ name signature body, ¬ IsDefinition args name signature body) :
    definition args ctx = refuse .signatureMissing (some "defn") := by
  cases args with
  | nil => rfl
  | cons name rest =>
    cases rest with
    | nil => rfl
    | cons a rest =>
      cases ha : a.isText with
      | false => exact absurd (.plain name rest ha) (h _ _ _)
      | true =>
        cases a with
        | text s =>
          cases rest with
          | nil => rfl
          | cons signature body => exact absurd (.documented name s signature body) (h _ _ _)
        | _ => cases ha

theorem faulty_argumentNames {names : List String} :
    ¬ (argumentNames names ctx).Faulty emit f := by
  rw [argumentNames, faulty_concat]
  exact not_faulty_map fun p => by simp

theorem function_of_not_symbol {name doc signature : Sexpr} {body : List Sexpr}
    (h : name.isSymbol = false) :
    function name doc signature body ctx = refuse (.functionName name) := by
  cases name with
  | name kind s => cases kind <;> first | rfl | cases h
  | _ => rfl

theorem function_faulty_iff {s : String} {doc signature : Sexpr} {body : List Sexpr}
    (hdoc : doc = .nil ∨ ∃ s, doc = .text s) :
    (function (symbol s) doc signature body ctx).Faulty emit f ↔ SignatureFault signature f ∨
      ∃ k, ∃ g : Signature, signature = .seq k g.items ∧
        FirstUnwritable (g.flags.flatMap FlagSpec.fields) f := by
  rw [← Signature.ofSexpr_eq_error_iff]
  simp only [function]
  cases h : Signature.ofSexpr signature with
  | error f' =>
    have refused : ∀ k (g : Signature), signature ≠ .seq k g.items := by
      intro k g hg
      cases h.symm.trans (Signature.ofSexpr_eq_ok_iff.mpr ⟨k, hg⟩)
    simp [Faulty, refused, eq_comm]
  | ok g =>
    obtain ⟨k, rfl⟩ := Signature.ofSexpr_eq_ok_iff.mp h
    have unique : ∀ k' (g' : Signature), .seq k g.items = Sexpr.seq k' g'.items → g' = g :=
      fun k' g' hg => Except.ok.inj
        ((Signature.ofSexpr_eq_ok_iff.mpr ⟨k', hg⟩).symm.trans h)
    simp only [faulty_concat, List.mem_cons, List.not_mem_nil, or_false, exists_eq_or_imp,
      exists_eq_left, faulty_text, faulty_ofOutcome, faulty_argumentNames, faulty_statements,
      declarations_error_iff hdoc, false_or, reduceCtorEq]
    constructor
    · intro hf
      exact ⟨k, g, rfl, hf⟩
    · rintro ⟨k', g', hg, hf⟩
      rwa [unique k' g' hg] at hf

theorem definition_faulty_iff : (definition args ctx).Faulty emit f ↔ DefinitionFault args f := by
  by_cases hd : ∃ name signature body, IsDefinition args name signature body
  · obtain ⟨name, signature, body, hd⟩ := hd
    obtain ⟨doc, hdoc, heq⟩ := definition_of_isDefinition ctx hd
    rw [heq]
    cases hn : name.isSymbol with
    | false =>
      rw [function_of_not_symbol hn, faulty_refuse]
      constructor
      · rintro rfl
        exact .name hd hn
      · rintro (hno | ⟨h, _⟩ | ⟨h, _⟩ | ⟨h, _⟩)
        · exact absurd hd (hno _ _ _)
        · rw [(hd.unique h).1]
        · rw [← (hd.unique h).1] at hn
          cases hn
        · rw [← (hd.unique h).1] at hn
          cases hn
    | true =>
      obtain ⟨s, rfl⟩ := exists_eq_symbol hn
      rw [function_faulty_iff hdoc]
      constructor
      · rintro (hs | ⟨k, g, rfl, hf⟩)
        · exact .signature hd hs
        · exact .field hd hf
      · rintro (hno | ⟨h, hname⟩ | ⟨h, hs⟩ | ⟨h, hf⟩)
        · exact absurd hd (hno _ _ _)
        · rw [(hd.unique h).1] at hname
          cases hname
        · rw [(hd.unique h).2.1] at hs
          exact .inl hs
        · exact .inr ⟨_, _, (hd.unique h).2.1.symm, hf⟩
  · have hno : ∀ name signature body, ¬ IsDefinition args name signature body :=
      fun name signature body h => hd ⟨name, signature, body, h⟩
    rw [definition_of_not_isDefinition hno, faulty_refuse]
    constructor
    · rintro rfl
      exact .signatureMissing hno
    · rintro (_ | ⟨h, _⟩ | ⟨h, _⟩ | ⟨h, _⟩)
      · rfl
      all_goals exact absurd h (hno _ _ _)

theorem operator_faulty_iff {op : String} : (Operator.template op args ctx).Faulty emit f ↔
    args.length < 2 ∧ f = .ofCause (.tooFewOperands op args.length) (some op) := by
  have operand : ∀ e, ¬ (Operator.operand op e ctx).Faulty emit f := by
    intro e
    unfold Operator.operand
    split <;> simp [faulty_finish]
  rcases args with _ | ⟨left, _ | ⟨right, rest⟩⟩
  · simp [Operator.template]
  · simp [Operator.template]
  · refine iff_of_false (by simp [Operator.template, operand]) fun h => ?_
    simp only [List.length_cons] at h
    omega

/-- Only one word stands for such a special form. -/
theorem Special.eq_of_ofSymbol? (head : String) {s : String} {special : Special}
    (hs : ofSymbol? s = some special) (hd : ∀ m, special ≠ .dotted m)
    (ht : ∀ p ∈ table, p.2 = special → p.1 = head) : s = head := by
  rcases Option.or_eq_some_iff.mp hs with h | ⟨_, h⟩
  · obtain ⟨_, _, heq, _⟩ := List.lookup_eq_some_iff.mp h
    exact ht (s, special) (heq ▸ by simp) rfl
  · obtain ⟨m, _, rfl⟩ := Option.map_eq_some_iff.mp h
    exact absurd rfl (hd m)

theorem Special.ofSymbol?_of_isInfix {op : String} (h : Operator.isInfix op) :
    ofSymbol? op = none := by
  have none_of_mem : ∀ op ∈ Operator.arithmetic ++ Operator.comparisons ++ Operator.connectives,
      ofSymbol? op = none := by decide
  refine none_of_mem op ?_
  simpa [Operator.isInfix, or_assoc] using h

theorem faulty_setEntry {target : Sexpr} {p : Sexpr × Sexpr} :
    ¬ (setEntry target ctx p).Faulty emit f := by
  simp [setEntry, mungedSub, faulty_finish]

theorem faulty_setEntries {target : Sexpr} {entries : List (Sexpr × Sexpr)} :
    ¬ (setEntries target entries ctx).Faulty emit f := by
  have calls : ¬ (concat (entries.map fun p =>
      append (setEntry target ctx p) (text "; "))).Faulty emit f := by
    rw [faulty_concat]
    exact not_faulty_map fun p => by simp [faulty_setEntry]
  rintro (h | h | h)
  · exact h
  · exact calls h
  · exact h

/-- The head of a form that gives a variable its name checks that name. -/
theorem checkedName_faulty_iff {rule : String} {e : Sexpr} :
    (checkedName rule e ctx).Faulty emit f ↔ ∃ t, emit e ctx = .ok t ∧ '-' ∈ t.toList ∧
      f = .ofCause (.invalidIdentifier t) (some rule) := by
  simp [checkedName, render]

theorem newVariable_faulty_iff : (newVariable args ctx).Faulty emit f ↔
    (checkedName "var" (argAt args 0) ctx).Faulty emit f := by
  unfold newVariable
  split <;> simp [faulty_finish, faulty_setEntries]

theorem setVariable_faulty_iff : (setVariable args ctx).Faulty emit f ↔
    (checkedName "set!" (argAt args 0) ctx).Faulty emit f := by
  simp [setVariable]

theorem associate_faulty_iff : (associate args ctx).Faulty emit f ↔
    (checkedName "assoc!" (argAt args 0) ctx).Faulty emit f := by
  simp [associate, faulty_finish, faulty_setEntry]

theorem merge_faulty_iff : (merge args ctx).Faulty emit f ↔
    (argAt args 1).isMap = false ∧ f = .ofCause .mergeTarget (some "merge!") := by
  unfold merge
  cases argAt args 1 with
  | map entries => simp [faulty_setEntries, isMap]
  | _ => simp [isMap]

theorem choice_faulty_iff : (choice args ctx).Faulty emit f ↔
    (args.drop 1).length % 2 = 1 ∧ f = .ofCause .oddCaseClauses (some "case") := by
  unfold choice
  split
  · next h => simp only [faulty_refuse, h, true_and]
  · next h =>
    have arms : ¬ (separated ";;\n" ((pairUp (args.drop 1)).map (arm ctx))).Faulty emit f := by
      rw [faulty_separated]
      exact not_faulty_map fun p => by simp [arm]
    refine iff_of_false ?_ fun hf => h hf.1
    rintro (hf | hf | hf)
    · simp at hf
    · exact arms hf
    · exact hf

theorem expansion_faulty_iff : (expansion args ctx).Faulty emit f ↔
    (args.drop 1).length % 2 = 1 ∧ f = .ofCause .oddDerefOptions (some "deref") := by
  unfold expansion
  split
  · next h => simp only [faulty_refuse, h, true_and]
  · next h =>
    refine iff_of_false ?_ fun hf => h hf.1
    split
    · simp
    · split <;> simp

theorem iteration_faulty_iff : (iteration args ctx).Faulty emit f ↔
    (∀ kind target values, argAt args 0 ≠ .seq kind [target, values]) ∧
      f = .ofCause .loopBinding (some "doseq") := by
  unfold iteration
  split
  · next h => simp [h]
  · next h => simpa using fun _ => h

theorem faulty_condition {negated : Bool} : ¬ (condition negated args ctx).Faulty emit f := by
  cases negated <;> simp [condition]

theorem faulty_alternative : ¬ (alternative args ctx).Faulty emit f := by
  unfold alternative
  split <;> simp [branch, faulty_finish]

theorem Special.defect_of_faulty {s : String} {special : Special}
    (hs : ofSymbol? s = some special) (h : (special.template args ctx).Faulty emit f) :
    FormDefect s args ctx f := by
  cases special with
  | newVariable =>
    obtain rfl := eq_of_ofSymbol? "var" hs (by rintro m ⟨⟩) (by decide)
    obtain ⟨t, ht, hmem, rfl⟩ := checkedName_faulty_iff.mp (newVariable_faulty_iff.mp h)
    exact .variableName (by decide) ht hmem
  | setVariable =>
    obtain rfl := eq_of_ofSymbol? "set!" hs (by rintro m ⟨⟩) (by decide)
    obtain ⟨t, ht, hmem, rfl⟩ := checkedName_faulty_iff.mp (setVariable_faulty_iff.mp h)
    exact .variableName (by decide) ht hmem
  | associate =>
    obtain rfl := eq_of_ofSymbol? "assoc!" hs (by rintro m ⟨⟩) (by decide)
    obtain ⟨t, ht, hmem, rfl⟩ := checkedName_faulty_iff.mp (associate_faulty_iff.mp h)
    exact .variableName (by decide) ht hmem
  | merge =>
    obtain rfl := eq_of_ofSymbol? "merge!" hs (by rintro m ⟨⟩) (by decide)
    obtain ⟨hm, rfl⟩ := merge_faulty_iff.mp h
    exact .mergeTarget hm
  | choice =>
    obtain rfl := eq_of_ofSymbol? "case" hs (by rintro m ⟨⟩) (by decide)
    obtain ⟨hodd, rfl⟩ := choice_faulty_iff.mp h
    exact .caseClauses hodd
  | expansion =>
    obtain rfl := eq_of_ofSymbol? "deref" hs (by rintro m ⟨⟩) (by decide)
    obtain ⟨hodd, rfl⟩ := expansion_faulty_iff.mp h
    exact .derefOptions hodd
  | iteration =>
    obtain rfl := eq_of_ofSymbol? "doseq" hs (by rintro m ⟨⟩) (by decide)
    obtain ⟨hb, rfl⟩ := iteration_faulty_iff.mp h
    exact .loopBinding hb
  | definition =>
    obtain rfl := eq_of_ofSymbol? "defn" hs (by rintro m ⟨⟩) (by decide)
    exact .definition (definition_faulty_iff.mp h)
  | conditional negated =>
    simp [Special.template, Script.conditional, faulty_condition, faulty_alternative, branch,
      faulty_finish] at h
  | guarded negated =>
    simp [Special.template, Script.guarded, faulty_condition, faulty_finish] at h
  | _ =>
    simp [Special.template, Script.fileTest, Script.negation, Script.loop, grouped,
      Script.returning, Script.assignment, Script.setItem, Script.lookup, Script.item,
      Script.concatenation, Script.quotation, words, Script.echo, methodCall,
      Script.construction, argumentList, mungedSub, faulty_finish] at h

theorem Special.faulty_of_defect {s : String} {special : Special}
    (hs : ofSymbol? s = some special) (h : FormDefect s args ctx f) :
    (special.template args ctx).Faulty emit f := by
  cases h with
  | @variableName _ t _ _ hhead ht hmem =>
    have checked : (checkedName s (argAt args 0) ctx).Faulty emit
        (.ofCause (.invalidIdentifier t) (some s)) :=
      checkedName_faulty_iff.mpr ⟨t, ht, hmem, rfl⟩
    simp only [List.mem_cons, List.not_mem_nil, or_false] at hhead
    rcases hhead with rfl | rfl | rfl
    · cases hs
      exact newVariable_faulty_iff.mpr checked
    · cases hs
      exact setVariable_faulty_iff.mpr checked
    · cases hs
      exact associate_faulty_iff.mpr checked
  | mergeTarget hm =>
    cases hs
    exact merge_faulty_iff.mpr ⟨hm, rfl⟩
  | caseClauses hodd =>
    cases hs
    exact choice_faulty_iff.mpr ⟨hodd, rfl⟩
  | derefOptions hodd =>
    cases hs
    exact expansion_faulty_iff.mpr ⟨hodd, rfl⟩
  | loopBinding hb =>
    cases hs
    exact iteration_faulty_iff.mpr ⟨hb, rfl⟩
  | definition hf =>
    cases hs
    exact definition_faulty_iff.mpr hf
  | operands hop _ => cases (ofSymbol?_of_isInfix hop).symm.trans hs

end

theorem faulty_command {head : Sexpr} {args : List Sexpr} {ctx : Context} {f : Failure} :
    ¬ (command head args ctx).Faulty emit f := by
  have rest : ¬ (concat (args.map fun e => append (text " ") (sub e ctx))).Faulty emit f := by
    rw [faulty_concat]
    exact not_faulty_map fun e => by simp
  rintro (h | h)
  · exact h
  · exact rest h

theorem FormDefect.of_not_special {s : String} {args : List Sexpr} {ctx : Context} {f : Failure}
    (h : FormDefect s args ctx f) (hs : Special.ofSymbol? s = none) :
    Operator.isInfix s ∧ args.length < 2 ∧
      f = .ofCause (.tooFewOperands s args.length) (some s) := by
  cases h with
  | variableName hhead =>
    simp only [List.mem_cons, List.not_mem_nil, or_false] at hhead
    rcases hhead with rfl | rfl | rfl <;> cases hs
  | operands hop hlen => exact ⟨hop, hlen, rfl⟩
  | _ => cases hs

theorem defect_form_iff {s : String} {args : List Sexpr} {location : Option Location}
    {ctx : Context} {f : Failure} :
    Defect (.form (.symbol s :: args) location) ctx f ↔ FormDefect s args ctx f := by
  constructor
  · rintro (_ | _ | ⟨_, h⟩)
    exact h
  · exact .form location

/-- The faults of an expression's template are the defects of the expression. -/
theorem template_faulty_iff {e : Sexpr} {ctx : Context} {f : Failure} :
    (template e ctx).Faulty emit f ↔ Defect e ctx f := by
  cases e with
  | form items location =>
    cases items with
    | nil => exact iff_of_false faulty_command (by rintro ⟨⟩)
    | cons head args =>
      cases hhead : head.isSymbol with
      | false =>
        rw [template_of_not_symbol hhead]
        refine iff_of_false faulty_command fun h => ?_
        cases h
        cases hhead
      | true =>
        obtain ⟨s, rfl⟩ := exists_eq_symbol hhead
        rw [defect_form_iff]
        cases hs : Special.ofSymbol? s with
        | some special =>
          rw [template_of_special hs]
          exact ⟨Special.defect_of_faulty hs, Special.faulty_of_defect hs⟩
        | none =>
          cases hop : Operator.isInfix s with
          | true =>
            rw [template_of_operator hs hop, operator_faulty_iff]
            constructor
            · rintro ⟨hlen, rfl⟩
              exact .operands hop hlen
            · exact fun h => (h.of_not_special hs).2
          | false =>
            rw [template_of_word hs hop]
            refine iff_of_false faulty_command fun h => ?_
            rw [(h.of_not_special hs).1] at hop
            cases hop
  | seq kind items =>
    refine iff_of_false ?_ (by rintro ⟨⟩)
    simp only [template, sequence]
    split <;> simp
  | map entries =>
    refine iff_of_false ?_ (by rintro ⟨⟩)
    have items : ¬ (separated " " (entries.map (entryLiteral ctx))).Faulty emit f := by
      rw [faulty_separated]
      exact not_faulty_map fun p => by simp [entryLiteral]
    rintro (h | h | h)
    · exact h
    · exact items h
    · exact h
  | ratio q =>
    simp only [template, faulty_ofOutcome, literal_error_iff]
    constructor
    · rintro ⟨hq⟩
      exact .ratio ctx hq
    · rintro (_ | ⟨_, hq⟩)
      exact .ratio hq
  | foreign t =>
    simp only [template, faulty_ofOutcome, literal_error_iff]
    constructor
    · rintro ⟨⟩
      exact .foreign t ctx
    · rintro ⟨⟩
      exact .foreign t
  | _ =>
    simp only [template, faulty_ofOutcome, literal_error_iff]
    constructor <;> rintro ⟨⟩

/-! ## Failures that no form is attached to -/

inductive Failure.Bare : Failure → Prop where
  | overflow : Bare .overflow
  | ofCause (cause : Cause) (rule : Option String) : Bare (.ofCause cause rule)

section

variable {e : Sexpr} {es args : List Sexpr} {s : String} {ctx : Context} {f : Failure}

theorem Unwritable.bare (h : Unwritable e f) : f.Bare := by
  cases h <;> constructor

theorem FirstUnwritable.bare (h : FirstUnwritable es f) : f.Bare := by
  induction h with
  | here h => exact h.bare
  | there _ _ ih => exact ih

theorem SignatureFault.bare (h : SignatureFault e f) : f.Bare := by
  cases h with
  | kind => constructor
  | item h => cases h <;> constructor

theorem DefinitionFault.bare (h : DefinitionFault args f) : f.Bare := by
  cases h with
  | signatureMissing | name => constructor
  | signature _ h => exact h.bare
  | field _ h => exact h.bare

theorem FormDefect.bare (h : FormDefect s args ctx f) : f.Bare := by
  cases h with
  | definition h => exact h.bare
  | _ => constructor

theorem Defect.bare (h : Defect e ctx f) : f.Bare := by
  cases h with
  | foreign | ratio => constructor
  | form _ h => exact h.bare

end

end SexprShell.Script
