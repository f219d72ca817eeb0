import SexprShell.Proofs.Script.Provenance
import SexprShell.Proofs.Script.Texts

/-!
# Texts and failures of functions

A function has a text exactly if its name is a symbol, its signature is well formed, its help text
is a text or missing, and everything in it has a text; it is then put together line by line
(`emitFunction_ok_iff`). Otherwise the first of these that is wrong is the failure
(`emitFunction_error_iff`).
-/

namespace SexprShell.Script

open Template Sexpr

/-! ## Lines -/

/-- The text of a field of a flag: nothing for nil, and otherwise that of a literal. -/
inductive FieldText : Sexpr → String → Prop where
  | nil : FieldText .nil ""
  | literal {e : Sexpr} {x : String} : e ≠ .nil → literal e = .ok x → FieldText e x

/-- The line that declares a flag. -/
inductive DeclarationLine (g : FlagSpec) : String → Prop where
  | fields {type long short doc default : String} : FieldText g.type type → FieldText g.long long →
      FieldText g.short short → FieldText g.doc doc → FieldText g.default default →
      DeclarationLine g ("DEFINE_" ++ type ++ " " ++ doubleQuoted long ++ " " ++
        doubleQuoted default ++ " " ++ doubleQuoted doc ++ " " ++ doubleQuoted short ++ "\n")

/-- The line that sets the help text, if there is one. -/
def helpLine : Sexpr → String
  | .text doc => "FLAGS_HELP=" ++ doubleQuoted doc ++ "\n"
  | _ => ""

/-- The lines that name the positional arguments, which are numbered from one. -/
def argumentLines (names : List String) : String :=
  String.join ((names.zipIdx 1).map fun p => p.1 ++ "=$" ++ toString p.2 ++ "\n")

/-- A help text, or none. -/
def IsHelp (doc : Sexpr) : Prop := doc = .nil ∨ ∃ d, doc = .text d

variable {e name doc signature : Sexpr} {body : List Sexpr} {ctx : Context} {s x : String}
  {g : FlagSpec} {flags : List FlagSpec} {f : Failure}

theorem field_ok_iff : FlagSpec.field e = .ok x ↔ FieldText e x := by
  constructor
  · intro h
    cases e with
    | nil => cases h; exact .nil
    | _ => exact .literal (by rintro ⟨⟩) h
  · rintro (_ | ⟨hne, h⟩)
    · rfl
    · cases e with
      | nil => exact absurd rfl hne
      | _ => exact h

theorem declaration_ok_iff : g.declaration = .ok s ↔ DeclarationLine g s := by
  have fields (a b c d : String) :
      " ".intercalate [a, b, c, d] = a ++ " " ++ b ++ " " ++ c ++ " " ++ d := by
    simp [String.intercalate_cons_cons, String.append_assoc]
  simp only [FlagSpec.declaration, bind_ok_iff, field_ok_iff, fields, Except.ok.injEq,
    ← String.append_assoc]
  constructor
  · rintro ⟨long, hlong, default, hdefault, doc, hdoc, short, hshort, type, htype, rfl⟩
    exact .fields htype hlong hshort hdoc hdefault
  · rintro ⟨htype, hlong, hshort, hdoc, hdefault⟩
    exact ⟨_, hlong, _, hdefault, _, hdoc, _, hshort, _, htype, rfl⟩

theorem mapM_ok_iff {α β : Type} {step : α → Except Failure β} {as : List α} {bs : List β} :
    as.mapM step = .ok bs ↔ List.Forall₂ (fun a b => step a = .ok b) as bs := by
  induction as generalizing bs with
  | nil => simp [pure, Except.pure, eq_comm]
  | cons a as ih =>
    simp only [List.mapM_cons, bind_ok_iff, ih, pure, Except.pure, Except.ok.injEq,
      List.forall₂_cons_left_iff]
    constructor
    · rintro ⟨b, hb, bs, hbs, rfl⟩
      exact ⟨b, bs, hb, hbs, rfl⟩
    · rintro ⟨b, bs, hb, hbs, rfl⟩
      exact ⟨b, hb, bs, hbs, rfl⟩

theorem declarations_of_isHelp (h : IsHelp doc) : declarations doc flags =
    flags.mapM FlagSpec.declaration >>= fun lines =>
      .ok (helpLine doc ++ String.join lines ++ if flags.isEmpty then "" else flagParsing) := by
  rcases h with rfl | ⟨d, rfl⟩ <;> rfl

theorem declarations_of_not_isHelp (h : ¬ IsHelp doc) :
    declarations doc flags = .error (.ofCause .docKind) := by
  cases doc with
  | nil => exact absurd (.inl rfl) h
  | text d => exact absurd (.inr ⟨d, rfl⟩) h
  | _ => rfl

/-- The declarations of a function are its help text and, if it has flags, a line for each and the
lines that parse them. -/
theorem declarations_ok_iff : declarations doc flags = .ok s ↔
    IsHelp doc ∧ ∃ lines, List.Forall₂ DeclarationLine flags lines ∧
      s = helpLine doc ++ String.join lines ++ if flags = [] then "" else flagParsing := by
  by_cases h : IsHelp doc
  · simp only [declarations_of_isHelp h, bind_ok_iff, mapM_ok_iff, declaration_ok_iff,
      Except.ok.injEq, List.isEmpty_iff, eq_comm (b := s), h, true_and]
  · simp [declarations_of_not_isHelp h, h]

/-! ## Functions -/

theorem render_argumentNames (names : List String) :
    (argumentNames names ctx).render emit = .ok (argumentLines names) := by
  refine render_concat_map fun p _ => ?_
  exact render_append_eq_ok_iff.mpr ⟨_, _, emit_symbol p.1 ctx, rfl, by
    simp only [String.append_assoc]⟩

theorem function_of_signature (n : String) (k : SequenceKind) (g : Signature) :
    function (.symbol n) doc (.seq k g.items) body ctx =
      concat [text (n ++ "() \x7b\n"), ofOutcome (declarations doc g.flags),
        argumentNames g.positional ctx, statements body ctx, text "\x7d\n"] := by
  have signature : Signature.ofSexpr (.seq k g.items) = .ok g :=
    Signature.ofSexpr_eq_ok_iff.mpr ⟨k, rfl⟩
  simp only [function, signature]

/-- The text of a function with a name and a signature: `f() {`, its lines and `}`. -/
theorem render_function_ok_iff {n : String} {k : SequenceKind} {g : Signature} :
    (function (.symbol n) doc (.seq k g.items) body ctx).render emit = .ok s ↔
      ∃ declared statements, declarations doc g.flags = .ok declared ∧
        emitScript body ctx = .ok statements ∧
        s = n ++ "() \x7b\n" ++ declared ++ argumentLines g.positional ++ statements ++
          "\x7d\n" := by
  simp only [function_of_signature, concat, render_append_eq_ok_iff, render_text_eq_ok_iff,
    render_ofOutcome, render_argumentNames, Except.ok.injEq, String.append_assoc]
  constructor
  · rintro ⟨_, _, rfl, ⟨declared, _, hdeclared, ⟨_, _, rfl, ⟨statements, _, hstatements, rfl, rfl⟩,
      rfl⟩, rfl⟩, rfl⟩
    exact ⟨declared, statements, hdeclared, hstatements, String.append_assoc⟩
  · rintro ⟨declared, statements, hdeclared, hstatements, rfl⟩
    exact ⟨_, _, rfl, ⟨declared, _, hdeclared, ⟨_, _, rfl, ⟨statements, _, hstatements, rfl, rfl⟩,
      rfl⟩, rfl⟩, String.append_assoc.symm⟩

theorem emitFunction_of_not_symbol (h : name.isSymbol = false) :
    emitFunction name doc signature body ctx = .error (.ofCause (.functionName name)) := by
  rw [emitFunction, function_of_not_symbol h]
  rfl

theorem emitFunction_of_signatureFault (hname : name.isSymbol) (h : SignatureFault signature f) :
    emitFunction name doc signature body ctx = .error f := by
  obtain ⟨n, rfl⟩ := exists_eq_symbol hname
  simp only [emitFunction, function, Signature.ofSexpr_eq_error_iff.mpr h, render]

/-- Where a function has no name or no signature, nothing else counts. -/
theorem name_and_signature_cases (name signature : Sexpr) :
    (∃ n k, ∃ g : Signature, name = .symbol n ∧ signature = .seq k g.items) ∨
      name.isSymbol = false ∨ name.isSymbol ∧ ∃ f, SignatureFault signature f := by
  cases hname : name.isSymbol with
  | false => exact .inr (.inl rfl)
  | true =>
    obtain ⟨n, rfl⟩ := exists_eq_symbol hname
    cases hsignature : Signature.ofSexpr signature with
    | error f => exact .inr (.inr ⟨rfl, f, Signature.ofSexpr_eq_error_iff.mp hsignature⟩)
    | ok g =>
      obtain ⟨k, rfl⟩ := Signature.ofSexpr_eq_ok_iff.mp hsignature
      exact .inl ⟨n, k, g, rfl, rfl⟩

/-- The text of a function. -/
theorem emitFunction_ok_iff : emitFunction name doc signature body ctx = .ok s ↔
    ∃ n k, ∃ g : Signature, ∃ lines statements,
      name = .symbol n ∧ signature = .seq k g.items ∧ IsHelp doc ∧
      List.Forall₂ DeclarationLine g.flags lines ∧ emitScript body ctx = .ok statements ∧
      s = n ++ "() \x7b\n" ++ (helpLine doc ++ String.join lines ++
        if g.flags = [] then "" else flagParsing) ++ argumentLines g.positional ++ statements ++
        "\x7d\n" := by
  constructor
  · intro h
    obtain ⟨n, k, g, rfl, rfl⟩ : ∃ n k, ∃ g : Signature, name = .symbol n ∧
        signature = .seq k g.items := by
      rcases name_and_signature_cases name signature with hwell | hname | ⟨hname, f, hfault⟩
      · exact hwell
      · cases (emitFunction_of_not_symbol hname).symm.trans h
      · cases (emitFunction_of_signatureFault hname hfault).symm.trans h
    obtain ⟨declared, statements, hdeclared, hstatements, rfl⟩ := render_function_ok_iff.mp h
    obtain ⟨hdoc, lines, hlines, rfl⟩ := declarations_ok_iff.mp hdeclared
    exact ⟨n, k, g, lines, statements, rfl, rfl, hdoc, hlines, hstatements, rfl⟩
  · rintro ⟨n, k, g, lines, statements, rfl, rfl, hdoc, hlines, hstatements, rfl⟩
    have hdeclared := declarations_ok_iff.mpr ⟨hdoc, lines, hlines, rfl⟩
    exact render_function_ok_iff.mpr ⟨_, statements, hdeclared, hstatements, rfl⟩

/-! ## Failures of functions -/

/-- What is wrong first with a function: its name, its signature, its help text, a field of a flag,
or a statement of its body. -/
inductive FunctionFault (name doc signature : Sexpr) (body : List Sexpr) (ctx : Context) :
    Failure → Prop where
  | name : name.isSymbol = false →
      FunctionFault name doc signature body ctx (.ofCause (.functionName name))
  | signature {f : Failure} : name.isSymbol → SignatureFault signature f →
      FunctionFault name doc signature body ctx f
  | help {k : SequenceKind} {g : Signature} : name.isSymbol → signature = .seq k g.items →
      ¬ IsHelp doc → FunctionFault name doc signature body ctx (.ofCause .docKind)
  | field {k : SequenceKind} {g : Signature} {f : Failure} : name.isSymbol →
      signature = .seq k g.items → IsHelp doc →
      FirstUnwritable (g.flags.flatMap FlagSpec.fields) f →
      FunctionFault name doc signature body ctx f
  | statement {k : SequenceKind} {g : Signature} {earlier later : List Sexpr} {e : Sexpr}
      {f : Failure} : name.isSymbol → signature = .seq k g.items → IsHelp doc →
      (∀ e ∈ g.flags.flatMap FlagSpec.fields, ∀ f, ¬ Unwritable e f) →
      body = earlier ++ e :: later → (∀ e ∈ earlier, ∃ t, emit e ctx = .ok t) →
      emit e ctx = .error f → FunctionFault name doc signature body ctx f

/-- Statements fail at the first that does. -/
theorem emitScript_error_iff : emitScript body ctx = .error f ↔ ∃ earlier e later,
    body = earlier ++ e :: later ∧ (∀ e ∈ earlier, ∃ t, emit e ctx = .ok t) ∧
      emit e ctx = .error f := by
  have written (e : Sexpr) : (∃ y x, emit e ctx = .ok x ∧
      asStatement (commentFor e ctx) x = y) ↔ ∃ x, emit e ctx = .ok x :=
    ⟨fun ⟨_, x, hx, _⟩ => ⟨x, hx⟩, fun ⟨x, hx⟩ => ⟨_, x, hx, rfl⟩⟩
  simp only [emitScript, statements, render_concat_map_eq_error_iff, render_finish_eq_ok_iff,
    render_finish_eq_error_iff, render_sub, Finish.apply, Except.ok.injEq, reduceCtorEq, and_false,
    exists_false, or_false, written]

/-- A function with a name and a signature fails in its declarations or in its body. -/
theorem render_function_error_iff {n : String} {k : SequenceKind} {g : Signature} :
    (function (.symbol n) doc (.seq k g.items) body ctx).render emit = .error f ↔
      declarations doc g.flags = .error f ∨
      (∃ declared, declarations doc g.flags = .ok declared) ∧ emitScript body ctx = .error f := by
  have text (x : String) : (Template.text x).render emit ≠ .error f := by rintro ⟨⟩
  simp only [function_of_signature, concat, render_append_eq_error_iff, render_ofOutcome,
    render_argumentNames, render_text_eq_ok_iff, text, emitScript]
  simp

/-- The declarations of a function fail for their help text, or for the first field of a flag that
has no text. -/
theorem declarations_failure_iff : declarations doc flags = .error f ↔
    (¬ IsHelp doc ∧ f = .ofCause .docKind) ∨
      IsHelp doc ∧ FirstUnwritable (flags.flatMap FlagSpec.fields) f := by
  by_cases h : IsHelp doc
  · rw [declarations_error_iff h]
    simp [h]
  · simp [declarations_of_not_isHelp h, h, eq_comm]

theorem exists_declarations_iff : (∃ declared, declarations doc flags = .ok declared) ↔
    IsHelp doc ∧ ∀ e ∈ flags.flatMap FlagSpec.fields, ∀ f, ¬ Unwritable e f := by
  have fields : (∀ e ∈ flags.flatMap FlagSpec.fields, ∀ f, ¬ Unwritable e f) ↔
      ∀ f, ¬ FirstUnwritable (flags.flatMap FlagSpec.fields) f := by
    rw [← not_exists, exists_firstUnwritable_iff]
    simp only [not_exists, not_and]
  have outcome : (∃ declared, declarations doc flags = .ok declared) ↔
      ¬ ∃ f, declarations doc flags = .error f := by
    cases declarations doc flags <;> simp
  rw [fields, outcome]
  simp only [declarations_failure_iff]
  by_cases h : IsHelp doc <;> simp [h]

/-- What goes wrong first with a function is its failure. -/
theorem emitFunction_error_iff : emitFunction name doc signature body ctx = .error f ↔
    FunctionFault name doc signature body ctx f := by
  constructor
  · intro h
    rcases name_and_signature_cases name signature with
      ⟨n, k, g, rfl, rfl⟩ | hname | ⟨hname, f', hfault⟩
    · rcases render_function_error_iff.mp h with hdeclared | ⟨hdeclared, hbody⟩
      · rcases declarations_failure_iff.mp hdeclared with ⟨hdoc, rfl⟩ | ⟨hdoc, hfield⟩
        · exact .help rfl rfl hdoc
        · exact .field rfl rfl hdoc hfield
      · obtain ⟨hdoc, hfields⟩ := exists_declarations_iff.mp hdeclared
        obtain ⟨earlier, e, later, heq, hearlier, he⟩ := emitScript_error_iff.mp hbody
        exact .statement rfl rfl hdoc hfields heq hearlier he
    · cases (emitFunction_of_not_symbol hname).symm.trans h
      exact .name hname
    · cases (emitFunction_of_signatureFault hname hfault).symm.trans h
      exact .signature hname hfault
  · intro h
    cases h with
    | name hname => exact emitFunction_of_not_symbol hname
    | signature hname hfault => exact emitFunction_of_signatureFault hname hfault
    | help hname hsignature hdoc =>
      obtain ⟨n, rfl⟩ := exists_eq_symbol hname
      subst hsignature
      exact render_function_error_iff.mpr (.inl (declarations_failure_iff.mpr (.inl ⟨hdoc, rfl⟩)))
    | field hname hsignature hdoc hfield =>
      obtain ⟨n, rfl⟩ := exists_eq_symbol hname
      subst hsignature
      exact render_function_error_iff.mpr
        (.inl (declarations_failure_iff.mpr (.inr ⟨hdoc, hfield⟩)))
    | statement hname hsignature hdoc hfields hbody hearlier he =>
      obtain ⟨n, rfl⟩ := exists_eq_symbol hname
      subst hsignature
      exact render_function_error_iff.mpr (.inr ⟨exists_declarations_iff.mpr ⟨hdoc, hfields⟩,
        emitScript_error_iff.mpr ⟨_, _, _, hbody, hearlier, he⟩⟩)

/-- What the outcome of a function is: its lines one after another, or what is wrong with it
first. -/
theorem emitFunction_outcome (name doc signature : Sexpr) (body : List Sexpr) (ctx : Context) :
    (∀ s, emitFunction name doc signature body ctx = .ok s ↔
      ∃ n k, ∃ g : Signature, ∃ lines statements,
        name = .symbol n ∧ signature = .seq k g.items ∧ IsHelp doc ∧
        List.Forall₂ DeclarationLine g.flags lines ∧ emitScript body ctx = .ok statements ∧
        s = n ++ "() \x7b\n" ++ (helpLine doc ++ String.join lines ++
          if g.flags = [] then "" else flagParsing) ++ argumentLines g.positional ++ statements ++
          "\x7d\n") ∧
    ∀ f, emitFunction name doc signature body ctx = .error f ↔
      FunctionFault name doc signature body ctx f :=
  ⟨fun _ => emitFunction_ok_iff, fun _ => emitFunction_error_iff⟩

example : emitFunction (.symbol "deploy") (.text "Deploy a build")
    (.seq .list [.symbol "target", .seq .list [.keyword "string", .symbol "env", .symbol "e",
      .text "Environment", .symbol "staging"]]) [.form [.symbol "build"] none] {} =
    .ok ("deploy() \x7b\nFLAGS_HELP=\"Deploy a build\"\n" ++
      "DEFINE_string \"env\" \"staging\" \"Environment\" \"e\"\n" ++
      "FLAGS \"$@\" || exit 1\neval set -- \"${FLAGS_ARGV}\"\ntarget=$1\nbuild\n\x7d\n") := by
  rfl

end SexprShell.Script
