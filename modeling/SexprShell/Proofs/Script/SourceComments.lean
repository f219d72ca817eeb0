import SexprShell.Proofs.Script.Everywhere
import SexprShell.Proofs.Script.Tidy

/-!
# Source comments in script text

No code follows a comment on its line, whatever forms a statement with a comment is put into: all
texts are tidy (`emit_tidy`), and what a line of a tidy text looks like is said by
`emit_comment_ends_line`. Only the body of a guard is trimmed at its end, which is where a comment
may be; but a line feed follows at once (`render_guarded`).
-/

namespace SexprShell.Script

open Sexpr

variable {file : String} {c : Char} {s : String}

/-! ## Special forms -/

/-- An expression whose own characters do not tell a file, and which was written in that file. -/
structure WrittenIn (file : String) (c : Char) (e : Sexpr) : Prop where
  spelling {s : String} : e.spelling? = some s → c ∉ s.toList
  location {l : Location} : e.location? = some l → l.file = some file ∧ 0 < l.line

theorem nodewise_writtenIn : Nodewise (WrittenIn file c) where
  nil := ⟨nofun, nofun⟩
  method := by
    intro s m hm h
    refine ⟨?_, nofun⟩
    rintro _ ⟨⟩ hc
    exact h.spelling rfl (Special.mem_of_dotted? hm c hc)

variable {args es : List Sexpr} {ctx : Context} {e : Sexpr}

open Template

theorem commentOf_commentFor (hc : Telltale file c) (h : WrittenIn file c e) :
    CommentOf file (commentFor e ctx) := by
  unfold commentFor
  split
  · next l _ hl =>
    obtain ⟨hfile, hline⟩ := h.location hl
    obtain ⟨n, hn⟩ : ∃ n : Nat, l.line = n := ⟨l.line.toNat, by omega⟩
    refine .inr ⟨n, ?_⟩
    unfold Location.cite
    split
    · next h => rw [h] at hfile; cases hfile
    · next h =>
      rw [h] at hfile
      cases hfile
      exact absurd hc.mem List.not_mem_nil
    · next f _ h =>
      rw [h] at hfile
      cases hfile
      have digits : (n : Int).repr.toList = Nat.toDigits 10 n := Nat.toList_repr
      simp [citation, hn, digits]
  · exact .inl rfl

section

variable (hc : Telltale file c)
include hc

theorem tidied_body (h : ∀ e ∈ es, e.Everywhere (WrittenIn file c)) :
    (statements es ctx).Tidied file c :=
  tidied_statements fun e he => commentOf_commentFor hc (h e he).here

theorem tidied_words : (words args ctx).Tidied file c :=
  (tidied_separated (hc.notMem_of_plain (by decide))).mpr tidied_each

theorem tidied_argumentList : (argumentList args ctx).Tidied file c := by
  have arguments : (separated ", " (each args ctx)).Tidied file c :=
    (tidied_separated (hc.notMem_of_plain (by decide))).mpr tidied_each
  simp [argumentList, hc.ne, arguments]

theorem tidied_methodCall (object method : Sexpr) :
    (methodCall object method args ctx).Tidied file c := by
  simp [methodCall, hc.ne, tidied_argumentList hc]

theorem tidied_command (head : Sexpr) : (command head args ctx).Tidied file c := by
  refine ⟨trivial, tidied_concat.mpr (List.forall_mem_map.mpr fun e _ => ?_)⟩
  simp [hc.ne]

theorem tidied_condition (negated : Bool) : (condition negated args ctx).Tidied file c := by
  cases negated <;> simp [condition, hc.ne]

theorem tidied_setEntry (target : Sexpr) (entry : Sexpr × Sexpr) :
    (setEntry target ctx entry).Tidied file c := by
  simp [setEntry, mungedSub, hc.ne]

theorem tidied_setEntries (target : Sexpr) (entries : List (Sexpr × Sexpr)) :
    (setEntries target entries ctx).Tidied file c := by
  have calls : (concat (entries.map fun p => append (setEntry target ctx p) (text "; "))).Tidied
      file c :=
    tidied_concat.mpr (List.forall_mem_map.mpr fun p _ =>
      ⟨tidied_setEntry hc target p, by simp [hc.ne]⟩)
  simp [setEntries, hc.ne, calls]

theorem tidied_choice : (choice args ctx).Tidied file c := by
  unfold choice
  split
  · trivial
  · have arms : ∀ p ∈ pairUp (args.drop 1), (arm ctx p).Tidied file c := fun p _ => by
      simp [arm, hc.ne]
    have separator : c ∉ ";;\n".toList := by simp [hc.ne]
    refine ⟨?_, (tidied_separated separator).mpr (List.forall_mem_map.mpr arms), ?_⟩
    · simp [hc.ne]
    · simp [hc.ne]

theorem tidied_newVariable : (newVariable args ctx).Tidied file c := by
  unfold newVariable
  split
  · exact ⟨trivial, tidied_setEntries hc _ _⟩
  · simp [checkedName, hc.ne]

theorem tidied_merge : (merge args ctx).Tidied file c := by
  unfold merge
  split
  · exact tidied_setEntries hc _ _
  · trivial

theorem tidied_iteration (h : ∀ e ∈ args, e.Everywhere (WrittenIn file c)) :
    (iteration args ctx).Tidied file c := by
  have body : (statements (args.drop 1) ctx).Tidied file c :=
    tidied_body hc fun e he => h e (List.mem_of_mem_drop he)
  unfold iteration
  split
  · simp [hc.ne, body, -List.drop_one]
  · trivial

theorem tidied_expansion : (expansion args ctx).Tidied file c := by
  unfold expansion
  split
  · trivial
  · split
    · simp [hc.ne]
    · split
      · next mark value h =>
        have plain : c ∉ mark.toList := hc.notMem_of_plain (chosenOption?_plain h)
        simp [hc.ne, plain]
      · simp [hc.ne]

theorem tidied_operator {op : String} (hop : Operator.isInfix op) :
    (Operator.template op args ctx).Tidied file c := by
  have operand : ∀ e, (Operator.operand op e ctx).Tidied file c := by
    intro e
    unfold Operator.operand
    split <;> trivial
  have spelled : c ∉ (Operator.spelled op).toList := hc.notMem_of_plain (plain_spelled hop)
  unfold Operator.template
  split
  · unfold Operator.delimiters
    split
    · simp [hc.ne, operand, spelled]
    · split <;> simp [hc.ne, operand, spelled]
  · trivial

theorem tidied_argumentNames (names : List String) : (argumentNames names ctx).Tidied file c := by
  refine tidied_concat.mpr (List.forall_mem_map.mpr fun p _ => ⟨trivial, ?_⟩)
  have property := notMem_property hc
  exact property.append (property.append (property.plain (by decide))
    (property.plain (plain_toString_nat p.2))) property.newline

theorem tidied_function {name doc signature : Sexpr} {body : List Sexpr}
    (hname : WrittenIn file c name) (hdoc : WrittenIn file c doc)
    (hsignature : signature.Everywhere (WrittenIn file c))
    (hbody : ∀ e ∈ body, e.Everywhere (WrittenIn file c)) :
    (function name doc signature body ctx).Tidied file c := by
  unfold function
  split
  · next s =>
    split
    · trivial
    · next g hg =>
      have declared : (ofOutcome (declarations doc g.flags)).Tidied file c := by
        cases hd : declarations doc g.flags with
        | error f => trivial
        | ok x =>
          refine (notMem_property hc).declarations (fun _ => hdoc.spelling) ?_ hd
          intro f hf e he x
          exact (everywhere_field hg hsignature hf he).here.spelling
      have head : c ∉ s.toList := hname.spelling rfl
      simp [hc.ne, head, declared, tidied_argumentNames hc, tidied_body hc hbody]
  · trivial

theorem tidied_definition (h : ∀ e ∈ args, e.Everywhere (WrittenIn file c)) :
    (definition args ctx).Tidied file c :=
  definition_of_everywhere nodewise_writtenIn h (fun _ => trivial) (tidied_function hc)

end

theorem Special.tidied (hc : Telltale file c) (special : Special)
    (hcarried : Plain special.carried) (hno : ∀ negated, special ≠ .guarded negated)
    (hargs : ∀ e ∈ args, e.Everywhere (WrittenIn file c)) :
    (special.template args ctx).Tidied file c := by
  have body : ∀ k, (statements (args.drop k) ctx).Tidied file c := fun k =>
    tidied_body hc fun e he => hargs e (List.mem_of_mem_drop he)
  cases special with
  | guarded negated => exact absurd rfl (hno negated)
  | fileTest f =>
    have flag : c ∉ f.toList := hc.notMem_of_plain hcarried
    simp [Special.template, Script.fileTest, hc.ne, flag]
  | chain op => exact (tidied_chainOf (hc.notMem_of_plain hcarried)).mpr tidied_each
  | negation => simp [Special.template, Script.negation, hc.ne]
  | conditional negated =>
    have otherwise : (alternative args ctx).Tidied file c := by
      unfold alternative
      split <;> simp [branch, hc.ne]
    simp [Special.template, Script.conditional, branch, hc.ne, tidied_condition hc, otherwise]
  | choice => exact tidied_choice hc
  | loop =>
    simp [Special.template, Script.loop, hc.ne, body, -List.drop_one]
  | iteration => exact tidied_iteration hc hargs
  | group =>
    simp [Special.template, grouped, hc.ne, tidied_body hc hargs]
  | block => exact tidied_body hc hargs
  | returning => simp [Special.template, Script.returning, hc.ne]
  | assignment a =>
    cases a <;> simp [Special.template, Script.assignment, hc.ne, Assignment.keyword,
      Assignment.quote]
  | newVariable => exact tidied_newVariable hc
  | setVariable =>
    simp [Special.template, Script.setVariable, checkedName, hc.ne]
  | merge => exact tidied_merge hc
  | associate => exact ⟨trivial, tidied_setEntry hc _ _⟩
  | setItem => simp [Special.template, Script.setItem, hc.ne]
  | lookup => simp [Special.template, Script.lookup, mungedSub, hc.ne]
  | item => simp [Special.template, Script.item, hc.ne]
  | expansion => exact tidied_expansion hc
  | concatenation => exact tidied_concat.mpr tidied_each
  | quotation =>
    simp [Special.template, Script.quotation, hc.ne, tidied_words hc]
  | echo newline =>
    cases newline <;> simp [Special.template, Script.echo, hc.ne, tidied_words hc]
  | method => exact tidied_methodCall hc _ _
  | dotted m => exact tidied_methodCall hc _ _
  | construction =>
    simp [Special.template, Script.construction, hc.ne, tidied_argumentList hc]
  | definition => exact tidied_definition hc hargs

/-- All that is trimmed is the body of a guard, and a line feed follows at once, as behind the
branch of a conditional. -/
theorem render_guarded (emit : Sexpr → Context → Outcome) (negated : Bool) :
    (guarded negated args ctx).render emit =
      (concat [condition negated args ctx, finish (.branch true) (statements (args.drop 1) ctx),
        text "fi"]).render emit := by
  simp only [guarded, concat, render]
  cases (condition negated args ctx).render emit with
  | error f => rfl
  | ok x =>
    cases (statements (args.drop 1) ctx).render emit with
    | error f => rfl
    | ok y =>
      apply congrArg Except.ok
      simp only [asBranch, Bool.true_or, if_true, String.append_assoc]
      rfl

theorem template_tidied (hc : Telltale file c) (h : e.Everywhere (WrittenIn file c)) :
    (template e ctx).Tidied file c ∨
      ∃ negated args, template e ctx = guarded negated args ctx ∧
        ∀ x ∈ args, x.Everywhere (WrittenIn file c) := by
  cases e with
  | form items location =>
    have hargs : ∀ x ∈ items.tail, x.Everywhere (WrittenIn file c) :=
      fun x hx => h.part (List.mem_of_mem_tail hx)
    rw [template]
    obtain ⟨s, special, -, hspecial, ht⟩ | ⟨op, hop, ht⟩ | ht := formTemplate_cases items ctx
    · rw [ht]
      by_cases hno : ∃ negated, special = .guarded negated
      · obtain ⟨negated, rfl⟩ := hno
        exact .inr ⟨negated, items.tail, rfl, hargs⟩
      · rw [not_exists] at hno
        exact .inl (special.tidied hc (Special.carried_plain hspecial) hno hargs)
    · rw [ht]
      exact .inl (tidied_operator hc hop)
    · rw [ht]
      exact .inl (tidied_command hc _)
  | seq kind items =>
    have words : (separated " " (each items ctx)).Tidied file c := tidied_words hc
    refine .inl ?_
    simp only [template, sequence]
    split
    · simp [hc.ne, words]
    · exact words
  | map entries =>
    have blank : c ∉ " ".toList := hc.notMem_of_plain (by decide)
    have inner : (separated " " (entries.map (entryLiteral ctx))).Tidied file c :=
      (tidied_separated blank).mpr (List.forall_mem_map.mpr fun p _ => by
        simp [entryLiteral, hc.ne])
    refine .inl ?_
    simp [template, mapping, hc.ne, inner]
  | _ =>
    refine .inl ?_
    simp only [template]
    cases hl : literal _ with
    | error f => trivial
    | ok y =>
      rcases literal_plain hl with hy | hy
      · exact h.here.spelling hy
      · exact hc.notMem_of_plain hy

theorem emit_tidy (hc : Telltale file c) (h : e.Everywhere (WrittenIn file c))
    (hs : emit e ctx = .ok s) : Tidy file c s := by
  refine emit_of_everywhere nodewise_writtenIn ?_ h s hs
  intro e ctx s h hsubs hs
  rcases template_tidied hc h with ht | ⟨negated, args, heq, hargs⟩
  · exact tidy_render hc hsubs ht hs
  · have body : (statements (args.drop 1) ctx).Tidied file c :=
      tidied_body hc fun e he => hargs e (List.mem_of_mem_drop he)
    rw [heq] at hsubs hs
    rw [render_guarded] at hs
    refine tidy_render hc (fun q hq => hsubs q ?_) ?_ hs
    · simpa [guarded, subs] using hq
    · simp [hc.ne, tidied_condition hc, body, -List.drop_one]

/-! ## Lines -/

/-- Nothing in front of the first comment of a clean line looks like a comment. -/
theorem length_le_of_clean (hc : Telltale file c) {code rest before after : List Char}
    (hcode : c ∉ code)
    (h : code ++ ('#' :: ' ' :: file.toList ++ rest) =
      before ++ ('#' :: ' ' :: file.toList ++ after)) : code.length ≤ before.length := by
  have place : ∀ tail, ('#' :: ' ' :: file.toList ++ tail).idxOf c = file.toList.idxOf c + 2 := by
    intro tail
    have hash : '#' ≠ c := hc.ne_ascii (by decide)
    have blank : ' ' ≠ c := hc.ne_ascii (by decide)
    rw [List.cons_append, List.idxOf_cons_ne _ hash, List.cons_append, List.idxOf_cons_ne _ blank,
      List.idxOf_append_of_mem hc.mem]
  have first := congrArg (List.idxOf c) h
  rw [List.idxOf_append_of_notMem hcode, place] at first
  by_contra hlt
  by_cases hb : c ∈ before
  · rw [List.idxOf_append_of_mem hb] at first
    have := List.idxOf_lt_length_iff.mpr hb
    omega
  · rw [List.idxOf_append_of_notMem hb, place] at first
    omega

/-- Let a file's name hold a character that occurs in no text and no name, and no line feed, hyphen,
point or slash. Where all forms come from that file, a line with that character is code without it,
then a comment and perhaps further ones: the first place on it that looks like a comment is where
the code ends. -/
theorem emit_comment_ends_line {file : String} {c : Char} (hmem : c ∈ file.toList)
    (hascii : 128 ≤ c.toNat)
    (hfile : ∀ x ∈ file.toList, x ≠ '\n' ∧ x ≠ '-' ∧ x ≠ '.' ∧ x ≠ '/') {e : Sexpr}
    (h : e.Everywhere (WrittenIn file c)) {ctx : Context} {s : String}
    (hs : emit e ctx = .ok s) {line : List Char} (hline : line ∈ s.toList.splitOn '\n')
    (hc : c ∈ line) :
    ∃ (code : List Char) (n : Nat) (ns : List Nat),
      line = code ++ ("# " ++ file ++ ":" ++ toString n).toList ++
        ns.flatMap (fun m => (" # " ++ file ++ ":" ++ toString m).toList) ∧
      c ∉ code ∧
      ∀ before after, line = before ++ ("# " ++ file ++ ":").toList ++ after →
        code.length ≤ before.length := by
  have telltale : Telltale file c := ⟨hmem, hascii, hfile⟩
  obtain ⟨first, rest, hsplit, hrest, hfirst⟩ := (emit_tidy telltale h hs).lines telltale
  have clean : Commented.Clean file c line := by
    rw [hsplit] at hline
    rcases List.mem_cons.mp hline with rfl | hline
    · exact hfirst
    · exact hrest line hline
  obtain ⟨code, n, ns, hcode, rfl⟩ := clean.resolve_left fun hno => hno hc
  refine ⟨code, n, ns, ?_, hcode, fun before after heq => ?_⟩
  · simp [citation, Commented.trail, Nat.toList_repr]
  · have places : code ++ ('#' :: ' ' :: file.toList ++
        (':' :: Nat.toDigits 10 n ++ Commented.trail file ns)) =
          before ++ ('#' :: ' ' :: file.toList ++ ':' :: after) := by
      simpa [citation] using heq
    exact length_le_of_clean telltale hcode places

/-- A statement with two comments, its own and that of the block around it. -/
theorem emit_comment_ends_line_block :
    let block : Sexpr := .form [.symbol "do",
      .form [.symbol "do", .form [.symbol "b"] (some ⟨2, some "ä", none⟩)]
        (some ⟨1, some "ä", none⟩)] none
    emit block {} = .ok "b # ä:2 # ä:1\n" ∧ block.Everywhere (WrittenIn "ä" 'ä') ∧
    ∃ (code : List Char) (n : Nat) (ns : List Nat),
      "b # ä:2 # ä:1".toList = code ++ ("# " ++ "ä" ++ ":" ++ toString n).toList ++
        ns.flatMap (fun m => (" # " ++ "ä" ++ ":" ++ toString m).toList) ∧
      'ä' ∉ code ∧
      ∀ before after, "b # ä:2 # ä:1".toList = before ++ ("# " ++ "ä" ++ ":").toList ++ after →
        code.length ≤ before.length := by
  intro block
  have symbol : ∀ s : String, 'ä' ∉ s.toList → (Sexpr.symbol s).Everywhere (WrittenIn "ä" 'ä') :=
    fun s h => everywhere_iff.mpr ⟨⟨by rintro _ ⟨⟩; exact h, nofun⟩, List.forall_mem_nil _⟩
  have form : ∀ items n, 0 < n → (∀ x ∈ items, x.Everywhere (WrittenIn "ä" 'ä')) →
      (Sexpr.form items (some ⟨n, some "ä", none⟩)).Everywhere (WrittenIn "ä" 'ä') :=
    fun items n hn h =>
      everywhere_iff.mpr ⟨⟨nofun, by rintro _ ⟨⟩; exact ⟨rfl, hn⟩⟩, h⟩
  have written : block.Everywhere (WrittenIn "ä" 'ä') := by
    refine everywhere_iff.mpr ⟨⟨nofun, nofun⟩, ?_⟩
    simp only [block, parts, List.forall_mem_cons]
    refine ⟨symbol _ (by decide), form _ _ (by decide) ?_, List.forall_mem_nil _⟩
    simp only [List.forall_mem_cons]
    refine ⟨symbol _ (by decide), form _ _ (by decide) ?_, List.forall_mem_nil _⟩
    exact List.forall_mem_cons.mpr ⟨symbol _ (by decide), List.forall_mem_nil _⟩
  have text : emit block {} = .ok "b # ä:2 # ä:1\n" := rfl
  exact ⟨text, written, emit_comment_ends_line (by decide) (by decide) (by simp) written text
    (by decide) (by decide)⟩

end SexprShell.Script
