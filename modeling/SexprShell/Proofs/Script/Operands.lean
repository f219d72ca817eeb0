import SexprShell.Proofs.Script.EntryPoints
import SexprShell.Proofs.Script.Everywhere
import SexprShell.Proofs.Script.Texts

/-!
# Infix operators and their operands

An operator is written between its first two operands, within delimiters that its class decides on.
Under a comparison each operand is quoted, unless its own text begins in a way that forbids quotes;
under other operators none is (`emit_infix_outcome`). Operands behind the second are never rendered.
-/

namespace SexprShell.Script

open Template Sexpr

/-- Beginnings of texts that quotes must not be put around. -/
def unquotedPrefixes : List (List Char) := [['\\', '('], ['!'], ['-'], ['@']]

def BeginsUnquoted (x : String) : Prop := ∃ p ∈ unquotedPrefixes, p <+: x.toList

/-- The text of an operand under an operator, from the text that the operand has by itself. -/
inductive OperandText (op x : String) : String → Prop where
  | bare : op ∉ Operator.comparisons → OperandText op x x
  | kept : op ∈ Operator.comparisons → BeginsUnquoted x → OperandText op x x
  | quoted : op ∈ Operator.comparisons → ¬ BeginsUnquoted x → OperandText op x ("\"" ++ x ++ "\"")

/-- What stands in front of the operands of an operator and behind them. -/
inductive Delimited : String → String → String → Prop where
  | comparison {op : String} : op ∈ Operator.comparisons → Delimited op "[ " " ]"
  | arithmetic {op : String} : op ∈ Operator.arithmetic → Delimited op "(" ")"
  | connective {op : String} : op ∈ Operator.connectives → Delimited op "" ""

/-- The spelling of an operator: another one where the table has one, and its own otherwise. -/
inductive Respelled (op : String) : String → Prop where
  | other {c : String} : (op, c) ∈ Operator.spellings → Respelled op c
  | same : (∀ p ∈ Operator.spellings, p.1 ≠ op) → Respelled op op

/-- The text of an operator between two operands. -/
inductive InfixText (op : String) (left right : Sexpr) (ctx : Context) : String → Prop where
  | intro {x y u v c opening closing : String} : emit left ctx = .ok x → emit right ctx = .ok y →
      OperandText op x u → OperandText op y v → Delimited op opening closing → Respelled op c →
      InfixText op left right ctx (opening ++ u ++ " " ++ c ++ " " ++ v ++ closing)

variable {op opening closing c s u x : String} {e left right : Sexpr} {rest : List Sexpr}
  {ctx : Context} {f : Failure}

/-! ## Operands -/

theorem isSubexpression_iff : isSubexpression x ↔ BeginsUnquoted x := by
  unfold isSubexpression BeginsUnquoted
  split
  · next cs heq => exact iff_of_true rfl ⟨['\\', '('], by simp [unquotedPrefixes], cs, heq.symm⟩
  · next c cs hopening heq =>
    -- The first prefix is not one here, so that the first character decides.
    have not_opening : ¬ ['\\', '('] <+: c :: cs := by
      intro h
      obtain ⟨ds, hds⟩ := h
      obtain ⟨rfl, rfl⟩ := List.cons.inj hds
      exact hopening ds rfl rfl
    rw [heq]
    simp only [unquotedPrefixes, List.mem_cons, List.not_mem_nil, or_false, exists_eq_or_imp,
      exists_eq_left, not_opening, false_or, List.singleton_prefix_cons_iff, Bool.or_eq_true,
      beq_iff_eq, or_assoc, eq_comm (b := c)]
  · next heq =>
    rw [heq]
    simp [unquotedPrefixes]

theorem operandText_iff : OperandText op x u ↔
    u = if Operator.isQuoted op then asOperand x else x := by
  have quoted_iff : Operator.isQuoted op ↔ op ∈ Operator.comparisons := List.contains_iff_mem
  simp only [quoted_iff, asOperand]
  constructor
  · intro h
    cases h with
    | bare hop => rw [if_neg hop]
    | kept hop hx => rw [if_pos hop, if_pos (isSubexpression_iff.mpr hx)]
    | quoted hop hx =>
      rw [if_pos hop, if_neg (mt isSubexpression_iff.mp hx)]
      rfl
  · rintro rfl
    split
    · next hop =>
      split
      · next hx => exact .kept hop (isSubexpression_iff.mp hx)
      · next hx => exact .quoted hop (mt isSubexpression_iff.mpr hx)
    · next hop => exact .bare hop

theorem render_operand_eq_ok_iff : (Operator.operand op e ctx).render emit = .ok u ↔
    ∃ x, emit e ctx = .ok x ∧ OperandText op x u := by
  unfold Operator.operand
  simp only [operandText_iff]
  split
  · simp only [render_finish_eq_ok_iff, render_sub, Finish.apply, Except.ok.injEq, eq_comm (b := u)]
  · simp [render_sub]

theorem render_operand_eq_error_iff :
    (Operator.operand op e ctx).render emit = .error f ↔ emit e ctx = .error f := by
  unfold Operator.operand
  split
  · simp [render_finish_eq_error_iff, render_sub, Finish.apply]
  · rw [render_sub]

theorem isOk_render_operand :
    ((Operator.operand op e ctx).render emit).isOk = (emit e ctx).isOk := by
  cases h : emit e ctx with
  | ok x =>
    rw [render_operand_eq_ok_iff.mpr ⟨x, h, operandText_iff.mpr rfl⟩]
    rfl
  | error f => rw [render_operand_eq_error_iff.mpr h]

theorem asked_operand : (Operator.operand op e ctx).asked emit = [(e, ctx)] := by
  unfold Operator.operand
  split <;> rfl

/-! ## Operators -/

theorem Delimited.delimiters_eq (h : Delimited op opening closing) :
    Operator.delimiters op = (opening, closing) := by
  cases h with
  | comparison h =>
    have tests : ∀ op ∈ Operator.comparisons, Operator.delimiters op = ("[ ", " ]") := by decide
    exact tests op h
  | arithmetic h =>
    have sums : ∀ op ∈ Operator.arithmetic, Operator.delimiters op = ("(", ")") := by decide
    exact sums op h
  | connective h =>
    have bare : ∀ op ∈ Operator.connectives, Operator.delimiters op = ("", "") := by decide
    exact bare op h

theorem exists_delimited (hop : Operator.isInfix op) :
    Delimited op (Operator.delimiters op).1 (Operator.delimiters op).2 := by
  have delimited : ∃ opening closing, Delimited op opening closing := by
    simp only [Operator.isInfix, Bool.or_eq_true, List.contains_iff_mem] at hop
    rcases hop with (h | h) | h
    · exact ⟨_, _, .arithmetic h⟩
    · exact ⟨_, _, .comparison h⟩
    · exact ⟨_, _, .connective h⟩
  obtain ⟨opening, closing, h⟩ := delimited
  rwa [h.delimiters_eq]

theorem respelled_iff : Respelled op c ↔ c = Operator.spelled op := by
  have spelled : ∀ p ∈ Operator.spellings, Operator.spelled p.1 = p.2 := by decide
  constructor
  · intro h
    cases h with
    | other h => exact (spelled _ h).symm
    | same h =>
      rw [Operator.spelled, List.lookup_eq_none_iff.mpr fun p hp => bne_iff_ne.mpr (h p hp).symm]
      rfl
  · rintro rfl
    rw [Operator.spelled]
    cases h : Operator.spellings.lookup op with
    | some c =>
      obtain ⟨_, _, heq, _⟩ := List.lookup_eq_some_iff.mp h
      exact .other (heq ▸ by simp)
    | none =>
      exact .same fun p hp heq => by simpa [heq] using List.lookup_eq_none_iff.mp h p hp

theorem operator_eq : Operator.template op (left :: right :: rest) ctx =
    concat [text (Operator.delimiters op).1, Operator.operand op left ctx,
      text (" " ++ Operator.spelled op ++ " "), Operator.operand op right ctx,
      text (Operator.delimiters op).2] := rfl

theorem render_operator_ok_iff (hop : Operator.isInfix op) :
    (Operator.template op (left :: right :: rest) ctx).render emit = .ok s ↔
      InfixText op left right ctx s := by
  rw [operator_eq, render_pair_eq_ok_iff]
  simp only [render_operand_eq_ok_iff]
  constructor
  · rintro ⟨u, v, ⟨x, hx, hu⟩, ⟨y, hy, hv⟩, rfl⟩
    have text := InfixText.intro hx hy hu hv (exists_delimited hop) (respelled_iff.mpr rfl)
    simpa only [String.append_assoc] using text
  · intro h
    cases h with
    | @intro x y u v _ _ _ hx hy hu hv hdelimited hspelled =>
      refine ⟨u, v, ⟨x, hx, hu⟩, ⟨y, hy, hv⟩, ?_⟩
      rw [respelled_iff.mp hspelled, hdelimited.delimiters_eq]
      simp only [String.append_assoc]

theorem render_operator_error_iff :
    (Operator.template op (left :: right :: rest) ctx).render emit = .error f ↔
      emit left ctx = .error f ∨ (∃ x, emit left ctx = .ok x) ∧ emit right ctx = .error f := by
  have written : (∃ u, (Operator.operand op left ctx).render emit = .ok u) ↔
      ∃ x, emit left ctx = .ok x := by
    simp only [← isOk_iff, isOk_render_operand]
  rw [operator_eq, render_pair_eq_error_iff]
  simp only [render_operand_eq_error_iff, exists_and_right, written]

theorem asked_operator : (Operator.template op (left :: right :: rest) ctx).asked emit =
    (left, ctx) :: if (emit left ctx).isOk then [(right, ctx)] else [] := by
  have isOk_text (x : String) : ((Template.text x).render emit).isOk := rfl
  simp only [Operator.template, concat, asked, asked_operand, isOk_text, isOk_render_operand,
    if_true, List.nil_append, ite_self, List.append_nil, List.singleton_append]

/-- An infix operator is written with its first two operands, each as its class wants it, within the
delimiters of that class. The left operand is rendered first, the right one if the left one has a
text, and further ones never are. With fewer than two operands it is refused before anything is
rendered. -/
theorem emit_infix_outcome {op : String} (hop : Operator.isInfix op) (location : Option Location)
    (ctx : Context) :
    let n (args : List Sexpr) := Sexpr.form (.symbol op :: args) location
    (∀ args, emit (n args) ctx =
      (Dialect.bash.renderInfix op args ctx).mapError (Failure.within (n args))) ∧
    (∀ args, args.length < 2 → (template (n args) ctx).asked emit = [] ∧
      Dialect.bash.renderInfix op args ctx =
        .error (.ofCause (.tooFewOperands op args.length) (some op))) ∧
    ∀ left right rest,
      (template (n (left :: right :: rest)) ctx).asked emit =
        ((left, ctx) :: if (emit left ctx).isOk then [(right, ctx)] else []) ∧
      (∀ s, Dialect.bash.renderInfix op (left :: right :: rest) ctx = .ok s ↔
        InfixText op left right ctx s) ∧
      ∀ f, Dialect.bash.renderInfix op (left :: right :: rest) ctx = .error f ↔
        emit left ctx = .error f ∨ (∃ x, emit left ctx = .ok x) ∧ emit right ctx = .error f := by
  intro n
  have operator_eq (args : List Sexpr) : template (n args) ctx = Operator.template op args ctx :=
    template_of_operator (Special.ofSymbol?_of_isInfix hop) hop
  refine ⟨fun args => ?_, fun args hfew => ?_,
    fun left right rest => ⟨?_, fun s => ?_, fun f => ?_⟩⟩
  · rw [emit_eq, operator_eq]
    rfl
  · have refused : Operator.template op args ctx =
        refuse (.tooFewOperands op args.length) (some op) := by
      match args, hfew with
      | [], _ | [_], _ => rfl
    rw [operator_eq, Dialect.renderInfix, refused]
    exact ⟨rfl, rfl⟩
  · rw [operator_eq, asked_operator]
  · exact @render_operator_ok_iff op s left right rest ctx hop
  · exact @render_operator_error_iff op left right rest ctx f

/-- A negative number is left as it is where a nested operator is quoted, and a third operand does
not count. -/
theorem emit_infix_outcome_comparison : Operator.isInfix "<" ∧
    InfixText "<" (.int (-1)) (.form [.symbol "+", .int 1, .int 2] none) {}
      "[ -1 -lt \"(1 + 2)\" ]" := by
  have less : Operator.isInfix "<" := by decide
  obtain ⟨-, -, text⟩ := emit_infix_outcome less none {}
  obtain ⟨-, outcome, -⟩ :=
    text (.int (-1)) (.form [.symbol "+", .int 1, .int 2] none) [.foreign "object"]
  exact ⟨less, (outcome _).mp rfl⟩

end SexprShell.Script
