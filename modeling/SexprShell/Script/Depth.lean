import SexprShell.Script.Special

/-!
# How deep templates reach

The template of a special form, an operator or a command asks for arguments and their parts, and
for names and nil. `Special.below` says so for all of them: whatever bounds the heights of the
arguments bounds those of the expressions asked for.
-/

namespace SexprShell.Script

open Sexpr

/-- Every expression that a template asks for is lower than `n`. -/
def Template.Below (n : Nat) (t : Template) : Prop := ∀ s ∈ t.subs, s.1.height < n

/-- Arguments lower than `n`, where a missing argument is lower as well. -/
structure ArgsBelow (n : Nat) (args : List Sexpr) : Prop where
  one_lt : 1 < n
  height_lt : ∀ e ∈ args, e.height < n

namespace ArgsBelow

variable {n : Nat} {args : List Sexpr}

theorem argAt (h : ArgsBelow n args) (i : Nat) : (Sexpr.argAt args i).height < n := by
  unfold Sexpr.argAt
  rw [List.getD_eq_getElem?_getD]
  cases hi : args[i]? with
  | none => exact h.one_lt
  | some e => exact h.height_lt e (List.mem_of_getElem? hi)

theorem drop (h : ArgsBelow n args) (i : Nat) : ArgsBelow n (args.drop i) :=
  ⟨h.one_lt, fun e he => h.height_lt e (List.mem_of_mem_drop he)⟩

theorem symbol (h : ArgsBelow n args) (s : String) : (Sexpr.symbol s).height < n := h.one_lt

/-- The items of an argument are lower as well. -/
theorem items (h : ArgsBelow n args) {i : Nat} {k : SequenceKind} {es : List Sexpr}
    (hi : Sexpr.argAt args i = .seq k es) : ArgsBelow n es :=
  ⟨h.one_lt, fun e he => by
    have h1 := h.argAt i
    rw [hi] at h1
    simp only [height] at h1
    have := height_le_of_mem he
    omega⟩

/-- So are the entries of a mapping. -/
theorem entries (h : ArgsBelow n args) {i : Nat} {es : List (Sexpr × Sexpr)}
    (hi : Sexpr.argAt args i = .map es) : ∀ p ∈ es, p.1.height < n ∧ p.2.height < n := by
  rintro ⟨k, v⟩ hp
  have h1 := h.argAt i
  rw [hi] at h1
  simp only [height] at h1
  have := height_key_le hp
  exact ⟨by simp only; omega, by simp only; omega⟩

theorem pairUp : ∀ {args : List Sexpr}, ArgsBelow n args →
    ∀ p ∈ Sexpr.pairUp args, p.1.height < n ∧ p.2.height < n
  | a :: b :: rest, h, p, hp => by
    simp only [Sexpr.pairUp, List.mem_cons] at hp
    rcases hp with rfl | hp
    · exact ⟨h.height_lt _ (by simp), h.height_lt _ (by simp)⟩
    · exact pairUp ⟨h.one_lt, fun e he => h.height_lt e (by simp [he])⟩ p hp
  | [], _, _, hp | [_], _, _, hp => by simp [Sexpr.pairUp] at hp

end ArgsBelow

namespace Template

variable {n : Nat} {t a b : Template} {ts : List Template} {e : Sexpr} {ctx : Context}

theorem below_text (s : String) : (text s).Below n := by simp [Below, subs]

theorem below_fail (f : Failure) : (fail f).Below n := by simp [Below, subs]

theorem below_refuse (c : Cause) (r : Option String) : (refuse c r).Below n := below_fail _

theorem below_ofOutcome (o : Outcome) : (ofOutcome o).Below n := by simp [Below, subs_ofOutcome]

theorem below_sub (h : e.height < n) : (sub e ctx).Below n := by simp [Below, subs, h]

theorem below_finish {f : Finish} (h : t.Below n) : (finish f t).Below n := h

theorem below_append (ha : a.Below n) (hb : b.Below n) : (append a b).Below n := by
  intro s hs
  exact (List.mem_append.mp hs).elim (ha s) (hb s)

theorem below_late (ha : a.Below n) (hb : b.Below n) : (late a b).Below n := by
  intro s hs
  exact (List.mem_append.mp hs).elim (hb s) (ha s)

theorem below_concat (h : ∀ t ∈ ts, t.Below n) : (concat ts).Below n := by
  intro s hs
  obtain ⟨t, ht, hs⟩ := mem_subs_concat.mp hs
  exact h t ht s hs

theorem below_separated {sep : String} (h : ∀ t ∈ ts, t.Below n) : (separated sep ts).Below n := by
  intro s hs
  obtain ⟨t, ht, hs⟩ := mem_subs_separated.mp hs
  exact h t ht s hs

theorem below_chainOf {op : String} (h : ∀ t ∈ ts, t.Below n) : (chainOf op ts).Below n := by
  intro s hs
  obtain ⟨t, ht, hs⟩ := mem_subs_chainOf.mp hs
  exact h t ht s hs

theorem below_each {args : List Sexpr} (h : ∀ e ∈ args, e.height < n) :
    ∀ t ∈ each args ctx, t.Below n := by
  intro t ht
  obtain ⟨e, he, rfl⟩ := List.mem_map.mp ht
  exact below_sub (h e he)

theorem below_statements {args : List Sexpr} (h : ∀ e ∈ args, e.height < n) :
    (statements args ctx).Below n := by
  intro s hs
  exact h _ (mem_subs_statements.mp hs).1

end Template

open Template

variable {n : Nat} {args : List Sexpr} {ctx : Context}

theorem command_below {head : Sexpr} (hh : head.height < n) (h : ∀ e ∈ args, e.height < n) :
    (command head args ctx).Below n := by
  refine below_late (below_sub hh) (below_concat fun t ht => ?_)
  obtain ⟨e, he, rfl⟩ := List.mem_map.mp ht
  exact below_append (below_text _) (below_sub (h e he))

theorem Operator.template_below {op : String} (h : ∀ e ∈ args, e.height < n) :
    (Operator.template op args ctx).Below n := by
  have operand : ∀ e ∈ args, (Operator.operand op e ctx).Below n := by
    intro e he s hs
    rw [Operator.mem_subs_operand.mp hs]
    exact h e he
  unfold Operator.template
  split
  · refine below_concat fun t ht => ?_
    simp only [List.mem_cons, List.not_mem_nil, or_false] at ht
    rcases ht with rfl | rfl | rfl | rfl | rfl
    · exact below_text _
    · exact operand _ (by simp)
    · exact below_text _
    · exact operand _ (by simp)
    · exact below_text _
  · exact below_refuse _ _

theorem setEntry_below {target : Sexpr} {p : Sexpr × Sexpr} (ht : target.height < n)
    (hp : p.1.height < n ∧ p.2.height < n) : (setEntry target ctx p).Below n := by
  simp [Below, setEntry, mungedSub, concat, subs, ht, hp]

theorem setEntries_below {target : Sexpr} {es : List (Sexpr × Sexpr)} (ht : target.height < n)
    (hes : ∀ p ∈ es, p.1.height < n ∧ p.2.height < n) : (setEntries target es ctx).Below n := by
  refine below_concat fun t h => ?_
  simp only [List.mem_cons, List.not_mem_nil, or_false] at h
  rcases h with rfl | rfl | rfl
  · exact below_text _
  · refine below_concat fun t h => ?_
    obtain ⟨p, hp, rfl⟩ := List.mem_map.mp h
    exact below_append (setEntry_below ht (hes p hp)) (below_text _)
  · exact below_text _

theorem argumentList_below (h : ∀ e ∈ args, e.height < n) :
    (argumentList args ctx).Below n := by
  refine below_concat fun t ht => ?_
  simp only [List.mem_cons, List.not_mem_nil, or_false] at ht
  rcases ht with rfl | rfl | rfl
  · exact below_text _
  · exact below_separated (below_each h)
  · exact below_text _

theorem methodCall_below {object method : Sexpr} (ho : object.height < n)
    (hm : method.height < n) (h : ∀ e ∈ args, e.height < n) :
    (methodCall object method args ctx).Below n :=
  below_append (below_sub ho) (below_append (below_text _)
    (below_append (below_sub hm) (argumentList_below h)))

theorem function_below {name doc signature : Sexpr} {body : List Sexpr} (hn : 1 < n)
    (h : ∀ e ∈ body, e.height < n) : (function name doc signature body ctx).Below n := by
  unfold function
  split
  · split
    · exact below_fail _
    · refine below_append (below_text _) (below_append (below_ofOutcome _)
        (below_append (below_concat fun t ht => ?_)
          (below_append (below_statements h) (below_text _))))
      obtain ⟨p, _, rfl⟩ := List.mem_map.mp ht
      exact below_append (below_sub hn) (below_text _)
  · exact below_refuse _ _

theorem definition_below (h : ArgsBelow n args) : (definition args ctx).Below n := by
  have hd := h.drop 1
  unfold definition
  split
  · rename_i heq
    rw [heq] at hd
    exact function_below h.one_lt fun e he => hd.height_lt e (by simp [he])
  · exact below_refuse _ _
  · exact below_refuse _ _
  · rename_i heq
    rw [heq] at hd
    exact function_below h.one_lt fun e he => hd.height_lt e (by simp [he])

theorem choice_below (h : ArgsBelow n args) : (choice args ctx).Below n := by
  unfold choice
  split
  · exact below_refuse _ _
  · refine below_late (below_append (below_text _) (below_append (below_sub (h.argAt 0))
      (below_text _))) (below_append (below_separated fun t ht => ?_) (below_text _))
    obtain ⟨p, hp, rfl⟩ := List.mem_map.mp ht
    have := (h.drop 1).pairUp p hp
    exact below_append (below_sub this.1) (below_append (below_text _) (below_sub this.2))

theorem iteration_below (h : ArgsBelow n args) : (iteration args ctx).Below n := by
  unfold iteration
  split
  · rename_i heq
    have hi := h.items heq
    refine below_append (below_late (below_append (below_text _) (below_append
      (below_sub (hi.height_lt _ (by simp))) (below_text _)))
      (below_sub (hi.height_lt _ (by simp)))) ?_
    exact below_append (below_text _) (below_append (below_statements (h.drop 1).height_lt)
      (below_text _))
  · exact below_refuse _ _

theorem condition_below {negated : Bool} (h : ArgsBelow n args) :
    (condition negated args ctx).Below n := by
  cases negated <;> simp [Below, condition, concat, subs, h.argAt 0]

theorem conditional_below {negated : Bool} (h : ArgsBelow n args) :
    (conditional negated args ctx).Below n := by
  refine below_append (condition_below h) (below_append (below_finish (below_sub (h.argAt 1)))
    (below_append ?_ (below_text _)))
  unfold alternative
  split
  · exact below_append (below_text _) (below_finish (below_sub (h.argAt 2)))
  · exact below_text _

theorem mem_of_chosenOption? {pairs : List (Sexpr × Sexpr)} {mark : String} {v : Sexpr}
    (h : chosenOption? pairs = some (mark, v)) : ∃ k, (k, v) ∈ pairs := by
  obtain ⟨o, _, ho⟩ := List.exists_of_findSome?_eq_some h
  obtain ⟨w, hw, e⟩ := Option.map_eq_some_iff.mp ho
  cases e
  obtain ⟨p, hp, rfl⟩ := Option.map_eq_some_iff.mp hw
  exact ⟨p.1, List.mem_reverse.mp (List.mem_of_find?_eq_some hp)⟩

theorem expansion_below (h : ArgsBelow n args) : (expansion args ctx).Below n := by
  unfold expansion
  split
  · exact below_refuse _ _
  · have h0 := h.argAt 0
    split
    · rename_i heq
      rw [heq] at h0
      exact below_append (below_text _) (below_append (below_sub h0) (below_text _))
    · split
      · rename_i heq
        obtain ⟨k, hk⟩ := mem_of_chosenOption? heq
        have := ((h.drop 1).pairUp _ hk).2
        exact below_append (below_text _) (below_append (below_sub h0) (below_append (below_text _)
          (below_append (below_sub this) (below_text _))))
      · exact below_append (below_text _) (below_append (below_sub h0) (below_text _))

theorem newVariable_below (h : ArgsBelow n args) : (newVariable args ctx).Below n := by
  unfold newVariable
  split
  · rename_i heq
    exact below_append (below_finish (below_finish (below_sub (h.argAt 0))))
      (setEntries_below (h.argAt 0) (h.entries heq))
  · exact below_append (below_finish (below_sub (h.argAt 0))) (below_append (below_text _)
      (below_sub (h.argAt 1)))

theorem merge_below (h : ArgsBelow n args) : (merge args ctx).Below n := by
  unfold merge
  split
  · rename_i heq
    exact setEntries_below (h.argAt 0) (h.entries heq)
  · exact below_refuse _ _

/-- A special form asks for nothing that is not as low as its arguments. -/
theorem Special.below (h : ArgsBelow n args) :
    ∀ special : Special, (special.template args ctx).Below n
  | .fileTest _ | .negation | .returning | .setVariable | .setItem | .lookup | .item
  | .assignment _ => by
    simp [Below, Special.template, Script.fileTest, Script.negation, Script.returning,
      Script.setVariable, Script.setItem, Script.lookup, Script.item, Script.assignment,
      checkedName, mungedSub, concat, subs, h.argAt]
  | .conditional _ => conditional_below h
  | .guarded _ => below_append (condition_below h) (below_append (below_text _)
      (below_append (below_finish (below_statements (h.drop 1).height_lt)) (below_text _)))
  | .choice => choice_below h
  | .loop => below_append (below_text _) (below_append (below_sub (h.argAt 0))
      (below_append (below_text _) (below_append (below_statements (h.drop 1).height_lt)
        (below_text _))))
  | .iteration => iteration_below h
  | .group => below_append (below_text _) (below_append (below_statements h.height_lt)
      (below_text _))
  | .block => below_statements h.height_lt
  | .chain _ => below_chainOf (below_each h.height_lt)
  | .newVariable => newVariable_below h
  | .merge => merge_below h
  | .associate => below_append (below_finish (below_finish (below_sub (h.argAt 0))))
      (setEntry_below (h.argAt 0) ⟨h.argAt 1, h.argAt 2⟩)
  | .expansion => expansion_below h
  | .concatenation => below_concat (below_each h.height_lt)
  | .quotation => below_append (below_text _) (below_append
      (below_separated (below_each h.height_lt)) (below_text _))
  | .echo _ => below_append (below_text _) (below_separated (below_each h.height_lt))
  | .method => methodCall_below (h.argAt 0) (h.argAt 1) (h.drop 2).height_lt
  | .dotted m => methodCall_below (h.argAt 0) (h.symbol m) (h.drop 1).height_lt
  | .construction => below_append (below_text _) (below_append (below_sub (h.argAt 0))
      (argumentList_below (h.drop 1).height_lt))
  | .definition => definition_below h

end SexprShell.Script
