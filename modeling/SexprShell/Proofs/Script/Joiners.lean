import SexprShell.Proofs.Script.Everywhere
import SexprShell.Proofs.Script.Texts

/-!
# Joining statements and chains

Statements are joined as lines, and the parts of a chain by an operator. Both joiners turn each
expression into a part of its own and put the parts together by an associative operation, and both
leave what they have put together as it is when they meet it as a part. So a joiner among what the
same joiner joins can be replaced by its own expressions (`joined_splice`).
-/

namespace SexprShell.Script

open Template Sexpr Text

/-! ## Joining -/

/-- Two outcomes put together, the first failure being that of both. -/
def both (m : String → String → String) (a b : Outcome) : Outcome := do
  let x ← a
  let y ← b
  .ok (m x y)

/-- The parts of expressions put together, one after another. -/
def joined (m : String → String → String) (part : Sexpr → Outcome) : List Sexpr → Outcome
  | [] => .ok ""
  | e :: es => both m (part e) (joined m part es)

section joined

variable {m : String → String → String} {part : Sexpr → Outcome} {a b : Outcome} {e : Sexpr}
  {xs ys zs : List Sexpr} {s : String}

theorem both_eq_ok_iff : both m a b = .ok s ↔ ∃ x y, a = .ok x ∧ b = .ok y ∧ m x y = s := by
  simp only [both, bind_ok_iff, Except.ok.injEq, exists_and_left]

instance associative_both [Std.Associative m] : Std.Associative (both m) where
  assoc a b c := by
    cases a with
    | error f => rfl
    | ok x =>
      cases b with
      | error f => rfl
      | ok y =>
        cases c with
        | error f => rfl
        | ok z => exact congrArg Except.ok (Std.Associative.assoc x y z)

instance lawfulIdentity_both [Std.LawfulIdentity m ""] : Std.LawfulIdentity (both m) (.ok "") where
  left_id a := by
    cases a with
    | error f => rfl
    | ok x => exact congrArg Except.ok (Std.LawfulLeftIdentity.left_id x)
  right_id a := by
    cases a with
    | error f => rfl
    | ok x => exact congrArg Except.ok (Std.LawfulRightIdentity.right_id x)

/-- What holds of all parts, and of two texts put together if it holds of both, holds of what is
put together. -/
theorem joined_induction {P : String → Prop} (empty : P "")
    (parts : ∀ e s, part e = .ok s → P s) (step : ∀ x y, P x → P y → P (m x y)) :
    ∀ {es : List Sexpr} {s : String}, joined m part es = .ok s → P s
  | [], s, h => Except.ok.inj h ▸ empty
  | e :: es, s, h => by
    obtain ⟨x, y, hx, hy, rfl⟩ := both_eq_ok_iff.mp h
    exact step x y (parts e x hx) (joined_induction empty parts step hy)

theorem joined_append [Std.Associative m] [Std.LawfulIdentity m ""] (xs ys : List Sexpr) :
    joined m part (xs ++ ys) = both m (joined m part xs) (joined m part ys) := by
  induction xs with
  | nil => exact (Std.LawfulLeftIdentity.left_id _).symm
  | cons e xs ih =>
    rw [List.cons_append, joined, ih, joined]
    exact (Std.Associative.assoc _ _ _).symm

/-- An expression whose part is what other expressions are put together to stands for these. -/
theorem joined_splice [Std.Associative m] [Std.LawfulIdentity m ""]
    (h : ∀ s, part e = .ok s ↔ joined m part ys = .ok s) :
    joined m part (xs ++ e :: zs) = .ok s ↔ joined m part (xs ++ ys ++ zs) = .ok s := by
  have single : joined m part [e] = part e := Std.LawfulRightIdentity.right_id _
  rw [← List.singleton_append, ← List.append_assoc]
  simp only [joined_append, both_eq_ok_iff, single, h]

theorem map_eq_ok_iff {f : String → String} : a.map f = .ok s ↔ ∃ x, a = .ok x ∧ f x = s := by
  cases a <;> simp [Except.map]

/-- A change that leaves a text as it is does so in an outcome. -/
theorem map_eq_ok_iff_of_fixed {f : String → String} (h : ∀ x, a = .ok x → f x = x) :
    a.map f = .ok s ↔ a = .ok s := by
  cases a with
  | ok x => rw [Except.map, h x rfl]
  | error f => exact iff_of_false nofun nofun

end joined

/-! ## Statements -/

/-- A text that holds whole lines only. -/
def OfLines (s : String) : Prop := s = "" ∨ s.toList.getLast? = some '\n'

/-- An expression as a statement. -/
def statementOf (ctx : Context) (e : Sexpr) : Outcome :=
  (emit e ctx).map (asStatement (commentFor e ctx))

instance lawfulIdentity_append : Std.LawfulIdentity (fun x y : String => x ++ y) "" where
  left_id _ := String.empty_append
  right_id _ := String.append_empty

section statements

variable {es ys : List Sexpr} {ctx : Context} {location : Option Location} {s x y : String}

theorem OfLines.append (hx : OfLines x) (hy : OfLines y) : OfLines (x ++ y) := by
  rcases hy with rfl | hy
  · rwa [String.append_empty]
  · right
    rw [String.toList_append, List.getLast?_append, hy, Option.some_or]

theorem ofLines_terminated (s : String) : OfLines (terminated s) := by
  unfold terminated
  split
  · next h => exact .inr h
  · exact .inr (by simp)

theorem ofLines_asStatement (comment s : String) : OfLines (asStatement comment s) := by
  unfold asStatement
  split
  · exact .inl rfl
  · split <;> exact ofLines_terminated _

/-- Whole lines are statements already. -/
theorem OfLines.asStatement_eq (h : OfLines s) : asStatement "" s = s := by
  rcases h with rfl | h
  · rfl
  · rw [asStatement, if_pos rfl, terminated, if_pos h, ite_eq_right_iff]
    exact Eq.symm

theorem render_concat_cons {emit : Sexpr → Context → Outcome} (t : Template) (ts : List Template) :
    (concat (t :: ts)).render emit =
      both (· ++ ·) (t.render emit) ((concat ts).render emit) := by
  cases ts with
  | nil => exact (Std.LawfulRightIdentity.right_id _).symm
  | cons u ts => rfl

theorem emitScript_eq_joined (es : List Sexpr) (ctx : Context) :
    emitScript es ctx = joined (· ++ ·) (statementOf ctx) es := by
  unfold emitScript statements
  induction es with
  | nil => rfl
  | cons e es ih =>
    rw [List.map_cons, render_concat_cons, ih, joined]
    unfold statementOf
    rfl

theorem ofLines_of_emitScript (h : emitScript es ctx = .ok s) : OfLines s := by
  rw [emitScript_eq_joined] at h
  have ofLines_statement (e : Sexpr) (s : String) (hs : statementOf ctx e = .ok s) : OfLines s := by
    obtain ⟨x, -, rfl⟩ := map_eq_ok_iff.mp hs
    exact ofLines_asStatement _ x
  exact joined_induction (.inl rfl) ofLines_statement (fun _ _ => OfLines.append) h

theorem emit_block_ok_iff :
    emit (.form (.symbol "do" :: ys) location) ctx = .ok s ↔ emitScript ys ctx = .ok s := by
  have block : Special.ofSymbol? "do" = some .block := rfl
  rw [emit_ok_iff, template_of_special block]
  rfl

/-- A block that no comment follows is the statements that it holds. -/
theorem statementOf_block (h : ctx.comments = false ∨ location = none) (s : String) :
    statementOf ctx (.form (.symbol "do" :: ys) location) = .ok s ↔ emitScript ys ctx = .ok s := by
  have silent : commentFor (.form (.symbol "do" :: ys) location) ctx = "" := by
    rcases h with h | rfl
    · simp [commentFor, h]
    · simp [commentFor, location?]
  rw [statementOf, silent, map_eq_ok_iff_of_fixed, emit_block_ok_iff]
  intro x hx
  exact (ofLines_of_emitScript (emit_block_ok_iff.mp hx)).asStatement_eq

end statements

/-! ## Chains -/

/-- Two chains as one. The empty chain adds nothing. -/
def link (op x y : String) : String :=
  if x = "" then y else if y = "" then x else x ++ " " ++ op ++ " " ++ y

/-- A text as a chain of its own: a blank one is left out. -/
def solid (s : String) : String := if allBlank s then "" else s

/-- An expression as a part of a chain. -/
def partOf (ctx : Context) (e : Sexpr) : Outcome := (emit e ctx).map solid

section chains

variable {op head : String} {es ys : List Sexpr} {ctx : Context} {location : Option Location}
  {s x y : String}

theorem link_of_ne_empty (hx : x ≠ "") (hy : y ≠ "") :
    link op x y = x ++ " " ++ op ++ " " ++ y := by
  rw [link, if_neg hx, if_neg hy]

theorem link_ne_empty (hx : x ≠ "") (hy : y ≠ "") : link op x y ≠ "" := by
  simp [link_of_ne_empty hx hy, hx]

instance lawfulIdentity_link (op : String) : Std.LawfulIdentity (link op) "" where
  left_id _ := rfl
  right_id x := by simp [link]

instance associative_link (op : String) : Std.Associative (link op) where
  assoc x y z := by
    have right_id (x : String) : link op x "" = x := Std.LawfulRightIdentity.right_id x
    have left_id (x : String) : link op "" x = x := Std.LawfulLeftIdentity.left_id x
    rcases eq_or_ne x "" with rfl | hx
    · rw [left_id, left_id]
    rcases eq_or_ne y "" with rfl | hy
    · rw [right_id, left_id]
    rcases eq_or_ne z "" with rfl | hz
    · rw [right_id, right_id]
    rw [link_of_ne_empty (link_ne_empty hx hy) hz, link_of_ne_empty hx (link_ne_empty hy hz),
      link_of_ne_empty hx hy, link_of_ne_empty hy hz]
    simp only [String.append_assoc]

theorem chainOnto_eq_link (op s rest : String) : chainOnto op s rest = link op (solid s) rest := by
  unfold chainOnto solid
  split
  · rfl
  · next h =>
    have nonempty : s ≠ "" := by
      rintro rfl
      exact h rfl
    rw [link, if_neg nonempty]

theorem solid_solid (s : String) : solid (solid s) = solid s := by
  unfold solid
  split <;> simp [*]

theorem allBlank_of_solid (h : solid s = s) (nonempty : s ≠ "") : allBlank s = false := by
  cases hblank : allBlank s with
  | true =>
    rw [solid, if_pos hblank] at h
    exact absurd h.symm nonempty
  | false => rfl

/-- Two chains without blanks for parts are one. -/
theorem solid_link (hx : solid x = x) (hy : solid y = y) : solid (link op x y) = link op x y := by
  rcases eq_or_ne x "" with rfl | hempty
  · exact hy
  rcases eq_or_ne y "" with rfl | hempty'
  · rwa [link, if_neg hempty, if_pos rfl]
  have notBlank : allBlank (x ++ " " ++ op ++ " " ++ y) = false := by
    have allBlank_append (x y : String) : allBlank (x ++ y) = (allBlank x && allBlank y) := by
      simp [allBlank]
    simp only [allBlank_append, allBlank_of_solid hx hempty, Bool.false_and]
  rw [link_of_ne_empty hempty hempty', solid, notBlank, if_neg Bool.false_ne_true]

theorem render_chain_eq_joined (op : String) (es : List Sexpr) (ctx : Context) :
    (chainOf op (each es ctx)).render emit = joined (link op) (partOf ctx) es := by
  unfold each
  induction es with
  | nil => rfl
  | cons e es ih =>
    rw [List.map_cons, chainOf, render, ih, joined, partOf, render_sub]
    simp only [chainOnto_eq_link]
    cases emit e ctx <;> rfl

theorem emit_chain_ok_iff (h : Special.ofSymbol? head = some (.chain op)) :
    emit (.form (.symbol head :: es) location) ctx = .ok s ↔
      joined (link op) (partOf ctx) es = .ok s := by
  rw [emit_ok_iff, template_of_special h, ← render_chain_eq_joined]
  rfl

/-- A chain is what its parts are put together to also as a part. -/
theorem partOf_chain (h : Special.ofSymbol? head = some (.chain op)) (s : String) :
    partOf ctx (.form (.symbol head :: ys) location) = .ok s ↔
      joined (link op) (partOf ctx) ys = .ok s := by
  rw [partOf, map_eq_ok_iff_of_fixed, emit_chain_ok_iff h]
  intro x hx
  have solid_part (e : Sexpr) (s : String) (hs : partOf ctx e = .ok s) : solid s = s := by
    obtain ⟨y, -, rfl⟩ := map_eq_ok_iff.mp hs
    exact solid_solid y
  exact joined_induction (P := fun s => solid s = s) rfl solid_part (fun _ _ => solid_link)
    ((emit_chain_ok_iff h).mp hx)

end chains

/-! ## Nested joiners -/

/-- A block among statements, and a chain within a chain of the same kind, can be replaced by what
they hold: there is a text for the one exactly if there is for the other, and it is the same. For a
block this takes that no comment follows it. Statements are whole lines, and those of two lists are
the ones of the first followed by the ones of the second. -/
theorem joiners_splice (ctx : Context) (xs ys zs : List Sexpr) :
    (∀ location, ctx.comments = false ∨ location = none → ∀ s,
      emitScript (xs ++ .form (.symbol "do" :: ys) location :: zs) ctx = .ok s ↔
        emitScript (xs ++ ys ++ zs) ctx = .ok s) ∧
    (∀ head ∈ ["pipe", "chain-or", "chain-and"], ∀ outer inner spliced s,
      emit (.form (.symbol head :: (xs ++ .form (.symbol head :: ys) inner :: zs)) outer) ctx =
          .ok s ↔
        emit (.form (.symbol head :: (xs ++ ys ++ zs)) spliced) ctx = .ok s) ∧
    (∀ s, emitScript xs ctx = .ok s → s = "" ∨ s.toList.getLast? = some '\n') ∧
    emitScript (xs ++ ys) ctx = both (· ++ ·) (emitScript xs ctx) (emitScript ys ctx) := by
  refine ⟨fun location h s => ?_, fun head hhead outer inner spliced s => ?_, fun s => ?_, ?_⟩
  · have nested (s : String) : statementOf ctx (.form (.symbol "do" :: ys) location) = .ok s ↔
        emitScript ys ctx = .ok s := statementOf_block h s
    simp only [emitScript_eq_joined] at nested ⊢
    exact joined_splice nested
  · have chain : ∃ op, Special.ofSymbol? head = some (.chain op) := by
      simp only [List.mem_cons, List.not_mem_nil, or_false] at hhead
      rcases hhead with rfl | rfl | rfl
      all_goals exact ⟨_, rfl⟩
    obtain ⟨op, hop⟩ := chain
    rw [emit_chain_ok_iff hop, emit_chain_ok_iff hop]
    exact joined_splice (partOf_chain hop)
  · exact ofLines_of_emitScript
  · simp only [emitScript_eq_joined]
    exact joined_append xs ys

/-- A block without a location whose first statement is empty, and a pipe whose inner pipe is
blank. -/
theorem joiners_splice_nested :
    ((({} : Context).comments = false ∨ (none : Option Location) = none) ∧
      emitScript [.symbol "a", .form [.symbol "do", .form [.symbol "do"] none, .symbol "b"] none]
        {} = .ok "a\nb\n") ∧
    ("pipe" ∈ ["pipe", "chain-or", "chain-and"] ∧
      emit (.form [.symbol "pipe", .symbol "a", .form [.symbol "pipe", .text " "] none, .symbol "b"]
        none) {} = .ok "a | b") := by
  obtain ⟨block, -, -, -⟩ :=
    joiners_splice {} [.symbol "a"] [.form [.symbol "do"] none, .symbol "b"] []
  obtain ⟨-, pipe, -, -⟩ := joiners_splice {} [.symbol "a"] [.text " "] [.symbol "b"]
  refine ⟨⟨.inr rfl, (block none (.inr rfl) _).mpr ?_⟩, by decide,
    (pipe "pipe" (by decide) none none none _).mpr ?_⟩
  · rfl
  · rfl

end SexprShell.Script
