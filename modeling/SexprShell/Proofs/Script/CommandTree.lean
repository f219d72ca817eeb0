import SexprShell.Proofs.Script.Everywhere
import SexprShell.Proofs.Script.Heads
import SexprShell.Proofs.Script.Texts

/-!
# Trees of commands

A form that neither a special form nor an operator is the head of is a command: its items are
rendered with spaces between them, the head among them. So a tree of commands is the words at its
leaves, from left to right, whatever the brackets between them (`emit_leaves`).
-/

namespace SexprShell

/-- Words between spaces do not show how they were grouped, unless a group is empty. -/
theorem intercalate_flatten (separator : String) {groups : List (List String)}
    (h : ∀ words ∈ groups, words ≠ []) : separator.intercalate groups.flatten =
      separator.intercalate (groups.map separator.intercalate) := by
  induction groups with
  | nil => rfl
  | cons words groups ih =>
    obtain ⟨hwords, hgroups⟩ := List.forall_mem_cons.mp h
    rw [List.flatten_cons, List.map_cons]
    cases groups with
    | nil => simp
    | cons next groups =>
      have several : (next :: groups).flatten ≠ [] := by
        simp [hgroups next List.mem_cons_self]
      rw [String.intercalate_append_of_ne_nil hwords several, ih hgroups, List.map_cons,
        String.intercalate_cons_cons]

namespace Sexpr

mutual

/-- The leaves of a tree of forms, from left to right. A form without items stands for nil. -/
def leaves : Sexpr → List Sexpr
  | form items _ => if items.isEmpty then [nil] else leavesOf items
  | e => [e]

def leavesOf : List Sexpr → List Sexpr
  | [] => []
  | e :: es => e.leaves ++ leavesOf es

end

theorem leavesOf_eq_flatten (items : List Sexpr) :
    leavesOf items = (items.map leaves).flatten := by
  induction items with
  | nil => rfl
  | cons e es ih => rw [leavesOf, ih, List.map_cons, List.flatten_cons]

theorem leaves_of_not_form {e : Sexpr} (h : e.isForm = false) : e.leaves = [e] := by
  cases e with
  | form => cases h
  | _ => rfl

theorem leaves_ne_nil : ∀ e : Sexpr, e.leaves ≠ []
  | form [] _ => List.cons_ne_nil _ _
  | form (x :: _) _ => List.append_ne_nil_of_left_ne_nil (leaves_ne_nil x) _
  | .nil | .bool _ | .int _ | .ratio _ | .float _ | .text _ | .name .. | .seq .. | .map _
  | .foreign _ => List.cons_ne_nil _ _

theorem ne_nil_of_forall₂_leaves {R : Sexpr → String → Prop} {items : List Sexpr}
    {groups : List (List String)}
    (h : List.Forall₂ (fun e words => List.Forall₂ R e.leaves words) items groups) :
    ∀ words ∈ groups, words ≠ [] := by
  induction h with
  | nil => exact List.forall_mem_nil _
  | @cons e words _ _ hwords _ ih =>
    refine List.forall_mem_cons.mpr ⟨fun hnil => leaves_ne_nil e ?_, ih⟩
    rwa [hnil, List.forall₂_nil_right_iff] at hwords

end Sexpr

namespace Script

open Sexpr Template

/-! ## Commands -/

/-- Neither a special form nor an operator: what is not a word of the script language itself. -/
def IsCommandHead (head : Sexpr) : Prop :=
  Special.ofHead? head = none ∧ Operator.ofHead? head = none

/-- Forms in forms to any depth, all of them commands. -/
inductive CommandTree : Sexpr → Prop where
  | leaf {e : Sexpr} : e.isForm = false → CommandTree e
  | form {items : List Sexpr} {location : Option Location} : IsCommandHead (headOf items) →
      (∀ e ∈ items, CommandTree e) → CommandTree (.form items location)

theorem isCommandHead_of_not_symbol {head : Sexpr} (h : head.isSymbol = false) :
    IsCommandHead head := by
  cases head with
  | name kind s =>
    cases kind with
    | symbol => cases h
    | keyword | bare => exact ⟨rfl, rfl⟩
  | _ => exact ⟨rfl, rfl⟩

theorem isCommandHead_path {path : String} (h : Text.isIdentifier path = false) :
    IsCommandHead (.symbol ("." ++ path)) := by
  refine ⟨Special.ofSymbol?_path h, ?_⟩
  rw [Operator.ofHead?, Operator.isInfix_point]
  rfl

section

variable {emit : Sexpr → Context → Outcome} {ctx : Context} {s : String}

/-- Arguments, each behind a space. -/
theorem join_map_space (s : String) : ∀ us : List String,
    s ++ String.join (us.map (" " ++ ·)) = " ".intercalate (s :: us)
  | [] => by simp
  | u :: us => by
    rw [List.map_cons, String.join_cons, String.append_assoc, join_map_space u us,
      String.intercalate_cons_cons, String.append_assoc]

/-- A command is its items with spaces between them. -/
theorem render_command_ok_iff {head : Sexpr} {args : List Sexpr} :
    (command head args ctx).render emit = .ok s ↔
      ∃ us, List.Forall₂ (fun e u => emit e ctx = .ok u) (head :: args) us ∧
        s = " ".intercalate us := by
  have part (e : Sexpr) (t : String) : (append (text " ") (sub e ctx)).render emit = .ok t ↔
      ∃ u, emit e ctx = .ok u ∧ t = " " ++ u := by
    simp [render_append_eq_ok_iff, render_text_eq_ok_iff, render_sub]
  simp only [command, render_late_eq_ok_iff, render_concat_eq_ok_iff, List.forall₂_map_left_iff,
    part, forall₂_through_iff, forall₂_eq_map_iff, render_sub, List.forall₂_cons_left_iff]
  constructor
  · rintro ⟨_, u, ⟨_, ⟨us, hus, rfl⟩, rfl⟩, hu, rfl⟩
    exact ⟨u :: us, ⟨u, us, hu, hus, rfl⟩, join_map_space u us⟩
  · rintro ⟨_, ⟨u, us, hu, hus, rfl⟩, rfl⟩
    exact ⟨_, u, ⟨_, ⟨us, hus, rfl⟩, rfl⟩, hu, (join_map_space u us).symm⟩

end

section

variable {e : Sexpr} {ctx : Context} {s : String}

theorem emit_of_literal (h : literal e = .ok s) (ctx : Context) : emit e ctx = .ok s := by
  rw [emit_ok_iff]
  cases e with
  | form | map => cases h
  | seq kind => cases kind <;> cases h
  | _ => exact (render_ofOutcome _).trans h

/-- An empty form has the text of nil, others have those of their items. -/
theorem emit_command_ok_iff {items : List Sexpr} {location : Option Location}
    (h : IsCommandHead (headOf items)) : emit (.form items location) ctx = .ok s ↔
      ∃ us, List.Forall₂ (fun e u => emit e ctx = .ok u) (headOf items :: items.tail) us ∧
        s = " ".intercalate us := by
  rw [emit_ok_iff, template_of_commandHead h.1 h.2, render_command_ok_iff]

/-- The text of a tree of commands is that of its leaves, with spaces between them. -/
theorem emit_tree_ok_iff (h : CommandTree e) : emit e ctx = .ok s ↔
    ∃ us, List.Forall₂ (fun x u => emit x ctx = .ok u) e.leaves us ∧ s = " ".intercalate us := by
  induction h generalizing s with
  | leaf h =>
    rw [leaves_of_not_form h]
    simp [List.forall₂_cons_left_iff]
  | @form items location hhead hitems ih =>
    rw [emit_command_ok_iff hhead]
    cases items with
    | nil => rfl
    | cons x args =>
      have grouped : leaves (.form (x :: args) location) = ((x :: args).map leaves).flatten :=
        leavesOf_eq_flatten (x :: args)
      have here : headOf (x :: args) :: (x :: args).tail = x :: args := rfl
      rw [grouped, here]
      constructor
      · rintro ⟨us, hus, rfl⟩
        have spelled := forall₂_imp_of_mem hus fun e he u => (ih e he).mp
        obtain ⟨groups, hgroups, hjoined⟩ := forall₂_through_iff.mp spelled
        rw [forall₂_eq_map_iff.mp hjoined]
        refine ⟨groups.flatten, forall₂_flatten_iff.mpr ⟨groups, ?_, rfl⟩, ?_⟩
        · rwa [List.forall₂_map_left_iff]
        · exact (intercalate_flatten _ (ne_nil_of_forall₂_leaves hgroups)).symm
      · rintro ⟨_, hus, rfl⟩
        obtain ⟨groups, hgroups, rfl⟩ := forall₂_flatten_iff.mp hus
        rw [List.forall₂_map_left_iff] at hgroups
        rw [intercalate_flatten _ (ne_nil_of_forall₂_leaves hgroups)]
        refine ⟨groups.map " ".intercalate, ?_, rfl⟩
        rw [List.forall₂_map_right_iff]
        exact forall₂_imp_of_mem hgroups fun e he words h => (ih e he).mpr ⟨words, h, rfl⟩

theorem exists_texts_of_literals {es : List Sexpr} (h : ∀ e ∈ es, ∃ s, literal e = .ok s)
    (ctx : Context) : ∃ us, List.Forall₂ (fun e u => literal e = .ok u) es us ∧
      List.Forall₂ (fun e u => emit e ctx = .ok u) es us := by
  obtain ⟨us, hus⟩ := exists_forall₂_iff.mpr h
  exact ⟨us, hus, hus.imp fun _ _ hu => emit_of_literal hu ctx⟩

end

/-- A tree of commands whose leaves are literals with texts has a text: that of the leaves from left
to right, with single spaces between them. What is no symbol is the head of a command, whatever it
spells, and so is a symbol with a point in front of something else than an identifier. -/
theorem emit_leaves :
    (∀ e ctx, CommandTree e → (∀ x ∈ e.leaves, ∃ u, literal x = .ok u) →
      ∃ us, List.Forall₂ (fun x u => literal x = .ok u) e.leaves us ∧
        emit e ctx = .ok (" ".intercalate us)) ∧
    (∀ head, head.isSymbol = false → IsCommandHead head) ∧
    ∀ path, Text.isIdentifier path = false → IsCommandHead (.symbol ("." ++ path)) := by
  refine ⟨fun e ctx htree hleaves => ?_, fun _ => isCommandHead_of_not_symbol,
    fun _ => isCommandHead_path⟩
  obtain ⟨us, hliteral, htexts⟩ := exists_texts_of_literals hleaves ctx
  exact ⟨us, hliteral, (emit_tree_ok_iff htree).mpr ⟨us, htexts, rfl⟩⟩

/-- The brackets of `((sudo) ./configure ())` leave no trace. -/
theorem emit_leaves_nested :
    let inner := Sexpr.form [.symbol "sudo"] none
    let e := Sexpr.form [inner, .symbol "./configure", .form [] none] none
    CommandTree e ∧ (∀ x ∈ e.leaves, ∃ u, literal x = .ok u) ∧ inner.isSymbol = false ∧
      IsCommandHead inner ∧ Text.isIdentifier "/configure" = false ∧
      IsCommandHead (.symbol "./configure") ∧
      ∃ us, List.Forall₂ (fun x u => literal x = .ok u) e.leaves us ∧
        emit e {} = .ok (" ".intercalate us) := by
  intro inner e
  obtain ⟨joined, others, paths⟩ := emit_leaves
  have word : IsCommandHead (.symbol "sudo") := ⟨by decide, by decide⟩
  have command : IsCommandHead inner := others inner rfl
  have path : Text.isIdentifier "/configure" = false := by decide +kernel
  have head : CommandTree inner := by
    apply CommandTree.form
    · exact word
    · simp only [List.forall_mem_singleton]
      exact .leaf rfl
  have tree : CommandTree e := by
    apply CommandTree.form
    · exact command
    · simp only [List.forall_mem_cons]
      refine ⟨head, .leaf rfl, .form ?_ (List.forall_mem_nil _), List.forall_mem_nil _⟩
      exact others .nil rfl
  have written : ∀ x ∈ e.leaves, ∃ u, literal x = .ok u := by
    simp [e, inner, leaves, leavesOf, literal]
  exact ⟨tree, written, rfl, command, path, paths "/configure" path, joined e {} tree written⟩

end Script

end SexprShell
