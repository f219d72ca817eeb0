import SexprShell.Proofs.Script.Everywhere
import SexprShell.Proofs.Script.Texts

/-!
# Choices

A choice is written with its arms in order. Each arm is ended once, but a choice without arms has
the end of one all the same (`emit_choice_outcome`).
-/

namespace SexprShell.Script

open Template Sexpr

/-- The text of a choice in which every arm is ended. -/
def choiceText (test : String) (arms : List (String × String)) : String :=
  "case " ++ test ++ " in\n" ++ String.join (arms.map fun a => a.1 ++ ")\n" ++ a.2 ++ ";;\n") ++
    "esac"

/-- The text of a choice with the end of an arm between arms, and behind them. -/
def separatedChoiceText (test : String) (arms : List (String × String)) : String :=
  "case " ++ test ++ " in\n" ++ ";;\n".intercalate (arms.map fun a => a.1 ++ ")\n" ++ a.2) ++
    ";;\nesac"

/-- How often the end of an arm occurs. -/
def armEnds : List Char → Nat
  | ';' :: ';' :: cs => armEnds cs + 1
  | _ :: cs => armEnds cs
  | [] => 0

/-- The texts of a pattern and of the body behind it. -/
def ArmTexts (emit : Sexpr → Context → Outcome) (ctx : Context) (arm : Sexpr × Sexpr)
    (texts : String × String) : Prop :=
  emit arm.1 ctx = .ok texts.1 ∧ emit arm.2 ctx = .ok texts.2

section

variable {emit : Sexpr → Context → Outcome} {ctx : Context} {test : Sexpr}
  {pairs : List (Sexpr × Sexpr)} {s : String}

/-! ## Arms -/

theorem intercalate_append_separator {separator : String} : ∀ {xs : List String}, xs ≠ [] →
    separator.intercalate xs ++ separator = String.join (xs.map (· ++ separator))
  | [], h => absurd rfl h
  | [x], _ => by simp [String.join_cons]
  | x :: y :: xs, _ => by
    have several : y :: xs ≠ [] := nofun
    rw [String.intercalate_cons_of_ne_nil several, String.append_assoc,
      intercalate_append_separator several]
    simp only [List.map_cons, String.join_cons]

theorem choice_of_pairs (test : Sexpr) (pairs : List (Sexpr × Sexpr)) (ctx : Context) :
    choice (test :: keysAndValues pairs) ctx =
      late (concat [text "case ", sub test ctx, text " in\n"])
        (append (separated ";;\n" (pairs.map (arm ctx))) (text ";;\nesac")) := by
  simp only [choice, List.drop_one, List.tail_cons, if_neg (not_odd_keysAndValues _),
    pairUp_keysAndValues]
  rfl

theorem render_arm_eq_ok_iff {clause : Sexpr × Sexpr} :
    (arm ctx clause).render emit = .ok s ↔
      ∃ texts, ArmTexts emit ctx clause texts ∧ s = texts.1 ++ ")\n" ++ texts.2 := by
  simp only [arm, concat, render_append_eq_ok_iff, render_text_eq_ok_iff, render_sub,
    exists_eq_left, exists_and_left, String.append_assoc]
  constructor
  · rintro ⟨x, hx, _, ⟨y, hy, rfl⟩, rfl⟩
    exact ⟨(x, y), ⟨hx, hy⟩, rfl⟩
  · rintro ⟨⟨x, y⟩, ⟨hx, hy⟩, rfl⟩
    exact ⟨x, hx, _, ⟨y, hy, rfl⟩, rfl⟩

/-- Arms with the end of one between them. -/
theorem render_arms_eq_ok_iff : (separated ";;\n" (pairs.map (arm ctx))).render emit = .ok s ↔
    ∃ arms, List.Forall₂ (ArmTexts emit ctx) pairs arms ∧
      s = ";;\n".intercalate (arms.map fun a => a.1 ++ ")\n" ++ a.2) := by
  simp only [render_separated_eq_ok_iff, List.forall₂_map_left_iff, render_arm_eq_ok_iff,
    forall₂_through_iff, forall₂_eq_map_iff]
  constructor
  · rintro ⟨_, ⟨arms, harms, rfl⟩, rfl⟩
    exact ⟨arms, harms, rfl⟩
  · rintro ⟨arms, harms, rfl⟩
    exact ⟨_, ⟨arms, harms, rfl⟩, rfl⟩

theorem render_choice_eq_ok_iff : (choice (test :: keysAndValues pairs) ctx).render emit = .ok s ↔
    ∃ x arms, emit test ctx = .ok x ∧ List.Forall₂ (ArmTexts emit ctx) pairs arms ∧
      s = separatedChoiceText x arms := by
  simp only [choice_of_pairs, render_late_eq_ok_iff, render_append_eq_ok_iff,
    render_enclosed_eq_ok_iff, render_text_eq_ok_iff, render_arms_eq_ok_iff, render_sub,
    separatedChoiceText]
  constructor
  · rintro ⟨_, _, ⟨_, _, ⟨arms, harms, rfl⟩, rfl, rfl⟩, ⟨x, hx, rfl⟩, rfl⟩
    exact ⟨x, arms, hx, harms, by simp only [String.append_assoc]⟩
  · rintro ⟨x, arms, hx, harms, rfl⟩
    exact ⟨_, _, ⟨_, _, ⟨arms, harms, rfl⟩, rfl, rfl⟩, ⟨x, hx, rfl⟩,
      by simp only [String.append_assoc]⟩

/-- Where there are arms, the ends between them and the one behind them end each of them once. -/
theorem separatedChoiceText_eq {x : String} {arms : List (String × String)} (h : arms ≠ []) :
    separatedChoiceText x arms = choiceText x arms := by
  have several : arms.map (fun a => a.1 ++ ")\n" ++ a.2) ≠ [] := by simpa using h
  have ended := @intercalate_append_separator ";;\n" _ several
  rw [List.map_map] at ended
  have last : ";;\nesac" = ";;\n" ++ "esac" := rfl
  calc separatedChoiceText x arms
    _ = "case " ++ x ++ " in\n" ++
        (";;\n".intercalate (arms.map fun a => a.1 ++ ")\n" ++ a.2) ++ ";;\n") ++ "esac" := by
      simp only [separatedChoiceText, last, String.append_assoc]
    _ = choiceText x arms := by
      rw [ended]
      rfl

theorem separatedChoiceText_of_arms {x : String} {arms : List (String × String)}
    (h : List.Forall₂ (ArmTexts emit ctx) pairs arms) : separatedChoiceText x arms =
      if pairs = [] then "case " ++ x ++ " in\n;;\nesac" else choiceText x arms := by
  cases h with
  | nil =>
    have tail : " in\n;;\nesac" = " in\n" ++ ";;\nesac" := rfl
    simp [separatedChoiceText, tail, String.append_assoc]
  | cons _ _ => rw [if_neg (List.cons_ne_nil _ _), separatedChoiceText_eq (List.cons_ne_nil _ _)]

/-- A choice in which every arm is ended has as many ends of its own as arms. -/
theorem armEnds_choiceText (n : Nat) :
    armEnds (choiceText "" (List.replicate n ("", ""))).toList = n := by
  have front (cs : List Char) : armEnds ("case  in\n".toList ++ cs) = armEnds cs := rfl
  have arm (cs : List Char) : armEnds (")\n;;\n".toList ++ cs) = armEnds cs + 1 := rfl
  have arms : armEnds
      ((String.join (List.replicate n ")\n;;\n")).toList ++ "esac".toList) = n := by
    induction n with
    | zero => rfl
    | succ n ih =>
      rw [List.replicate_succ, String.join_cons, String.toList_append, List.append_assoc, arm, ih]
  have texts : choiceText "" (List.replicate n ("", "")) =
      "case  in\n" ++ String.join (List.replicate n ")\n;;\n") ++ "esac" := by
    rw [choiceText, List.map_replicate]
    rfl
  rw [texts, String.toList_append, String.toList_append, List.append_assoc, front, arms]

theorem armTexts_blank : List.Forall₂ (ArmTexts (fun _ _ => .ok "") ctx) pairs
    (List.replicate pairs.length ("", "")) := by
  induction pairs with
  | nil => exact .nil
  | cons p pairs ih => exact .cons ⟨rfl, rfl⟩ ih

/-- The ends that a choice writes itself: one for each arm, but one also without arms. -/
theorem ends_of_choice : ∃ own,
    (choice (test :: keysAndValues pairs) ctx).render (fun _ _ => .ok "") = .ok own ∧
      armEnds own.toList = max pairs.length 1 := by
  have blank := @armTexts_blank ctx pairs
  refine ⟨_, render_choice_eq_ok_iff.mpr ⟨_, _, rfl, blank, rfl⟩, ?_⟩
  rw [separatedChoiceText_of_arms blank]
  cases pairs with
  | nil => rfl
  | cons p pairs =>
    rw [if_neg (List.cons_ne_nil _ _), armEnds_choiceText, Nat.max_eq_left (by simp)]

end

/-! ## Choices -/

/-- A choice with an odd number of clauses is refused before anything is rendered. Otherwise it has
a text if its patterns, its bodies and what they are compared with have. The arms follow each other
in order, and each is ended once; but without arms, the end of one is written as well. If a part
has no text, the choice fails as the first of these: the arms are rendered before what they are
compared with, and in each the pattern before the body. -/
theorem emit_choice_outcome (test : Sexpr) (location : Option Location) (ctx : Context) :
    let n (clauses : List Sexpr) := Sexpr.form (.symbol "case" :: test :: clauses) location
    (∀ clauses, clauses.length % 2 = 1 → (template (n clauses) ctx).asked emit = [] ∧
      emit (n clauses) ctx =
        .error (Failure.within (n clauses) (.ofCause .oddCaseClauses (some "case")))) ∧
    ∀ pairs,
      (∀ s, emit (n (keysAndValues pairs)) ctx = .ok s ↔
        ∃ x arms, emit test ctx = .ok x ∧ List.Forall₂ (ArmTexts emit ctx) pairs arms ∧
          s = if pairs = [] then "case " ++ x ++ " in\n;;\nesac" else choiceText x arms) ∧
      (∃ own, (template (n (keysAndValues pairs)) ctx).render (fun _ _ => .ok "") = .ok own ∧
        armEnds own.toList = max pairs.length 1) ∧
      ∀ f, emit (n (keysAndValues pairs)) ctx = .error f ↔
        ∃ earlier x later g, keysAndValues pairs ++ [test] = earlier ++ x :: later ∧
          (∀ u ∈ earlier, ∃ s, emit u ctx = .ok s) ∧ emit x ctx = .error g ∧
          f = g.within (n (keysAndValues pairs)) := by
  intro n
  have special : Special.ofSymbol? "case" = some .choice := by decide
  have choice_eq (clauses : List Sexpr) :
      template (n clauses) ctx = choice (test :: clauses) ctx := template_of_special special
  refine ⟨fun clauses hodd => ?_, fun pairs => ?_⟩
  · have refused : choice (test :: clauses) ctx = refuse .oddCaseClauses (some "case") :=
      if_pos hodd
    rw [emit_eq, choice_eq, refused]
    exact ⟨rfl, rfl⟩
  refine ⟨fun s => ?_, ?_, fun f => ?_⟩
  · rw [emit_ok_iff, choice_eq, render_choice_eq_ok_iff]
    refine exists_congr fun x => exists_congr fun arms => and_congr_right fun _ =>
      and_congr_right fun harms => ?_
    rw [separatedChoiceText_of_arms harms]
  · rw [choice_eq]
    exact ends_of_choice
  · refine emit_error_iff_of_children (fun g hg => ?_) ?_
    · rw [← template_faulty_iff, choice_eq, choice_faulty_iff] at hg
      exact not_odd_keysAndValues _ hg.1
    · rw [← subs_template, choice_eq, subs_choice]
      exact if_neg (not_odd_keysAndValues _)

/-- A pattern without a body, and two arms. -/
theorem emit_choice_outcome_two : [Sexpr.text "a"].length % 2 = 1 ∧
    (template (.form [.symbol "case", .symbol "x", .text "a"] none) {}).asked emit = [] ∧
    emit (.form (.symbol "case" :: .symbol "x" :: keysAndValues
      [(.text "a", .symbol "b"), (.text "*", .symbol "c")]) none) {} =
      .ok "case x in\na)\nb;;\n*)\nc;;\nesac" := by
  obtain ⟨odd, even⟩ := emit_choice_outcome (.symbol "x") none {}
  have single : [Sexpr.text "a"].length % 2 = 1 := rfl
  obtain ⟨text, -, -⟩ := even [(.text "a", .symbol "b"), (.text "*", .symbol "c")]
  refine ⟨single, (odd _ single).1, (text _).mpr ⟨"x", [("a", "b"), ("*", "c")], rfl, ?_, rfl⟩⟩
  exact .cons ⟨rfl, rfl⟩ (.cons ⟨rfl, rfl⟩ .nil)

/-- Without arms there is nothing to be ended, but the end of an arm is written. -/
theorem emit_choice_without_arms :
    emit (.form [.symbol "case", .symbol "x"] none) {} = .ok "case x in\n;;\nesac" ∧
      choiceText "x" [] = "case x in\nesac" ∧
      "case x in\n;;\nesac" ≠ "case x in\nesac" :=
  ⟨rfl, rfl, by decide⟩

end SexprShell.Script
