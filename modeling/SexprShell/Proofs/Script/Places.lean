import SexprShell.Proofs.Script.ExpansionOptions
import SexprShell.Proofs.Script.Heads

/-!
# Places of arguments

A special form has some places of its own for arguments. A missing argument is nil, and further
arguments are the tail of the form, or are left out where it has none. So a form has the outcome
that it has with its arguments fitted to its places (`emit_fitted`).
-/

namespace SexprShell

namespace Sexpr

/-- Arguments for a number of places: surplus ones are cut off, and nil stands for missing ones. -/
def fitted (k : Nat) (args : List Sexpr) : List Sexpr := (args ++ List.replicate k nil).take k

variable {k i : Nat} {args : List Sexpr}

theorem length_fitted (k : Nat) (args : List Sexpr) : (fitted k args).length = k := by
  simp [fitted]

theorem argAt_append_nils (n : Nat) (args : List Sexpr) (i : Nat) :
    argAt (args ++ List.replicate n nil) i = argAt args i := by
  simp only [argAt, List.getD_eq_getElem?_getD, List.getElem?_append, List.getElem?_replicate]
  split
  · rfl
  · next h =>
    rw [List.getElem?_eq_none (Nat.le_of_not_lt h)]
    split <;> rfl

theorem argAt_fitted (h : i < k) : argAt (fitted k args) i = argAt args i := by
  rw [← argAt_append_nils k args i]
  simp only [argAt, fitted, List.getD_eq_getElem?_getD, List.getElem?_take_of_lt h]

/-- Too few arguments are filled up with nil. -/
theorem fitted_of_length_le (h : args.length ≤ k) :
    fitted k args = args ++ List.replicate (k - args.length) nil := by
  rw [fitted, List.take_append, List.take_of_length_le h, List.take_replicate,
    Nat.min_eq_left (Nat.sub_le _ _)]

/-- The first arguments of a form are its arguments, fitted. -/
theorem paddedArgs_eq_fitted (e : Sexpr) (k : Nat) : e.paddedArgs k = fitted k e.args := by
  have padded : e.paddedArgs k = (List.range k).map (argAt e.args) := rfl
  rw [padded]
  refine List.ext_getElem (by simp [length_fitted]) fun i hi hfitted => ?_
  rw [List.length_map, List.length_range] at hi
  rw [List.getElem_map, List.getElem_range, ← argAt_fitted hi, argAt, List.getD_eq_getElem?_getD,
    List.getElem?_eq_getElem hfitted, Option.getD_some]

end Sexpr

namespace Script

open Sexpr Template

/-! ## Special forms -/

namespace Special

/-- How many places a special form has for single arguments. -/
def places : Special → Nat
  | fileTest _ | negation | returning => 1
  | guarded _ | loop | choice | iteration | expansion | construction | dotted _ => 1
  | assignment _ | newVariable | setVariable | merge | lookup | item | method => 2
  | conditional _ | associate | setItem => 3
  | group | block | chain _ | concatenation | quotation | echo _ | definition => 0

/-- Whether a special form takes further arguments behind these places. -/
def hasTail : Special → Bool
  | fileTest _ | negation | returning | assignment _ | newVariable | setVariable | merge | lookup
  | item | conditional _ | associate | setItem => false
  | _ => true

variable {args args' : List Sexpr} {ctx : Context}

/-- A special form depends on the arguments at its places, and on those behind if it takes any. -/
theorem template_congr (special : Special)
    (hplaces : ∀ i < special.places, argAt args i = argAt args' i)
    (htail : special.hasTail = true → args.drop special.places = args'.drop special.places) :
    special.template args ctx = special.template args' ctx := by
  cases special with
  | fileTest | negation | returning =>
    have first := hplaces 0 (by simp [places])
    simp only [template, Script.fileTest, Script.negation, Script.returning, first]
  | guarded | loop | choice | construction | dotted | iteration | expansion =>
    have first := hplaces 0 (by simp [places])
    have tail := htail rfl
    simp only [places] at tail
    simp only [template, Script.guarded, condition, Script.loop, Script.choice,
      Script.construction, Script.iteration, Script.expansion, first, tail]
  | assignment | newVariable | setVariable | merge | lookup | item =>
    have first := hplaces 0 (by simp [places])
    have second := hplaces 1 (by simp [places])
    simp only [template, Script.assignment, Script.newVariable, Script.setVariable, Script.merge,
      Script.lookup, Script.item, first, second]
  | method =>
    have first := hplaces 0 (by simp [places])
    have second := hplaces 1 (by simp [places])
    have tail := htail rfl
    simp only [places] at tail
    simp only [template, first, second, tail]
  | conditional | associate | setItem =>
    have first := hplaces 0 (by simp [places])
    have second := hplaces 1 (by simp [places])
    have third := hplaces 2 (by simp [places])
    simp only [template, Script.conditional, condition, alternative, Script.associate,
      Script.setItem, first, second, third]
  | group | block | chain | concatenation | quotation | echo | definition =>
    have all : args = args' := htail rfl
    rw [all]

/-- Arguments may be fitted to the places of a form without tail, and missing ones may be filled up
at any form. -/
theorem template_fitted (special : Special)
    (h : special.hasTail = true → args.length ≤ special.places) :
    special.template (fitted special.places args) ctx = special.template args ctx := by
  refine special.template_congr (fun i hi => argAt_fitted hi) fun htail => ?_
  rw [List.drop_of_length_le (h htail), List.drop_of_length_le]
  exact Nat.le_of_eq (length_fitted _ _)

end Special

/-! ## Outcomes -/

/-- The words at the heads of forms without tail, with the number of their places. -/
def fixedPlaces : List (String × Nat) :=
  [("not", 1), ("return", 1), ("file-exists?", 1), ("directory?", 1), ("symlink?", 1),
    ("readable?", 1), ("writeable?", 1), ("empty?", 1), ("var", 2), ("defvar", 2), ("set!", 2),
    ("local", 2), ("let", 2), ("alias", 2), ("merge!", 2), ("get", 2), ("aget", 2), ("if", 3),
    ("if-not", 3), ("assoc!", 3), ("aset", 3)]

/-- The words at the heads of forms with places in front of a tail. -/
def leadingPlaces : List (String × Nat) :=
  [("when", 1), ("when-not", 1), ("while", 1), ("case", 1), ("doseq", 1), ("deref", 1),
    ("new", 1), ("dot-method", 2)]

theorem special_of_mem_fixedPlaces {p : String × Nat} (h : p ∈ fixedPlaces) :
    ∃ special, Special.ofSymbol? p.1 = some special ∧ special.places = p.2 ∧
      special.hasTail = false := by
  have words : ∀ p ∈ fixedPlaces, (Special.ofSymbol? p.1).map (fun x => (x.places, x.hasTail)) =
      some (p.2, false) := by decide
  obtain ⟨special, hspecial, heq⟩ := Option.map_eq_some_iff.mp (words p h)
  obtain ⟨hplaces, htail⟩ := Prod.mk.inj heq
  exact ⟨special, hspecial, hplaces, htail⟩

theorem special_of_mem_leadingPlaces {p : String × Nat} (h : p ∈ leadingPlaces) :
    ∃ special, Special.ofSymbol? p.1 = some special ∧ special.places = p.2 := by
  have words : ∀ p ∈ leadingPlaces, (Special.ofSymbol? p.1).map Special.places = some p.2 := by
    decide
  exact Option.map_eq_some_iff.mp (words p h)

/-- The outcomes are the same text or failures that differ in the attached form at most, and the
same expressions are rendered in the same contexts and order. -/
structure Interchangeable (n n' : Sexpr) (ctx : Context) : Prop where
  outcome : (emit n ctx).mapError Failure.detached = (emit n' ctx).mapError Failure.detached
  children : children n ctx = children n' ctx

theorem interchangeable_of_template {head : Sexpr} {args args' : List Sexpr}
    {location : Option Location} {ctx : Context} (h : template (.form (head :: args) location) ctx =
      template (.form (head :: args') location) ctx) :
    Interchangeable (.form (head :: args) location) (.form (head :: args') location) ctx where
  outcome := by
    have sameHead : (Sexpr.form (head :: args) location).headName? =
        (Sexpr.form (head :: args') location).headName? := by
      cases head with
      | name kind => cases kind <;> rfl
      | _ => rfl
    rw [emit_eq, emit_eq (.form (head :: args') location), h]
    cases (template (.form (head :: args') location) ctx).render emit with
    | ok s => rfl
    | error f =>
      apply congrArg Except.error
      apply Failure.detached_within
      · rfl
      · rfl
      · exact sameHead
  children := by
    rw [← subs_template, h, subs_template]

theorem interchangeable_fitted {s : String} {special : Special}
    (hs : Special.ofSymbol? s = some special) {args : List Sexpr}
    (h : special.hasTail = true → args.length ≤ special.places) (location : Option Location)
    (ctx : Context) : Interchangeable (.form (.symbol s :: args) location)
      (.form (.symbol s :: fitted special.places args) location) ctx := by
  apply interchangeable_of_template
  rw [template_of_special hs, template_of_special hs]
  exact (special.template_fitted h).symm

/-- Missing arguments are nil and surplus ones are ignored. A form with a fixed number of places has
the outcome that it has with its arguments cut, or filled up with nil, to that number, and renders
nothing else. With some places in front of a tail, or at a call of a method, a form with fewer
arguments has the outcome that it has with nil for the missing ones. -/
theorem emit_fitted :
    (∀ head k args location ctx, (head, k) ∈ fixedPlaces →
      Interchangeable (.form (.symbol head :: args) location)
        (.form (.symbol head :: fitted k args) location) ctx) ∧
    (∀ head k args location ctx, (head, k) ∈ leadingPlaces → args.length < k →
      Interchangeable (.form (.symbol head :: args) location)
        (.form (.symbol head :: (args ++ List.replicate (k - args.length) .nil)) location) ctx) ∧
    ∀ method location ctx, Text.isIdentifier method = true →
      Interchangeable (.form [.symbol ("." ++ method)] location)
        (.form [.symbol ("." ++ method), .nil] location) ctx := by
  refine ⟨fun head k args location ctx h => ?_, fun head k args location ctx h hlt => ?_,
    fun method location ctx h => ?_⟩
  · obtain ⟨special, hs, rfl, htail⟩ := special_of_mem_fixedPlaces h
    refine interchangeable_fitted hs (fun hopen => ?_) location ctx
    cases htail.symm.trans hopen
  · obtain ⟨special, hs, rfl⟩ := special_of_mem_leadingPlaces h
    rw [← fitted_of_length_le (Nat.le_of_lt hlt)]
    exact interchangeable_fitted hs (fun _ => Nat.le_of_lt hlt) location ctx
  · exact interchangeable_fitted (Special.ofSymbol?_method h) (fun _ => Nat.zero_le _) location ctx

/-- A fourth argument of a condition does no harm, and a call may lack its method or its object. -/
theorem emit_fitted_surplus :
    ("if", 3) ∈ fixedPlaces ∧ ("dot-method", 2) ∈ leadingPlaces ∧
    [Sexpr.symbol "obj"].length < 2 ∧ Text.isIdentifier "push" = true ∧
    Interchangeable
      (.form [.symbol "if", .symbol "a", .symbol "b", .symbol "c", .foreign "object"] none)
      (.form [.symbol "if", .symbol "a", .symbol "b", .symbol "c"] none) {} ∧
    Interchangeable (.form [.symbol "dot-method", .symbol "obj"] none)
      (.form [.symbol "dot-method", .symbol "obj", .nil] none) {} ∧
    Interchangeable (.form [.symbol ".push"] none) (.form [.symbol ".push", .nil] none) {} := by
  obtain ⟨cut, filled, called⟩ := emit_fitted
  have three : ("if", 3) ∈ fixedPlaces := by simp [fixedPlaces]
  have two : ("dot-method", 2) ∈ leadingPlaces := by simp [leadingPlaces]
  have short : [Sexpr.symbol "obj"].length < 2 := Nat.lt_succ_self 1
  have push : Text.isIdentifier "push" = true := by decide
  refine ⟨three, two, short, push, ?_, ?_, ?_⟩
  · exact cut "if" 3 [.symbol "a", .symbol "b", .symbol "c", .foreign "object"] none {} three
  · exact filled "dot-method" 2 [.symbol "obj"] none {} two short
  · exact called "push" none {} push

end Script

end SexprShell
