import SexprShell.Proofs.Script.Signature
import SexprShell.Proofs.Sexpr.Unlocated

/-!
# Failures and signatures without locations

`Failure.unlocated` takes the locations out of the expressions in a failure; its words stay the
same. Literals, the declarations of flags and signatures fail without locations as they do with
them, up to the locations in the failure.
-/

namespace SexprShell

namespace Sexpr

theorem displayItems_cons_cons (e x : Sexpr) (es : List Sexpr) :
    displayItems (e :: x :: es) = display e ++ ", " ++ displayItems (x :: es) := rfl

theorem displayEntries_cons_cons (k v : Sexpr) (p : Sexpr × Sexpr) (es : List (Sexpr × Sexpr)) :
    displayEntries ((k, v) :: p :: es) =
      display k ++ ": " ++ display v ++ ", " ++ displayEntries (p :: es) := rfl

mutual

theorem display_unlocated : ∀ e : Sexpr, e.unlocated.display = e.display
  | seq .list items => by rw [unlocated, display, display, displayItems_unlocated items]
  | seq .tuple items => by
    rw [unlocated, display, display, displayItems_unlocated items, unlocatedItems_eq_map,
      List.length_map]
  | map entries => by rw [unlocated, display, display, displayEntries_unlocated entries]
  | form items _ => by rw [unlocated, display, display, displayItems_unlocated items]
  | nil | bool _ | int _ | ratio _ | float _ | text _ | name _ _ | foreign _ => rfl

theorem displayItems_unlocated : ∀ es : List Sexpr,
    displayItems (unlocatedItems es) = displayItems es
  | [] => rfl
  | [e] => display_unlocated e
  | e :: x :: es => by
    have rest := displayItems_unlocated (x :: es)
    rw [unlocatedItems] at rest
    rw [unlocatedItems, unlocatedItems, displayItems_cons_cons, display_unlocated e, rest,
      displayItems_cons_cons]

theorem displayEntries_unlocated : ∀ es : List (Sexpr × Sexpr),
    displayEntries (unlocatedEntries es) = displayEntries es
  | [] => rfl
  | [(k, v)] => by
    rw [unlocatedEntries, unlocatedEntries, displayEntries, displayEntries, display_unlocated k,
      display_unlocated v]
  | (k, v) :: (k', v') :: es => by
    have rest := displayEntries_unlocated ((k', v') :: es)
    rw [unlocatedEntries] at rest
    rw [unlocatedEntries, unlocatedEntries, displayEntries_cons_cons, display_unlocated k,
      display_unlocated v, rest, displayEntries_cons_cons]

end

@[simp] theorem isForm_unlocated (e : Sexpr) : e.unlocated.isForm = e.isForm := by
  cases e <;> rfl

@[simp] theorem isSymbol_unlocated (e : Sexpr) : e.unlocated.isSymbol = e.isSymbol := by
  cases e <;> rfl

@[simp] theorem location?_unlocated (e : Sexpr) : e.unlocated.location? = none := by
  cases e <;> rfl

@[simp] theorem spelling?_unlocated (e : Sexpr) : e.unlocated.spelling? = e.spelling? := by
  cases e <;> rfl

@[simp] theorem headName?_unlocated (e : Sexpr) : e.unlocated.headName? = e.headName? := by
  cases e with
  | form items location =>
    cases items with
    | nil => rfl
    | cons x xs =>
      cases x with
      | name kind s => cases kind <;> rfl
      | _ => rfl
  | _ => rfl

@[simp] theorem isBlock_unlocated (e : Sexpr) : e.unlocated.isBlock = e.isBlock := by
  simp [isBlock]

@[simp] theorem argAt_unlocated (args : List Sexpr) (i : Nat) :
    argAt (args.map unlocated) i = (argAt args i).unlocated := by
  simp only [argAt, List.getD_eq_getElem?_getD, List.getElem?_map]
  cases args[i]? <;> rfl

end Sexpr

namespace Script

open Sexpr

/-! ## Failures -/

namespace Cause

/-- A cause with the locations taken out of what was found. -/
def unlocated : Cause → Cause
  | notSpecial head => notSpecial head.unlocated
  | functionName found => functionName found.unlocated
  | flagShape found => flagShape found.unlocated
  | cause => cause

variable (cause : Cause)

theorem kind_unlocated : cause.unlocated.kind = cause.kind := by
  cases cause <;> rfl

theorem refusedName?_unlocated : cause.unlocated.refusedName? = cause.refusedName? := by
  cases cause <;> rfl

theorem text_unlocated : cause.unlocated.text = cause.text := by
  cases cause with
  | notSpecial head => exact congrArg (· ++ " is not a special form") (display_unlocated head)
  | functionName found =>
    exact congrArg ("function name must be a symbol; got " ++ ·) (display_unlocated found)
  | flagShape found =>
    exact congrArg ("flag spec must be [type long short doc default]; got " ++ ·)
      (display_unlocated found)
  | _ => rfl

end Cause

namespace Failure

/-- A failure with no location in it. -/
def unlocated : Failure → Failure
  | overflow => overflow
  | refused err =>
    refused { err with
      cause := err.cause.unlocated, form := err.form.map Sexpr.unlocated, location := none }

theorem unlocated_within (e : Sexpr) (f : Failure) :
    (f.within e).unlocated = f.unlocated.within e.unlocated := by
  cases f with
  | overflow => rfl
  | refused err =>
    obtain ⟨cause, rule, form, location⟩ := err
    cases he : e.isForm with
    | false => simp [within, unlocated, he]
    | true => cases form <;> simp [within, unlocated, he, EmitError.attach]

end Failure

/-- Failures of a sequence of steps are changed step by step. -/
theorem mapError_bind {α β : Type} {φ : Failure → Failure} (x : Except Failure α)
    (k : α → Except Failure β) :
    (x >>= k).mapError φ = x.mapError φ >>= fun a => (k a).mapError φ := by
  cases x <;> rfl

theorem mapError_ok {α : Type} {φ : Failure → Failure} (a : α) :
    (.ok a : Except Failure α).mapError φ = .ok a := rfl

/-! ## Literals and signatures -/

theorem literal_unlocated (e : Sexpr) :
    literal e.unlocated = (literal e).mapError Failure.unlocated := by
  cases e with
  | ratio q =>
    simp only [unlocated, literal]
    split <;> rfl
  | seq kind items => cases kind <;> rfl
  | _ => rfl

namespace FlagSpec

def unlocated (f : FlagSpec) : FlagSpec :=
  ⟨f.kind, f.type.unlocated, f.long.unlocated, f.short.unlocated, f.doc.unlocated,
    f.default.unlocated⟩

theorem field_unlocated (e : Sexpr) :
    field e.unlocated = (field e).mapError Failure.unlocated := by
  cases e with
  | ratio q => exact literal_unlocated (.ratio q)
  | seq kind items => exact literal_unlocated (.seq kind items)
  | _ => rfl

theorem declaration_unlocated (f : FlagSpec) :
    f.unlocated.declaration = f.declaration.mapError Failure.unlocated := by
  simp only [declaration, unlocated, field_unlocated, mapError_bind, mapError_ok]

theorem mapM_declaration_unlocated (flags : List FlagSpec) :
    (flags.map unlocated).mapM declaration =
      (flags.mapM declaration).mapError Failure.unlocated := by
  induction flags with
  | nil => rfl
  | cons f flags ih =>
    simp only [List.map_cons, List.mapM_cons, declaration_unlocated, ih, mapError_bind]
    rfl

theorem ofSexpr?_unlocated (e : Sexpr) :
    ofSexpr? e.unlocated = (ofSexpr? e).map unlocated := by
  cases e with
  | seq kind items =>
    match items with
    | [_, _, _, _, _] => rfl
    | [] | [_] | [_, _] | [_, _, _] | [_, _, _, _] | _ :: _ :: _ :: _ :: _ :: _ :: _ => rfl
  | _ => rfl

end FlagSpec

theorem declarations_unlocated (doc : Sexpr) (flags : List FlagSpec) :
    declarations doc.unlocated (flags.map FlagSpec.unlocated) =
      (declarations doc flags).mapError Failure.unlocated := by
  have flagless : (flags.map FlagSpec.unlocated).isEmpty = flags.isEmpty := List.isEmpty_map
  cases doc <;>
    simp only [declarations, unlocated, helpText, FlagSpec.mapM_declaration_unlocated, flagless,
      mapError_bind, mapError_ok] <;> rfl

theorem NoFlag.unlocated {e : Sexpr} {f : Failure} (h : NoFlag e f) :
    NoFlag e.unlocated f.unlocated := by
  cases h with
  | misplaced s => exact .misplaced s
  | shape hs hno =>
    refine .shape ?_ fun g hg => ?_
    · rwa [isSymbol_unlocated]
    · have found := FlagSpec.ofSexpr?_unlocated e
      rw [hg] at found
      obtain ⟨g', hg', _⟩ := Option.map_eq_some_iff.mp found.symm
      exact hno g' (FlagSpec.toSexpr_of_ofSexpr? hg').symm

namespace Signature

def unlocated (g : Signature) : Signature := { g with flags := g.flags.map FlagSpec.unlocated }

theorem flagsOf_unlocated (es : List Sexpr) : flagsOf (es.map Sexpr.unlocated) =
    ((flagsOf es).map (List.map FlagSpec.unlocated)).mapError Failure.unlocated := by
  induction es with
  | nil => rfl
  | cons e es ih =>
    rcases flag_or_noFlag e with ⟨g, rfl⟩ | ⟨f, hf⟩
    · have flag : g.toSexpr.unlocated = g.unlocated.toSexpr := rfl
      rw [List.map_cons, flag, flagsOf_cons_flag, flagsOf_cons_flag, ih]
      cases flagsOf es <;> rfl
    · rw [List.map_cons, flagsOf_cons_noFlag hf, flagsOf_cons_noFlag hf.unlocated]
      rfl

theorem ofItems_unlocated (es : List Sexpr) : ofItems (es.map Sexpr.unlocated) =
    ((ofItems es).map unlocated).mapError Failure.unlocated := by
  induction es with
  | nil => rfl
  | cons e es ih =>
    cases hs : e.isSymbol with
    | true =>
      obtain ⟨s, rfl⟩ := exists_eq_symbol hs
      have symbol : (Sexpr.symbol s).unlocated = Sexpr.symbol s := rfl
      rw [List.map_cons, symbol, ofItems_cons_symbol, ofItems_cons_symbol, ih]
      cases ofItems es <;> rfl
    | false =>
      have flags : ofItems (e :: es) = (flagsOf (e :: es)).map fun flags => ⟨[], flags⟩ :=
        ofItems_of_head (by rintro _ ⟨⟩; exact hs)
      have flags' : ofItems ((e :: es).map Sexpr.unlocated) =
          (flagsOf ((e :: es).map Sexpr.unlocated)).map fun flags => ⟨[], flags⟩ :=
        ofItems_of_head (by rintro _ ⟨⟩; rwa [isSymbol_unlocated])
      rw [flags, flags', flagsOf_unlocated]
      cases flagsOf (e :: es) <;> rfl

theorem ofSexpr_unlocated (e : Sexpr) : ofSexpr e.unlocated =
    ((ofSexpr e).map unlocated).mapError Failure.unlocated := by
  cases e with
  | seq kind items =>
    rw [unlocated_seq]
    exact ofItems_unlocated items
  | _ => rfl

end Signature

end Script

end SexprShell
