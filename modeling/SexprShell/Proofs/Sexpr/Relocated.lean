import SexprShell.Proofs.Sexpr.Unlocated

/-!
# Expressions with other locations

`Sexpr.relocated` changes the locations of the forms in an expression and nothing else. What does
not see locations does not see the change either, and mappings are built from relocated entries as
from the entries themselves (`relocatedEntries_insertAll`).
-/

namespace SexprShell

/-- The location so many lines further down in the same file. -/
def Location.down (k : Nat) (l : Location) : Location := { l with line := l.line + k }

namespace Sexpr

variable {φ : Option Location → Option Location}

mutual

/-- An expression with the locations of its forms, present or not, changed by `φ`. -/
def relocated (φ : Option Location → Option Location) : Sexpr → Sexpr
  | seq kind items => seq kind (relocatedItems φ items)
  | map entries => map (relocatedEntries φ entries)
  | form items location => form (relocatedItems φ items) (φ location)
  | e => e

def relocatedItems (φ : Option Location → Option Location) : List Sexpr → List Sexpr
  | [] => []
  | e :: es => e.relocated φ :: relocatedItems φ es

def relocatedEntries (φ : Option Location → Option Location) :
    List (Sexpr × Sexpr) → List (Sexpr × Sexpr)
  | [] => []
  | (k, v) :: es => (k.relocated φ, v.relocated φ) :: relocatedEntries φ es

end

/-- An expression whose forms stand so many lines further down. -/
def down (k : Nat) (e : Sexpr) : Sexpr := e.relocated (Option.map (Location.down k))

theorem relocatedItems_eq_map (es : List Sexpr) : relocatedItems φ es = es.map (relocated φ) := by
  induction es with
  | nil => rfl
  | cons e es ih => rw [relocatedItems, ih, List.map_cons]

theorem relocatedEntries_eq_map (es : List (Sexpr × Sexpr)) :
    relocatedEntries φ es = es.map fun p => (p.1.relocated φ, p.2.relocated φ) := by
  induction es with
  | nil => rfl
  | cons p es ih => rw [relocatedEntries, ih, List.map_cons]

theorem relocated_form (items : List Sexpr) (location : Option Location) :
    (form items location).relocated φ = form (items.map (relocated φ)) (φ location) := by
  rw [relocated, relocatedItems_eq_map]

theorem relocated_seq (kind : SequenceKind) (items : List Sexpr) :
    (seq kind items).relocated φ = seq kind (items.map (relocated φ)) := by
  rw [relocated, relocatedItems_eq_map]

mutual

/-- To take all locations away is to change them. -/
theorem relocated_none : ∀ e : Sexpr, e.relocated (fun _ => none) = e.unlocated
  | seq _ items => by rw [relocated, unlocated, relocatedItems_none items]
  | map entries => by rw [relocated, unlocated, relocatedEntries_none entries]
  | form items _ => by rw [relocated, unlocated, relocatedItems_none items]
  | nil | bool _ | int _ | ratio _ | float _ | text _ | name _ _ | foreign _ => rfl

theorem relocatedItems_none : ∀ es : List Sexpr,
    relocatedItems (fun _ => none) es = unlocatedItems es
  | [] => rfl
  | e :: es => by rw [relocatedItems, unlocatedItems, relocated_none e, relocatedItems_none es]

theorem relocatedEntries_none : ∀ es : List (Sexpr × Sexpr),
    relocatedEntries (fun _ => none) es = unlocatedEntries es
  | [] => rfl
  | (k, v) :: es => by
    rw [relocatedEntries, unlocatedEntries, relocated_none k, relocated_none v,
      relocatedEntries_none es]

end

mutual

/-- Without locations, no change of them shows. -/
theorem unlocated_relocated : ∀ e : Sexpr, (e.relocated φ).unlocated = e.unlocated
  | seq _ items => by rw [relocated, unlocated, unlocated, unlocatedItems_relocatedItems items]
  | map entries => by
    rw [relocated, unlocated, unlocated, unlocatedEntries_relocatedEntries entries]
  | form items _ => by rw [relocated, unlocated, unlocated, unlocatedItems_relocatedItems items]
  | nil | bool _ | int _ | ratio _ | float _ | text _ | name _ _ | foreign _ => rfl

theorem unlocatedItems_relocatedItems : ∀ es : List Sexpr,
    unlocatedItems (relocatedItems φ es) = unlocatedItems es
  | [] => rfl
  | e :: es => by
    rw [relocatedItems, unlocatedItems, unlocatedItems, unlocated_relocated e,
      unlocatedItems_relocatedItems es]

theorem unlocatedEntries_relocatedEntries : ∀ es : List (Sexpr × Sexpr),
    unlocatedEntries (relocatedEntries φ es) = unlocatedEntries es
  | [] => rfl
  | (k, v) :: es => by
    rw [relocatedEntries, unlocatedEntries, unlocatedEntries, unlocated_relocated k,
      unlocated_relocated v, unlocatedEntries_relocatedEntries es]

end

theorem same_relocated (a b : Sexpr) : (a.relocated φ).same (b.relocated φ) = a.same b := by
  rw [← same_unlocated (a.relocated φ), unlocated_relocated, unlocated_relocated, same_unlocated]

theorem unhashable?_relocated (e : Sexpr) : (e.relocated φ).unhashable? = e.unhashable? := by
  rw [← unhashable?_unlocated (e.relocated φ), unlocated_relocated, unhashable?_unlocated]

/-! ## Entries -/

theorem relocatedEntries_insert (key value : Sexpr) : ∀ es : List (Sexpr × Sexpr),
    relocatedEntries φ (insert key value es) =
      insert (key.relocated φ) (value.relocated φ) (relocatedEntries φ es)
  | [] => rfl
  | (k, v) :: es => by
    simp only [insert, relocatedEntries, same_relocated]
    split
    · rfl
    · rw [relocatedEntries, relocatedEntries_insert key value es]

theorem relocatedEntries_insertAll (pairs : List (Sexpr × Sexpr)) : ∀ es : List (Sexpr × Sexpr),
    relocatedEntries φ (insertAll es pairs) =
      insertAll (relocatedEntries φ es) (relocatedEntries φ pairs) := by
  induction pairs with
  | nil => exact fun es => rfl
  | cons p pairs ih =>
    intro es
    rw [insertAll, List.foldl_cons, ← insertAll, ih, relocatedEntries_insert]
    rfl

end Sexpr

end SexprShell
