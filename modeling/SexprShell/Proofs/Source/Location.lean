import SexprShell.Proofs.Sexpr.Relocated
import SexprShell.Source.Read

/-!
# Reading and locations

Locations make no difference to what is read otherwise: to change them is to read with others
(`Datum.toSexpr_relocated`). Without them, what is read with locations is what is read without
(`readAll_unlocated`).
-/

namespace SexprShell.Source

open Sexpr

variable {φ : Option Location → Option Location}

theorem Atom.toSexpr_relocated {a : Atom} {v : Sexpr} (h : a.toSexpr = .ok v) :
    v.relocated φ = v := by
  cases a with
  | ratio n d =>
    simp only [Atom.toSexpr] at h
    split at h
    · cases h
    · cases h
      split <;> rfl
  | symbol s =>
    simp only [Atom.toSexpr, Except.ok.injEq] at h
    subst h
    repeat' split
    all_goals rfl
  | _ => cases h; rfl

theorem Atom.toSexpr_unlocated {a : Atom} {v : Sexpr} (h : a.toSexpr = .ok v) :
    v.unlocated = v := by
  rw [← relocated_none, Atom.toSexpr_relocated h]

theorem entriesOf_relocated (pairs : List (Sexpr × Sexpr)) :
    entriesOf (pairs.map fun p => (p.1.relocated φ, p.2.relocated φ)) =
      (entriesOf pairs).map (relocatedEntries φ) := by
  have keys : (pairs.map fun p => (p.1.relocated φ, p.2.relocated φ)).findSome?
      (fun p => p.1.unhashable?) = pairs.findSome? fun p => p.1.unhashable? := by
    simp only [List.findSome?_map, Function.comp_def, unhashable?_relocated]
  simp only [entriesOf, keys]
  cases pairs.findSome? fun p => p.1.unhashable? with
  | some u => rfl
  | none =>
    have h := relocatedEntries_insertAll (φ := φ) pairs []
    rw [relocatedEntries_eq_map pairs] at h
    exact congrArg Except.ok h.symm

theorem groupOf_relocated (b : Bracket) (location : Option Location) (vs : List Sexpr) :
    groupOf b (φ location) (vs.map (relocated φ)) =
      (groupOf b location vs).map (relocated φ) := by
  cases b with
  | round => simp [groupOf, Except.map, relocated_form]
  | square => simp [groupOf, Except.map, relocated_seq]
  | curly =>
    simp only [groupOf, mappingOf, List.length_map, pairUp_map, entriesOf_relocated]
    split
    · rfl
    · cases entriesOf (pairUp vs) <;> rfl

theorem groupOf_unlocated (b : Bracket) (location : Option Location) (vs : List Sexpr) :
    groupOf b none (vs.map unlocated) = (groupOf b location vs).map unlocated := by
  have := groupOf_relocated (φ := fun _ => none) b location vs
  simpa only [funext relocated_none] using this

mutual

theorem Datum.toSexpr_relocated (locate : Position → Option Location) : ∀ d : Datum,
    d.toSexpr (fun p => φ (locate p)) = (d.toSexpr locate).map (relocated φ)
  | .atom a => by
    simp only [Datum.toSexpr]
    cases h : a.toSexpr with
    | error e => rfl
    | ok v => rw [Except.map, Atom.toSexpr_relocated h]
  | .group b p items => by
    simp only [Datum.toSexpr, itemsToSexprs_relocated locate items]
    cases itemsToSexprs locate items with
    | error e => rfl
    | ok vs => exact groupOf_relocated b (locate p) vs
  | .deref p d => by
    simp only [Datum.toSexpr, d.toSexpr_relocated locate]
    cases d.toSexpr locate with
    | error e => rfl
    | ok v => rfl

theorem itemsToSexprs_relocated (locate : Position → Option Location) : ∀ ds : List Datum,
    itemsToSexprs (fun p => φ (locate p)) ds =
      (itemsToSexprs locate ds).map (List.map (relocated φ))
  | [] => rfl
  | d :: ds => by
    simp only [itemsToSexprs, d.toSexpr_relocated locate, itemsToSexprs_relocated locate ds]
    cases d.toSexpr locate with
    | error e => rfl
    | ok v => cases itemsToSexprs locate ds <;> rfl

end

theorem readAll_unlocated (src : String) (file : Option String) (track : Bool) :
    readAll src = (readAll src file track).map (List.map unlocated) := by
  unfold readAll
  cases parse src.toList with
  | error e => rfl
  | ok ds =>
    have := itemsToSexprs_relocated (φ := fun _ => none) (locateIn file track) ds
    rw [funext relocated_none] at this
    exact this

end SexprShell.Source
