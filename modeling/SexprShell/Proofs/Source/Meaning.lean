import SexprShell.Proofs.Source.Grammar
import SexprShell.Source.Read

/-!
# What items mean

The items of a text that have no meaning, whatever stands around them: `Datum.offence?` finds the
fault of an item itself, and `nodesIn` lists items with those inside them, each behind its parts.
Giving a meaning to items fails with the first fault of this list and succeeds if there is none
(`error_iff_offence`, `exists_meaning_iff`).
-/

namespace SexprShell.Source

open Sexpr

/-! ## Faults -/

mutual

/-- What keeps an item from being a key: the first vector or mapping that it is or that its forms
contain. -/
def Datum.changeable? : Datum → Option Unhashable
  | .atom _ => none
  | .group .round _ items => changeableIn? items
  | .group .square _ _ => some .list
  | .group .curly _ _ => some .map
  | .deref _ d => d.changeable?

def changeableIn? : List Datum → Option Unhashable
  | [] => none
  | d :: ds => d.changeable?.or (changeableIn? ds)

end

/-- The fault of an item, its parts being left out of account. -/
def Datum.offence? : Datum → Option ReadError
  | .atom (.ratio n d) => if d = 0 then some (.zeroDenominator n) else none
  | .group .curly _ items =>
    if items.length % 2 = 1 then some .oddMap
    else ((pairUp items).findSome? fun p => p.1.changeable?).map .unhashableKey
  | _ => none

mutual

/-- An item and the items inside it, parts before the whole and from left to right. -/
def Datum.nodes : Datum → List Datum
  | .atom a => [.atom a]
  | .group b p items => nodesIn items ++ [.group b p items]
  | .deref p d => d.nodes ++ [.deref p d]

def nodesIn : List Datum → List Datum
  | [] => []
  | d :: ds => d.nodes ++ nodesIn ds

end

/-! ## Meanings -/

variable {locate : Position → Option Location} {d : Datum} {ds : List Datum} {v : Sexpr}
  {vs : List Sexpr} {e : ReadError}

theorem Atom.unhashable?_toSexpr {a : Atom} (h : a.toSexpr = .ok v) : v.unhashable? = none := by
  cases a with
  | ratio n d =>
    simp only [Atom.toSexpr] at h
    split at h
    · cases h
    · cases h
      split <;> rfl
  | symbol s =>
    simp only [Atom.toSexpr, Except.ok.injEq] at h
    subst h
    repeat' split
    all_goals rfl
  | _ => cases h; rfl

theorem Atom.toSexpr_eq_error_iff {a : Atom} :
    a.toSexpr = .error e ↔ (Datum.atom a).offence? = some e := by
  cases a with
  | ratio n d => simp only [Atom.toSexpr, Datum.offence?]; split <;> simp
  | _ => simp [Atom.toSexpr, Datum.offence?]

/-- Two lists of items side by side, the second holding what the first means. -/
theorem pairUp_findSome?_congr : ∀ {ds : List Datum} {vs : List Sexpr},
    vs.map unhashable? = ds.map Datum.changeable? →
      ((pairUp vs).findSome? fun p => p.1.unhashable?) =
        (pairUp ds).findSome? fun p => p.1.changeable?
  | [], [], _ => rfl
  | [d], [v], _ => rfl
  | d :: d' :: ds, v :: v' :: vs, h => by
    simp only [List.map_cons, List.cons.injEq] at h
    simp only [pairUp, List.findSome?_cons, h.1, pairUp_findSome?_congr h.2.2]
  | [], _ :: _, h | _ :: _, [], h | [_], _ :: _ :: _, h | _ :: _ :: _, [_], h => by simp at h

theorem unhashableIn?_eq : ∀ {ds : List Datum} {vs : List Sexpr},
    vs.map unhashable? = ds.map Datum.changeable? → unhashableIn? vs = changeableIn? ds
  | [], [], _ => rfl
  | d :: ds, v :: vs, h => by
    simp only [List.map_cons, List.cons.injEq] at h
    simp only [unhashableIn?, changeableIn?, h.1, unhashableIn?_eq h.2]
  | [], _ :: _, h | _ :: _, [], h => by simp at h

theorem mappingOf_eq (h : vs.map unhashable? = ds.map Datum.changeable?) (p : Position) :
    mappingOf vs = match (Datum.group .curly p ds).offence? with
      | some e => .error e
      | none => .ok (.map (insertAll [] (pairUp vs))) := by
  have hlen : vs.length = ds.length := by simpa using congrArg List.length h
  simp only [mappingOf, Datum.offence?, hlen]
  split
  · rfl
  · simp only [entriesOf, pairUp_findSome?_congr h]
    cases (pairUp ds).findSome? fun p => p.1.changeable? <;> rfl

/-- A group has the meaning that its brackets give to the meanings of its items, unless it has a
fault of its own. -/
theorem groupOf_cases (h : vs.map unhashable? = ds.map Datum.changeable?) (b : Bracket)
    (p : Position) (location : Option Location) :
    (∃ e, (Datum.group b p ds).offence? = some e ∧ groupOf b location vs = .error e) ∨
      ∃ v, (Datum.group b p ds).offence? = none ∧ groupOf b location vs = .ok v ∧
        v.unhashable? = (Datum.group b p ds).changeable? := by
  cases b with
  | round => exact .inr ⟨_, rfl, rfl, unhashableIn?_eq h⟩
  | square => exact .inr ⟨_, rfl, rfl, rfl⟩
  | curly =>
    simp only [groupOf, mappingOf_eq h p]
    cases (Datum.group .curly p ds).offence? with
    | some e => exact .inl ⟨e, rfl, rfl⟩
    | none => exact .inr ⟨_, rfl, rfl, rfl⟩

mutual

/-- An item fails with the first fault in it; without any it has a meaning, which can be a key
exactly if nothing keeps the item from being one. -/
theorem Datum.toSexpr_cases : ∀ d : Datum,
    (∃ e, d.nodes.findSome? Datum.offence? = some e ∧ d.toSexpr locate = .error e) ∨
      ∃ v, d.nodes.findSome? Datum.offence? = none ∧ d.toSexpr locate = .ok v ∧
        v.unhashable? = d.changeable?
  | .atom a => by
    simp only [Datum.nodes, List.findSome?_singleton, Datum.toSexpr]
    cases h : a.toSexpr with
    | error e => exact .inl ⟨e, Atom.toSexpr_eq_error_iff.mp h, rfl⟩
    | ok v =>
      refine .inr ⟨v, ?_, rfl, Atom.unhashable?_toSexpr h⟩
      cases ho : (Datum.atom a).offence? with
      | none => rfl
      | some e => rw [Atom.toSexpr_eq_error_iff.mpr ho] at h; cases h
  | .group b p items => by
    simp only [Datum.nodes, List.findSome?_append, List.findSome?_singleton, Datum.toSexpr]
    rcases itemsToSexprs_cases items with ⟨e, he, h⟩ | ⟨vs, he, h, hk⟩
    · exact .inl ⟨e, by rw [he]; rfl, by rw [h]⟩
    · simp only [he, h, Option.none_or]
      exact groupOf_cases hk b p (locate p)
  | .deref p d => by
    simp only [Datum.nodes, List.findSome?_append, List.findSome?_singleton, Datum.toSexpr]
    rcases d.toSexpr_cases with ⟨e, he, h⟩ | ⟨v, he, h, hk⟩
    · exact .inl ⟨e, by rw [he]; rfl, by rw [h]⟩
    · refine .inr ⟨_, by rw [he]; rfl, by rw [h], ?_⟩
      simp [unhashable?, unhashableIn?, Datum.changeable?, hk]

theorem itemsToSexprs_cases : ∀ ds : List Datum,
    (∃ e, (nodesIn ds).findSome? Datum.offence? = some e ∧ itemsToSexprs locate ds = .error e) ∨
      ∃ vs, (nodesIn ds).findSome? Datum.offence? = none ∧ itemsToSexprs locate ds = .ok vs ∧
        vs.map unhashable? = ds.map Datum.changeable?
  | [] => .inr ⟨[], rfl, rfl, rfl⟩
  | d :: ds => by
    simp only [nodesIn, List.findSome?_append, itemsToSexprs]
    rcases d.toSexpr_cases with ⟨e, he, h⟩ | ⟨v, he, h, hk⟩
    · exact .inl ⟨e, by rw [he]; rfl, by rw [h]⟩
    · simp only [he, h, Option.none_or]
      rcases itemsToSexprs_cases ds with ⟨e, he, h⟩ | ⟨vs, he, h, hks⟩
      · exact .inl ⟨e, he, by rw [h]⟩
      · exact .inr ⟨v :: vs, he, by rw [h], by simp [hk, hks]⟩

end

theorem error_iff_offence :
    itemsToSexprs locate ds = .error e ↔ (nodesIn ds).findSome? Datum.offence? = some e := by
  rcases @itemsToSexprs_cases locate ds with ⟨e', ho, h⟩ | ⟨vs, ho, h, _⟩ <;>
    simp [ho, h]

theorem exists_meaning_iff :
    (∃ vs, itemsToSexprs locate ds = .ok vs) ↔ ∀ d ∈ nodesIn ds, d.offence? = none := by
  rw [← List.findSome?_eq_none_iff]
  rcases @itemsToSexprs_cases locate ds with ⟨e', ho, h⟩ | ⟨vs, ho, h, _⟩ <;>
    simp [ho, h]

end SexprShell.Source
