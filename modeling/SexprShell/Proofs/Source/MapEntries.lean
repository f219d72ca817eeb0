import SexprShell.Proofs.Sexpr.FirstKeys
import SexprShell.Proofs.Source.Location

/-!
# Entries of mappings that are read

What stands between curly brackets becomes a mapping with the first of the keys that are equal to
each other, and with the last of their values (`mappingOf_outcome`).
-/

namespace SexprShell.Source

open Sexpr

variable {locate : Position → Option Location} {p : Position} {items : List Datum}
  {entries pairs : List (Sexpr × Sexpr)}

theorem entriesOf_eq_ok (h : ∀ q ∈ pairs, q.1.unhashable? = none) :
    entriesOf pairs = .ok (insertAll [] pairs) := by
  rw [entriesOf, List.findSome?_eq_none_iff.mpr h]

theorem mappingOf_pairs (hkeys : ∀ q ∈ pairs, q.1.unhashable? = none) :
    mappingOf (keysAndValues pairs) = .ok (.map (insertAll [] pairs)) := by
  simp only [mappingOf, if_neg (not_odd_keysAndValues _), pairUp_keysAndValues,
    entriesOf_eq_ok hkeys]

/-- A mapping between curly brackets has the entries that its pairs build, if it can have keys like
theirs. -/
theorem toSexpr_curly (hitems : itemsToSexprs locate items = .ok (keysAndValues pairs))
    (hkeys : ∀ q ∈ pairs, q.1.unhashable? = none) :
    (Datum.group .curly p items).toSexpr locate = .ok (.map (insertAll [] pairs)) := by
  simp only [Datum.toSexpr, hitems, groupOf, mappingOf_pairs hkeys]

theorem toSexpr_without_locations {d : Datum}
    (h : d.toSexpr locate = .ok (.map entries)) :
    d.toSexpr (fun _ => none) = .ok (.map (unlocatedEntries entries)) := by
  have relocated := Datum.toSexpr_relocated (φ := fun _ => none) locate d
  rw [h, funext relocated_none] at relocated
  exact relocated

/-- From pairs whose keys hold no list, no mapping and not the value that is no number, a mapping is
built whose keys are pairwise different. They are the keys that equal none before them, in order,
and each has the value of the last pair with an equal key; so there are as many entries as classes
of equal keys. Keys are equal if they are the same but for locations and the representation of
numbers. Without locations the mapping is read as with them, apart from these. -/
theorem mappingOf_outcome (hkeys : ∀ q ∈ pairs, q.1.Everywhere KeyPart) :
    let given := pairs.map Prod.fst
    ∃ entries, mappingOf (keysAndValues pairs) = .ok (.map entries) ∧
      (entries.map Prod.fst).Pairwise (fun a b => a.same b = false) ∧
      entries.map Prod.fst = newKeys [] given ∧
      (∀ e ∈ entries, LastUnder pairs e.1 e.2) ∧
      entries.length = (classes given).ncard ∧
      (∀ k ∈ given, ∀ k', k.same k' ↔ ∃ i, k.identity? = some i ∧ k'.identity? = some i) ∧
      ∀ locate p items, itemsToSexprs locate items = .ok (keysAndValues pairs) →
        (Datum.group .curly p items).toSexpr locate = .ok (.map entries) ∧
        (Datum.group .curly p items).toSexpr (fun _ => none) =
          .ok (.map (unlocatedEntries entries)) := by
  intro given
  have isKey : ∀ q ∈ pairs, q.1.IsKey := fun q hq => (hkeys q hq).isKey
  have hashable : ∀ q ∈ pairs, q.1.unhashable? = none := fun q hq => (isKey q hq).hashable
  have H := represents_insertAll isKey
  refine ⟨insertAll [] pairs, mappingOf_pairs hashable, H.distinct, keys_insertAll isKey,
    lastUnder_insertAll isKey, ?_, fun k hk k' => ?_, fun locate p items hitems => ?_⟩
  · rw [← H.length_eq (List.forall_mem_map.mpr isKey), List.length_map]
  · obtain ⟨q, hq, rfl⟩ := List.mem_map.mp hk
    exact same_iff (hashable q hq)
  · have read := toSexpr_curly (p := p) hitems hashable
    exact ⟨read, toSexpr_without_locations read⟩

/-- A one that comes again as a boolean, and a form that comes again at another place. -/
theorem mappingOf_outcome_again :
    let call (line : Nat) := form [.symbol "f"] (some ⟨line, none, none⟩)
    let pairs := [(int 1, .symbol "a"), (call 1, nil), (.bool true, .symbol "b"), (call 2, int 7)]
    (∀ q ∈ pairs, q.1.Everywhere KeyPart) ∧ ∃ entries,
      mappingOf (keysAndValues pairs) = .ok (.map entries) ∧
        entries.map Prod.fst = [int 1, call 1] := by
  intro call pairs
  have atom (e : Sexpr) (hparts : e.parts = []) (he : e.KeyPart) : e.Everywhere KeyPart :=
    everywhere_of_parts_eq_nil hparts he
  have form (line : Nat) : (call line).Everywhere KeyPart :=
    everywhere_iff.mpr ⟨trivial, List.forall_mem_singleton.mpr (atom _ rfl trivial)⟩
  have keys : ∀ q ∈ pairs, q.1.Everywhere KeyPart := by
    simp only [pairs, List.forall_mem_cons]
    exact ⟨atom _ rfl trivial, form 1, atom _ rfl trivial, form 2, List.forall_mem_nil _⟩
  obtain ⟨entries, built, -, kept, -⟩ := mappingOf_outcome keys
  refine ⟨keys, entries, built, ?_⟩
  rw [kept]
  simp [pairs, call, newKeys, same, sameAtom, sameItems, quantity?]

end SexprShell.Source
