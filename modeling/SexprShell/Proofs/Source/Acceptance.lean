import SexprShell.Proofs.Source.Meaning

/-!
# Which texts are read

A text is read exactly if it is cut up entirely into tokens, these are a sequence of items, and no
item has a fault. Whatever faults there are, a text that is no sequence of items is refused with a
position; otherwise the first fault is the error.
-/

namespace SexprShell.Source

/-- A text is cut up entirely, and its tokens write these items. -/
def Notates (src : String) (ds : List Datum) : Prop :=
  ∃ ts q, Cut .start src.toList ts q [] ∧ Items ts ds

variable {src : String} {file : Option String} {track : Bool} {ds : List Datum}

theorem readAll_of_notates (h : Notates src ds) :
    readAll src file track = itemsToSexprs (locateIn file track) ds := by
  rw [readAll, parse_eq_ok_iff.mpr h]

theorem exists_notates_of_readAll {es : List Sexpr} (h : readAll src file track = .ok es) :
    ∃ ds, Notates src ds ∧ itemsToSexprs (locateIn file track) ds = .ok es := by
  unfold readAll at h
  split at h
  · next ds hp => exact ⟨ds, parse_eq_ok_iff.mp hp, h⟩
  · cases h

/-- Faults have no position, and all but the odd mapping arise from what an item means. -/
theorem Datum.position?_of_offence {d : Datum} {e : ReadError} (h : d.offence? = some e) :
    e.position? = none ∧ e.isMeaning = decide (e ≠ .oddMap) := by
  unfold offence? at h
  split at h
  · split at h <;> cases h
    exact ⟨rfl, rfl⟩
  · split at h
    · cases h; exact ⟨rfl, rfl⟩
    · obtain ⟨u, _, rfl⟩ := Option.map_eq_some_iff.mp h
      exact ⟨rfl, rfl⟩
  · cases h

/-- Which texts are read, and the errors of the others. -/
theorem readAll_outcome (src : String) (file : Option String) (track : Bool) :
    ((∃ es, readAll src file track = .ok es) ↔
      ∃ ds, Notates src ds ∧ ∀ d ∈ nodesIn ds, d.offence? = none) ∧
    ((¬ ∃ ds, Notates src ds) → ∃ e p, readAll src file track = .error e ∧
      e.position? = some p ∧ e.isMeaning = false) ∧
    (∀ ds e, Notates src ds → (nodesIn ds).findSome? Datum.offence? = some e →
      readAll src file track = .error e ∧ e.position? = none ∧
        e.isMeaning = decide (e ≠ .oddMap)) := by
  refine ⟨⟨?_, ?_⟩, ?_, ?_⟩
  · rintro ⟨es, h⟩
    obtain ⟨ds, hds, hes⟩ := exists_notates_of_readAll h
    exact ⟨ds, hds, exists_meaning_iff.mp ⟨es, hes⟩⟩
  · rintro ⟨ds, hds, hnone⟩
    rw [readAll_of_notates hds]
    exact exists_meaning_iff.mpr hnone
  · intro hno
    cases hp : parse src.toList with
    | ok ds => exact absurd ⟨ds, parse_eq_ok_iff.mp hp⟩ hno
    | error e =>
      obtain ⟨hpos, hmeaning⟩ := position?_of_parse hp
      obtain ⟨p, hpos⟩ := Option.isSome_iff_exists.mp hpos
      exact ⟨e, p, by rw [readAll, hp], hpos, hmeaning⟩
  · intro ds e hds he
    obtain ⟨d, _, hd⟩ := List.exists_of_findSome?_eq_some he
    rw [readAll_of_notates hds]
    exact ⟨error_iff_offence.mpr he, d.position?_of_offence hd⟩

end SexprShell.Source
