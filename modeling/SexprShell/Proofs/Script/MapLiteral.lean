import SexprShell.Proofs.Script.AssociativeArray
import SexprShell.Proofs.Source.MapEntries
import SexprShell.Proofs.Source.Segment

/-!
# Mapping literals

The keys of a mapping that is read, and the calls that set its entries. Keys of different kinds have
entries of their own, except that numbers and booleans of one quantity share an entry
(`map_literal_keys`).
-/

namespace SexprShell.Source

open Number Sexpr

/-- A numeral never writes the value that is no number. -/
theorem exists_quantity_toDouble (d : Decimal) : ∃ q, (float d.toDouble).quantity? = some q := by
  have zero (negative : Bool) : ∃ q, (float (.zero negative)).quantity? = some q := by
    cases negative <;> exact ⟨_, rfl⟩
  unfold Decimal.toDouble
  simp only
  split
  · exact zero _
  · split
    · exact ⟨_, rfl⟩
    · split
      · exact zero _
      · unfold Format.encode Format.encode?
        simp only
        split
        · exact zero _
        · split
          · exact ⟨_, rfl⟩
          · exact ⟨_, rfl⟩

variable {locate : Position → Option Location} {v : Sexpr} {vs : List Sexpr}

theorem Atom.exists_identity {a : Atom} (h : a.toSexpr = .ok v) : ∃ i, v.identity? = some i := by
  cases a with
  | ratio n d =>
    simp only [Atom.toSexpr] at h
    split at h
    · cases h
    · cases h
      split <;> exact ⟨_, rfl⟩
  | float d =>
    cases h
    obtain ⟨q, hq⟩ := exists_quantity_toDouble d
    exact ⟨_, identity?_eq_quantity_iff.mpr hq⟩
  | int n | keyword s | text s => cases h; exact ⟨_, rfl⟩
  | symbol s =>
    cases h
    repeat' split
    all_goals exact ⟨_, rfl⟩

mutual

/-- What is read is told apart from everything else, if it holds neither a list nor a mapping. -/
theorem Datum.exists_identity : ∀ {d : Datum} {v : Sexpr}, d.toSexpr locate = .ok v →
    v.unhashable? = none → ∃ i, v.identity? = some i
  | .atom a, v, h, _ => a.exists_identity h
  | .group b p items, v, h, hv => by
    obtain ⟨vs, hvs, hgroup⟩ := Datum.toSexpr_group_eq_ok h
    cases b with
    | round =>
      cases hgroup
      obtain ⟨is, his⟩ := exists_identities hvs hv
      exact ⟨_, by rw [identity?, his, Option.map_some]⟩
    | square =>
      cases hgroup
      cases hv
    | curly =>
      simp only [groupOf, mappingOf] at hgroup
      split at hgroup
      · cases hgroup
      · split at hgroup
        · cases hgroup
        · cases hgroup
          cases hv
  | .deref p d, v, h, hv => by
    obtain ⟨x, hx, rfl⟩ := Datum.toSexpr_deref_eq_ok h
    obtain ⟨i, hi⟩ := d.exists_identity hx (Option.or_eq_none_iff.mp hv).1
    exact ⟨_, by rw [identity?, identities?, identities?, hi]; rfl⟩

theorem exists_identities : ∀ {ds : List Datum} {vs : List Sexpr},
    itemsToSexprs locate ds = .ok vs → unhashableIn? vs = none → ∃ is, identities? vs = some is
  | [], _, h, _ => by cases h; exact ⟨[], rfl⟩
  | d :: ds, _, h, hvs => by
    obtain ⟨v, vs, hd, hds, rfl⟩ := itemsToSexprs_cons_eq_ok h
    obtain ⟨hv, hvs⟩ := Option.or_eq_none_iff.mp hvs
    obtain ⟨i, hi⟩ := d.exists_identity hd hv
    obtain ⟨is, his⟩ := exists_identities hds hvs
    exact ⟨_, by rw [identities?, hi, his]; rfl⟩

end

/-- The expressions that items write are keys, apart from those that hold a list or a mapping. -/
theorem isKey_of_items : ∀ {ds : List Datum} {vs : List Sexpr}, itemsToSexprs locate ds = .ok vs →
    ∀ v ∈ vs, v.unhashable? = none → v.IsKey
  | [], _, h, _, hv, _ => by cases h; cases hv
  | d :: ds, _, h, x, hx, hkey => by
    obtain ⟨v, vs, hd, hds, rfl⟩ := itemsToSexprs_cons_eq_ok h
    rcases List.mem_cons.mp hx with rfl | hx
    · exact ⟨hkey, d.exists_identity hd hkey⟩
    · exact isKey_of_items hds x hx hkey

end SexprShell.Source

namespace SexprShell.Script

open Source Sexpr

theorem exists_calls_of_emit {n : Sexpr} {entries : List (Sexpr × Sexpr)} {ctx : Context}
    {location : Option Location} {s : String}
    (h : emit (.form [.symbol "var", n, .map entries] location) ctx = .ok s ∨
      emit (.form [.symbol "merge!", n, .map entries] location) ctx = .ok s) :
    ∃ calls, s = callBlock calls ∧
      List.Forall₂ (fun e call => ∃ name key value, emit n ctx = .ok name ∧
        emit e.1 ctx = .ok key ∧ emit e.2 ctx = .ok value ∧ call = setCall name key value)
        entries calls := by
  have set : (setEntries n entries ctx).render emit = .ok s :=
    h.elim (fun h => (emit_newVariable_eq_ok_iff.mp h).2) emit_merge_eq_ok_iff.mp
  obtain ⟨calls, hcalls, rfl⟩ := render_setEntries_eq_ok_iff.mp set
  exact ⟨calls, rfl, hcalls.imp fun e call => render_setEntry_eq_ok_iff.mp⟩

/-- Of the keys in a mapping literal, the first of those that are equal stands for all of them. Keys
of different kinds are kept apart unless they are numbers or booleans that stand for the same
quantity, and there is one call for each key that is kept. -/
theorem map_literal_keys {locate : Position → Option Location} {p : Position}
    {items : List Datum} {pairs : List (Sexpr × Sexpr)}
    (hitems : itemsToSexprs locate items = .ok (keysAndValues pairs))
    (hkeys : ∀ q ∈ pairs, q.1.unhashable? = none) :
    ∃ entries, (Datum.group .curly p items).toSexpr locate = .ok (.map entries) ∧
      Represents (entries.map Prod.fst) (pairs.map Prod.fst) ∧
      (∀ k ∈ pairs.map Prod.fst, ∀ k' ∈ pairs.map Prod.fst, k.kind ≠ k'.kind →
        (Apart (entries.map Prod.fst) k k' ↔
          ¬ ∃ q, k.quantity? = some q ∧ k'.quantity? = some q)) ∧
      ∀ n ctx location s,
        emit (.form [.symbol "var", n, .map entries] location) ctx = .ok s ∨
          emit (.form [.symbol "merge!", n, .map entries] location) ctx = .ok s →
        ∃ calls, s = callBlock calls ∧
          List.Forall₂ (fun e call => ∃ name key value, emit n ctx = .ok name ∧
            emit e.1 ctx = .ok key ∧ emit e.2 ctx = .ok value ∧ call = setCall name key value)
            entries calls := by
  have isKey : ∀ q ∈ pairs, q.1.IsKey := fun q hq =>
    isKey_of_items hitems q.1 (mem_keysAndValues.mpr ⟨q, hq, .inl rfl⟩) (hkeys q hq)
  have H := represents_insertAll isKey
  refine ⟨_, toSexpr_curly hitems hkeys, H, fun k hk k' hk' hkind => ?_,
    fun n ctx location s h => exists_calls_of_emit h⟩
  rw [H.apart_iff (List.forall_mem_map.mpr isKey) hk hk', ← same_iff_of_kind_ne hkind,
    Bool.not_eq_true]

theorem map_literal_keys_ports :
    let ports := [Datum.atom (.keyword "ssh"), .atom (.int 22), .atom (.text "ssh"), .atom (.int 1)]
    ∃ entries, (Datum.group .curly .start ports).toSexpr (fun _ => none) = .ok (.map entries) ∧
      Apart (entries.map Prod.fst) (.keyword "ssh") (.text "ssh") := by
  intro ports
  have items : itemsToSexprs (fun _ => none) ports =
      .ok (keysAndValues [(.keyword "ssh", .int 22), (.text "ssh", .int 1)]) := rfl
  obtain ⟨entries, hread, -, apart, -⟩ :=
    map_literal_keys (p := .start) items (by simp [unhashable?])
  have pair := apart (.keyword "ssh") (by simp) (.text "ssh") (by simp) (by decide)
  refine ⟨entries, hread, pair.mpr ?_⟩
  rintro ⟨q, hq, -⟩
  cases hq

/-- One and true have one entry, with the key of the first and the value of the second. -/
theorem readAll_one_and_true :
    readAll "{1 a true b}" = .ok [.map [(.int 1, .symbol "b")]] ∧
    (int 1).kind ≠ (bool true).kind ∧ ¬ Apart [.int 1] (.int 1) (.bool true) ∧
    emit (.form [.symbol "var", .symbol "m", .map [(.int 1, .symbol "b")]] none) {} =
      .ok "{ hash_set m 1 b;  }" := by
  refine ⟨?_, by decide, ?_, by rfl⟩
  · have parsed : parse "{1 a true b}".toList = .ok [.group .curly .start
        [.atom (.int 1), .atom (.symbol "a"), .atom (.symbol "true"), .atom (.symbol "b")]] := by
      rfl
    have items : itemsToSexprs (locateIn none false) [.atom (.int 1), .atom (.symbol "a"),
        .atom (.symbol "true"), .atom (.symbol "b")] =
      .ok (keysAndValues [(.int 1, .symbol "a"), (.bool true, .symbol "b")]) := by rfl
    have equal : (int 1).same (bool true) := by simp [same, sameAtom, quantity?]
    rw [readAll, parsed]
    simp only [itemsToSexprs, toSexpr_curly items (by simp [unhashable?]), insertAll,
      List.foldl_cons, List.foldl_nil, Sexpr.insert, equal, if_true]
  · rintro ⟨i, j, hi, hj, hne, -⟩
    simp only [List.length_cons, List.length_nil] at hi hj
    omega

end SexprShell.Script
