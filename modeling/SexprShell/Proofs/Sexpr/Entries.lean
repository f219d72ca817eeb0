import SexprShell.Sexpr.Mapping

/-!
# Entries of mappings

What becomes of the entries that a mapping is built from.
-/

namespace SexprShell.Sexpr

/-- The keys and values of entries in turn. -/
def keysAndValues (entries : List (Sexpr × Sexpr)) : List Sexpr :=
  entries.flatMap fun p => [p.1, p.2]

theorem mem_keysAndValues {e : Sexpr} {entries : List (Sexpr × Sexpr)} :
    e ∈ keysAndValues entries ↔ ∃ p ∈ entries, e = p.1 ∨ e = p.2 := by
  simp [keysAndValues]

theorem key_mem_keysAndValues {p : Sexpr × Sexpr} {entries : List (Sexpr × Sexpr)}
    (h : p ∈ entries) : p.1 ∈ keysAndValues entries :=
  mem_keysAndValues.mpr ⟨p, h, .inl rfl⟩

theorem value_mem_keysAndValues {p : Sexpr × Sexpr} {entries : List (Sexpr × Sexpr)}
    (h : p ∈ entries) : p.2 ∈ keysAndValues entries :=
  mem_keysAndValues.mpr ⟨p, h, .inr rfl⟩

theorem pairUp_keysAndValues : ∀ entries : List (Sexpr × Sexpr),
    pairUp (keysAndValues entries) = entries
  | [] => rfl
  | (k, v) :: es => by
    have ih := pairUp_keysAndValues es
    simp only [keysAndValues, List.flatMap_cons, List.cons_append, List.nil_append, pairUp] at ih ⊢
    rw [ih]

/-- Items two by two are these items again, if none is left over. -/
theorem keysAndValues_pairUp : ∀ es : List Sexpr, es.length % 2 ≠ 1 →
    keysAndValues (pairUp es) = es
  | [], _ => rfl
  | [_], h => absurd rfl h
  | a :: b :: es, h => by
    have hes : es.length % 2 ≠ 1 := by
      simp only [List.length_cons] at h
      omega
    have ih := keysAndValues_pairUp es hes
    simp only [keysAndValues, pairUp, List.flatMap_cons, List.cons_append, List.nil_append] at ih ⊢
    rw [ih]

theorem length_keysAndValues (entries : List (Sexpr × Sexpr)) :
    (keysAndValues entries).length = 2 * entries.length := by
  induction entries with
  | nil => rfl
  | cons p es ih =>
    simp only [keysAndValues, List.flatMap_cons, List.length_append, List.length_cons,
      List.length_nil] at ih ⊢
    omega

/-- No value is missing. -/
theorem not_odd_keysAndValues (entries : List (Sexpr × Sexpr)) :
    ¬ (keysAndValues entries).length % 2 = 1 := by
  rw [length_keysAndValues]
  omega

theorem insert_of_forall_not_same {key : Sexpr} (value : Sexpr) : ∀ {es : List (Sexpr × Sexpr)},
    (∀ p ∈ es, p.1.same key = false) → insert key value es = es ++ [(key, value)]
  | [], _ => rfl
  | (k, v) :: es, h => by
    rw [insert, if_neg (by simp [h (k, v) (by simp)]),
      insert_of_forall_not_same value fun p hp => h p (by simp [hp]), List.cons_append]

/-- Pairs with different keys are all kept. -/
theorem insertAll_of_pairwise {pairs : List (Sexpr × Sexpr)} : ∀ {es : List (Sexpr × Sexpr)},
    (es ++ pairs).Pairwise (fun p q => p.1.same q.1 = false) →
      insertAll es pairs = es ++ pairs := by
  induction pairs with
  | nil => exact fun _ => (List.append_nil _).symm
  | cons p pairs ih =>
    intro es h
    have fresh : ∀ q ∈ es, q.1.same p.1 = false := fun q hq =>
      (List.pairwise_append.mp h).2.2 q hq p (by simp)
    rw [insertAll, List.foldl_cons, ← insertAll, insert_of_forall_not_same p.2 fresh, ih]
    · simp
    · simpa using h

end SexprShell.Sexpr
