import SexprShell.Sexpr.Mapping

/-!
# Expressions without locations

`Sexpr.unlocated` leaves out where forms were written. Equality does not see the difference
(`same_unlocated`), nor does it matter for what can be a key.
-/

namespace SexprShell.Sexpr

mutual

/-- An expression with no location in any of its forms. -/
def unlocated : Sexpr → Sexpr
  | seq kind items => seq kind (unlocatedItems items)
  | map entries => map (unlocatedEntries entries)
  | form items _ => form (unlocatedItems items) none
  | e => e

def unlocatedItems : List Sexpr → List Sexpr
  | [] => []
  | e :: es => e.unlocated :: unlocatedItems es

def unlocatedEntries : List (Sexpr × Sexpr) → List (Sexpr × Sexpr)
  | [] => []
  | (k, v) :: es => (k.unlocated, v.unlocated) :: unlocatedEntries es

end

theorem unlocatedItems_eq_map : ∀ es : List Sexpr, unlocatedItems es = es.map unlocated
  | [] => rfl
  | e :: es => by rw [unlocatedItems, unlocatedItems_eq_map es, List.map_cons]

theorem unlocatedEntries_eq_map : ∀ es : List (Sexpr × Sexpr),
    unlocatedEntries es = es.map fun p => (p.1.unlocated, p.2.unlocated)
  | [] => rfl
  | (k, v) :: es => by rw [unlocatedEntries, unlocatedEntries_eq_map es, List.map_cons]

theorem length_unlocatedEntries (es : List (Sexpr × Sexpr)) :
    (unlocatedEntries es).length = es.length := by
  rw [unlocatedEntries_eq_map, List.length_map]

theorem unlocated_form (items : List Sexpr) (location : Option Location) :
    (form items location).unlocated = form (items.map unlocated) none := by
  rw [unlocated, unlocatedItems_eq_map]

theorem unlocated_seq (kind : SequenceKind) (items : List Sexpr) :
    (seq kind items).unlocated = seq kind (items.map unlocated) := by
  rw [unlocated, unlocatedItems_eq_map]

/-! ## Equality -/

mutual

theorem same_unlocated_left : ∀ a b : Sexpr, a.unlocated.same b = a.same b
  | seq k xs, b => by cases b <;> simp [unlocated, same, sameItems_unlocated_left xs]
  | form xs _, b => by cases b <;> simp [unlocated, same, sameItems_unlocated_left xs]
  | map es, b => by
    cases b <;> simp [unlocated, same, sameEntries_unlocated_left es, length_unlocatedEntries]
  | nil, _ | bool _, _ | int _, _ | ratio _, _ | float _, _ | text _, _ | name _ _, _
  | foreign _, _ => rfl

theorem sameItems_unlocated_left : ∀ xs ys : List Sexpr,
    sameItems (unlocatedItems xs) ys = sameItems xs ys
  | [], _ => rfl
  | x :: xs, [] => rfl
  | x :: xs, y :: ys => by
    simp [unlocatedItems, sameItems, same_unlocated_left x, sameItems_unlocated_left xs]

theorem sameEntries_unlocated_left : ∀ es fs : List (Sexpr × Sexpr),
    sameEntries (unlocatedEntries es) fs = sameEntries es fs
  | [], _ => rfl
  | (k, v) :: es, fs => by
    simp [unlocatedEntries, sameEntries, same_unlocated_left k, same_unlocated_left v,
      sameEntries_unlocated_left es]

end

mutual

theorem same_unlocated_right : ∀ a b : Sexpr, a.same b.unlocated = a.same b
  | seq k xs, b => by cases b <;> simp [unlocated, same, sameItems_unlocated_right xs]
  | form xs _, b => by cases b <;> simp [unlocated, same, sameItems_unlocated_right xs]
  | map es, b => by
    cases b <;> simp [unlocated, same, sameEntries_unlocated_right es, length_unlocatedEntries]
  | nil, b | bool _, b | int _, b | ratio _, b | float _, b | text _, b | name _ _, b
  | foreign _, b => by cases b <;> simp [unlocated, same, sameAtom, quantity?]

theorem sameItems_unlocated_right : ∀ xs ys : List Sexpr,
    sameItems xs (unlocatedItems ys) = sameItems xs ys
  | [], [] => rfl
  | [], _ :: _ => rfl
  | x :: xs, [] => rfl
  | x :: xs, y :: ys => by
    simp [unlocatedItems, sameItems, same_unlocated_right x, sameItems_unlocated_right xs]

theorem sameEntries_unlocated_right : ∀ es fs : List (Sexpr × Sexpr),
    sameEntries es (unlocatedEntries fs) = sameEntries es fs
  | [], _ => rfl
  | (k, v) :: es, fs => by
    have h : (unlocatedEntries fs).any (fun f => k.same f.1 && v.same f.2) =
        fs.any fun f => k.same f.1 && v.same f.2 := by
      rw [unlocatedEntries_eq_map, List.any_map]
      congr 1
      funext f
      simp only [Function.comp, same_unlocated_right k, same_unlocated_right v]
    rw [sameEntries, sameEntries, h, sameEntries_unlocated_right es]

end

/-- Equality does not see locations. -/
theorem same_unlocated (a b : Sexpr) : a.unlocated.same b.unlocated = a.same b := by
  rw [same_unlocated_left, same_unlocated_right]

/-! ## Keys and entries -/

mutual

theorem unhashable?_unlocated : ∀ e : Sexpr, e.unlocated.unhashable? = e.unhashable?
  | seq .list _ | map _ => rfl
  | seq .tuple items | form items _ => by
    simp only [unlocated, unhashable?, unhashableIn?_unlocated items]
  | nil | bool _ | int _ | ratio _ | float _ | text _ | name _ _ | foreign _ => rfl

theorem unhashableIn?_unlocated : ∀ es : List Sexpr,
    unhashableIn? (unlocatedItems es) = unhashableIn? es
  | [] => rfl
  | e :: es => by
    simp only [unlocatedItems, unhashableIn?, unhashable?_unlocated e, unhashableIn?_unlocated es]

end

theorem pairUp_map (f : α → β) : ∀ xs : List α,
    pairUp (xs.map f) = (pairUp xs).map fun p => (f p.1, f p.2)
  | [] | [_] => rfl
  | x :: y :: rest => by simp only [List.map_cons, pairUp, pairUp_map f rest]

end SexprShell.Sexpr
