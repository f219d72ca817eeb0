import SexprShell.Sexpr.Mapping

/-!
# Occurrences of forms

The forms that an expression consists of, each as often as it occurs. A mapping holds at most the
forms of the pairs that it is built from: of pairs with the same key, the key of the first and the
value of the last are kept (`countP_formsInEntries_insertAll`).
-/

namespace SexprShell.Sexpr

mutual

/-- The forms in an expression, the expression included, each in front of those inside it. -/
def forms : Sexpr → List Sexpr
  | form items location => form items location :: formsIn items
  | seq _ items => formsIn items
  | map entries => formsInEntries entries
  | _ => []

def formsIn : List Sexpr → List Sexpr
  | [] => []
  | e :: es => e.forms ++ formsIn es

def formsInEntries : List (Sexpr × Sexpr) → List Sexpr
  | [] => []
  | (k, v) :: es => k.forms ++ (v.forms ++ formsInEntries es)

end

/-! ## Mappings -/

variable (P : Sexpr → Bool)

theorem countP_formsInEntries_pairUp : ∀ es : List Sexpr,
    (formsInEntries (pairUp es)).countP P ≤ (formsIn es).countP P
  | [] => Nat.le_refl _
  | [_] => Nat.zero_le _
  | k :: v :: es => by
    have := countP_formsInEntries_pairUp es
    simp only [pairUp, formsInEntries, formsIn, List.countP_append]
    omega

theorem countP_formsInEntries_insert (key value : Sexpr) : ∀ es : List (Sexpr × Sexpr),
    (formsInEntries (insert key value es)).countP P ≤
      (formsInEntries es).countP P + key.forms.countP P + value.forms.countP P
  | [] => by simp [insert, formsInEntries]
  | (k, v) :: es => by
    have := countP_formsInEntries_insert key value es
    rw [insert]
    split <;> simp only [formsInEntries, List.countP_append] <;> omega

theorem countP_formsInEntries_insertAll (pairs es : List (Sexpr × Sexpr)) :
    (formsInEntries (insertAll es pairs)).countP P ≤
      (formsInEntries es).countP P + (formsInEntries pairs).countP P := by
  induction pairs generalizing es with
  | nil => exact Nat.le_refl _
  | cons p pairs ih =>
    have rest := ih (insert p.1 p.2 es)
    have first := countP_formsInEntries_insert P p.1 p.2 es
    rw [insertAll, List.foldl_cons, ← insertAll]
    simp only [formsInEntries, List.countP_append]
    omega

end SexprShell.Sexpr
