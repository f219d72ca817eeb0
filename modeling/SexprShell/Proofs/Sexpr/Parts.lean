import SexprShell.Proofs.Sexpr.Entries

/-!
# Parts of expressions

The expressions that an expression is put together from, those inside it, and what holds of all of
them. Parts are lower than the whole, so that properties of expressions follow by induction on parts
(`parts_induction`).
-/

namespace SexprShell.Sexpr

/-- The expressions that an expression is put together from. -/
def parts : Sexpr → List Sexpr
  | seq _ items | form items _ => items
  | map entries => keysAndValues entries
  | _ => []

/-- An expression is another one, or is somewhere inside it. -/
inductive Contains (e : Sexpr) : Sexpr → Prop where
  | refl : Contains e e
  | part {x y : Sexpr} : Contains e x → y ∈ x.parts → Contains e y

/-- An expression and all those inside it have a property. -/
def Everywhere (N : Sexpr → Prop) (e : Sexpr) : Prop := ∀ x, e.Contains x → N x

variable {N : Sexpr → Prop} {e x y : Sexpr}

theorem Contains.trans (h : e.Contains x) (h' : x.Contains y) : e.Contains y := by
  induction h' with
  | refl => exact h
  | part _ hy ih => exact .part ih hy

theorem Everywhere.here (h : e.Everywhere N) : N e := h e .refl

theorem Everywhere.part (h : e.Everywhere N) (hx : x ∈ e.parts) : x.Everywhere N :=
  fun _ hy => h _ (Contains.trans (.part .refl hx) hy)

/-- It is enough to look at an expression and, one by one, at its parts. -/
theorem everywhere_iff : e.Everywhere N ↔ N e ∧ ∀ x ∈ e.parts, x.Everywhere N := by
  constructor
  · intro h
    exact ⟨h.here, fun x => h.part⟩
  · intro h y hy
    have inside : y = e ∨ ∃ x ∈ e.parts, x.Contains y := by
      induction hy with
      | refl => exact .inl rfl
      | @part z y _ hy ih =>
        rcases ih with rfl | ⟨x, hx, hz⟩
        · exact .inr ⟨y, hy, .refl⟩
        · exact .inr ⟨x, hx, hz.part hy⟩
    rcases inside with rfl | ⟨x, hx, hy⟩
    · exact h.1
    · exact h.2 x hx y hy

theorem everywhere_of_parts_eq_nil (hparts : e.parts = []) (h : N e) : e.Everywhere N :=
  everywhere_iff.mpr ⟨h, by rw [hparts]; exact List.forall_mem_nil _⟩

theorem height_lt_of_mem_parts (h : x ∈ e.parts) : x.height < e.height := by
  cases e with
  | seq _ items | form items _ =>
    have : x.height ≤ heightOfItems items := height_le_of_mem h
    simp only [height]
    omega
  | map entries =>
    obtain ⟨⟨k, v⟩, hp, hx⟩ := mem_keysAndValues.mp h
    have := height_key_le hp
    simp only [height]
    rcases hx with rfl | rfl <;> omega
  | _ => cases h

/-- What holds of an expression if it holds of its parts holds of every expression. -/
theorem parts_induction {P : Sexpr → Prop} (step : ∀ e, (∀ x ∈ e.parts, P x) → P e) (e : Sexpr) :
    P e :=
  step e fun x hx =>
    have := height_lt_of_mem_parts hx
    parts_induction step x
termination_by e.height

end SexprShell.Sexpr
