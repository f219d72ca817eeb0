import SexprShell.Proofs.Pointwise
import SexprShell.Proofs.Script.Signature
import SexprShell.Script.Template

/-!
# Texts of templates

A template has a text exactly if its parts have texts, and then it is put together from these.
Otherwise the first of the parts that have none says why.
-/

namespace SexprShell.Script.Template

variable {emit : Sexpr → Context → Outcome} {t a b : Template} {ts : List Template}
  {s x y z : String}

theorem render_text_eq_ok_iff : (text x).render emit = .ok s ↔ s = x := by
  rw [render, Except.ok.injEq, eq_comm]

theorem render_sub {e : Sexpr} {ctx : Context} : (sub e ctx).render emit = emit e ctx := rfl

theorem render_ofOutcome (o : Outcome) : (ofOutcome o).render emit = o := by
  cases o <;> rfl

theorem render_append_eq_ok_iff : (append a b).render emit = .ok s ↔
    ∃ x y, a.render emit = .ok x ∧ b.render emit = .ok y ∧ s = x ++ y := by
  simp only [render, bind_ok_iff, Except.ok.injEq, eq_comm (b := s), exists_and_left]

theorem render_late_eq_ok_iff : (late a b).render emit = .ok s ↔
    ∃ y x, b.render emit = .ok y ∧ a.render emit = .ok x ∧ s = x ++ y := by
  simp only [render, bind_ok_iff, Except.ok.injEq, eq_comm (b := s), exists_and_left]

/-- A part between two fixed texts. -/
theorem render_enclosed_eq_ok_iff : (concat [text x, t, text y]).render emit = .ok s ↔
    ∃ u, t.render emit = .ok u ∧ s = x ++ u ++ y := by
  simp only [concat, render_append_eq_ok_iff, render_text_eq_ok_iff, exists_and_left,
    exists_eq_left, String.append_assoc]
  constructor
  · rintro ⟨_, ⟨u, hu, rfl⟩, rfl⟩
    exact ⟨u, hu, rfl⟩
  · rintro ⟨u, hu, rfl⟩
    exact ⟨_, ⟨u, hu, rfl⟩, rfl⟩

/-- Two parts among fixed texts. -/
theorem render_pair_eq_ok_iff : (concat [text x, a, text y, b, text z]).render emit = .ok s ↔
    ∃ u v, a.render emit = .ok u ∧ b.render emit = .ok v ∧ s = x ++ u ++ y ++ v ++ z := by
  have enclosed : concat [text x, a, text y, b, text z] =
      append (text x) (append a (concat [text y, b, text z])) := rfl
  simp only [enclosed, render_append_eq_ok_iff, render_text_eq_ok_iff, render_enclosed_eq_ok_iff,
    exists_and_left, exists_eq_left, String.append_assoc]
  constructor
  · rintro ⟨_, ⟨u, hu, _, ⟨v, hv, rfl⟩, rfl⟩, rfl⟩
    exact ⟨u, hu, v, hv, rfl⟩
  · rintro ⟨u, hu, v, hv, rfl⟩
    exact ⟨_, ⟨u, hu, _, ⟨v, hv, rfl⟩, rfl⟩, rfl⟩

theorem render_finish_eq_ok_iff {c : Finish} : (finish c t).render emit = .ok s ↔
    ∃ x, t.render emit = .ok x ∧ c.apply x = .ok s :=
  bind_ok_iff

/-- The text of parts one after another is that of the parts joined. -/
theorem render_concat_eq_ok_iff : ∀ {ts : List Template} {s : String},
    (concat ts).render emit = .ok s ↔
      ∃ xs, List.Forall₂ (fun t x => t.render emit = .ok x) ts xs ∧ s = String.join xs
  | [], s => by simp [concat, render_text_eq_ok_iff]
  | [t], s => by simp [concat, List.forall₂_cons_left_iff]
  | t :: u :: ts, s => by
    rw [concat, render_append_eq_ok_iff]
    · simp only [@render_concat_eq_ok_iff (u :: ts), List.forall₂_cons_left_iff (l := u :: ts)]
      constructor
      · rintro ⟨x, _, hx, ⟨xs, hxs, rfl⟩, rfl⟩
        exact ⟨x :: xs, ⟨x, xs, hx, hxs, rfl⟩, String.join_cons.symm⟩
      · rintro ⟨_, ⟨x, xs, hx, hxs, rfl⟩, rfl⟩
        exact ⟨x, _, hx, ⟨xs, hxs, rfl⟩, String.join_cons⟩
    · simp

/-- Parts of one kind whose texts are known. -/
theorem render_concat_map {α : Type} {part : α → Template} {of : α → String} {xs : List α}
    (h : ∀ x ∈ xs, (part x).render emit = .ok (of x)) :
    (concat (xs.map part)).render emit = .ok (String.join (xs.map of)) := by
  refine render_concat_eq_ok_iff.mpr ⟨xs.map of, ?_, rfl⟩
  rw [List.forall₂_map_left_iff, List.forall₂_map_right_iff, List.forall₂_same]
  exact h

/-- The text of parts with a separator is that of the parts, with the separator between them. -/
theorem render_separated_eq_ok_iff {separator : String} : ∀ {ts : List Template} {s : String},
    (separated separator ts).render emit = .ok s ↔
      ∃ xs, List.Forall₂ (fun t x => t.render emit = .ok x) ts xs ∧ s = separator.intercalate xs
  | [], s => by simp [separated, render_text_eq_ok_iff]
  | [t], s => by simp [separated, List.forall₂_cons_left_iff]
  | t :: u :: ts, s => by
    rw [separated, render_append_eq_ok_iff]
    · simp only [render_append_eq_ok_iff, render_text_eq_ok_iff,
        @render_separated_eq_ok_iff separator (u :: ts),
        List.forall₂_cons_left_iff (l := u :: ts), exists_and_left, exists_eq_left]
      constructor
      · rintro ⟨x, hx, _, ⟨_, ⟨xs, hxs, rfl⟩, rfl⟩, rfl⟩
        have several : xs ≠ [] := by rintro rfl; cases hxs
        refine ⟨x :: xs, ⟨x, hx, xs, hxs, rfl⟩, ?_⟩
        rw [String.intercalate_cons_of_ne_nil several, String.append_assoc]
      · rintro ⟨_, ⟨x, hx, xs, hxs, rfl⟩, rfl⟩
        have several : xs ≠ [] := by rintro rfl; cases hxs
        refine ⟨x, hx, _, ⟨_, ⟨xs, hxs, rfl⟩, rfl⟩, ?_⟩
        rw [String.intercalate_cons_of_ne_nil several, String.append_assoc]
    · simp

/-! ## The first failure -/

variable {f : Failure}

theorem render_text_ne_error : (text x).render emit ≠ .error f := nofun

theorem render_append_eq_error_iff : (append a b).render emit = .error f ↔
    a.render emit = .error f ∨ ∃ x, a.render emit = .ok x ∧ b.render emit = .error f := by
  simp only [render, bind_error_iff, reduceCtorEq, and_false, exists_false, or_false]

/-- A part between two fixed texts fails as it does by itself. -/
theorem render_enclosed_eq_error_iff :
    (concat [text x, t, text y]).render emit = .error f ↔ t.render emit = .error f := by
  simp [concat, render_append_eq_error_iff, render_text_ne_error, render_text_eq_ok_iff]

/-- Two parts among fixed texts fail as the first of them that does. -/
theorem render_pair_eq_error_iff : (concat [text x, a, text y, b, text z]).render emit = .error f ↔
    a.render emit = .error f ∨ ∃ u, a.render emit = .ok u ∧ b.render emit = .error f := by
  simp [concat, render_append_eq_error_iff, render_text_ne_error, render_text_eq_ok_iff]

theorem render_finish_eq_error_iff {c : Finish} : (finish c t).render emit = .error f ↔
    t.render emit = .error f ∨ ∃ x, t.render emit = .ok x ∧ c.apply x = .error f :=
  bind_error_iff

theorem render_concat_cons_eq_error_iff : (concat (t :: ts)).render emit = .error f ↔
    t.render emit = .error f ∨ ∃ x, t.render emit = .ok x ∧ (concat ts).render emit = .error f := by
  cases ts with
  | nil => simp [concat, render]
  | cons u ts =>
    rw [concat, render_append_eq_error_iff]
    simp

/-- Parts of one kind, one after another, fail at the first that does. -/
theorem render_concat_map_eq_error_iff {α : Type} {part : α → Template} {xs : List α} :
    (concat (xs.map part)).render emit = .error f ↔ ∃ earlier x later, xs = earlier ++ x :: later ∧
      (∀ u ∈ earlier, ∃ y, (part u).render emit = .ok y) ∧ (part x).render emit = .error f := by
  induction xs with
  | nil => simp [concat, render]
  | cons x xs ih =>
    rw [List.map_cons, render_concat_cons_eq_error_iff, ih]
    constructor
    · rintro (hx | ⟨y, hy, earlier, u, later, rfl, hearlier, hu⟩)
      · exact ⟨[], x, xs, rfl, List.forall_mem_nil _, hx⟩
      · exact ⟨x :: earlier, u, later, rfl, List.forall_mem_cons.mpr ⟨⟨y, hy⟩, hearlier⟩, hu⟩
    · rintro ⟨_ | ⟨x', earlier⟩, u, later, heq, hearlier, hu⟩
      · cases heq
        exact .inl hu
      · cases heq
        obtain ⟨⟨y, hy⟩, hearlier⟩ := List.forall_mem_cons.mp hearlier
        exact .inr ⟨y, hy, earlier, u, later, rfl, hearlier, hu⟩

end SexprShell.Script.Template
