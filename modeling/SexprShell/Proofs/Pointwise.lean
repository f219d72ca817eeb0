import Mathlib.Data.List.Forall2

/-!
# Lists related item by item

Relations between lists that go through lists in between, as texts go through tokens, and relations
that pair the items of two lists off.
-/

namespace SexprShell

variable {R : α → β → Prop} {S : β → γ → Prop} {as : List α} {bs : List β} {cs : List γ}

/-- Items are related through others exactly if the lists are related through a list of others. -/
theorem forall₂_through_iff : List.Forall₂ (fun a c => ∃ b, R a b ∧ S b c) as cs ↔
    ∃ bs, List.Forall₂ R as bs ∧ List.Forall₂ S bs cs := by
  induction as generalizing cs with
  | nil => simp
  | cons a as ih =>
    simp only [List.forall₂_cons_left_iff, ih]
    constructor
    · rintro ⟨c, cs, ⟨b, hb, hc⟩, ⟨bs, hbs, hcs⟩, rfl⟩
      exact ⟨b :: bs, ⟨b, bs, hb, hbs, rfl⟩, .cons hc hcs⟩
    · rintro ⟨_, ⟨b, bs, hb, hbs, rfl⟩, _ | ⟨hc, hcs⟩⟩
      exact ⟨_, _, ⟨b, hb, hc⟩, ⟨bs, hbs, hcs⟩, rfl⟩

/-- A list is related to some other one exactly if each of its items is related to something. -/
theorem exists_forall₂_iff : (∃ bs, List.Forall₂ R as bs) ↔ ∀ a ∈ as, ∃ b, R a b := by
  induction as with
  | nil => simp
  | cons a as ih =>
    rw [List.forall_mem_cons, ← ih]
    constructor
    · rintro ⟨_, _ | ⟨hb, hbs⟩⟩
      exact ⟨⟨_, hb⟩, _, hbs⟩
    · rintro ⟨⟨b, hb⟩, bs, hbs⟩
      exact ⟨b :: bs, .cons hb hbs⟩

/-- Related items are related in another way if those of the first list always are. -/
theorem forall₂_imp_of_mem {T : α → β → Prop} (h : List.Forall₂ R as bs)
    (imp : ∀ a ∈ as, ∀ b, R a b → T a b) : List.Forall₂ T as bs :=
  ((List.forall₂_and_left as bs).mpr ⟨imp, h⟩).imp fun _ b hab => hab.1 b hab.2

theorem forall₂_eq_map_iff {f : β → γ} :
    List.Forall₂ (fun b c => c = f b) bs cs ↔ cs = bs.map f := by
  simp [eq_comm (a := cs), ← List.forall₂_eq_eq_eq, List.forall₂_map_left_iff,
    eq_comm (b := f _)]

/-- What the items of several lists are related to can be divided as these are. -/
theorem forall₂_flatten_iff {ass : List (List α)} : List.Forall₂ R ass.flatten bs ↔
    ∃ bss, List.Forall₂ (List.Forall₂ R) ass bss ∧ bs = bss.flatten := by
  induction ass generalizing bs with
  | nil => simp
  | cons as ass ih =>
    rw [List.flatten_cons]
    constructor
    · intro h
      have turned : List.Forall₂ (flip R) bs (as ++ ass.flatten) := .flip h
      have first := (List.forall₂_take_append bs as ass.flatten turned).flip
      have rest := (List.forall₂_drop_append bs as ass.flatten turned).flip
      obtain ⟨bss, hbss, heq⟩ := ih.mp rest
      refine ⟨bs.take as.length :: bss, .cons first hbss, ?_⟩
      rw [List.flatten_cons, ← heq, List.take_append_drop]
    · rintro ⟨_, _ | ⟨first, rest⟩, rfl⟩
      exact List.rel_append first (ih.mpr ⟨_, rest, rfl⟩)

/-- Between lists of one length, what is related to something each, and to nothing in common, is
related to everything. -/
theorem forall_exists_of_length_eq (hlen : as.length = bs.length)
    (inj : as.Pairwise fun a a' => ∀ b, R a b → ¬ R a' b) (total : ∀ a ∈ as, ∃ b ∈ bs, R a b) :
    ∀ b ∈ bs, ∃ a ∈ as, R a b := by
  induction as generalizing bs with
  | nil =>
    rw [List.length_nil, eq_comm, List.length_eq_zero_iff] at hlen
    rw [hlen]
    exact List.forall_mem_nil _
  | cons a as ih =>
    obtain ⟨apart, inj⟩ := List.pairwise_cons.mp inj
    obtain ⟨⟨b, hb, hab⟩, total⟩ := List.forall_mem_cons.mp total
    obtain ⟨left, right, rfl⟩ := List.append_of_mem hb
    -- What is related to `b` is `a` alone, so that the others are left to each other.
    have others : ∀ a' ∈ as, ∃ b' ∈ left ++ right, R a' b' := by
      intro a' ha'
      obtain ⟨b', hb', hab'⟩ := total a' ha'
      rcases List.mem_append.mp hb' with hb' | hb'
      · exact ⟨b', List.mem_append_left _ hb', hab'⟩
      · rcases List.mem_cons.mp hb' with rfl | hb'
        · exact absurd hab' (apart a' ha' b' hab)
        · exact ⟨b', List.mem_append_right _ hb', hab'⟩
    have lengths : as.length = (left ++ right).length := by
      simp only [List.length_append, List.length_cons] at hlen ⊢
      omega
    have covered := ih lengths inj others
    intro b' hb'
    have here_or_there : b' = b ∨ b' ∈ left ++ right := by
      simp only [List.mem_append, List.mem_cons] at hb' ⊢
      tauto
    rcases here_or_there with rfl | hb'
    · exact ⟨a, List.mem_cons_self, hab⟩
    · obtain ⟨a', ha', hab'⟩ := covered b' hb'
      exact ⟨a', List.mem_cons_of_mem _ ha', hab'⟩

end SexprShell
