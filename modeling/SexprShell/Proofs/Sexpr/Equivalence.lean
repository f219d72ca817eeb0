import SexprShell.Proofs.Pointwise
import SexprShell.Proofs.Sexpr.Keys
import SexprShell.Proofs.Sexpr.Parts

/-!
# Equality is an equivalence

Equality of expressions is transitive (`same_trans`), it is symmetric where the keys of mappings
differ (`Everywhere.same_symm`), and all but the value that is no number are equal to themselves. It
depends neither on locations nor on the order of entries (`same_of_rearranged`).
-/

namespace SexprShell.Sexpr

variable {a b c : Sexpr} {k : SequenceKind} {xs ys : List Sexpr} {location : Option Location}
  {es fs : List (Sexpr × Sexpr)}

/-! ## Equality part by part -/

/-- An expression without parts: no sequence, mapping or form. -/
def IsAtom (a : Sexpr) : Prop := a.isForm = false ∧ a.isSeq = false ∧ a.isMap = false

theorem sameItems_iff_forall₂ : sameItems xs ys ↔ List.Forall₂ (fun x y => x.same y) xs ys := by
  induction xs generalizing ys with
  | nil => cases ys <;> simp [sameItems]
  | cons x xs ih => cases ys <;> simp [sameItems, ih]

theorem sameEntries_iff :
    sameEntries es fs ↔ ∀ p ∈ es, ∃ q ∈ fs, p.1.same q.1 ∧ p.2.same q.2 := by
  induction es with
  | nil => simp [sameEntries]
  | cons p es ih => simp [sameEntries, ih]

theorem same_seq_iff : (seq k xs).same b ↔
    ∃ ys, b = seq k ys ∧ List.Forall₂ (fun x y => x.same y) xs ys := by
  cases b with
  | seq l ys =>
    simp only [same, Bool.and_eq_true, beq_iff_eq, sameItems_iff_forall₂, seq.injEq]
    constructor
    · rintro ⟨rfl, h⟩
      exact ⟨ys, ⟨rfl, rfl⟩, h⟩
    · rintro ⟨_, ⟨rfl, rfl⟩, h⟩
      exact ⟨rfl, h⟩
  | _ => simp [same]

theorem same_form_iff : (form xs location).same b ↔
    ∃ ys location', b = form ys location' ∧ List.Forall₂ (fun x y => x.same y) xs ys := by
  cases b with
  | form ys location' => simp [same, sameItems_iff_forall₂]
  | _ => simp [same]

theorem same_map_iff : (map es).same b ↔ ∃ fs, b = map fs ∧ es.length = fs.length ∧
    ∀ p ∈ es, ∃ q ∈ fs, p.1.same q.1 ∧ p.2.same q.2 := by
  cases b with
  | map fs => simp [same, sameEntries_iff]
  | _ => simp [same]

theorem IsAtom.same_iff (ha : a.IsAtom) :
    a.same b ↔ ∃ i, a.identity? = some i ∧ b.identity? = some i := by
  have atomic : a.same b = a.sameAtom b := by
    cases a with
    | form => cases ha.1
    | seq => cases ha.2.1
    | map => cases ha.2.2
    | _ => rw [same]; all_goals simp
  rw [atomic, sameAtom_iff ha]

/-- What is equal to an atom is one, as there is nothing else that it could be told apart by. -/
theorem IsAtom.of_same (ha : a.IsAtom) (h : a.same b) : b.IsAtom := by
  obtain ⟨i, hi, hb⟩ := ha.same_iff.mp h
  cases b with
  | seq l ys =>
    obtain ⟨is, -, rfl⟩ := Option.map_eq_some_iff.mp hb
    cases a with
    | seq => cases ha.2.1
    | _ => simp [identity?] at hi
  | form ys =>
    obtain ⟨is, -, rfl⟩ := Option.map_eq_some_iff.mp hb
    cases a with
    | form => cases ha.1
    | _ => simp [identity?] at hi
  | map => cases hb
  | _ => exact ⟨rfl, rfl, rfl⟩

theorem atom_or_compound (a : Sexpr) : a.IsAtom ∨ (∃ k xs, a = seq k xs) ∨ (∃ es, a = map es) ∨
    ∃ xs location, a = form xs location := by
  cases a with
  | seq k xs => exact .inr (.inl ⟨k, xs, rfl⟩)
  | map es => exact .inr (.inr (.inl ⟨es, rfl⟩))
  | form xs location => exact .inr (.inr (.inr ⟨xs, location, rfl⟩))
  | _ => exact .inl ⟨rfl, rfl, rfl⟩

/-! ## Transitivity -/

theorem same_trans (hab : a.same b) (hbc : b.same c) : a.same c := by
  induction a using parts_induction generalizing b c with
  | step a ih =>
    have items {xs ys zs : List Sexpr} (hparts : ∀ x ∈ xs, x ∈ a.parts)
        (hxy : List.Forall₂ (fun x y => x.same y) xs ys)
        (hyz : List.Forall₂ (fun x y => x.same y) ys zs) :
        List.Forall₂ (fun x y => x.same y) xs zs := by
      refine forall₂_imp_of_mem (forall₂_through_iff.mpr ⟨ys, hxy, hyz⟩) ?_
      rintro x hx z ⟨y, hxy, hyz⟩
      exact ih x (hparts x hx) hxy hyz
    rcases a.atom_or_compound with ha | ⟨k, xs, rfl⟩ | ⟨es, rfl⟩ | ⟨xs, location, rfl⟩
    · obtain ⟨i, hai, hbi⟩ := ha.same_iff.mp hab
      obtain ⟨j, hbj, hcj⟩ := (ha.of_same hab).same_iff.mp hbc
      cases hbi.symm.trans hbj
      exact ha.same_iff.mpr ⟨i, hai, hcj⟩
    · obtain ⟨ys, rfl, hxy⟩ := same_seq_iff.mp hab
      obtain ⟨zs, rfl, hyz⟩ := same_seq_iff.mp hbc
      exact same_seq_iff.mpr ⟨zs, rfl, items (fun _ => id) hxy hyz⟩
    · obtain ⟨fs, rfl, hlen, hef⟩ := same_map_iff.mp hab
      obtain ⟨gs, rfl, hlen', hfg⟩ := same_map_iff.mp hbc
      refine same_map_iff.mpr ⟨gs, rfl, hlen.trans hlen', fun p hp => ?_⟩
      obtain ⟨q, hq, hkey, hvalue⟩ := hef p hp
      obtain ⟨r, hr, hkey', hvalue'⟩ := hfg q hq
      exact ⟨r, hr, ih _ (key_mem_keysAndValues hp) hkey hkey',
        ih _ (value_mem_keysAndValues hp) hvalue hvalue'⟩
    · obtain ⟨ys, _, rfl, hxy⟩ := same_form_iff.mp hab
      obtain ⟨zs, _, rfl, hyz⟩ := same_form_iff.mp hbc
      exact same_form_iff.mpr ⟨zs, _, rfl, items (fun _ => id) hxy hyz⟩

/-! ## Values that are equal to themselves -/

/-- Apart from its parts, a value of a known type that is equal to itself: it is not the value that
is no number, and a mapping has no two equal keys. -/
def Proper : Sexpr → Prop
  | float d => d ≠ .nan
  | map entries => entries.Pairwise fun p q => p.1.same q.1 = false
  | foreign _ => False
  | _ => True

theorem Proper.same_self (h : a.Proper) (ha : a.IsAtom) : a.same a := by
  have identified : ∃ i, a.identity? = some i := by
    cases a with
    | float d =>
      cases d with
      | nan => exact absurd rfl h
      | _ => exact ⟨_, rfl⟩
    | foreign => exact h.elim
    | seq => cases ha.2.1
    | map => cases ha.2.2
    | form => cases ha.1
    | _ => exact ⟨_, rfl⟩
  obtain ⟨i, hi⟩ := identified
  exact ha.same_iff.mpr ⟨i, hi, hi⟩

theorem Everywhere.same_self (h : a.Everywhere Proper) : a.same a := by
  induction a using parts_induction with
  | step a ih =>
    have part : ∀ x ∈ a.parts, x.same x := fun x hx => ih x hx (h.part hx)
    rcases a.atom_or_compound with ha | ⟨k, xs, rfl⟩ | ⟨es, rfl⟩ | ⟨xs, location, rfl⟩
    · exact h.here.same_self ha
    · exact same_seq_iff.mpr ⟨xs, rfl, List.forall₂_same.mpr part⟩
    · exact same_map_iff.mpr ⟨es, rfl, rfl, fun p hp => ⟨p, hp,
        part _ (key_mem_keysAndValues hp), part _ (value_mem_keysAndValues hp)⟩⟩
    · exact same_form_iff.mpr ⟨xs, location, rfl, List.forall₂_same.mpr part⟩

theorem Everywhere.same_symm (h : a.Everywhere Proper) (hab : a.same b) : b.same a := by
  induction a using parts_induction generalizing b with
  | step a ih =>
    have part : ∀ x ∈ a.parts, ∀ y, x.same y → y.same x := fun x hx _ => ih x hx (h.part hx)
    have items {xs ys : List Sexpr} (hparts : ∀ x ∈ xs, x ∈ a.parts)
        (hxy : List.Forall₂ (fun x y => x.same y) xs ys) :
        List.Forall₂ (fun y x => y.same x) ys xs :=
      (forall₂_imp_of_mem hxy fun x hx => part x (hparts x hx)).flip
    rcases a.atom_or_compound with ha | ⟨k, xs, rfl⟩ | ⟨es, rfl⟩ | ⟨xs, location, rfl⟩
    · obtain ⟨i, hai, hbi⟩ := ha.same_iff.mp hab
      exact (ha.of_same hab).same_iff.mpr ⟨i, hbi, hai⟩
    · obtain ⟨ys, rfl, hxy⟩ := same_seq_iff.mp hab
      exact same_seq_iff.mpr ⟨xs, rfl, items (fun _ => id) hxy⟩
    · obtain ⟨fs, rfl, hlen, hef⟩ := same_map_iff.mp hab
      have key : ∀ p ∈ es, ∀ y, p.1.same y → y.same p.1 :=
        fun p hp => part _ (key_mem_keysAndValues hp)
      have value : ∀ p ∈ es, ∀ y, p.2.same y → y.same p.2 :=
        fun p hp => part _ (value_mem_keysAndValues hp)
      have distinct : es.Pairwise fun p p' => p.1.same p'.1 = false := h.here
      -- Entries equal to a common one would have equal keys, so that the entries of the two
      -- mappings are paired off.
      have inj : es.Pairwise fun p p' => ∀ q : Sexpr × Sexpr,
          p.1.same q.1 ∧ p.2.same q.2 → ¬ (p'.1.same q.1 ∧ p'.2.same q.2) := by
        refine distinct.imp_of_mem fun {p p'} hp hp' hne q hpq hpq' => ?_
        have equal := same_trans hpq.1 (key p' hp' _ hpq'.1)
        rw [hne] at equal
        cases equal
      refine same_map_iff.mpr ⟨es, rfl, hlen.symm, fun q hq => ?_⟩
      obtain ⟨p, hp, hkey, hvalue⟩ := forall_exists_of_length_eq hlen inj hef q hq
      exact ⟨p, hp, key p hp _ hkey, value p hp _ hvalue⟩
    · obtain ⟨ys, _, rfl, hxy⟩ := same_form_iff.mp hab
      exact same_form_iff.mpr ⟨xs, _, rfl, items (fun _ => id) hxy⟩

/-! ## What equality does not depend on -/

/-- The other expression is the first with other locations, and with the entries of mappings in
another order. -/
inductive Rearranged : Sexpr → Sexpr → Prop where
  | refl (a : Sexpr) : Rearranged a a
  | seq {k : SequenceKind} {xs ys : List Sexpr} : List.Forall₂ Rearranged xs ys →
      Rearranged (seq k xs) (seq k ys)
  | form {xs ys : List Sexpr} {location location' : Option Location} :
      List.Forall₂ Rearranged xs ys → Rearranged (form xs location) (form ys location')
  | map {es fs gs : List (Sexpr × Sexpr)} :
      List.Forall₂ Rearranged (es.map Prod.fst) (fs.map Prod.fst) →
      List.Forall₂ Rearranged (es.map Prod.snd) (fs.map Prod.snd) → fs.Perm gs →
      Rearranged (map es) (map gs)

theorem Rearranged.same (h : a.Everywhere Proper) (hab : Rearranged a b) : a.same b := by
  induction a using parts_induction generalizing b with
  | step a ih =>
    have part : ∀ x ∈ a.parts, ∀ y, Rearranged x y → x.same y :=
      fun x hx _ => ih x hx (h.part hx)
    have items {xs ys : List Sexpr} (hparts : ∀ x ∈ xs, x ∈ a.parts)
        (hxy : List.Forall₂ Rearranged xs ys) : List.Forall₂ (fun x y => x.same y) xs ys :=
      forall₂_imp_of_mem hxy fun x hx => part x (hparts x hx)
    cases hab with
    | refl => exact h.same_self
    | seq hxy => exact same_seq_iff.mpr ⟨_, rfl, items (fun _ => id) hxy⟩
    | form hxy => exact same_form_iff.mpr ⟨_, _, rfl, items (fun _ => id) hxy⟩
    | @map es fs gs hkeys hvalues hperm =>
      rw [List.forall₂_map_left_iff, List.forall₂_map_right_iff] at hkeys hvalues
      refine same_map_iff.mpr ⟨gs, rfl, hkeys.length_eq.trans hperm.length_eq, fun p hp => ?_⟩
      obtain ⟨i, hi, rfl⟩ := List.getElem_of_mem hp
      have hi' : i < fs.length := hkeys.length_eq ▸ hi
      exact ⟨fs[i], hperm.mem_iff.mp (List.getElem_mem hi'),
        part _ (key_mem_keysAndValues hp) _ (hkeys.get hi hi'),
        part _ (value_mem_keysAndValues hp) _ (hvalues.get hi hi')⟩

theorem same_of_rearranged {a' b' : Sexpr} (ha : a.Everywhere Proper) (hb : b.Everywhere Proper)
    (haa' : Rearranged a a') (hbb' : Rearranged b b') : a'.same b' = a.same b := by
  have haa' := haa'.same ha
  have hbb' := hbb'.same hb
  rw [Bool.eq_iff_iff]
  constructor
  · intro h
    exact same_trans haa' (same_trans h (hb.same_symm hbb'))
  · intro h
    exact same_trans (ha.same_symm haa') (same_trans h hbb')

/-! ## Inequality -/

theorem differAtom_eq (a b : Sexpr) : a.differAtom b = !a.sameAtom b := by
  cases a with
  | bool | int | ratio | float =>
    simp only [differAtom, sameAtom]
    split <;> simp_all [bne]
  | _ => cases b <;> simp [differAtom, sameAtom, quantity?, bne]

mutual

theorem differ_eq : ∀ a b : Sexpr, a.differ b = !a.same b
  | seq k xs, b => by cases b <;> simp [differ, same, differItems_eq xs, bne]
  | form xs _, b => by cases b <;> simp [differ, same, differItems_eq xs]
  | map es, b => by cases b <;> simp [differ, same, differEntries_eq es, bne]
  | nil, b | bool _, b | int _, b | ratio _, b | float _, b | text _, b | name _ _, b
  | foreign _, b => by
    rw [differ, same]
    · exact differAtom_eq _ _
    all_goals simp

theorem differItems_eq : ∀ xs ys : List Sexpr, differItems xs ys = !sameItems xs ys
  | [], _ => rfl
  | _ :: _, [] => rfl
  | x :: xs, y :: ys => by simp [differItems, sameItems, differ_eq x, differItems_eq xs]

theorem differEntries_eq : ∀ es fs : List (Sexpr × Sexpr),
    differEntries es fs = !sameEntries es fs
  | [], _ => rfl
  | (k, v) :: es, fs => by
    simp [differEntries, sameEntries, differ_eq k, differ_eq v, differEntries_eq es,
      List.not_any_eq_all_not]

end

/-! ## Equality as a whole -/

/-- On values without the one that is no number, and with mappings whose keys differ, equality is an
equivalence, and inequality is its negation. Other locations and another order of entries do not
show. Texts and names of the three kinds, lists and tuples, and forms and anything else are always
told apart. -/
theorem same_equivalence :
    Equivalence (fun a b : { a : Sexpr // a.Everywhere Proper } => a.1.same b.1) ∧
    (∀ a b : Sexpr, a.differ b ↔ ¬ a.same b) ∧
    (∀ a a' b b' : Sexpr, a.Everywhere Proper → b.Everywhere Proper → Rearranged a a' →
      Rearranged b b' → a'.same b' = a.same b) ∧
    (∀ (a b : Sexpr) (s t : String), a.spelling? = some s → b.spelling? = some t →
      a.kind ≠ b.kind → a.same b = false) ∧
    (∀ (k l : SequenceKind) (xs ys : List Sexpr), k ≠ l → (seq k xs).same (seq l ys) = false) ∧
    ∀ a b : Sexpr, a.isForm ≠ b.isForm → a.same b = false := by
  refine ⟨⟨fun a => a.2.same_self, fun {a _} => a.2.same_symm, same_trans⟩, fun a b => ?_,
    fun a a' b b' => same_of_rearranged, fun a b s t ha hb hkind => ?_, fun k l xs ys hkl => ?_,
    fun a b hform => ?_⟩
  · simp [differ_eq]
  · rw [← Bool.not_eq_true, same_iff_of_kind_ne hkind]
    rintro ⟨q, hq, -⟩
    cases a with
    | text | name => cases hq
    | _ => cases ha
  · simp [same, hkl]
  · have kinds : a.kind ≠ b.kind := by
      intro h
      cases a <;> cases b <;> simp_all [kind, isForm]
    rw [← Bool.not_eq_true, same_iff_of_kind_ne kinds]
    rintro ⟨q, hqa, hqb⟩
    cases a with
    | form => cases hqa
    | _ =>
      cases b with
      | form => cases hqb
      | _ => exact hform rfl

theorem same_equivalence_reordered :
    let key (location : Option Location) := form [symbol "a"] location
    let half : Sexpr := ratio (1 / 2)
    let a := Sexpr.map [(key (some ⟨1, none, none⟩), int 1), (text "b", half)]
    let a' := Sexpr.map [(text "b", half), (key none, int 1)]
    a.Everywhere Proper ∧ Rearranged a a' ∧ a'.same a := by
  intro key half a a'
  have proper : a.Everywhere Proper := by
    have call : (key (some ⟨1, none, none⟩)).Everywhere Proper :=
      everywhere_iff.mpr ⟨trivial, List.forall_mem_singleton.mpr
        (everywhere_of_parts_eq_nil rfl trivial)⟩
    refine everywhere_iff.mpr ⟨by simp [a, Proper, key, same], ?_⟩
    simp only [a, parts, keysAndValues, List.flatMap_cons, List.flatMap_nil, List.cons_append,
      List.nil_append, List.append_nil, List.forall_mem_cons]
    exact ⟨call, everywhere_of_parts_eq_nil rfl trivial, everywhere_of_parts_eq_nil rfl trivial,
      everywhere_of_parts_eq_nil rfl trivial, List.forall_mem_nil _⟩
  have rearranged : Rearranged a a' := by
    have swapped :
        [(key none, int 1), (text "b", half)].Perm [(text "b", half), (key none, int 1)] :=
      .swap _ _ _
    exact .map (.cons (.form (.cons (.refl _) .nil)) (.cons (.refl _) .nil))
      (.cons (.refl _) (.cons (.refl _) .nil)) swapped
  obtain ⟨equivalence, -, same_eq, -⟩ := same_equivalence
  refine ⟨proper, rearranged, ?_⟩
  rw [same_eq a a' a a proper proper rearranged (.refl a)]
  exact equivalence.refl ⟨a, proper⟩

end SexprShell.Sexpr
