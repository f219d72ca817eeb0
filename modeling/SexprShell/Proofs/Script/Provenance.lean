import SexprShell.Proofs.Script.Failure
import SexprShell.Proofs.Sexpr.Parts

/-!
# Where failures come from

The refusal of a form names a form in it, the innermost one around the defect, with the location
and the head of that form. Forms further out pass it on as it is (`emit_form_refused`).
-/

namespace SexprShell

namespace Sexpr

/-- An expression is inside another one, with no form in between. -/
inductive Encloses (e : Sexpr) : Sexpr → Prop where
  | part {x : Sexpr} : x ∈ e.parts → Encloses e x
  | inner {x y : Sexpr} : Encloses e x → x.isForm = false → y ∈ x.parts → Encloses e y

variable {e x : Sexpr}

theorem Encloses.contains (h : e.Encloses x) : e.Contains x := by
  induction h with
  | part hx => exact .part .refl hx
  | inner _ _ hy ih => exact .part ih hy

end Sexpr

namespace Script

open Sexpr Template

/-- A property that nil has, and that the parts of data and the methods of heads inherit. -/
structure Hereditary (P : Sexpr → Prop) : Prop where
  nil : P .nil
  /-- The method that a head names. -/
  method {s m : String} : Special.dotted? s = some m → P (.symbol s) → P (.symbol m)
  part {x y : Sexpr} : P x → x.isForm = false → y ∈ x.parts → P y

theorem Special.dotted?_of_ofSymbol? {s m : String} (h : ofSymbol? s = some (.dotted m)) :
    dotted? s = some m := by
  rcases Option.or_eq_some_iff.mp h with h | ⟨_, h⟩
  · obtain ⟨_, _, heq, _⟩ := List.lookup_eq_some_iff.mp h
    have word : ∀ p ∈ table, ∀ m, p.2 ≠ .dotted m := by simp [table, fileTests]
    exact absurd rfl (word (s, .dotted m) (heq ▸ by simp) m)
  · obtain ⟨_, hm, h⟩ := Option.map_eq_some_iff.mp h
    cases h
    exact hm

section

variable {P : Sexpr → Prop} {args : List Sexpr} {ctx : Context}

theorem forall_inContext {es : List Sexpr} :
    (∀ q ∈ inContext ctx es, P q.1) ↔ ∀ e ∈ es, P e := by
  simp [inContext]

theorem Hereditary.argAt (hP : Hereditary P) (h : ∀ e ∈ args, P e) (i : Nat) :
    P (argAt args i) := by
  rw [Sexpr.argAt, List.getD_eq_getElem?_getD]
  cases hi : args[i]? with
  | none => exact hP.nil
  | some e => exact h e (List.mem_of_getElem? hi)

theorem forall_entryChildren {target : Sexpr} {entries : List (Sexpr × Sexpr)} (ht : P target)
    (h : ∀ e ∈ keysAndValues entries, P e) : ∀ e ∈ entryChildren target entries, P e := by
  intro e he
  obtain ⟨p, hp, he⟩ := List.mem_flatMap.mp he
  have hpart : ∀ x, x = p.1 ∨ x = p.2 → P x := fun x hx => h x (mem_keysAndValues.mpr ⟨p, hp, hx⟩)
  simp only [List.mem_cons, List.not_mem_nil, or_false] at he
  rcases he with rfl | rfl | rfl
  · exact ht
  · exact hpart _ (.inl rfl)
  · exact hpart _ (.inr rfl)

theorem Hereditary.parts (hP : Hereditary P) {e : Sexpr} (h : P e) (he : e.isForm = false) :
    ∀ x ∈ e.parts, P x := fun _ => hP.part h he

theorem Hereditary.expansionChildren (hP : Hereditary P) (h : ∀ e ∈ args, P e) :
    ∀ e ∈ expansionChildren args, P e := by
  unfold Script.expansionChildren
  split
  · exact List.forall_mem_nil _
  · next heven =>
    split
    · exact List.forall_mem_cons.mpr ⟨hP.argAt h 0, List.forall_mem_nil _⟩
    · refine List.forall_mem_cons.mpr ⟨hP.argAt h 0, fun e he => ?_⟩
      rw [Option.mem_toList] at he
      obtain ⟨⟨mark, value⟩, hc, rfl⟩ := Option.map_eq_some_iff.mp he
      obtain ⟨k, hk⟩ := mem_of_chosenOption? hc
      apply h
      apply List.mem_of_mem_drop (i := 1)
      rw [← keysAndValues_pairUp _ heven]
      exact value_mem_keysAndValues hk

theorem Hereditary.functionChildren (hP : Hereditary P) {name signature : Sexpr}
    {body : List Sexpr} (hs : P signature) (h : ∀ e ∈ body, P e) :
    ∀ e ∈ functionChildren name signature body, P e := by
  unfold Script.functionChildren
  split
  · next g hg =>
    obtain ⟨k, rfl⟩ := Signature.ofSexpr_eq_ok_iff.mp hg
    intro e he
    rcases List.mem_append.mp he with he | he
    · exact hP.part hs rfl (List.mem_append_left _ he)
    · exact h e he
  · exact List.forall_mem_nil _

theorem Hereditary.definitionChildren (hP : Hereditary P) (h : ∀ e ∈ args, P e) :
    ∀ e ∈ definitionChildren args, P e := by
  have hd : ∀ e ∈ args.drop 1, P e := fun e he => h e (List.mem_of_mem_drop he)
  unfold Script.definitionChildren
  split
  · next heq =>
    rw [heq] at hd
    exact hP.functionChildren (hd _ (by simp)) fun e he => hd e (by simp [he])
  · exact List.forall_mem_nil _
  · exact List.forall_mem_nil _
  · next heq =>
    rw [heq] at hd
    exact hP.functionChildren (hd _ (by simp)) fun e he => hd e (by simp [he])

theorem Hereditary.special (hP : Hereditary P) (h : ∀ e ∈ args, P e) (special : Special)
    (hm : ∀ m, special = .dotted m → P (.symbol m)) :
    ∀ q ∈ special.children args ctx, P q.1 := by
  have h0 := hP.argAt h 0
  have h1 := hP.argAt h 1
  have hd : ∀ n, ∀ e ∈ args.drop n, P e := fun n e he => h e (List.mem_of_mem_drop he)
  cases special with
  | fileTest | negation | returning =>
    exact forall_inContext.mpr (List.forall_mem_cons.mpr ⟨h0, List.forall_mem_nil _⟩)
  | guarded | loop | construction =>
    exact forall_inContext.mpr (List.forall_mem_cons.mpr ⟨h0, hd 1⟩)
  | group | block | chain | concatenation | quotation | echo => exact forall_inContext.mpr h
  | assignment | setVariable | lookup | item =>
    exact forall_inContext.mpr
      (List.forall_mem_cons.mpr ⟨h0, List.forall_mem_cons.mpr ⟨h1, List.forall_mem_nil _⟩⟩)
  | setItem =>
    refine forall_inContext.mpr ?_
    simp only [List.forall_mem_cons]
    exact ⟨h0, h1, hP.argAt h 2, List.forall_mem_nil _⟩
  | conditional =>
    refine forall_inContext.mpr ?_
    simp only [List.cons_append, List.nil_append, List.forall_mem_cons]
    refine ⟨h0, h1, fun e he => ?_⟩
    rw [List.mem_singleton.mp (List.mem_filter.mp he).1]
    exact hP.argAt h 2
  | method =>
    exact forall_inContext.mpr
      (List.forall_mem_cons.mpr ⟨h0, List.forall_mem_cons.mpr ⟨h1, hd 2⟩⟩)
  | dotted m =>
    exact forall_inContext.mpr
      (List.forall_mem_cons.mpr ⟨h0, List.forall_mem_cons.mpr ⟨hm m rfl, hd 1⟩⟩)
  | expansion => exact forall_inContext.mpr (hP.expansionChildren h)
  | definition => exact forall_inContext.mpr (hP.definitionChildren h)
  | choice =>
    simp only [Special.children]
    split
    · exact List.forall_mem_nil _
    · refine forall_inContext.mpr fun e he => ?_
      rcases List.mem_append.mp he with he | he
      · exact hd 1 e he
      · cases List.mem_singleton.mp he
        exact h0
  | iteration =>
    simp only [Special.children]
    split
    · next kind target values heq =>
      rw [heq] at h0
      have hparts := hP.parts h0 rfl
      refine List.forall_mem_cons.mpr ⟨hparts values (by simp [Sexpr.parts]), ?_⟩
      exact forall_inContext.mpr
        (List.forall_mem_cons.mpr ⟨hparts target (by simp [Sexpr.parts]), hd 1⟩)
    · exact List.forall_mem_nil _
  | newVariable =>
    simp only [Special.children]
    split
    · next entries heq =>
      rw [heq] at h1
      exact forall_inContext.mpr
        (List.forall_mem_cons.mpr ⟨h0, forall_entryChildren h0 (hP.parts h1 rfl)⟩)
    · exact forall_inContext.mpr
        (List.forall_mem_cons.mpr ⟨h0, List.forall_mem_cons.mpr ⟨h1, List.forall_mem_nil _⟩⟩)
  | merge =>
    simp only [Special.children]
    split
    · next entries heq =>
      rw [heq] at h1
      exact forall_inContext.mpr (forall_entryChildren h0 (hP.parts h1 rfl))
    · exact List.forall_mem_nil _
  | associate =>
    have h12 : ∀ e ∈ keysAndValues [(Sexpr.argAt args 1, Sexpr.argAt args 2)], P e :=
      List.forall_mem_cons.mpr ⟨h1, List.forall_mem_cons.mpr ⟨hP.argAt h 2, List.forall_mem_nil _⟩⟩
    exact forall_inContext.mpr (List.forall_mem_cons.mpr ⟨h0, forall_entryChildren h0 h12⟩)

/-- What an expression is rendered with has a property that its parts have. -/
theorem Hereditary.children (hP : Hereditary P) {e : Sexpr} (h : ∀ x ∈ e.parts, P x) :
    ∀ q ∈ children e ctx, P q.1 := by
  cases e with
  | form items location =>
    have htail : ∀ e ∈ items.tail, P e := fun e he => h e (List.mem_of_mem_tail he)
    have hhead : P (headOf items) := by
      cases items with
      | nil => exact hP.nil
      | cons e es => exact h e List.mem_cons_self
    have command : ∀ head, P head → ∀ q ∈ inContext ctx (items.tail ++ [head]), P q.1 := by
      intro head hh
      refine forall_inContext.mpr fun e he => ?_
      rcases List.mem_append.mp he with he | he
      · exact htail e he
      · rwa [List.mem_singleton.mp he]
    simp only [Script.children, formChildren]
    split
    · next s hs =>
      rw [hs] at hhead
      split
      · next special hspecial =>
        exact hP.special htail special fun m hm =>
          hP.method (Special.dotted?_of_ofSymbol? (hm ▸ hspecial)) hhead
      · split
        · refine forall_inContext.mpr fun e he => ?_
          unfold operatorChildren at he
          split at he
          · next heq =>
            rw [heq] at htail
            simp only [List.mem_cons, List.not_mem_nil, or_false] at he
            rcases he with rfl | rfl
            · exact htail _ (by simp)
            · exact htail _ (by simp)
          · cases he
        · exact command _ hhead
    · exact command _ hhead
  | seq kind items => exact forall_inContext.mpr h
  | map entries => exact forall_inContext.mpr h
  | _ => exact List.forall_mem_nil _

end

theorem emit_nil (ctx : Context) : emit .nil ctx = .ok "null" := by
  rw [emit_eq]
  rfl

theorem emit_symbol (s : String) (ctx : Context) : emit (.symbol s) ctx = .ok s := by
  rw [emit_eq]
  rfl

variable {e x : Sexpr} {ctx c : Context} {f : Failure}

/-- A child that fails is in the expression, with no form in between. -/
theorem encloses_of_error (hx : (x, c) ∈ children e ctx) (h : emit x c = .error f) :
    e.Encloses x := by
  have hereditary : Hereditary fun x => e.Encloses x ∨ x = .nil ∨ ∃ s, x = .symbol s := by
    refine ⟨.inr (.inl rfl), fun {_ m} _ _ => .inr (.inr ⟨m, rfl⟩), ?_⟩
    rintro x y (hx | rfl | ⟨s, rfl⟩) hform hy
    · exact .inl (.inner hx hform hy)
    · cases hy
    · cases hy
  rcases hereditary.children (fun y hy => .inl (.part hy)) (x, c) hx with hx | rfl | ⟨s, rfl⟩
  · exact hx
  · cases (emit_nil c).symm.trans h
  · cases (emit_symbol s c).symm.trans h

/-- So is everything that is reached and fails, however deep. -/
theorem Reaches.contains {p q : Sexpr × Context} (h : Reaches p q)
    (hq : ∃ f, emit q.1 q.2 = .error f) : p.1.Contains q.1 := by
  induction h using Relation.ReflTransGen.head_induction_on with
  | refl => exact .refl
  | head hchild hrest ih =>
    obtain ⟨f, hf⟩ := Reaches.exists_error hrest hq
    exact (encloses_of_error hchild hf).contains.trans ih

/-! ## Attaching forms -/

theorem EmitError.form_attach (e : Sexpr) (err : EmitError) : (err.attach e).form ≠ none := by
  cases h : err.form <;> simp [attach, h]

theorem EmitError.attach_of_form {err : EmitError} (h : err.form ≠ none) (e : Sexpr) :
    err.attach e = err := by
  cases hf : err.form with
  | none => exact absurd hf h
  | some x => simp only [attach, hf]

/-- The refusal of a form names some form. -/
theorem form_of_emit_form {err : EmitError} (hx : x.isForm)
    (h : emit x c = .error (.refused err)) : err.form ≠ none := by
  obtain ⟨g, _, hg⟩ := emit_error_iff.mp h
  cases g with
  | overflow => cases hg
  | refused err' =>
    simp only [Failure.within, hx, if_true, Failure.refused.injEq] at hg
    rw [hg]
    exact err'.form_attach x

/-- The first expression to fail is the one whose failure is passed on. -/
theorem emit_of_mem_asked (hx : (x, c) ∈ (template e ctx).asked emit)
    (h : emit x c = .error f) : emit e ctx = .error (f.within e) :=
  emit_error_iff.mpr ⟨f, render_of_mem_asked hx h, rfl⟩

/-- The refusal of a form is that of a form in it, the innermost one around the defect. Of the
expressions that a form is rendered with, the first that is refused decides: its refusal is passed
on unless it names no form yet, and then it is attached to this form. -/
theorem emit_form_refused (items : List Sexpr) (location : Option Location) (ctx : Context) :
    (∀ err, emit (.form items location) ctx = .error (.refused err) →
      ∃ g d n c cause rule, g.isForm ∧ (Sexpr.form items location).Contains g ∧
        emit g d = .error (.refused err) ∧ Surrounds (g, d) (n, c) ∧
        Defect n c (.ofCause cause rule) ∧
        err = { cause, rule := rule.or g.headName?, form := some g, location := g.location? }) ∧
    ∀ x c err, (x, c) ∈ (template (.form items location) ctx).asked emit →
      emit x c = .error (.refused err) →
      (x.isForm → emit (.form items location) ctx = .error (.refused err)) ∧
      (err.form ≠ none → emit (.form items location) ctx = .error (.refused err)) ∧
      (err.form = none → (Sexpr.form items location).Encloses x ∧
        emit (.form items location) ctx = .error (.refused (err.attach (.form items location))) ∧
        (err.attach (.form items location)).form = some (.form items location)) := by
  refine ⟨?_, ?_⟩
  · intro err h
    obtain ⟨n, c, f, hf, ⟨hno, _⟩ | ⟨g, d, hg, hr, hs, heq, hwithin⟩⟩ :=
      exists_origin (Nat.le_refl _) h
    · cases hno
    · have hcontains := hr.contains ⟨_, heq⟩
      cases hf.bare with
      | overflow => cases hwithin
      | ofCause cause rule =>
        refine ⟨g, d, n, c, cause, rule, hg, hcontains, heq, hs, hf, ?_⟩
        simpa [Failure.within, Failure.ofCause, hg, EmitError.attach] using hwithin
  · intro x c err hx hx'
    have passed : emit (.form items location) ctx =
        .error (.refused (err.attach (.form items location))) := emit_of_mem_asked hx hx'
    have stays : err.form ≠ none → emit (.form items location) ctx = .error (.refused err) := by
      intro hform
      rw [passed, EmitError.attach_of_form hform]
    refine ⟨fun hform => stays (form_of_emit_form hform hx'), stays, fun hform => ?_⟩
    have hchild : (x, c) ∈ children (.form items location) ctx := by
      rw [← subs_template]
      exact (asked_prefix_subs _).subset hx
    exact ⟨encloses_of_error hchild hx', passed, by simp [EmitError.attach, hform]⟩

/-- A name with a hyphen, in a list in a form that is written elsewhere. -/
theorem emit_form_refused_setVariable : ∃ err g d,
    emit (.form [.symbol "println", .seq .list
      [.form [.symbol "set!", .symbol "a-b", .int 1] (some ⟨3, none, none⟩)]] none) {} =
        .error (.refused err) ∧
    emit g d = .error (.refused err) ∧ err.form = some g ∧ err.rule = some "set!" ∧
    err.location = some ⟨3, none, none⟩ := by
  have refused : emit (.form [.symbol "println", .seq .list
      [.form [.symbol "set!", .symbol "a-b", .int 1] (some ⟨3, none, none⟩)]] none) {} =
      .error (.refused ⟨.invalidIdentifier "a-b", some "set!",
        some (.form [.symbol "set!", .symbol "a-b", .int 1] (some ⟨3, none, none⟩)),
        some ⟨3, none, none⟩⟩) := rfl
  obtain ⟨g, d, n, c, cause, rule, _, _, hgd, _, _, heq⟩ :=
    (emit_form_refused _ _ _).1 _ refused
  obtain ⟨_, _, hform, _⟩ := EmitError.mk.inj heq
  exact ⟨_, g, d, refused, hgd, hform, rfl, rfl⟩

end Script

end SexprShell
