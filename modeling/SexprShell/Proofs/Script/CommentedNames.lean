import SexprShell.Proofs.Script.Hyphens

/-!
# Names with comments in them

An expression is rendered with comments and without. Either both succeed, or both fail in the same
way, or the first fails because a comment in a name holds a hyphen, while the name itself holds none
(`compared_emit`). So comments decide on success exactly where such a name is reached, which takes a
location whose citation holds a hyphen (`emit_comments_outcome`).
-/

namespace SexprShell.Script

open Sexpr Template Relation

/-! ## Two outcomes -/

/-- Failures for causes of one kind, by one rule and in one place. The refused names may differ. -/
inductive Failure.Akin : Failure → Failure → Prop where
  | overflow : Akin .overflow .overflow
  | refused {f g : EmitError} : f.cause.kind = g.cause.kind → f.rule = g.rule → f.form = g.form →
      f.location = g.location → Akin (.refused f) (.refused g)

/-- Without comments a text keeps its hyphens, unless these are in the comments, which means that
`H`. -/
structure Decommented (H : Prop) (x y : String) : Prop where
  kept : Hyphened y → Hyphened x
  cited : Hyphened x → Hyphened y ∨ H

/-- The outcome with comments and the outcome without: texts, or failures of one kind, unless the
first is a failure that comments are to blame for. -/
inductive Compared (H : Prop) (Blamed : Failure → Prop) : Outcome → Outcome → Prop where
  | texts {x y : String} : Decommented H x y → Compared H Blamed (.ok x) (.ok y)
  | failures {f g : Failure} : f.Akin g → Compared H Blamed (.error f) (.error g)
  | blamed {f : Failure} {o : Outcome} : H → Blamed f → Compared H Blamed (.error f) o

theorem Failure.Akin.refl (f : Failure) : f.Akin f := by
  cases f with
  | overflow => exact .overflow
  | refused => exact .refused rfl rfl rfl rfl

theorem Failure.Akin.within {f g : Failure} (h : f.Akin g) (e : Sexpr) :
    (f.within e).Akin (g.within e) := by
  cases h with
  | overflow => exact .overflow
  | @refused f g hkind hrule hform hlocation =>
    cases he : e.isForm with
    | false =>
      rw [Failure.within_of_not_form he, Failure.within_of_not_form he]
      exact .refused hkind hrule hform hlocation
    | true =>
      rw [Failure.refused_within_of_form he, Failure.refused_within_of_form he]
      unfold EmitError.attach
      rw [hform]
      split
      · exact .refused hkind hrule hform hlocation
      · exact .refused hkind (congrArg (·.or e.headName?) hrule) rfl rfl

namespace Decommented

variable {H : Prop} {x y u v x' y' : String}

theorem refl (x : String) : Decommented H x x := ⟨id, .inl⟩

/-- A change that keeps hyphens, and puts none in. -/
theorem map (h : Decommented H x y) (hx : Hyphened x' ↔ Hyphened x)
    (hy : Hyphened y' ↔ Hyphened y) : Decommented H x' y' := by
  refine ⟨?_, ?_⟩
  · rw [hx, hy]
    exact h.kept
  · rw [hx, hy]
    exact h.cited

/-- Two parts that are put together. -/
theorem both (h : Decommented H x y) (h' : Decommented H u v)
    (hx : Hyphened x' ↔ Hyphened x ∨ Hyphened u) (hy : Hyphened y' ↔ Hyphened y ∨ Hyphened v) :
    Decommented H x' y' := by
  refine ⟨fun hyphen => ?_, fun hyphen => ?_⟩
  · exact hx.mpr ((hy.mp hyphen).imp h.kept h'.kept)
  · rw [hy]
    rcases hx.mp hyphen with hyphen | hyphen
    · exact (h.cited hyphen).imp_left .inl
    · exact (h'.cited hyphen).imp_left .inr

/-- A statement and its comment, which means that `H` if it holds a hyphen. -/
theorem asStatement {comment : String} (hcomment : Hyphened comment → H) (h : Decommented H x y) :
    Decommented H (asStatement comment x) (Script.asStatement "" y) := by
  have bare : Hyphened (Script.asStatement "" y) ↔ Hyphened y := by
    simp [hyphened_asStatement, not_hyphened_empty]
  refine ⟨fun hyphen => ?_, fun hyphen => ?_⟩
  · exact hyphened_asStatement.mpr (.inl (h.kept (bare.mp hyphen)))
  · rw [bare]
    rcases hyphened_asStatement.mp hyphen with hyphen | ⟨_, hyphen⟩
    · exact h.cited hyphen
    · exact .inr (hcomment hyphen)

end Decommented

namespace Compared

variable {H : Prop} {P Q : Failure → Prop} {o o' : Outcome}

theorem mono (h : Compared H P o o') (imp : ∀ f, P f → Q f) : Compared H Q o o' := by
  cases h with
  | texts h => exact .texts h
  | failures h => exact .failures h
  | blamed hH h => exact .blamed hH (imp _ h)

/-- What is done next is compared where both have succeeded. -/
theorem bind {g g' : String → Outcome} (h : Compared H P o o')
    (next : ∀ x y, o = .ok x → o' = .ok y → Decommented H x y → Compared H P (g x) (g' y)) :
    Compared H P (o >>= g) (o' >>= g') := by
  cases h with
  | texts h => exact next _ _ rfl rfl h
  | failures h => exact .failures h
  | blamed hH h => exact .blamed hH h

theorem within {e : Sexpr} (h : Compared H (fun f => P (f.within e)) o o') :
    Compared H P (o.mapError (Failure.within e)) (o'.mapError (Failure.within e)) := by
  cases h with
  | texts h => exact .texts h
  | failures h => exact .failures (h.within e)
  | blamed hH h => exact .blamed hH h

theorem exists_text {x : String} (h : Compared H P (.ok x) o') : ∃ y, o' = .ok y := by
  cases h with
  | texts => exact ⟨_, rfl⟩

theorem text_or_blamed {y : String} (h : Compared H P o (.ok y)) :
    (∃ x, o = .ok x) ∨ H ∧ ∃ f, o = .error f ∧ P f := by
  cases h with
  | texts => exact .inl ⟨_, rfl⟩
  | blamed hH h => exact .inr ⟨hH, _, rfl, h⟩

theorem failure_or_blamed {f : Failure} (h : Compared H P (.error f) o') :
    (∃ g, o' = .error g ∧ f.Akin g) ∨ H ∧ P f := by
  cases h with
  | failures h => exact .inl ⟨_, rfl, h⟩
  | blamed hH h => exact .inr ⟨hH, h⟩

end Compared

/-! ## Two renderings -/

namespace Template

variable {names : String → Sexpr × Context → Prop} {H : Prop} {P : Failure → Prop} {t : Template}
  {x y : String}

/-- Names apart, a text is finished with comments as it is without. -/
theorem compared_apply {f : Finish} (hf : ∀ rule, f ≠ .identifier rule)
    (ht : (finish f t).Vetted names H) (h : Decommented H x y) :
    Compared H P (f.apply x) (f.hushed.apply y) := by
  cases f with
  | identifier rule => exact absurd rfl (hf rule)
  | munged =>
    refine .texts ⟨fun hyphen => ?_, fun hyphen => ?_⟩
    · exact absurd hyphen (not_hyphened_munged y)
    · exact absurd hyphen (not_hyphened_munged x)
  | operand => exact .texts (h.map hyphened_asOperand hyphened_asOperand)
  | branch block => exact .texts (h.map hyphened_asBranch hyphened_asBranch)
  | stripped => exact .texts (h.map hyphened_strip hyphened_strip)
  | dropped => exact .texts (.refl "")
  | statement comment =>
    have hushed : (Finish.statement comment).hushed = .statement "" := by
      rcases ht.1 with rfl | ⟨hmark, _⟩
      · rfl
      · rw [Finish.hushed, if_pos hmark]
    have cited : Hyphened comment → H := by
      rcases ht.1 with rfl | ⟨_, hcited⟩
      · exact fun hyphen => absurd hyphen not_hyphened_empty
      · exact hcited
    rw [hushed]
    exact .texts (h.asStatement cited)

/-- A name is refused with a comment and without, or with neither, or because of the comment. -/
theorem compared_identifier {rule : String} (h : Decommented H x y)
    (hblamed : Hyphened x → ¬ Hyphened y → P (.ofCause (.invalidIdentifier x) (some rule))) :
    Compared H P (identifier (some rule) x) (identifier (some rule) y) := by
  have refused {s : String} (hs : Hyphened s) : identifier (some rule) s =
      .error (.ofCause (.invalidIdentifier s) (some rule)) :=
    if_pos (List.contains_iff_mem.mpr hs)
  have passed {s : String} (hs : ¬ Hyphened s) : identifier (some rule) s = .ok s :=
    if_neg (mt List.contains_iff_mem.mp hs)
  by_cases hx : Hyphened x
  · rw [refused hx]
    by_cases hy : Hyphened y
    · rw [refused hy]
      exact .failures (.refused rfl rfl rfl rfl)
    · exact .blamed ((h.cited hx).resolve_left hy) (hblamed hx hy)
  · rw [passed hx, passed (mt h.kept hx)]
    exact .texts h

/-- A template is compared with the template without comments, if the expressions in it are. The
names that it checks may be refused because of a comment. -/
theorem compared_render (ht : t.Vetted names H)
    (hsubs : ∀ q ∈ t.subs, Compared H P (emit q.1 q.2) (emit q.1 q.2.quiet))
    (hnames : ∀ rule q x y, names rule q → emit q.1 q.2 = .ok x → emit q.1 q.2.quiet = .ok y →
      Hyphened x → ¬ Hyphened y → P (.ofCause (.invalidIdentifier x) (some rule))) :
    Compared H P (t.render emit) (t.hushed.render emit) := by
  induction t with
  | text s => exact .texts (.refl s)
  | fail f => exact .failures (.refl f)
  | sub e ctx => exact hsubs (e, ctx) (by simp [subs])
  | append a b iha ihb =>
    simp only [subs, List.mem_append] at hsubs
    refine (iha ht.1 fun q hq => hsubs q (.inl hq)).bind fun x y _ _ first => ?_
    refine (ihb ht.2 fun q hq => hsubs q (.inr hq)).bind fun u v _ _ second => ?_
    exact .texts (first.both second hyphened_append hyphened_append)
  | late a b iha ihb =>
    simp only [subs, List.mem_append] at hsubs
    refine (ihb ht.2 fun q hq => hsubs q (.inl hq)).bind fun u v _ _ back => ?_
    refine (iha ht.1 fun q hq => hsubs q (.inr hq)).bind fun x y _ _ front => ?_
    exact .texts (front.both back hyphened_append hyphened_append)
  | chain op a b iha ihb =>
    simp only [subs, List.mem_append] at hsubs
    refine (iha ht.2.1 fun q hq => hsubs q (.inl hq)).bind fun x y _ _ first => ?_
    refine (ihb ht.2.2 fun q hq => hsubs q (.inr hq)).bind fun u v _ _ rest => ?_
    exact .texts (first.both rest (hyphened_chainOnto ht.1) (hyphened_chainOnto ht.1))
  | finish f t ih =>
    by_cases hf : ∃ rule, f = .identifier rule
    · obtain ⟨rule, rfl⟩ := hf
      obtain ⟨e, ctx, rfl, hname⟩ := ht
      refine (hsubs (e, ctx) (by simp [subs])).bind fun x y hx hy h => ?_
      exact compared_identifier h (hnames rule _ x y hname hx hy)
    · rw [not_exists] at hf
      have inner : t.Vetted names H := by
        cases f with
        | identifier rule => exact absurd rfl (hf rule)
        | statement comment => exact ht.2
        | _ => exact ht
      exact (ih inner hsubs).bind fun x y _ _ h => compared_apply hf ht h

end Template

/-! ## Expressions -/

/-- A form refuses a name with a hyphen, which is in a comment: without comments the name has a text
without hyphens. -/
inductive RefusesComment (n : Sexpr) (c : Context) : Failure → Prop where
  | name {rule : String} {q : Sexpr × Context} {x y : String} : IsCheckedName n c rule q →
      emit q.1 q.2 = .ok x → emit q.1 q.2.quiet = .ok y → Hyphened x → ¬ Hyphened y →
      RefusesComment n c (.ofCause (.invalidIdentifier x) (some rule))

/-- The failure is that of a name which is refused for a comment in the course of rendering. -/
def BlamedOnComment (q : Sexpr × Context) (f : Failure) : Prop :=
  ∃ n c g, Reaches q (n, c) ∧ RefusesComment n c g ∧ f = g.within n

section

variable {n e : Sexpr} {c ctx : Context} {f : Failure} {H : Prop}

theorem RefusesComment.isForm (h : RefusesComment n c f) : n.isForm := by
  cases h with
  | name hname => cases hname with
    | name _ hn => rw [hn]; rfl

theorem RefusesComment.defect (h : RefusesComment n c f) : Defect n c f := by
  cases h with
  | name hname hx _ hyphen _ => cases hname with
    | name hrule hn =>
      rw [hn]
      exact .form _ (.variableName hrule hx hyphen)

/-- With comments an expression has a text exactly if it has one without, unless a name is refused
for a comment on the way. -/
theorem compared_emit (h : e.Everywhere (CitesHyphen H)) :
    Compared H (BlamedOnComment (e, ctx)) (emit e ctx) (emit e ctx.quiet) := by
  induction e, ctx using children_induction with
  | step e ctx ih =>
    rw [emit_eq, emit_eq e ctx.quiet, ← template_hushed]
    apply Compared.within
    apply compared_render (template_vetted h)
    · intro q hq
      rw [subs_template] at hq
      refine (ih q hq (nodewise_citesHyphen.children h q hq)).mono ?_
      rintro _ ⟨n, c, g, hreach, hg, rfl⟩
      exact ⟨n, c, g, .head hq hreach, hg, Failure.within_within_of_form hg.isForm g⟩
    · intro rule q x y hname hx hy hyphened plain
      exact ⟨e, ctx, _, .refl, .name hname hx hy hyphened plain, rfl⟩

/-- Comments decide whether an expression has a text exactly where it has one without them, but a
name is refused for a comment on the way. A failure with comments is one without them, of the same
kind and by the same rule, unless it is the refusal of such a name. Where no location is cited with
a hyphen there is no such name, so that comments do not decide on success. -/
theorem emit_comments_outcome (e : Sexpr) (delimited : Bool) :
    let commented : Context := ⟨delimited, true⟩
    let bare : Context := ⟨delimited, false⟩
    ((∃ x, emit e commented = .ok x) ↔ (∃ y, emit e bare = .ok y) ∧
      ∀ n c f, Reaches (e, commented) (n, c) → ¬ RefusesComment n c f) ∧
    (∀ f, emit e commented = .error f →
      (∃ g, emit e bare = .error g ∧ f.Akin g) ∨ BlamedOnComment (e, commented) f) ∧
    (e.Everywhere (CitesHyphen False) →
      ((∃ x, emit e commented = .ok x) ↔ ∃ y, emit e bare = .ok y) ∧
      ∀ f g, emit e commented = .error f → emit e bare = .error g → f.Akin g) := by
  intro commented bare
  have everywhere : e.Everywhere (CitesHyphen True) := fun _ _ _ _ _ => trivial
  have compared : Compared True (BlamedOnComment (e, commented)) (emit e commented) (emit e bare) :=
    compared_emit everywhere
  have strict (hcited : e.Everywhere (CitesHyphen False)) :
      Compared False (BlamedOnComment (e, commented)) (emit e commented) (emit e bare) :=
    compared_emit hcited
  refine ⟨⟨?_, ?_⟩, fun f hf => ?_, fun hcited => ⟨⟨?_, ?_⟩, fun f g hf hg => ?_⟩⟩
  · rintro ⟨x, hx⟩
    refine ⟨(hx ▸ compared).exists_text, fun n c f hreach hrefuses => ?_⟩
    obtain ⟨g, hg⟩ := hreach.exists_error (exists_error_of_defect hrefuses.defect)
    cases hx.symm.trans hg
  · rintro ⟨⟨y, hy⟩, unblamed⟩
    rw [hy] at compared
    apply compared.text_or_blamed.resolve_right
    rintro ⟨-, _, -, n, c, g, hreach, hrefuses, -⟩
    exact unblamed n c g hreach hrefuses
  · rw [hf] at compared
    exact compared.failure_or_blamed.imp_right And.right
  · rintro ⟨x, hx⟩
    exact (hx ▸ compared).exists_text
  · rintro ⟨y, hy⟩
    have unblamed := strict hcited
    rw [hy] at unblamed
    exact unblamed.text_or_blamed.resolve_right And.left
  · have unblamed := strict hcited
    rw [hf, hg] at unblamed
    obtain ⟨_, hg', hakin⟩ := unblamed.failure_or_blamed.resolve_right And.left
    cases hg'
    exact hakin

/-- A failure that has nothing to do with the comment in the name in front of it. -/
theorem emit_comments_outcome_operand :
    let x := Sexpr.form [.symbol "x"] (some ⟨1, some "a.sh", none⟩)
    let sum := Sexpr.form [.symbol "+", .int 1] none
    let e := Sexpr.form [.symbol "set!", .form [.symbol "do", x] none, sum] none
    let f := Failure.refused ⟨.tooFewOperands "+" 1, some "+", some sum, none⟩
    e.Everywhere (CitesHyphen False) ∧ emit e ⟨true, true⟩ = .error f ∧
    ((∃ g, emit e ⟨true, false⟩ = .error g ∧ f.Akin g) ∨ BlamedOnComment (e, ⟨true, true⟩) f) ∧
    ∀ g, emit e ⟨true, false⟩ = .error g → f.Akin g := by
  have failure : emit (.form [.symbol "set!", .form [.symbol "do",
      .form [.symbol "x"] (some ⟨1, some "a.sh", none⟩)] none,
      .form [.symbol "+", .int 1] none] none) ⟨true, true⟩ = .error (.refused
      ⟨.tooFewOperands "+" 1, some "+", some (.form [.symbol "+", .int 1] none), none⟩) := by rfl
  intro x sum e f
  have bare (s : String) : (Sexpr.symbol s).Everywhere (CitesHyphen False) :=
    everywhere_of_parts_eq_nil rfl (citesHyphen_of_unlocated rfl)
  have located : x.Everywhere (CitesHyphen False) := by
    refine everywhere_iff.mpr ⟨?_, List.forall_mem_singleton.mpr (bare "x")⟩
    intro l hl
    cases hl
    decide
  have block : (Sexpr.form [.symbol "do", x] none).Everywhere (CitesHyphen False) :=
    everywhere_iff.mpr ⟨citesHyphen_of_unlocated rfl, by simp [parts, bare, located]⟩
  have value : sum.Everywhere (CitesHyphen False) := by
    refine everywhere_iff.mpr ⟨citesHyphen_of_unlocated rfl, ?_⟩
    simp only [sum, parts, List.forall_mem_cons]
    have one : (Sexpr.int 1).Everywhere (CitesHyphen False) :=
      everywhere_of_parts_eq_nil rfl (citesHyphen_of_unlocated rfl)
    exact ⟨bare "+", one, List.forall_mem_nil _⟩
  have cited : e.Everywhere (CitesHyphen False) :=
    everywhere_iff.mpr ⟨citesHyphen_of_unlocated rfl, by simp [e, parts, bare, block, value]⟩
  obtain ⟨-, failing, same⟩ := emit_comments_outcome e true
  exact ⟨cited, failure, failing f failure, fun g hg => (same cited).2 f g failure hg⟩

/-- The hyphen in the name of a file makes a name be refused that holds none. -/
theorem emit_comment_in_name :
    let x := Sexpr.form [.symbol "x"] (some ⟨1, some "a-b.sh", none⟩)
    let e := Sexpr.form [.symbol "set!", .form [.symbol "do", x] none, .int 1] none
    emit e ⟨true, true⟩ = .error (.refused
      ⟨.invalidIdentifier "x # a-b.sh:1\n", some "set!", some e, none⟩) ∧
    emit e ⟨true, false⟩ = .ok "x\n=1" :=
  ⟨rfl, rfl⟩

end

end SexprShell.Script
