import SexprShell.Script.Template

/-!
# Failures of templates

A template fails because of an expression that it asks for, or because of a fault of its own: a
refusal, or a text that is refused as a name. `asked` are the expressions that are asked for until
the first failure, which is the failure of the template (`render_of_mem_asked`, `render_error`).
-/

namespace SexprShell.Script.Template

/-! ## Expressions in the order of rendering -/

section subs

variable {ts : List Template} {es : List Sexpr} {ctx : Context}

@[simp] theorem subs_concat : ∀ ts : List Template, (concat ts).subs = ts.flatMap subs
  | [] => rfl
  | [t] => by simp [concat]
  | t :: u :: ts => by
    rw [concat, subs, subs_concat (u :: ts), List.flatMap_cons]
    · rfl
    · rintro ⟨⟩

@[simp] theorem subs_separated (sep : String) : ∀ ts : List Template,
    (separated sep ts).subs = ts.flatMap subs
  | [] => rfl
  | [t] => by simp [separated]
  | t :: u :: ts => by
    rw [separated, subs, subs, subs, subs_separated sep (u :: ts), List.flatMap_cons]
    · simp
    · simp

@[simp] theorem subs_chainOf (op : String) : ∀ ts : List Template,
    (chainOf op ts).subs = ts.flatMap subs
  | [] => rfl
  | t :: ts => by rw [chainOf, subs, subs_chainOf op ts, List.flatMap_cons]

@[simp] theorem flatMap_subs_each : (each es ctx).flatMap subs = es.map (·, ctx) := by
  simp [each, List.flatMap_map, subs, ← List.map_eq_flatMap]

@[simp] theorem subs_statements : (statements es ctx).subs = es.map (·, ctx) := by
  simp [statements, List.flatMap_map, subs, ← List.map_eq_flatMap]

end subs

/-! ## Faults -/

variable {emit : Sexpr → Context → Outcome} {t a b : Template} {ts : List Template}
  {s : Sexpr × Context} {f : Failure}

/-- A failure of a template apart from those of the expressions that it asks for. -/
def Faulty (emit : Sexpr → Context → Outcome) : Template → Failure → Prop
  | text _, _ | sub _ _, _ => False
  | fail f, g => g = f
  | append a b, f | chain _ a b, f | late a b, f => a.Faulty emit f ∨ b.Faulty emit f
  | finish x t, f => t.Faulty emit f ∨ ∃ s, t.render emit = .ok s ∧ x.apply s = .error f

@[simp] theorem faulty_text {x : String} : ¬ (text x).Faulty emit f := id

@[simp] theorem faulty_sub {e : Sexpr} {ctx : Context} : ¬ (sub e ctx).Faulty emit f := id

@[simp] theorem faulty_refuse {c : Cause} {r : Option String} :
    (refuse c r).Faulty emit f ↔ f = .ofCause c r := Iff.rfl

@[simp] theorem faulty_append : (append a b).Faulty emit f ↔ a.Faulty emit f ∨ b.Faulty emit f :=
  Iff.rfl

@[simp] theorem faulty_late : (late a b).Faulty emit f ↔ a.Faulty emit f ∨ b.Faulty emit f :=
  Iff.rfl

@[simp] theorem faulty_concat : ∀ {ts : List Template},
    (concat ts).Faulty emit f ↔ ∃ t ∈ ts, t.Faulty emit f
  | [] => by simp [concat]
  | [t] => by simp [concat]
  | t :: u :: ts => by
    simp only [concat, faulty_append, @faulty_concat (u :: ts), List.mem_cons, exists_eq_or_imp]

@[simp] theorem faulty_separated {sep : String} : ∀ {ts : List Template},
    (separated sep ts).Faulty emit f ↔ ∃ t ∈ ts, t.Faulty emit f
  | [] => by simp [separated]
  | [t] => by simp [separated]
  | t :: u :: ts => by
    simp only [separated, faulty_append, faulty_text, @faulty_separated sep (u :: ts),
      List.mem_cons, exists_eq_or_imp, false_or]

@[simp] theorem faulty_chainOf {op : String} : ∀ {ts : List Template},
    (chainOf op ts).Faulty emit f ↔ ∃ t ∈ ts, t.Faulty emit f
  | [] => by simp [chainOf]
  | t :: ts => by
    simp only [chainOf, Faulty, @faulty_chainOf op ts, List.mem_cons, exists_eq_or_imp]

@[simp] theorem faulty_ofOutcome {o : Outcome} : (ofOutcome o).Faulty emit f ↔ o = .error f := by
  cases o with
  | ok x => simp [ofOutcome]
  | error g => simp [ofOutcome, Faulty, eq_comm]

/-- Only a name can be refused once there is a text. -/
@[simp] theorem faulty_finish_identifier {rule : String} :
    (finish (.identifier rule) t).Faulty emit f ↔ t.Faulty emit f ∨
      ∃ x, t.render emit = .ok x ∧ '-' ∈ x.toList ∧
        f = .ofCause (.invalidIdentifier x) (some rule) := by
  simp only [Faulty, Finish.apply, identifier]
  refine or_congr_right (exists_congr fun x => and_congr_right fun _ => ?_)
  by_cases h : '-' ∈ x.toList <;> simp [h, eq_comm]

theorem faulty_finish {x : Finish} (hx : ∀ rule, x ≠ .identifier rule) :
    (finish x t).Faulty emit f ↔ t.Faulty emit f := by
  cases x with
  | identifier rule => exact absurd rfl (hx rule)
  | _ => simp [Faulty, Finish.apply]

/-- Templates of one kind have no faults if none of that kind has. -/
theorem not_faulty_map {α : Type} {g : α → Template} {xs : List α}
    (h : ∀ x, ¬ (g x).Faulty emit f) : ¬ ∃ t ∈ xs.map g, t.Faulty emit f := by
  rintro ⟨t, ht, hf⟩
  obtain ⟨x, _, rfl⟩ := List.mem_map.mp ht
  exact h x hf

@[simp] theorem faulty_statements {es : List Sexpr} {ctx : Context} :
    ¬ (statements es ctx).Faulty emit f := by
  rw [statements, faulty_concat]
  exact not_faulty_map fun e => by simp [faulty_finish]

@[simp] theorem faulty_each {es : List Sexpr} {ctx : Context} :
    ¬ ∃ t ∈ each es ctx, t.Faulty emit f :=
  not_faulty_map fun _ => faulty_sub

/-! ## Rendering up to the first failure -/

/-- The expressions asked for until the first failure, in order. -/
def asked (emit : Sexpr → Context → Outcome) : Template → List (Sexpr × Context)
  | text _ | fail _ => []
  | sub e ctx => [(e, ctx)]
  | append a b | chain _ a b =>
    a.asked emit ++ if (a.render emit).isOk then b.asked emit else []
  | late a b => b.asked emit ++ if (b.render emit).isOk then a.asked emit else []
  | finish _ t => t.asked emit

/-- Of two outcomes that are both needed, the first failure is the failure of both. -/
theorem both_error {x y : Outcome} {k : String → String → String}
    (h : (do let a ← x; let b ← y; .ok (k a b)) = (.error f : Outcome)) :
    x = .error f ∨ x.isOk ∧ y = .error f := by
  cases x with
  | error g => cases h; exact .inl rfl
  | ok a =>
    cases y with
    | error g => cases h; exact .inr ⟨rfl, rfl⟩
    | ok b => cases h

theorem both_of_left {x y : Outcome} {k : String → String → String} (h : x = .error f) :
    (do let a ← x; let b ← y; .ok (k a b)) = (.error f : Outcome) := by
  rw [h]
  rfl

theorem both_of_right {x y : Outcome} {k : String → String → String} (hx : x.isOk)
    (h : y = .error f) : (do let a ← x; let b ← y; .ok (k a b)) = (.error f : Outcome) := by
  cases x with
  | error g => cases hx
  | ok a =>
    rw [h]
    rfl

theorem both_ok {x y : Outcome} {k : String → String → String} {r : String}
    (h : (do let a ← x; let b ← y; .ok (k a b)) = (.ok r : Outcome)) :
    ∃ a b, x = .ok a ∧ y = .ok b ∧ k a b = r := by
  cases x with
  | error g => cases h
  | ok a =>
    cases y with
    | error g => cases h
    | ok b => exact ⟨a, b, rfl, rfl, Except.ok.inj h⟩

/-- Where the failure of a template comes from. -/
theorem render_error (h : t.render emit = .error f) :
    (∃ s ∈ t.asked emit, emit s.1 s.2 = .error f) ∨ t.Faulty emit f := by
  induction t with
  | text s => cases h
  | sub e ctx => exact .inl ⟨(e, ctx), by simp [asked], h⟩
  | fail g => cases h; exact .inr rfl
  | append a b iha ihb | chain _ a b iha ihb =>
    rcases both_error h with ha | ⟨ha, hb⟩
    · rcases iha ha with ⟨s, hs, he⟩ | hf
      · exact .inl ⟨s, by simp [asked, hs], he⟩
      · exact .inr (.inl hf)
    · rcases ihb hb with ⟨s, hs, he⟩ | hf
      · exact .inl ⟨s, by simp [asked, ha, hs], he⟩
      · exact .inr (.inr hf)
  | late a b iha ihb =>
    rcases both_error h with hb | ⟨hb, ha⟩
    · rcases ihb hb with ⟨s, hs, he⟩ | hf
      · exact .inl ⟨s, by simp [asked, hs], he⟩
      · exact .inr (.inr hf)
    · rcases iha ha with ⟨s, hs, he⟩ | hf
      · exact .inl ⟨s, by simp [asked, hb, hs], he⟩
      · exact .inr (.inl hf)
  | finish x t ih =>
    cases ht : t.render emit with
    | error g =>
      rw [render, ht] at h
      cases h
      exact (ih ht).imp id .inl
    | ok s =>
      rw [render, ht] at h
      exact .inr (.inr ⟨s, ht, h⟩)

/-- The expression that fails is asked for last, and its failure is that of the template. -/
theorem render_of_mem_asked (hs : s ∈ t.asked emit) (h : emit s.1 s.2 = .error f) :
    t.render emit = .error f := by
  induction t with
  | text | fail => cases hs
  | sub e ctx =>
    cases List.mem_singleton.mp hs
    exact h
  | append a b iha ihb | chain _ a b iha ihb =>
    rcases List.mem_append.mp hs with hs | hs
    · exact both_of_left (iha hs)
    · split at hs
      · next ha => exact both_of_right ha (ihb hs)
      · cases hs
  | late a b iha ihb =>
    rcases List.mem_append.mp hs with hs | hs
    · exact both_of_left (ihb hs)
    · split at hs
      · next hb => exact both_of_right hb (iha hs)
      · cases hs
  | finish x t ih =>
    rw [render, ih hs]
    rfl

/-- A template that has a text has asked for everything, and has no fault. -/
theorem render_ok {x : String} (h : t.render emit = .ok x) :
    t.asked emit = t.subs ∧ ∀ f, ¬ t.Faulty emit f := by
  induction t generalizing x with
  | text | sub => exact ⟨rfl, fun _ => id⟩
  | fail => cases h
  | append a b iha ihb | chain _ a b iha ihb =>
    obtain ⟨u, v, ha, hb, -⟩ := both_ok h
    obtain ⟨hsa, hfa⟩ := iha ha
    obtain ⟨hsb, hfb⟩ := ihb hb
    exact ⟨by simp [asked, subs, hsa, hsb, ha, Except.isOk, Except.toBool],
      fun f hf => hf.elim (hfa f) (hfb f)⟩
  | late a b iha ihb =>
    obtain ⟨v, u, hb, ha, -⟩ := both_ok h
    obtain ⟨hsa, hfa⟩ := iha ha
    obtain ⟨hsb, hfb⟩ := ihb hb
    exact ⟨by simp [asked, subs, hsa, hsb, hb, Except.isOk, Except.toBool],
      fun f hf => hf.elim (hfa f) (hfb f)⟩
  | finish z t ih =>
    cases ht : t.render emit with
    | error g => rw [render, ht] at h; cases h
    | ok u =>
      rw [render, ht] at h
      obtain ⟨hs, hf⟩ := ih ht
      refine ⟨hs, ?_⟩
      rintro f (hft | ⟨v, hv, hz⟩)
      · exact hf f hft
      · cases ht.symm.trans hv
        cases hz.symm.trans h

theorem isOk_iff {o : Outcome} : o.isOk = true ↔ ∃ x, o = .ok x := by
  cases o with
  | error g =>
    constructor
    · rintro ⟨⟩
    · rintro ⟨_, ⟨⟩⟩
  | ok x => exact ⟨fun _ => ⟨x, rfl⟩, fun _ => rfl⟩

/-- What is asked for are the first of the expressions that a template could ask for. -/
theorem asked_prefix_subs : ∀ t : Template, t.asked emit <+: t.subs
  | text _ | fail _ | sub .. => List.prefix_refl _
  | append a b | chain _ a b => by
    rw [asked, subs]
    split
    · next ha =>
      obtain ⟨x, hx⟩ := isOk_iff.mp ha
      rw [(render_ok hx).1, List.prefix_append_right_inj]
      exact asked_prefix_subs b
    · rw [List.append_nil]
      exact (asked_prefix_subs a).trans (List.prefix_append _ _)
  | late a b => by
    rw [asked, subs]
    split
    · next hb =>
      obtain ⟨x, hx⟩ := isOk_iff.mp hb
      rw [(render_ok hx).1, List.prefix_append_right_inj]
      exact asked_prefix_subs a
    · rw [List.append_nil]
      exact (asked_prefix_subs b).trans (List.prefix_append _ _)
  | finish _ t => asked_prefix_subs t

/-- A failure among all the expressions that a template could ask for is one of the template. -/
theorem exists_error_of_mem_subs (hs : s ∈ t.subs) (h : emit s.1 s.2 = .error f) :
    ∃ g, t.render emit = .error g := by
  cases ht : t.render emit with
  | error g => exact ⟨g, rfl⟩
  | ok x =>
    rw [← (render_ok ht).1] at hs
    cases ht.symm.trans (render_of_mem_asked hs h)

theorem exists_error_of_faulty (h : t.Faulty emit f) : ∃ g, t.render emit = .error g := by
  cases ht : t.render emit with
  | error g => exact ⟨g, rfl⟩
  | ok x => exact absurd h ((render_ok ht).2 f)

/-! ## The first failure in the order of rendering -/

variable {earlier later : List (Sexpr × Context)}

/-- Without a fault of its own a template fails as the first of its expressions that does. -/
theorem render_of_first_error (hfault : ∀ g, ¬ t.Faulty emit g)
    (hsubs : t.subs = earlier ++ s :: later)
    (hearlier : ∀ u ∈ earlier, ∃ x, emit u.1 u.2 = .ok x) (hs : emit s.1 s.2 = .error f) :
    t.render emit = .error f := by
  have here : s ∈ t.subs := by rw [hsubs]; simp
  obtain ⟨g, hg⟩ := exists_error_of_mem_subs here hs
  -- Asking does not end among the earlier expressions, since all of them have texts.
  obtain ⟨u, hu, hfail⟩ := (render_error hg).resolve_right (hfault g)
  have asked : t.asked emit <+: t.subs := asked_prefix_subs t
  rw [hsubs] at asked
  rcases List.prefix_or_prefix_of_prefix asked (List.prefix_append earlier (s :: later)) with
    hinitial | ⟨rest, hrest⟩
  · obtain ⟨x, hx⟩ := hearlier u (hinitial.subset hu)
    cases hx.symm.trans hfail
  · rw [← hrest, List.prefix_append_right_inj] at asked
    cases rest with
    | nil =>
      rw [← hrest, List.append_nil] at hu
      obtain ⟨x, hx⟩ := hearlier u hu
      cases hx.symm.trans hfail
    | cons r rest =>
      obtain ⟨rfl, -⟩ := List.cons_prefix_cons.mp asked
      refine render_of_mem_asked (s := r) ?_ hs
      rw [← hrest]
      simp

theorem render_eq_error_iff (hfault : ∀ g, ¬ t.Faulty emit g) : t.render emit = .error f ↔
    ∃ earlier s later, t.subs = earlier ++ s :: later ∧
      (∀ u ∈ earlier, ∃ x, emit u.1 u.2 = .ok x) ∧ emit s.1 s.2 = .error f := by
  constructor
  · intro h
    obtain ⟨u, hu, hfail⟩ := (render_error h).resolve_right (hfault f)
    have failing : (t.subs.find? fun q => !(emit q.1 q.2).isOk).isSome := by
      rw [List.find?_isSome]
      exact ⟨u, (asked_prefix_subs t).subset hu, by rw [hfail]; rfl⟩
    obtain ⟨s, hfind⟩ := Option.isSome_iff_exists.mp failing
    obtain ⟨hs, earlier, later, hsubs, hearlier⟩ := List.find?_eq_some_iff_append.mp hfind
    have written : ∀ q ∈ earlier, ∃ x, emit q.1 q.2 = .ok x := by
      intro q hq
      rw [← isOk_iff]
      simpa using hearlier q hq
    cases hg : emit s.1 s.2 with
    | ok x =>
      rw [hg] at hs
      cases hs
    | error g =>
      cases (render_of_first_error hfault hsubs written hg).symm.trans h
      exact ⟨earlier, s, later, hsubs, written, hg⟩
  · rintro ⟨earlier, s, later, hsubs, hearlier, hs⟩
    exact render_of_first_error hfault hsubs hearlier hs

end SexprShell.Script.Template
