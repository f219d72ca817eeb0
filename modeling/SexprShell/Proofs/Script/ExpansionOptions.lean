import SexprShell.Proofs.Script.Everywhere
import SexprShell.Proofs.Script.Texts

/-!
# Options of expansions

Of the options of a parameter expansion only one counts: the first in the table that some key is
spelled like, with the value of the last such key (`chosenOption?_eq_some_iff`). So pairs can be
reordered, added or replaced without any effect as long as that option stays the same
(`chosenOption?_of_reworked`), and the values of all other pairs are never rendered.
-/

namespace SexprShell.Script

open Template Sexpr Relation

/-! ## The option that counts -/

/-- A key is spelled like an option, whatever its kind. -/
def Spells (option : String) (p : Sexpr × Sexpr) : Prop := p.1.spelling? = some option

/-- The place of an option in the table. -/
def rank (option : String) : Nat := (expansionOptions.map Prod.fst).idxOf option

/-- The value of the last pair whose key is spelled like an option. -/
inductive LastValue (option : String) : List (Sexpr × Sexpr) → Sexpr → Prop where
  | intro {earlier later : List (Sexpr × Sexpr)} {key value : Sexpr} : Spells option (key, value) →
      (∀ p ∈ later, ¬ Spells option p) → LastValue option (earlier ++ (key, value) :: later) value

/-- An option with its mark counts, with this value: no option in front of it is given. -/
structure Counts (pairs : List (Sexpr × Sexpr)) (option mark : String) (value : Sexpr) :
    Prop where
  mem : (option, mark) ∈ expansionOptions
  first : ∀ o ∈ expansionOptions, rank o.1 < rank option → ∀ p ∈ pairs, ¬ Spells o.1 p
  last : LastValue option pairs value

/-- A key is spelled like no option. -/
def Unknown (p : Sexpr × Sexpr) : Prop := ∀ o ∈ expansionOptions, ¬ Spells o.1 p

/-- A key is spelled like an option that comes later in the table. -/
def Behind (option : String) (p : Sexpr × Sexpr) : Prop :=
  ∃ o ∈ expansionOptions, rank option < rank o.1 ∧ Spells o.1 p

/-- The keys of two pairs are spelled differently. -/
def KeysDiffer (p q : Sexpr × Sexpr) : Prop := ∀ s, Spells s p → ¬ Spells s q

variable {pairs pairs' xs ys : List (Sexpr × Sexpr)} {option mark : String} {v value : Sexpr}
  {p : Sexpr × Sexpr}

theorem optionValue?_append : optionValue? (xs ++ ys) option =
    (optionValue? ys option).or (optionValue? xs option) := by
  rw [optionValue?, List.reverse_append, List.find?_append, Option.map_or]
  rfl

theorem optionValue?_eq_none_iff :
    optionValue? pairs option = none ↔ ∀ p ∈ pairs, ¬ Spells option p := by
  simp [optionValue?, Spells]

theorem optionValue?_eq_some_iff :
    optionValue? pairs option = some v ↔ LastValue option pairs v := by
  constructor
  · intro h
    obtain ⟨⟨key, value⟩, hfind, rfl⟩ := Option.map_eq_some_iff.mp h
    obtain ⟨hkey, later, earlier, heq, hlater⟩ := List.find?_eq_some_iff_append.mp hfind
    have split : pairs = earlier.reverse ++ (key, value) :: later.reverse := by
      rw [← List.reverse_reverse pairs, heq]
      simp
    rw [split]
    refine .intro (eq_of_beq hkey) fun p hp hs => ?_
    have := hlater p (List.mem_reverse.mp hp)
    simp [show p.1.spelling? = some option from hs] at this
  · intro h
    cases h with
    | @intro earlier later key _ hkey hlater =>
      have single : optionValue? [(key, v)] option = some v := by
        simp [optionValue?, show key.spelling? = some option from hkey]
      have last : optionValue? ((key, v) :: later) option = some v := by
        rw [← List.singleton_append, optionValue?_append, optionValue?_eq_none_iff.mpr hlater,
          single, Option.none_or]
      rw [optionValue?_append, last, Option.some_or]

/-- Where no two keys are spelled alike, every pair is the last with its key. -/
theorem optionValue?_of_pairwise (h : pairs.Pairwise KeysDiffer) :
    optionValue? pairs option = some v ↔ ∃ p ∈ pairs, Spells option p ∧ p.2 = v := by
  rw [optionValue?_eq_some_iff]
  constructor
  · intro h
    cases h with
    | @intro _ _ key _ hkey _ => exact ⟨(key, v), by simp, hkey, rfl⟩
  · rintro ⟨p, hp, hs, rfl⟩
    obtain ⟨earlier, later, rfl⟩ := List.append_of_mem hp
    have later_apart := (List.pairwise_cons.mp (List.pairwise_append.mp h).2.1).1
    exact .intro hs fun q hq => later_apart q hq option hs

theorem optionValue?_of_perm (h : xs.Pairwise KeysDiffer) (hperm : xs.Perm ys) :
    optionValue? xs option = optionValue? ys option := by
  have symm : ∀ {p q : Sexpr × Sexpr}, KeysDiffer p q → KeysDiffer q p := fun h s hq hp => h s hp hq
  have h' : ys.Pairwise KeysDiffer := hperm.pairwise h symm
  apply Option.ext
  intro v
  rw [optionValue?_of_pairwise h, optionValue?_of_pairwise h']
  simp only [hperm.mem_iff]

/-! ### Places in the table -/

/-- In front of an option are those that are tried before it. -/
theorem rank_lt_iff {higher lower : List (String × String)} {o x : String × String}
    (h : expansionOptions = higher ++ o :: lower) (hx : x ∈ expansionOptions) :
    rank x.1 < rank o.1 ↔ x ∈ higher := by
  have nodup : (expansionOptions.map Prod.fst).Nodup := by decide
  rw [h, List.map_append, List.map_cons] at nodup
  have apart := (List.nodup_append.mp nodup).2.2
  have place : rank o.1 = (higher.map Prod.fst).length := by
    have new : o.1 ∉ higher.map Prod.fst := fun ho => apart _ ho _ List.mem_cons_self rfl
    rw [rank, h, List.map_append, List.map_cons, List.idxOf_append_of_notMem new,
      List.idxOf_cons_self, Nat.add_zero]
  rw [place, rank, h, List.map_append]
  constructor
  · intro hlt
    by_contra hno
    rw [h] at hx
    have hlower : x ∈ o :: lower := (List.mem_append.mp hx).resolve_left hno
    have new : x.1 ∉ higher.map Prod.fst := fun hmem =>
      apart _ hmem _ (List.mem_map_of_mem hlower) rfl
    rw [List.idxOf_append_of_notMem new] at hlt
    omega
  · intro hmem
    have hmem := List.mem_map_of_mem (f := Prod.fst) hmem
    rw [List.idxOf_append_of_mem hmem]
    exact List.idxOf_lt_length_iff.mpr hmem

/-- The option that is chosen is the one that counts. -/
theorem chosenOption?_eq_some_iff : chosenOption? pairs = some (mark, value) ↔
    ∃ option, Counts pairs option mark value := by
  rw [chosenOption?, List.findSome?_eq_some_iff]
  constructor
  · rintro ⟨higher, ⟨option, _⟩, lower, htable, hvalue, hnone⟩
    obtain ⟨_, hvalue, heq⟩ := Option.map_eq_some_iff.mp hvalue
    cases heq
    refine ⟨option, by simp [htable], fun o ho hrank => ?_, optionValue?_eq_some_iff.mp hvalue⟩
    have hhigher : o ∈ higher := (rank_lt_iff htable ho).mp hrank
    exact optionValue?_eq_none_iff.mp (Option.map_eq_none_iff.mp (hnone o hhigher))
  · rintro ⟨option, hmem, hfirst, hlast⟩
    obtain ⟨higher, lower, htable⟩ := List.append_of_mem hmem
    refine ⟨higher, _, lower, htable, ?_, fun o ho => ?_⟩
    · rw [optionValue?_eq_some_iff.mpr hlast]
      rfl
    · have hmem : o ∈ expansionOptions := htable ▸ List.mem_append_left _ ho
      rw [optionValue?_eq_none_iff.mpr (hfirst o hmem ((rank_lt_iff htable hmem).mpr ho))]
      rfl

theorem chosenOption?_eq_none_iff : chosenOption? pairs = none ↔ ∀ p ∈ pairs, Unknown p := by
  simp only [chosenOption?, List.findSome?_eq_none_iff, Option.map_eq_none_iff,
    optionValue?_eq_none_iff, Unknown]
  exact ⟨fun h p hp o ho => h o ho p hp, fun h o ho p hp => h p hp o ho⟩

/-- Only one option counts. -/
theorem Counts.unique {option' mark' : String} {value' : Sexpr} (h : Counts pairs option mark value)
    (h' : Counts pairs option' mark' value') : mark = mark' ∧ value = value' := by
  have choice := (chosenOption?_eq_some_iff.mpr ⟨_, h⟩).symm.trans
    (chosenOption?_eq_some_iff.mpr ⟨_, h'⟩)
  cases choice
  exact ⟨rfl, rfl⟩

theorem Counts.not_unknown (h : Counts pairs option mark value) : ¬ ∀ p ∈ pairs, Unknown p := by
  intro unknown
  cases (chosenOption?_eq_some_iff.mpr ⟨_, h⟩).symm.trans (chosenOption?_eq_none_iff.mpr unknown)

/-! ## Pairs that do not count -/

/-- A list of pairs becomes another by a change that leaves the option that counts: pairs whose keys
are spelled differently are reordered, pairs with unknown keys are added, or pairs behind the option
that counts are added or replaced. -/
inductive Reworked : List (Sexpr × Sexpr) → List (Sexpr × Sexpr) → Prop where
  | reordered (earlier later : List (Sexpr × Sexpr)) {xs ys : List (Sexpr × Sexpr)} :
      xs.Pairwise KeysDiffer → xs.Perm ys →
      Reworked (earlier ++ xs ++ later) (earlier ++ ys ++ later)
  | unknown (earlier later : List (Sexpr × Sexpr)) {xs : List (Sexpr × Sexpr)} :
      (∀ p ∈ xs, Unknown p) → Reworked (earlier ++ later) (earlier ++ xs ++ later)
  | behind (earlier later : List (Sexpr × Sexpr)) {xs ys : List (Sexpr × Sexpr)}
      {option mark : String} {value : Sexpr} : Counts (earlier ++ xs ++ later) option mark value →
      (∀ p ∈ xs ++ ys, Behind option p) →
      Reworked (earlier ++ xs ++ later) (earlier ++ ys ++ later)

theorem Behind.not_spells (h : Behind option p) {o : String} (ho : rank o ≤ rank option) :
    ¬ Spells o p := by
  intro hs
  obtain ⟨o', -, hrank, hs'⟩ := h
  obtain rfl : o = o'.1 := Option.some.inj (hs.symm.trans hs')
  omega

theorem optionValue?_append_append (h : optionValue? xs option = optionValue? ys option)
    (earlier later : List (Sexpr × Sexpr)) :
    optionValue? (earlier ++ xs ++ later) option =
      optionValue? (earlier ++ ys ++ later) option := by
  simp only [optionValue?_append, h]

theorem Counts.replace {earlier later : List (Sexpr × Sexpr)}
    (h : Counts (earlier ++ xs ++ later) option mark value)
    (hbehind : ∀ p ∈ xs ++ ys, Behind option p) :
    Counts (earlier ++ ys ++ later) option mark value := by
  obtain ⟨hxs, hys⟩ := List.forall_mem_append.mp hbehind
  refine ⟨h.mem, fun o ho hrank p hp => ?_, ?_⟩
  · simp only [List.mem_append] at hp
    rcases hp with (hp | hp) | hp
    · exact h.first o ho hrank p (by simp [hp])
    · exact (hys p hp).not_spells (Nat.le_of_lt hrank)
    · exact h.first o ho hrank p (by simp [hp])
  · have none_of {zs : List (Sexpr × Sexpr)} (hzs : ∀ p ∈ zs, Behind option p) :
        optionValue? zs option = none :=
      optionValue?_eq_none_iff.mpr fun p hp => (hzs p hp).not_spells (Nat.le_refl _)
    have same := optionValue?_append_append ((none_of hxs).trans (none_of hys).symm) earlier later
    exact optionValue?_eq_some_iff.mp (same.symm.trans (optionValue?_eq_some_iff.mpr h.last))

/-- The same options with the same values make the same choice. -/
theorem chosenOption?_congr
    (h : ∀ o ∈ expansionOptions, optionValue? pairs o.1 = optionValue? pairs' o.1) :
    chosenOption? pairs = chosenOption? pairs' := by
  rw [chosenOption?, chosenOption?, ← List.head?_filterMap, ← List.head?_filterMap]
  exact congrArg List.head? (List.filterMap_congr fun o ho => by rw [h o ho])

theorem chosenOption?_of_reworked (h : Reworked pairs pairs') :
    chosenOption? pairs = chosenOption? pairs' := by
  cases h with
  | reordered earlier later hapart hperm =>
    apply chosenOption?_congr
    intro o _
    exact optionValue?_append_append (optionValue?_of_perm hapart hperm) earlier later
  | @unknown earlier later xs hxs =>
    apply chosenOption?_congr
    intro o ho
    have none : optionValue? xs o.1 = none := optionValue?_eq_none_iff.mpr fun p hp => hxs p hp o ho
    simp only [optionValue?_append, none, Option.none_or]
  | behind earlier later hcounts hbehind =>
    rw [chosenOption?_eq_some_iff.mpr ⟨_, hcounts⟩,
      chosenOption?_eq_some_iff.mpr ⟨_, hcounts.replace hbehind⟩]

theorem chosenOption?_of_eqvGen (h : EqvGen Reworked pairs pairs') :
    chosenOption? pairs = chosenOption? pairs' := by
  induction h with
  | rel _ _ h => exact chosenOption?_of_reworked h
  | refl _ => rfl
  | symm _ _ _ ih => exact ih.symm
  | trans _ _ _ _ _ first second => exact first.trans second

/-! ## Texts and failures of expansions -/

/-- The text of an expansion: the output of a form, whatever the options, as in `$(ls)`, or the
value of a parameter with the option that counts, if there is one, as in `${x}` and `${x-y}`. -/
inductive ExpansionText (x : Sexpr) (pairs : List (Sexpr × Sexpr)) (ctx : Context) :
    String → Prop where
  | command {t : String} : x.isForm → emit x ctx.quiet = .ok t →
      ExpansionText x pairs ctx ("$(" ++ t ++ ")")
  | parameter {t : String} : x.isForm = false → (∀ p ∈ pairs, Unknown p) →
      emit x ctx.quiet = .ok t → ExpansionText x pairs ctx ("$\x7b" ++ t ++ "\x7d")
  | option {option mark t u : String} {value : Sexpr} : x.isForm = false →
      Counts pairs option mark value → emit x ctx.quiet = .ok t → emit value ctx.quiet = .ok u →
      ExpansionText x pairs ctx ("$\x7b" ++ t ++ (mark ++ u) ++ "\x7d")

/-- What fails in an expansion: the expression, or the value of the option that counts. -/
inductive ExpansionFault (x : Sexpr) (pairs : List (Sexpr × Sexpr)) (ctx : Context) :
    Failure → Prop where
  | expression {f : Failure} : emit x ctx.quiet = .error f → ExpansionFault x pairs ctx f
  | value {option mark t : String} {value : Sexpr} {f : Failure} : x.isForm = false →
      Counts pairs option mark value → emit x ctx.quiet = .ok t →
      emit value ctx.quiet = .error f → ExpansionFault x pairs ctx f

variable {x : Sexpr} {ctx : Context} {s : String} {f : Failure}

/-- Pairs count for an expansion through the option that they choose. -/
theorem expansion_of_pairs : expansion (x :: keysAndValues pairs) ctx =
    if x.isForm then concat [text "$(", sub x ctx.quiet, text ")"]
    else match chosenOption? pairs with
      | some (mark, value) =>
        concat [text "$\x7b", sub x ctx.quiet, text mark, sub value ctx.quiet, text "\x7d"]
      | none => concat [text "$\x7b", sub x ctx.quiet, text "\x7d"] := by
  rw [expansion, List.drop_one, List.tail_cons, if_neg (not_odd_keysAndValues _),
    pairUp_keysAndValues]
  cases x <;> rfl

/-- The template of an expansion of a form, of a parameter without an option, and of one with the
option that counts. -/
theorem expansion_cases (x : Sexpr) (pairs : List (Sexpr × Sexpr)) (ctx : Context) :
    (x.isForm ∧ expansion (x :: keysAndValues pairs) ctx =
      concat [text "$(", sub x ctx.quiet, text ")"]) ∨
    (x.isForm = false ∧ (∀ p ∈ pairs, Unknown p) ∧ expansion (x :: keysAndValues pairs) ctx =
      concat [text "$\x7b", sub x ctx.quiet, text "\x7d"]) ∨
    ∃ option mark value, x.isForm = false ∧ Counts pairs option mark value ∧
      expansion (x :: keysAndValues pairs) ctx =
        concat [text "$\x7b", sub x ctx.quiet, text mark, sub value ctx.quiet, text "\x7d"] := by
  rw [expansion_of_pairs]
  cases hx : x.isForm with
  | true => exact .inl ⟨rfl, if_pos rfl⟩
  | false =>
    rw [if_neg Bool.false_ne_true]
    cases hchosen : chosenOption? pairs with
    | none => exact .inr (.inl ⟨rfl, chosenOption?_eq_none_iff.mp hchosen, rfl⟩)
    | some choice =>
      obtain ⟨option, hcounts⟩ := chosenOption?_eq_some_iff.mp hchosen
      exact .inr (.inr ⟨option, choice.1, choice.2, rfl, hcounts, rfl⟩)

theorem render_expansion_ok_iff : (expansion (x :: keysAndValues pairs) ctx).render emit = .ok s ↔
    ExpansionText x pairs ctx s := by
  rcases expansion_cases x pairs ctx with
    ⟨hx, heq⟩ | ⟨hx, hunknown, heq⟩ | ⟨option, mark, value, hx, hcounts, heq⟩
  · rw [heq, render_enclosed_eq_ok_iff]
    constructor
    · rintro ⟨t, ht, rfl⟩
      exact .command hx ht
    · intro h
      cases h with
      | command _ ht => exact ⟨_, ht, rfl⟩
      | parameter hno | option hno => cases hx.symm.trans hno
  · rw [heq, render_enclosed_eq_ok_iff]
    constructor
    · rintro ⟨t, ht, rfl⟩
      exact .parameter hx hunknown ht
    · intro h
      cases h with
      | command hform => cases hx.symm.trans hform
      | parameter _ _ ht => exact ⟨_, ht, rfl⟩
      | option _ hcounts => exact absurd hunknown hcounts.not_unknown
  · rw [heq, render_pair_eq_ok_iff]
    constructor
    · rintro ⟨t, u, ht, hu, rfl⟩
      simpa only [String.append_assoc] using ExpansionText.option hx hcounts ht hu
    · intro h
      cases h with
      | command hform => cases hx.symm.trans hform
      | parameter _ hunknown => exact absurd hunknown hcounts.not_unknown
      | option _ hcounts' ht hu =>
        obtain ⟨rfl, rfl⟩ := hcounts.unique hcounts'
        exact ⟨_, _, ht, hu, by simp only [String.append_assoc]⟩

theorem render_expansion_error_iff :
    (expansion (x :: keysAndValues pairs) ctx).render emit = .error f ↔
      ExpansionFault x pairs ctx f := by
  rcases expansion_cases x pairs ctx with
    ⟨hx, heq⟩ | ⟨hx, hunknown, heq⟩ | ⟨option, mark, value, hx, hcounts, heq⟩
  · rw [heq, render_enclosed_eq_error_iff]
    refine ⟨.expression, fun h => ?_⟩
    cases h with
    | expression h => exact h
    | value hno => cases hx.symm.trans hno
  · rw [heq, render_enclosed_eq_error_iff]
    refine ⟨.expression, fun h => ?_⟩
    cases h with
    | expression h => exact h
    | value _ hcounts => exact absurd hunknown hcounts.not_unknown
  · rw [heq, render_pair_eq_error_iff]
    constructor
    · rintro (h | ⟨t, ht, h⟩)
      · exact .expression h
      · exact .value hx hcounts ht h
    · intro h
      cases h with
      | expression h => exact .inl h
      | value _ hcounts' ht h =>
        obtain ⟨rfl, rfl⟩ := hcounts.unique hcounts'
        exact .inr ⟨_, ht, h⟩

/-- What an expansion asks for is its expression, and the value of the option that counts unless the
expression is a form. -/
theorem mem_asked_expansion {q : Sexpr × Context}
    (hq : q ∈ (expansion (x :: keysAndValues pairs) ctx).asked emit) :
    q = (x, ctx.quiet) ∨ x.isForm = false ∧ ∃ option mark value, Counts pairs option mark value ∧
      q = (value, ctx.quiet) := by
  have hq := (asked_prefix_subs _).subset hq
  rcases expansion_cases x pairs ctx with
    ⟨-, heq⟩ | ⟨-, -, heq⟩ | ⟨option, mark, value, hx, hcounts, heq⟩
  · exact .inl (by simpa [heq, subs] using hq)
  · exact .inl (by simpa [heq, subs] using hq)
  · have hq : q = (x, ctx.quiet) ∨ q = (value, ctx.quiet) := by simpa [heq, subs] using hq
    exact hq.imp_right fun hq => ⟨hx, option, mark, value, hcounts, hq⟩

/-! ## Failures up to the form -/

/-- A failure without the form that is attached to it. -/
def Failure.detached : Failure → Failure
  | overflow => overflow
  | refused e => refused { e with form := none }

/-- Two forms with one head and one location leave the same traces on a failure, apart from
themselves. -/
theorem Failure.detached_within {n n' : Sexpr} (hform : n.isForm = n'.isForm)
    (hlocation : n.location? = n'.location?) (hhead : n.headName? = n'.headName?) (f : Failure) :
    (f.within n).detached = (f.within n').detached := by
  cases f with
  | overflow => rfl
  | refused e =>
    cases h : n'.isForm with
    | false => simp [within, hform, h]
    | true => cases he : e.form <;>
        simp [within, hform, h, EmitError.attach, he, detached, hlocation, hhead]

/-- An expansion is the output of its form, or the value of its parameter with the one option that
counts. An odd number of items behind the expression is refused before anything is rendered, and the
values of options that do not count are not rendered at all. Nor do pairs matter that do not change
the option that counts, be they reordered, added or replaced. -/
theorem emit_expansion_outcome (x : Sexpr) (location : Option Location) (ctx : Context) :
    let n (options : List Sexpr) := Sexpr.form (.symbol "deref" :: x :: options) location
    (∀ options, options.length % 2 = 1 →
      emit (n options) ctx =
        .error (.refused ⟨.oddDerefOptions, some "deref", some (n options), location⟩) ∧
      (template (n options) ctx).asked emit = []) ∧
    (∀ pairs,
      (∀ s, emit (n (keysAndValues pairs)) ctx = .ok s ↔ ExpansionText x pairs ctx s) ∧
      (∀ f, emit (n (keysAndValues pairs)) ctx = .error f ↔
        ∃ g, ExpansionFault x pairs ctx g ∧ f = g.within (n (keysAndValues pairs))) ∧
      ∀ q ∈ (template (n (keysAndValues pairs)) ctx).asked emit, q = (x, ctx.quiet) ∨
        x.isForm = false ∧ ∃ option mark value, Counts pairs option mark value ∧
          q = (value, ctx.quiet)) ∧
    ∀ pairs pairs', EqvGen Reworked pairs pairs' →
      (emit (n (keysAndValues pairs)) ctx).mapError Failure.detached =
        (emit (n (keysAndValues pairs')) ctx).mapError Failure.detached := by
  intro n
  have deref : Special.ofSymbol? "deref" = some .expansion := by decide
  have expansion_eq (options : List Sexpr) :
      template (n options) ctx = expansion (x :: options) ctx := template_of_special deref
  refine ⟨fun options hodd => ?_, fun pairs => ⟨fun s => ?_, fun f => ?_, fun q hq => ?_⟩,
    fun pairs pairs' h => ?_⟩
  · have refused : expansion (x :: options) ctx = refuse .oddDerefOptions (some "deref") :=
      if_pos hodd
    rw [expansion_eq, refused]
    exact ⟨emit_error_iff.mpr ⟨_, by rw [expansion_eq, refused]; rfl, rfl⟩, rfl⟩
  · rw [emit_ok_iff, expansion_eq, render_expansion_ok_iff]
  · rw [emit_error_iff]
    simp only [expansion_eq, render_expansion_error_iff]
  · rw [expansion_eq] at hq
    exact mem_asked_expansion hq
  · have same : expansion (x :: keysAndValues pairs) ctx =
        expansion (x :: keysAndValues pairs') ctx := by
      rw [expansion_of_pairs, expansion_of_pairs, chosenOption?_of_eqvGen h]
    rw [emit_eq, emit_eq (n (keysAndValues pairs')), expansion_eq, expansion_eq, same]
    cases (expansion (x :: keysAndValues pairs') ctx).render emit with
    | ok s => rfl
    | error f =>
      apply congrArg Except.error
      apply Failure.detached_within <;> rfl

/-- A value that has no text does no harm behind the option that counts. -/
theorem emit_expansion_outcome_default :
    let n (options : List Sexpr) := Sexpr.form (.symbol "deref" :: .symbol "x" :: options) none
    let pairs := [(Sexpr.keyword "default", Sexpr.symbol "y")]
    let pairs' := [(Sexpr.keyword "default", Sexpr.symbol "y"), (.text "error", .foreign "object")]
    ([Sexpr.keyword "error"].length % 2 = 1 ∧
      (template (n [.keyword "error"]) {}).asked emit = []) ∧
    emit (n (keysAndValues pairs)) {} = .ok "${x-y}" ∧
    EqvGen Reworked pairs pairs' ∧
    (emit (n (keysAndValues pairs)) {}).mapError Failure.detached =
      (emit (n (keysAndValues pairs')) {}).mapError Failure.detached := by
  have shown : emit (.form [.symbol "deref", .symbol "x", .keyword "default", .symbol "y"] none)
      {} = .ok "${x-y}" := by rfl
  intro n pairs pairs'
  obtain ⟨odd, -, reworked⟩ := emit_expansion_outcome (.symbol "x") none {}
  have counts : Counts pairs "default" "-" (.symbol "y") := by
    refine ⟨List.mem_cons_self, fun o _ hrank => absurd hrank (Nat.not_lt_zero _), ?_⟩
    exact @LastValue.intro _ [] [] _ _ rfl (List.forall_mem_nil _)
  have behind : Behind "default" (.text "error", .foreign "object") :=
    ⟨("error", "?"), by simp [expansionOptions], by decide, rfl⟩
  have step : Reworked pairs pairs' :=
    @Reworked.behind pairs [] [] _ _ _ _ counts (List.forall_mem_singleton.mpr behind)
  have related : EqvGen Reworked pairs pairs' := .rel _ _ step
  have same := reworked pairs pairs' related
  exact ⟨⟨rfl, (odd [.keyword "error"] rfl).2⟩, shown, related, same⟩

end SexprShell.Script
