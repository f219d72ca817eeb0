import SexprShell.Proofs.Script.EntryPoints
import SexprShell.Proofs.Script.Everywhere
import SexprShell.Proofs.Script.HushedTemplate
import SexprShell.Proofs.Script.Lasting

/-!
# Rendering without comments

Two renderings of an expression, one in a context with comments and one in the same context without.
If both succeed, the texts are the same, unless a comment stands in a part of the template that
shows (`Template.Annotated`): then the first has more number signs (`muted_emit`). So a look at the
arguments tells whether what an expansion or a command encloses is free of comments
(`emit_quiet_eq_iff`).
-/

namespace SexprShell.Script

open Text Sexpr

/-! ## Number signs -/

/-- How many number signs a text holds. Every comment begins with one. -/
def hashes (s : String) : Nat := (s.toList.filter (· == '#')).length

@[simp] theorem hashes_empty : hashes "" = 0 := rfl

@[simp] theorem hashes_append (s t : String) : hashes (s ++ t) = hashes s + hashes t := by
  simp [hashes]

theorem hashes_eq_zero {s : String} : hashes s = 0 ↔ '#' ∉ s.toList := by
  rw [hashes, List.length_eq_zero_iff, List.filter_eq_nil_iff]
  constructor
  · intro h hs
    exact h '#' hs rfl
  · intro h c hc heq
    cases eq_of_beq heq
    exact h hc

theorem lasting_hash : Lasting (· == '#') where
  not_blank c h := by
    cases eq_of_beq h
    decide
  not_replaced := by simp [replaced]

theorem hashes_strip (s : String) : hashes (strip s) = hashes s :=
  congrArg List.length (lasting_hash.filter_strip s)

theorem hashes_of_allBlank {s : String} (h : allBlank s = true) : hashes s = 0 :=
  congrArg List.length (lasting_hash.filter_of_allBlank h)

theorem hashes_munged (s : String) : hashes (munged s) = hashes s :=
  congrArg List.length (lasting_hash.filter_munged s)

theorem hashes_asBranch (block : Bool) (s : String) : hashes (asBranch block s) = hashes s :=
  congrArg List.length (lasting_hash.filter_asBranch block s)

theorem hashes_asStatement {comment s : String} (h : s ≠ "" ∨ hashes comment = 0) :
    hashes (asStatement comment s) = hashes s + hashes comment := by
  rw [hashes, lasting_hash.filter_asStatement fun hs => ?_, List.length_append, hashes, hashes]
  exact List.length_eq_zero_iff.mp (h.resolve_left (not_not_intro hs))

theorem hashes_asOperand (s : String) : hashes (asOperand s) = hashes s := by
  have quote : hashes "\"" = 0 := rfl
  unfold asOperand
  split
  · rfl
  · simp [doubleQuoted, quote]

/-! ## Two texts -/

/-- What comes of a text `x` without its comments: the same text if there are none, and otherwise
one with fewer number signs. -/
inductive Muted (commented : Prop) (x y : String) : Prop where
  | same : ¬ commented → x = y → Muted commented x y
  | fewer : commented → hashes y < hashes x → Muted commented x y

namespace Muted

variable {A B : Prop} {x y u v : String}

theorem hashes_le (h : Muted A x y) : hashes y ≤ hashes x := by
  cases h with
  | same _ h => exact Nat.le_of_eq (congrArg hashes h.symm)
  | fewer _ h => exact Nat.le_of_lt h

theorem eq_of_hashes_eq_zero (h : Muted A x y) (hx : hashes x = 0) : x = y := by
  cases h with
  | same _ h => exact h
  | fewer _ h => omega

theorem eq_iff (h : Muted A x y) : x = y ↔ ¬ A := by
  cases h with
  | same hA h => exact iff_of_true h hA
  | fewer hA h =>
    refine iff_of_false ?_ (not_not_intro hA)
    rintro rfl
    exact absurd h (Nat.lt_irrefl _)

/-- The texts of two parts, put together in a way that keeps all number signs. -/
theorem both {k : String → String → String} (h : Muted A x y) (h' : Muted B u v)
    (hk : hashes y + hashes v < hashes x + hashes u → hashes (k y v) < hashes (k x u)) :
    Muted (A ∨ B) (k x u) (k y v) := by
  cases h with
  | same hA hxy =>
    cases h' with
    | same hB huv => exact .same (not_or.mpr ⟨hA, hB⟩) (by rw [hxy, huv])
    | fewer hB h' => exact .fewer (.inr hB) (hk (by rw [hxy]; omega))
  | fewer hA h =>
    have := h'.hashes_le
    exact .fewer (.inl hA) (hk (by omega))

theorem append (h : Muted A x y) (h' : Muted B u v) : Muted (A ∨ B) (x ++ u) (y ++ v) :=
  h.both (k := (· ++ ·)) h' (by simp)

/-- What a comment stands in is not left out of a chain for being blank. -/
theorem chainOnto (op : String) (h : Muted A x y) (h' : Muted B u v) :
    Muted (A ∨ B) (chainOnto op x u) (chainOnto op y v) := by
  refine h.both (k := Script.chainOnto op) h' fun lt => ?_
  simp only [Script.chainOnto]
  by_cases hx : allBlank x = true
  · obtain rfl : x = y := h.eq_of_hashes_eq_zero (hashes_of_allBlank hx)
    simp only [hx, if_true]
    omega
  · by_cases hu : u = ""
    · obtain rfl : u = v := h'.eq_of_hashes_eq_zero (by rw [hu, hashes_empty])
      simp only [hx, hu, if_true]
      split
      · rw [hashes_empty]
        exact Nat.zero_lt_of_lt (Nat.lt_of_add_lt_add_right lt)
      · exact Nat.lt_of_add_lt_add_right lt
    · rw [if_neg hx, if_neg hu]
      have := h.hashes_le
      have := h'.hashes_le
      split
      · simp only [hashes_append]
        omega
      · split <;> simp only [hashes_append] <;> omega

/-- A change of texts that keeps all number signs. -/
theorem map {g : String → String} (hg : ∀ s, hashes (g s) = hashes s) (h : Muted A x y) :
    Muted A (g x) (g y) := by
  cases h with
  | same hA h => exact .same hA (by rw [h])
  | fewer hA h => exact .fewer hA (by rwa [hg, hg])

/-- A statement with a comment, or without, against the statement alone. -/
theorem asStatement {comment : String} (hc : '#' ∈ comment.toList) (h : Muted A x y) :
    Muted (x ≠ "" ∨ A) (asStatement comment x) (asStatement "" y) := by
  by_cases hx : x = ""
  · obtain rfl : x = y := h.eq_of_hashes_eq_zero (by rw [hx, hashes_empty])
    subst hx
    exact .same (not_or.mpr ⟨not_not_intro rfl, h.eq_iff.mp rfl⟩) rfl
  · refine .fewer (.inl hx) ?_
    rw [hashes_asStatement (.inl hx), hashes_asStatement (.inr hashes_empty), hashes_empty]
    have := h.hashes_le
    have : hashes comment ≠ 0 := fun none => hashes_eq_zero.mp none hc
    omega

end Muted

/-! ## Comments that show -/

namespace Template

/-- A comment stands in a part of the template that shows, or in what an expression in such a part
is rendered from. Of the empty text no statement is made, so that no comment stands behind it. -/
inductive Annotated : Template → Prop where
  | sub {e : Sexpr} {ctx : Context} : (template e ctx).Annotated → (sub e ctx).Annotated
  | first {a b : Template} : a.Annotated → (append a b).Annotated
  | second {a b : Template} : b.Annotated → (append a b).Annotated
  | front {a b : Template} : a.Annotated → (late a b).Annotated
  | back {a b : Template} : b.Annotated → (late a b).Annotated
  | link {op : String} {a b : Template} : a.Annotated → (chain op a b).Annotated
  | rest {op : String} {a b : Template} : b.Annotated → (chain op a b).Annotated
  | inside {f : Finish} {t : Template} : f ≠ .dropped → t.Annotated → (finish f t).Annotated
  | comment {c : String} {t : Template} {s : String} : '#' ∈ c.toList → t.render emit = .ok s →
    s ≠ "" → (finish (.statement c) t).Annotated

variable {e : Sexpr} {ctx : Context} {a b t : Template} {s : String}

theorem not_annotated_text : ¬ (text s).Annotated := nofun

theorem annotated_sub : (sub e ctx).Annotated ↔ (template e ctx).Annotated := by
  refine ⟨fun h => ?_, .sub⟩
  cases h with
  | sub h => exact h

theorem annotated_append : (append a b).Annotated ↔ a.Annotated ∨ b.Annotated := by
  refine ⟨fun h => ?_, fun h => h.elim .first .second⟩
  cases h with
  | first h => exact .inl h
  | second h => exact .inr h

theorem annotated_late : (late a b).Annotated ↔ a.Annotated ∨ b.Annotated := by
  refine ⟨fun h => ?_, fun h => h.elim .front .back⟩
  cases h with
  | front h => exact .inl h
  | back h => exact .inr h

theorem annotated_chain {op : String} :
    (chain op a b).Annotated ↔ a.Annotated ∨ b.Annotated := by
  refine ⟨fun h => ?_, fun h => h.elim .link .rest⟩
  cases h with
  | link h => exact .inl h
  | rest h => exact .inr h

theorem annotated_concat : ∀ {ts : List Template},
    (concat ts).Annotated ↔ ∃ t ∈ ts, t.Annotated
  | [] => by simp [concat, not_annotated_text]
  | [t] => by simp [concat]
  | t :: u :: ts => by
    simp only [concat, annotated_append, @annotated_concat (u :: ts), List.mem_cons,
      exists_eq_or_imp]

/-- A comment has no other place in a finished text than the part that is finished, or its end. -/
theorem annotated_finish {f : Finish} (hf : ∀ c, f = .statement c → '#' ∉ c.toList) :
    (finish f t).Annotated ↔ f ≠ .dropped ∧ t.Annotated := by
  refine ⟨fun h => ?_, fun h => .inside h.1 h.2⟩
  cases h with
  | inside hdropped h => exact ⟨hdropped, h⟩
  | comment hc _ _ => exact absurd hc (hf _ rfl)

theorem annotated_statement {c : String} (hc : '#' ∈ c.toList) (ht : t.render emit = .ok s) :
    (finish (.statement c) t).Annotated ↔ s ≠ "" ∨ t.Annotated := by
  constructor
  · intro h
    cases h with
    | inside _ h => exact .inr h
    | comment _ hs hne =>
      cases ht.symm.trans hs
      exact .inl hne
  · intro h
    rcases h with hne | h
    · exact .comment hc ht hne
    · exact .inside nofun h

/-! ## Two renderings -/

/-- A finished text in both renderings, from the text before. -/
theorem muted_finish {f : Finish} {x y u v : String} (ht : t.render emit = .ok x)
    (h : Muted t.Annotated x y) (hu : f.apply x = .ok u) (hv : f.hushed.apply y = .ok v) :
    Muted (finish f t).Annotated u v := by
  have kept {g : String → String} (hg : ∀ s, hashes (g s) = hashes s)
      (hf : ∀ c, f = .statement c → '#' ∉ c.toList) (hdropped : f ≠ .dropped)
      (hx : f.apply x = .ok (g x)) (hy : f.hushed.apply y = .ok (g y)) :
      Muted (finish f t).Annotated u v := by
    cases hu.symm.trans hx
    cases hv.symm.trans hy
    rw [annotated_finish hf, and_iff_right hdropped]
    exact h.map hg
  cases f with
  | identifier rule =>
    have unchanged {s s' : String} (hs : identifier (some rule) s = .ok s') :
        identifier (some rule) s = .ok s := by
      unfold identifier at hs ⊢
      split at hs
      · cases hs
      · next h => rw [if_neg h]
    exact kept (g := id) (fun _ => rfl) (by simp) (by simp) (unchanged hu) (unchanged hv)
  | munged => exact kept hashes_munged (by simp) (by simp) rfl rfl
  | operand => exact kept hashes_asOperand (by simp) (by simp) rfl rfl
  | branch block => exact kept (hashes_asBranch block) (by simp) (by simp) rfl rfl
  | stripped => exact kept hashes_strip (by simp) (by simp) rfl rfl
  | dropped =>
    cases hu
    cases hv
    have shown := annotated_finish (f := .dropped) (t := t) (by simp)
    exact .same (fun h => (shown.mp h).1 rfl) rfl
  | statement c =>
    by_cases hc : '#' ∈ c.toList
    · rw [Finish.hushed, if_pos hc] at hv
      rw [annotated_statement hc ht]
      cases hu
      cases hv
      exact h.asStatement hc
    · have none : hashes c = 0 := hashes_eq_zero.mpr hc
      have alike (s : String) : hashes (asStatement c s) = hashes s := by
        rw [hashes_asStatement (.inr none), none, Nat.add_zero]
      have bare : (Finish.statement c).hushed = .statement c := by rw [Finish.hushed, if_neg hc]
      refine kept alike (fun c' hc' => ?_) (by simp) rfl (by rw [bare]; rfl)
      cases hc'
      exact hc

/-- Without comments a template has the same text, unless it is annotated, if that holds of all the
expressions in it. -/
theorem muted_render (h : ∀ q ∈ t.subs, ∀ x y, emit q.1 q.2 = .ok x → emit q.1 q.2.quiet = .ok y →
      Muted (template q.1 q.2).Annotated x y) {x y : String}
    (hx : t.render emit = .ok x) (hy : t.hushed.render emit = .ok y) : Muted t.Annotated x y := by
  induction t generalizing x y with
  | text s =>
    cases hx
    cases hy
    exact .same not_annotated_text rfl
  | sub e ctx =>
    rw [annotated_sub]
    exact h (e, ctx) (by simp [subs]) x y hx hy
  | fail f => cases hx
  | append a b iha ihb =>
    simp only [subs, List.mem_append] at h
    obtain ⟨x₁, x₂, hx₁, hx₂, rfl⟩ := both_ok hx
    obtain ⟨y₁, y₂, hy₁, hy₂, rfl⟩ := both_ok hy
    have first := iha (fun q hq => h q (.inl hq)) hx₁ hy₁
    have second := ihb (fun q hq => h q (.inr hq)) hx₂ hy₂
    rw [annotated_append]
    exact first.append second
  | chain op a b iha ihb =>
    simp only [subs, List.mem_append] at h
    obtain ⟨x₁, x₂, hx₁, hx₂, rfl⟩ := both_ok hx
    obtain ⟨y₁, y₂, hy₁, hy₂, rfl⟩ := both_ok hy
    have first := iha (fun q hq => h q (.inl hq)) hx₁ hy₁
    have rest := ihb (fun q hq => h q (.inr hq)) hx₂ hy₂
    rw [annotated_chain]
    exact first.chainOnto op rest
  | late a b iha ihb =>
    simp only [subs, List.mem_append] at h
    obtain ⟨x₂, x₁, hx₂, hx₁, rfl⟩ := both_ok hx
    obtain ⟨y₂, y₁, hy₂, hy₁, rfl⟩ := both_ok hy
    have front := iha (fun q hq => h q (.inr hq)) hx₁ hy₁
    have back := ihb (fun q hq => h q (.inl hq)) hx₂ hy₂
    rw [annotated_late]
    exact front.append back
  | finish f t ih =>
    obtain ⟨x₁, hx₁, hx⟩ := bind_ok_iff.mp hx
    obtain ⟨y₁, hy₁, hy⟩ := bind_ok_iff.mp hy
    exact muted_finish hx₁ (ih h hx₁ hy₁) hx hy

end Template

open Template

variable {args : List Sexpr} {ctx : Context}

/-- Without comments an expression has the same text, unless its template is annotated. -/
theorem muted_emit (e : Sexpr) (ctx : Context) : ∀ {x y : String}, emit e ctx = .ok x →
    emit e ctx.quiet = .ok y → Muted (template e ctx).Annotated x y := by
  apply children_induction (R := fun e ctx => ∀ {x y : String}, emit e ctx = .ok x →
    emit e ctx.quiet = .ok y → Muted (template e ctx).Annotated x y)
  intro e ctx ih x y hx hy
  rw [emit_ok_iff] at hx hy
  rw [← template_hushed] at hy
  refine muted_render (fun q hq x y => ?_) hx hy
  rw [subs_template] at hq
  exact ih q hq

/-! ## Expansions and commands -/

/-- All comments in a command come from its head or its arguments. -/
theorem annotated_command {head : Sexpr} :
    (command head args ctx).Annotated ↔ ∃ e ∈ head :: args, (template e ctx).Annotated := by
  have argument (e : Sexpr) :
      (append (.text " ") (sub e ctx)).Annotated ↔ (template e ctx).Annotated := by
    rw [annotated_append, annotated_sub, or_iff_right not_annotated_text]
  constructor
  · intro h
    rw [command, annotated_late, annotated_sub, annotated_concat] at h
    rcases h with h | ⟨_, ht, h⟩
    · exact ⟨head, List.mem_cons_self, h⟩
    · obtain ⟨e, he, rfl⟩ := List.mem_map.mp ht
      exact ⟨e, List.mem_cons_of_mem _ he, (argument e).mp h⟩
  · rintro ⟨e, he, h⟩
    rw [command, annotated_late, annotated_sub, annotated_concat]
    rcases List.mem_cons.mp he with rfl | he
    · exact .inl h
    · exact .inr ⟨_, List.mem_map_of_mem he, (argument e).mpr h⟩

theorem annotated_mungedSub {e : Sexpr} :
    (mungedSub e ctx).Annotated ↔ (template e ctx).Annotated := by
  have finished := annotated_finish (f := .munged) (t := sub e ctx) (by simp)
  rw [mungedSub, finished, annotated_sub]
  exact and_iff_right (by simp)

theorem annotated_lookup : (lookup args ctx).Annotated ↔
    ∃ e ∈ [argAt args 0, argAt args 1], (template e ctx).Annotated := by
  simp [lookup, annotated_concat, annotated_mungedSub, not_annotated_text]

theorem annotated_item : (item args ctx).Annotated ↔
    ∃ e ∈ [argAt args 0, argAt args 1], (template e ctx).Annotated := by
  simp [item, annotated_concat, annotated_sub, not_annotated_text]

/-- An expansion of an item or an entry has the same text with comments and without if its first two
arguments are not annotated, and only then. So does a command, if its head and its arguments are
not. Comments in arguments are left where they stand. -/
theorem emit_quiet_eq_iff (items : List Sexpr) (location : Option Location) (ctx : Context)
    {x y : String} (hx : emit (.form items location) ctx = .ok x)
    (hy : emit (.form items location) ctx.quiet = .ok y) :
    (headOf items = .symbol "get" ∨ headOf items = .symbol "aget" →
      (x = y ↔ ∀ e ∈ [argAt items.tail 0, argAt items.tail 1], ¬ (template e ctx).Annotated)) ∧
    (Special.ofHead? (headOf items) = none → Operator.ofHead? (headOf items) = none →
      (x = y ↔ ∀ e ∈ headOf items :: items.tail, ¬ (template e ctx).Annotated)) := by
  rw [(muted_emit _ ctx hx hy).eq_iff]
  constructor
  · intro h
    have annotated : (template (.form items location) ctx).Annotated ↔
        ∃ e ∈ [argAt items.tail 0, argAt items.tail 1], (template e ctx).Annotated := by
      cases items with
      | nil => exact h.elim nofun nofun
      | cons head args =>
        rcases h with rfl | rfl
        · have get : Special.ofSymbol? "get" = some .lookup := by decide
          rw [template_of_special get]
          exact annotated_lookup
        · have aget : Special.ofSymbol? "aget" = some .item := by decide
          rw [template_of_special aget]
          exact annotated_item
    rw [annotated]
    simp
  · intro hspecial hop
    rw [template_of_commandHead hspecial hop, annotated_command]
    simp

theorem emit_quiet_eq_iff_item : let n := [Sexpr.symbol "aget", .symbol "xs", .int 1]
    emit (.form n none) {} = .ok "${xs[1]}" ∧
    emit (.form n none) (Context.quiet {}) = .ok "${xs[1]}" ∧
    ∀ e ∈ [Sexpr.symbol "xs", .int 1], ¬ (template e {}).Annotated := by
  intro n
  have texts := emit_quiet_eq_iff n none {} (x := "${xs[1]}") (y := "${xs[1]}") rfl rfl
  exact ⟨rfl, rfl, (texts.1 (.inr rfl)).mp rfl⟩

/-- A comment inside the braces of an expansion takes the closing ones with it, and one between the
arguments of a command takes what is left of the command. -/
theorem emit_comment_inside :
    let block := Sexpr.form [.symbol "do", .form [.symbol "ls"] (some ⟨2, some "a.sh", none⟩)] none
    emit (.form [.symbol "aget", .symbol "xs", block] none) {} =
      .ok "${xs[ls # a.sh:2
]}" ∧
    emit (.form [.symbol "aget", .symbol "xs", block] none) (Context.quiet {}) =
      .ok "${xs[ls
]}" ∧
    emit (.form [.symbol "get", .symbol "xs", block] none) {} =
      .ok "$(hash_echo xs ls # a_DOT_sh:2
 -n)" ∧
    emit (.form [.symbol "get", .symbol "xs", block] none) (Context.quiet {}) =
      .ok "$(hash_echo xs ls
 -n)" ∧
    emit (.form [.symbol "wc", block, .symbol "x"] none) {} = .ok "wc ls # a.sh:2
 x" ∧
    emit (.form [.symbol "wc", block, .symbol "x"] none) (Context.quiet {}) =
      .ok "wc ls
 x" :=
  ⟨rfl, rfl, rfl, rfl, rfl, rfl⟩

end SexprShell.Script
