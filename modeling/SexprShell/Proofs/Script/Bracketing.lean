import SexprShell.Proofs.Script.Lasting
import SexprShell.Proofs.Script.Nesting

/-!
# Brackets in templates

Changes to a rendered text leave its brackets and double quotes alone (`marks`). The effect of a
template is what its text does to the machine if the texts of expressions do nothing
(`Template.after_render`); a template without any effect is balanced.
-/

namespace SexprShell.Script

open Sexpr Text

/-- A text without brackets and double quotes. -/
def Markless (s : String) : Prop := ∀ c ∈ s.toList, isMark c = false

instance (s : String) : Decidable (Markless s) := List.decidableBAll _ s.toList

/-- A text that leaves the brackets and quotes around it as they are. -/
def Neutral (s : String) : Prop := ∀ n : Nesting, n.after s.toList = some n

variable {s t : String} {n m : Nesting}

theorem Plain.markless (h : Plain s) : Markless s := fun c hc => not_mark_of_isPlain (h c hc)

theorem Markless.append {t : String} (hs : Markless s) (ht : Markless t) : Markless (s ++ t) := by
  rw [Markless, String.toList_append]
  exact List.forall_mem_append.mpr ⟨hs, ht⟩

theorem Markless.neutral (h : Markless s) : Neutral s := fun _ => Nesting.after_eq_of_not_mark h

theorem Neutral.append (hs : Neutral s) (ht : Neutral t) : Neutral (s ++ t) := by
  intro n
  simp [hs n, ht n]

theorem neutral_property : TextProperty Neutral where
  plain h := h.markless.neutral
  newline := (show Markless "\n" by decide).neutral
  append := .append
  quoted h n := by simp [doubleQuoted, Nesting.next, h n.quote]
  parsing n := by simp [flagParsing, Nesting.next]

/-! ## Changes to texts -/

/-- The brackets and double quotes of a text. -/
def marks (s : String) : List Char := s.toList.filter isMark

theorem Markless.marks_eq (h : Markless s) : marks s = [] :=
  List.filter_eq_nil_iff.mpr fun c hc => by simp [h c hc]

@[simp] theorem marks_append (s t : String) : marks (s ++ t) = marks s ++ marks t := by
  simp [marks]

/-- Only the marks of a text count. -/
theorem Nesting.after_filter (cs : List Char) : n.after (cs.filter isMark) = n.after cs := by
  induction cs generalizing n with
  | nil => rfl
  | cons c cs ih =>
    cases h : isMark c with
    | true => simp [h, ih]
    | false => simp [h, ih, next_eq_of_not_mark h]

theorem Nesting.after_congr (h : marks s = marks t) : n.after s.toList = n.after t.toList := by
  rw [← after_filter s.toList, ← after_filter t.toList]
  exact congrArg n.after h

theorem lasting_isMark : Lasting isMark where
  not_blank c h := by
    rw [isMark, List.contains_iff_mem] at h
    simp only [List.mem_cons, List.not_mem_nil, or_false] at h
    rcases h with rfl | rfl | rfl | rfl | rfl | rfl | rfl <;> decide
  not_replaced := by simp [replaced, isMark]

@[simp] theorem marks_strip (s : String) : marks (strip s) = marks s :=
  lasting_isMark.filter_strip s

theorem marks_of_allBlank (h : allBlank s = true) : marks s = [] :=
  lasting_isMark.filter_of_allBlank h

theorem marks_munged (s : String) : marks (munged s) = marks s := lasting_isMark.filter_munged s

theorem marks_asBranch (block : Bool) (s : String) : marks (asBranch block s) = marks s :=
  lasting_isMark.filter_asBranch block s

theorem marks_asStatement {comment : String} (h : Markless comment) (s : String) :
    marks (asStatement comment s) = marks s := by
  have none : comment.toList.filter isMark = [] := h.marks_eq
  rw [marks, lasting_isMark.filter_asStatement fun _ => none, none, List.append_nil, marks]

/-- Quotes around a text do not change what it does to the brackets outside. -/
theorem Nesting.after_asOperand (h : n.after s.toList = some m) :
    n.after (asOperand s).toList = some m := by
  unfold asOperand
  split
  · exact h
  · have opened : n.next '"' = some n.quote := rfl
    have closed : m.quote.next '"' = some m := congrArg some quote_quote
    simp [doubleQuoted, opened, after_quote h, closed]

/-! ## Templates -/

namespace Template

/-- The state of the machine behind a template whose expressions have neutral texts, if it is known
without them. -/
@[simp] def effect : Template → Nesting → Option Nesting
  | text s, n => n.after s.toList
  | sub _ _, n | fail _, n => some n
  | append a b, n | late a b, n => (a.effect n).bind b.effect
  | chain op a b, n => if Markless op then (a.effect n).bind b.effect else none
  | finish (.statement comment) t, n => if Markless comment then t.effect n else none
  | finish .dropped _, n => some n
  | finish _ t, n => t.effect n

@[simp] theorem effect_concat (ts : List Template) (n : Nesting) :
    (concat ts).effect n = ts.foldlM (fun m t => t.effect m) n := by
  induction ts generalizing n with
  | nil => rfl
  | cons t ts ih =>
    cases ts with
    | nil => simp [concat]
    | cons u ts => simp [concat, ih]

theorem after_apply {f : Finish} {t : Template} {x : String}
    (ht : ∀ m, t.effect n = some m → n.after s.toList = some m)
    (h : (finish f t).effect n = some m) (hx : f.apply s = .ok x) :
    n.after x.toList = some m := by
  cases f with
  | identifier rule =>
    simp only [Finish.apply, Script.identifier] at hx
    split at hx
    · cases hx
    · cases hx
      exact ht m h
  | munged =>
    obtain rfl := Except.ok.inj hx
    rw [Nesting.after_congr (marks_munged s)]
    exact ht m h
  | operand =>
    obtain rfl := Except.ok.inj hx
    exact Nesting.after_asOperand (ht m h)
  | branch block =>
    obtain rfl := Except.ok.inj hx
    rw [Nesting.after_congr (marks_asBranch block s)]
    exact ht m h
  | statement comment =>
    obtain rfl := Except.ok.inj hx
    rw [effect] at h
    split at h
    · next hc =>
      rw [Nesting.after_congr (marks_asStatement hc s)]
      exact ht m h
    · cases h
  | stripped =>
    obtain rfl := Except.ok.inj hx
    rw [Nesting.after_congr (marks_strip s)]
    exact ht m h
  | dropped =>
    obtain rfl := Except.ok.inj hx
    simpa [effect] using h

theorem after_chainOnto {op x y : String} {k : Nesting} (hop : Markless op)
    (hx : n.after x.toList = some k) (hy : k.after y.toList = some m) :
    n.after (chainOnto op x y).toList = some m := by
  have between : marks (x ++ " " ++ op ++ " " ++ y) = marks (x ++ y) := by
    have blank : marks " " = [] := rfl
    simp [blank, hop.marks_eq]
  have both : n.after (x ++ y).toList = some m := by
    simp [hx, hy]
  unfold chainOnto
  split
  · next h =>
    rw [← both]
    apply Nesting.after_congr
    simp [marks_of_allBlank h]
  · split
    · next h =>
      subst h
      rwa [String.append_empty] at both
    · rwa [Nesting.after_congr between]

variable {emit : Sexpr → Context → Outcome}

/-- A template does to the machine what its effect says. -/
theorem after_render {t : Template} {x : String}
    (hsubs : ∀ q ∈ t.subs, ∀ y, emit q.1 q.2 = .ok y → Neutral y)
    (hx : t.render emit = .ok x) (h : t.effect n = some m) : n.after x.toList = some m := by
  induction t generalizing n m x with
  | text s => cases hx; exact h
  | sub e ctx =>
    cases h
    exact hsubs (e, ctx) (by simp [subs]) x hx n
  | fail f => cases hx
  | append a b iha ihb =>
    simp only [subs, List.mem_append] at hsubs
    obtain ⟨k, hk, hm⟩ := Option.bind_eq_some_iff.mp h
    obtain ⟨u, v, hu, hv, rfl⟩ := both_ok hx
    rw [String.toList_append, Nesting.after_append, iha (fun q hq => hsubs q (.inl hq)) hu hk]
    exact ihb (fun q hq => hsubs q (.inr hq)) hv hm
  | late a b iha ihb =>
    simp only [subs, List.mem_append] at hsubs
    obtain ⟨k, hk, hm⟩ := Option.bind_eq_some_iff.mp h
    obtain ⟨v, u, hv, hu, rfl⟩ := both_ok hx
    rw [String.toList_append, Nesting.after_append, iha (fun q hq => hsubs q (.inr hq)) hu hk]
    exact ihb (fun q hq => hsubs q (.inl hq)) hv hm
  | chain op a b iha ihb =>
    simp only [subs, List.mem_append] at hsubs
    rw [effect] at h
    split at h
    · next hop =>
      obtain ⟨k, hk, hm⟩ := Option.bind_eq_some_iff.mp h
      obtain ⟨u, v, hu, hv, rfl⟩ := both_ok hx
      exact after_chainOnto hop (iha (fun q hq => hsubs q (.inl hq)) hu hk)
        (ihb (fun q hq => hsubs q (.inr hq)) hv hm)
    · cases h
  | finish f t ih =>
    cases ht : t.render emit with
    | error g => rw [render, ht] at hx; cases hx
    | ok s =>
      rw [render, ht] at hx
      exact after_apply (fun _ => ih hsubs ht) h hx

/-! ## Balanced templates -/

/-- A template that leaves the brackets and quotes around it as they are. -/
abbrev Balanced (t : Template) : Prop := ∀ n, t.effect n = some n

variable {a b : Template} {ts : List Template} {es : List Sexpr} {ctx : Context}

theorem balanced_text (h : Neutral s) : (text s).Balanced := h

theorem balanced_sub (e : Sexpr) : (sub e ctx).Balanced := fun _ => rfl

theorem Balanced.append (ha : a.Balanced) (hb : b.Balanced) : (append a b).Balanced := by
  intro n
  rw [effect, ha n]
  exact hb n

theorem balanced_concat (h : ∀ t ∈ ts, t.Balanced) : (concat ts).Balanced := by
  induction ts with
  | nil => exact fun _ => rfl
  | cons t ts ih =>
    cases ts with
    | nil => exact h t List.mem_cons_self
    | cons u ts =>
      exact (h t List.mem_cons_self).append (ih fun v hv => h v (List.mem_cons_of_mem _ hv))

theorem balanced_separated {sep : String} (hsep : Markless sep) (h : ∀ t ∈ ts, t.Balanced) :
    (separated sep ts).Balanced := by
  induction ts with
  | nil => exact fun _ => rfl
  | cons t ts ih =>
    cases ts with
    | nil => exact h t List.mem_cons_self
    | cons u ts =>
      have rest := ih fun v hv => h v (List.mem_cons_of_mem _ hv)
      exact (h t List.mem_cons_self).append ((balanced_text hsep.neutral).append rest)

theorem balanced_chainOf {op : String} (hop : Markless op) (h : ∀ t ∈ ts, t.Balanced) :
    (chainOf op ts).Balanced := by
  induction ts with
  | nil => exact fun _ => rfl
  | cons t ts ih =>
    intro n
    rw [chainOf, effect, if_pos hop, h t List.mem_cons_self n]
    exact ih (fun v hv => h v (List.mem_cons_of_mem _ hv)) n

theorem balanced_each : ∀ t ∈ each es ctx, t.Balanced :=
  List.forall_mem_map.mpr fun e _ => balanced_sub e

theorem balanced_statements (h : ∀ e ∈ es, Markless (commentFor e ctx)) :
    (statements es ctx).Balanced :=
  balanced_concat (List.forall_mem_map.mpr fun e he _ => if_pos (h e he))

end Template

end SexprShell.Script
