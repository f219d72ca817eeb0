import SexprShell.Proofs.Script.Comments
import SexprShell.Proofs.Script.Rendering

/-!
# Comments in templates

Texts with comments at the ends of lines only (`Tidy`). A template whose fixed texts hold no
comments makes such a text of such texts (`Template.tidy_render`).
-/

namespace SexprShell.Script

open Sexpr Text

variable {file : String} {c : Char} {s : String}

/-- A text whose comments all stand at the ends of lines, and are closed by line feeds. -/
def Tidy (file : String) (c : Char) (s : String) : Prop :=
  Commented file c false s.toList false

theorem Tidy.append (hc : Telltale file c) {t : String} (hs : Tidy file c s) (ht : Tidy file c t) :
    Tidy file c (s ++ t) := by
  rw [Tidy, String.toList_append]
  exact Commented.append hc hs ht

theorem tidy_of_notMem (h : c ∉ s.toList) : Tidy file c s := Commented.of_notMem h

theorem notMem_property (hc : Telltale file c) : TextProperty fun s => c ∉ s.toList where
  plain := hc.notMem_of_plain
  newline h := hc.ne_ascii (by decide) (List.mem_singleton.mp h).symm
  append hs ht h := (List.mem_append.mp (String.toList_append ▸ h)).elim hs ht
  quoted h := by
    have quote : '"' ≠ c := hc.ne_ascii (by decide)
    simp [doubleQuoted, quote.symm, h]
  parsing h := by
    have ascii : ∀ x ∈ flagParsing.toList, x.toNat < 128 := by simp [flagParsing]
    exact hc.ne_ascii (ascii c h) rfl

/-! ## Templates -/

/-- What follows a statement is a comment of the file, if it is anything. -/
def CommentOf (file comment : String) : Prop :=
  comment = "" ∨ ∃ n, comment.toList = ' ' :: citation file n

namespace Template

/-- The character is in none of the fixed texts, statements have comments of the file, and no text
is trimmed at the end of a line. -/
@[simp] def Tidied (file : String) (c : Char) : Template → Prop
  | text s => c ∉ s.toList
  | sub _ _ | fail _ => True
  | append a b | late a b => a.Tidied file c ∧ b.Tidied file c
  | chain op a b => c ∉ op.toList ∧ a.Tidied file c ∧ b.Tidied file c
  | finish (.statement comment) t => CommentOf file comment ∧ t.Tidied file c
  | finish .stripped _ => False
  | finish _ t => t.Tidied file c

theorem tidy_chainOnto (hc : Telltale file c) {op x y : String} (hop : c ∉ op.toList)
    (hx : Tidy file c x) (hy : Tidy file c y) : Tidy file c (chainOnto op x y) := by
  have blank : Tidy file c " " := tidy_of_notMem (hc.notMem_of_plain (by decide))
  unfold chainOnto
  split
  · exact hy
  · split
    · exact hx
    · exact (((hx.append hc blank).append hc (tidy_of_notMem hop)).append hc blank).append hc hy

theorem tidy_apply (hc : Telltale file c) {f : Finish} {t : Template} {x : String}
    (hs : t.Tidied file c → Tidy file c s) (ht : (finish f t).Tidied file c)
    (hx : f.apply s = .ok x) : Tidy file c x := by
  cases f with
  | identifier rule =>
    simp only [Finish.apply, Script.identifier] at hx
    split at hx
    · cases hx
    · obtain rfl := Except.ok.inj hx
      exact hs ht
  | munged =>
    obtain rfl := Except.ok.inj hx
    rw [Tidy, Script.munged, String.toList_ofList]
    exact (hs ht).munged hc
  | operand =>
    obtain rfl := Except.ok.inj hx
    have quote : Tidy file c "\"" := by
      apply tidy_of_notMem
      simpa using (hc.ne_ascii (x := '"') (by decide)).symm
    unfold asOperand
    split
    · exact hs ht
    · exact (quote.append hc (hs ht)).append hc quote
  | branch block =>
    obtain rfl := Except.ok.inj hx
    exact Commented.asBranch hc block (hs ht)
  | statement comment =>
    obtain rfl := Except.ok.inj hx
    exact Commented.asStatement hc ht.1 (hs ht.2)
  | stripped => cases ht
  | dropped =>
    obtain rfl := Except.ok.inj hx
    exact .nil id

variable {emit : Sexpr → Context → Outcome}

/-- Comments stay at the ends of lines in whatever is made of tidy texts. -/
theorem tidy_render (hc : Telltale file c) {t : Template} {x : String}
    (hsubs : ∀ q ∈ t.subs, ∀ y, emit q.1 q.2 = .ok y → Tidy file c y) (ht : t.Tidied file c)
    (hx : t.render emit = .ok x) : Tidy file c x := by
  induction t generalizing x with
  | text s =>
    cases hx
    exact tidy_of_notMem ht
  | sub e ctx => exact hsubs (e, ctx) (by simp [subs]) x hx
  | fail f => cases hx
  | append a b iha ihb =>
    simp only [subs, List.mem_append] at hsubs
    obtain ⟨u, v, hu, hv, rfl⟩ := both_ok hx
    exact (iha (fun q hq => hsubs q (.inl hq)) ht.1 hu).append hc
      (ihb (fun q hq => hsubs q (.inr hq)) ht.2 hv)
  | late a b iha ihb =>
    simp only [subs, List.mem_append] at hsubs
    obtain ⟨v, u, hv, hu, rfl⟩ := both_ok hx
    exact (iha (fun q hq => hsubs q (.inr hq)) ht.1 hu).append hc
      (ihb (fun q hq => hsubs q (.inl hq)) ht.2 hv)
  | chain op a b iha ihb =>
    simp only [subs, List.mem_append] at hsubs
    obtain ⟨u, v, hu, hv, rfl⟩ := both_ok hx
    exact tidy_chainOnto hc ht.1 (iha (fun q hq => hsubs q (.inl hq)) ht.2.1 hu)
      (ihb (fun q hq => hsubs q (.inr hq)) ht.2.2 hv)
  | finish f t ih =>
    cases hy : t.render emit with
    | error g => rw [render, hy] at hx; cases hx
    | ok s =>
      rw [render, hy] at hx
      exact tidy_apply hc (fun ht => ih hsubs ht hy) ht hx

/-! ## Parts of templates -/

variable {ts : List Template} {es args : List Sexpr} {ctx : Context}

@[simp] theorem tidied_concat : (concat ts).Tidied file c ↔ ∀ t ∈ ts, t.Tidied file c := by
  induction ts with
  | nil => simp [concat]
  | cons t ts ih =>
    cases ts with
    | nil => simp [concat]
    | cons u ts => rw [concat, Tidied, ih, ← List.forall_mem_cons]; simp

theorem tidied_separated {sep : String} (hsep : c ∉ sep.toList) :
    (separated sep ts).Tidied file c ↔ ∀ t ∈ ts, t.Tidied file c := by
  induction ts with
  | nil => simp [separated]
  | cons t ts ih =>
    cases ts with
    | nil => simp [separated]
    | cons u ts =>
      rw [separated, Tidied, Tidied, ih, List.forall_mem_cons (l := u :: ts)]
      · simp [hsep]
      · simp

theorem tidied_chainOf {op : String} (hop : c ∉ op.toList) :
    (chainOf op ts).Tidied file c ↔ ∀ t ∈ ts, t.Tidied file c := by
  induction ts with
  | nil => simp [chainOf]
  | cons t ts ih => simp [chainOf, hop, ih]

theorem tidied_each : ∀ t ∈ each es ctx, t.Tidied file c :=
  List.forall_mem_map.mpr fun _ _ => trivial

theorem tidied_statements (h : ∀ e ∈ es, CommentOf file (commentFor e ctx)) :
    (statements es ctx).Tidied file c :=
  tidied_concat.mpr (List.forall_mem_map.mpr fun e he => ⟨h e he, trivial⟩)

end Template

end SexprShell.Script
