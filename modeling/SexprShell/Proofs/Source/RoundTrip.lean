import Mathlib.Data.List.Forall2
import SexprShell.Proofs.Source.Grammar
import SexprShell.Proofs.Source.Layout
import SexprShell.Proofs.Source.Location

/-!
# Reading what was written

Readable expressions are read back from every notation of theirs, however it is laid out
(`readAll_notation`).
-/

namespace SexprShell.Source

open Sexpr

/-- Tokens with these contents, wherever they stand, write items that mean these expressions. -/
def Means (tokens : List Token) (es : List Sexpr) : Prop :=
  ∀ ts : List (Position × Token), ts.map (·.2) = tokens →
    ∃ ds, Items ts ds ∧ itemsToSexprs (fun _ => none) ds = .ok (es.map unlocated)

namespace Means

variable {inner tokens : List Token} {items es : List Sexpr} {e : Sexpr}

theorem nil : Means [] [] := by
  intro ts hts
  cases List.map_eq_nil_iff.mp hts
  exact ⟨[], .nil, rfl⟩

theorem atom {a : Atom} (ha : a.toSexpr = .ok e) (H : Means tokens es) :
    Means (.atom a :: tokens) (e :: es) := by
  intro ts hts
  obtain ⟨⟨p, _⟩, ts, rfl, rfl, htail⟩ := List.map_eq_cons_iff.mp hts
  obtain ⟨ds, hi, hm⟩ := H ts htail
  refine ⟨_, hi.atom, ?_⟩
  simp [itemsToSexprs, Datum.toSexpr, ha, hm, Atom.toSexpr_unlocated ha]

/-- Items between brackets, where `e` is what the brackets make of them. -/
theorem group {b : Bracket} (Hi : Means inner items)
    (he : groupOf b none (items.map unlocated) = .ok e.unlocated) (H : Means tokens es) :
    Means (.opening b :: (inner ++ .closing b :: tokens)) (e :: es) := by
  intro ts hts
  obtain ⟨⟨p, _⟩, ts, rfl, rfl, hrest⟩ := List.map_eq_cons_iff.mp hts
  obtain ⟨us, ts, rfl, hus, hclose⟩ := List.map_eq_append_iff.mp hrest
  obtain ⟨⟨q, _⟩, ts, rfl, rfl, htail⟩ := List.map_eq_cons_iff.mp hclose
  obtain ⟨ds, hi, hm⟩ := Hi us hus
  obtain ⟨ds', hi', hm'⟩ := H ts htail
  refine ⟨_, .group hi hi', ?_⟩
  simp [itemsToSexprs, Datum.toSexpr, hm, he, hm']

theorem deref {location : Option Location} (H : Means tokens (e :: es)) :
    Means (.deref :: tokens) (.form [.symbol "deref", e] location :: es) := by
  intro ts hts
  obtain ⟨⟨p, _⟩, ts, rfl, rfl, htail⟩ := List.map_eq_cons_iff.mp hts
  obtain ⟨ds, hi, hm⟩ := H ts htail
  cases ds with
  | nil => cases hm
  | cons d ds =>
    refine ⟨_, hi.deref, ?_⟩
    simp only [itemsToSexprs, Datum.toSexpr, List.map_cons] at hm ⊢
    cases hd : d.toSexpr (fun _ => none) with
    | error e => rw [hd] at hm; cases hm
    | ok v =>
      rw [hd] at hm
      cases hds : itemsToSexprs (fun _ => none) ds with
      | error e => rw [hds] at hm; cases hm
      | ok vs =>
        rw [hds] at hm
        cases hm
        rfl

end Means

/-- Brackets around the keys and values of a mapping make that mapping. -/
theorem groupOf_keysAndValues {entries : List (Sexpr × Sexpr)}
    (hdistinct : entries.Pairwise fun p q => p.1.same q.1 = false)
    (hkeys : ∀ p ∈ entries, p.1.unhashable? = none) :
    groupOf .curly none ((keysAndValues entries).map unlocated) =
      .ok (Sexpr.map entries).unlocated := by
  have found : (entries.findSome? fun p => p.1.unhashable?) = none :=
    List.findSome?_eq_none_iff.mpr hkeys
  have kept : insertAll [] entries = entries := insertAll_of_pairwise hdistinct
  rw [groupOf_unlocated .curly none, groupOf, mappingOf, if_neg (not_odd_keysAndValues _),
    pairUp_keysAndValues, entriesOf, found, kept]
  rfl

theorem lexeme?_ne_nil {e : Sexpr} {l : List Char} (he : e.Readable) (hl : e.lexeme? = some l) :
    l ≠ [] := by
  cases he with
  | nil => cases hl; simp
  | bool b => cases hl; cases b <;> simp
  | int n =>
    cases hl
    obtain ⟨sign, digits, h, -, hdigits⟩ := isInteger_toString n
    rw [h]
    simp [hdigits.1]
  | ratio => cases hl; simp
  | text s => cases hl; simp
  | symbol hs => cases hl; exact hs.ne_nil
  | keyword hs => cases hl; simp
  | list | form | map => cases hl

/-- Pieces of readable expressions are read as tokens that mean these expressions. -/
theorem exists_means_of_written {es : List Sexpr} {ps : List Piece} (H : Written es ps) :
    (∀ e ∈ es, e.Readable) → ∃ tokens, List.Forall₂ Reads ps tokens ∧ Means tokens es := by
  induction H with
  | nil => exact fun _ => ⟨[], .nil, .nil⟩
  | @atom e l es ps hl _ ih =>
    intro hr
    obtain ⟨t, a, hfirst, htoken, ha⟩ := first?_lexeme (hr e (by simp)) hl
    obtain ⟨tokens, hreads, hm⟩ := ih fun x hx => hr x (by simp [hx])
    exact ⟨_, .cons (.atom (lexeme?_ne_nil (hr e (by simp)) hl) hfirst htoken) hreads, hm.atom ha⟩
  | @form items es location inner ps _ _ ihi ih =>
    intro hr
    cases hr (.form items location) (by simp) with
    | form hitems =>
      obtain ⟨ti, hri, hmi⟩ := ihi hitems
      obtain ⟨tokens, hreads, hm⟩ := ih fun x hx => hr x (by simp [hx])
      exact ⟨_, .cons (.opening _) (List.rel_append hri (.cons (.closing _) hreads)),
        hmi.group (by rw [unlocated_form]; rfl) hm⟩
  | @list items es inner ps _ _ ihi ih =>
    intro hr
    cases hr (.seq .list items) (by simp) with
    | list hitems =>
      obtain ⟨ti, hri, hmi⟩ := ihi hitems
      obtain ⟨tokens, hreads, hm⟩ := ih fun x hx => hr x (by simp [hx])
      exact ⟨_, .cons (.opening _) (List.rel_append hri (.cons (.closing _) hreads)),
        hmi.group (by rw [unlocated_seq]; rfl) hm⟩
  | @map entries es inner ps _ _ ihi ih =>
    intro hr
    cases hr (.map entries) (by simp) with
    | map hkeys hvalues hdistinct hhash =>
      obtain ⟨ti, hri, hmi⟩ := ihi fun x hx => by
        obtain ⟨p, hp, rfl | rfl⟩ := mem_keysAndValues.mp hx
        · exact hkeys p hp
        · exact hvalues p hp
      obtain ⟨tokens, hreads, hm⟩ := ih fun x hx => hr x (by simp [hx])
      exact ⟨_, .cons (.opening _) (List.rel_append hri (.cons (.closing _) hreads)),
        hmi.group (groupOf_keysAndValues hdistinct hhash) hm⟩
  | @deref item es location ps _ ih =>
    intro hr
    cases hr (.form [.symbol "deref", item] location) (by simp) with
    | form hitems =>
      obtain ⟨tokens, hreads, hm⟩ := ih fun x hx => by
        rcases List.mem_cons.mp hx with rfl | hx
        · exact hitems _ (by simp)
        · exact hr x (by simp [hx])
      exact ⟨_, .cons .mark hreads, hm.deref⟩

/-- Readable expressions are read from every notation of theirs: as they are, except for the
locations of the text. -/
theorem readAll_notation {es : List Sexpr} {src : String} (hr : ∀ e ∈ es, e.Readable)
    (hn : IsNotation es src) (file : Option String) (track : Bool) :
    ∃ vs, readAll src file track = .ok vs ∧ vs.map unlocated = es.map unlocated ∧
      (track = false → vs = es.map unlocated) := by
  obtain ⟨ps, hw, hlaid⟩ := hn
  obtain ⟨tokens, hreads, hm⟩ := exists_means_of_written hw hr
  obtain ⟨ts, hscan, hts⟩ := scan_laid hlaid hreads .start
  obtain ⟨ds, hi, hds⟩ := hm ts hts
  have plain : readAll src = .ok (es.map unlocated) := by
    rw [readAll, parse, hscan]
    simp only [run_eq_ok_iff.mpr hi]
    exact hds
  have unlocated_eq := readAll_unlocated src file track
  rw [plain] at unlocated_eq
  cases h : readAll src file track with
  | error e => rw [h] at unlocated_eq; cases unlocated_eq
  | ok vs =>
    rw [h] at unlocated_eq
    refine ⟨vs, rfl, ?_, ?_⟩
    · exact (Except.ok.inj unlocated_eq).symm
    · rintro rfl
      exact Except.ok.inj (h.symm.trans plain)

/-- A form in its short notation, right in front of a list with a comment in it. -/
theorem readAll_notation_deref :
    ∃ vs, readAll "@x[:k ;two\n1/2]" none true = .ok vs ∧
      vs.map unlocated = [.form [.symbol "deref", .symbol "x"] none,
        .seq .list [.keyword "k", .ratio (mkRat 1 2)]] := by
  have hderef : IsSymbolName "deref" :=
    .of_head (c := 'd') rfl (List.all_eq_true.mp (by decide)) (by decide) (by decide)
  have hx : IsSymbolName "x" :=
    .of_head (c := 'x') rfl (List.all_eq_true.mp (by decide)) (by decide) (by decide)
  have hk : IsKeywordName "k" := ⟨by decide, List.all_eq_true.mp (by decide)⟩
  have hform : Sexpr.Readable (.form [.symbol "deref", .symbol "x"] none) := by
    refine .form fun e he => ?_
    simp only [List.mem_cons, List.not_mem_nil, or_false] at he
    rcases he with rfl | rfl
    · exact .symbol hderef
    · exact .symbol hx
  have hlist : Sexpr.Readable (.seq .list [.keyword "k", .ratio (mkRat 1 2)]) := by
    refine .list fun e he => ?_
    simp only [List.mem_cons, List.not_mem_nil, or_false] at he
    rcases he with rfl | rfl
    · exact .keyword hk
    · exact .ratio (by decide)
  have hn : IsNotation [.form [.symbol "deref", .symbol "x"] none,
      .seq .list [.keyword "k", .ratio (mkRat 1 2)]] "@x[:k ;two\n1/2]" := by
    refine ⟨[.mark, .atom ['x'], .opening .square, .atom [':', 'k'], .atom ['1', '/', '2'],
      .closing .square], .deref (.atom rfl (.list (.atom rfl (.atom rfl .nil)) .nil)), ?_⟩
    have hspacing : Spacing [' ', ';', 't', 'w', 'o', '\n'] :=
      .gap (by decide) (.comment (w := ['t', 'w', 'o']) (by simp) .nil)
    exact .cons .nil (by decide) (.cons .nil (by decide) (.cons .nil (by decide)
      (.cons .nil (by decide) (.cons hspacing (by decide) (.cons .nil (by decide) (.nil .nil))))))
  obtain ⟨vs, hvs, h, -⟩ := readAll_notation (by simp [hform, hlist]) hn none true
  exact ⟨vs, hvs, h⟩

end SexprShell.Source
