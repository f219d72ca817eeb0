import SexprShell.Proofs.Source.Concatenation
import SexprShell.Proofs.Source.RoundTrip

/-!
# Segments of a text

A cut is taken apart and put together at any token (`Cut.split`, `Cut.trans`). The characters of the
tokens in between are cut in the same way when they are a text of their own (`Cut.alone`), and so
they are read as the same items, wherever these stood (`means_of_items`, `readAll_of_cut`).
-/

namespace SexprShell.Source

open Terminal Sexpr

variable {t : Terminal} {l cs cs' mid rest : List Char} {p p' q r : Position}
  {ts us : List (Position × Token)} {token : Token}

/-! ## Parts of a cut -/

theorem Cut.trans (H : Cut p cs ts q mid) (H' : Cut q mid us r rest) :
    Cut p cs (ts ++ us) r rest := by
  induction H with
  | stop => exact H'
  | take h _ ih =>
    rw [List.append_assoc]
    exact .take h (ih H')

/-- A cut can be taken apart between any two of its tokens. -/
theorem Cut.split (H : Cut p cs (ts ++ us) r rest) :
    ∃ q mid, Cut p cs ts q mid ∧ Cut q mid us r rest := by
  generalize hall : ts ++ us = all at H
  induction H generalizing ts with
  | stop =>
    obtain ⟨rfl, rfl⟩ := List.append_eq_nil_iff.mp hall
    exact ⟨_, _, .stop, .stop⟩
  | @take p _ l cs _ t ts' h H ih =>
    cases htoken : t.token? l with
    | none =>
      rw [htoken] at hall
      obtain ⟨q, mid, H₁, H₂⟩ := ih hall
      have first : Cut p (l ++ cs) ((t.token? l).toList.map (p, ·) ++ ts) q mid := .take h H₁
      rw [htoken] at first
      exact ⟨q, mid, first, H₂⟩
    | some token =>
      rw [htoken] at hall
      cases ts with
      | nil =>
        have whole : Cut p (l ++ cs) ((t.token? l).toList.map (p, ·) ++ ts') _ _ := .take h H
        rw [htoken, ← hall] at whole
        exact ⟨p, _, .stop, whole⟩
      | cons x ts =>
        obtain ⟨rfl, htail⟩ := List.cons.inj hall
        obtain ⟨q, mid, H₁, H₂⟩ := ih htail
        have first : Cut p (l ++ cs) ((t.token? l).toList.map (p, ·) ++ ts) q mid := .take h H₁
        rw [htoken] at first
        exact ⟨q, mid, first, H₂⟩

/-- Nothing but lexemes that mean nothing stands in front of the first token. -/
theorem Cut.first (H : Cut p cs ((q, token) :: ts) r rest) :
    ∃ (t : Terminal) (l cs' : List Char), Cut p cs [] q (l ++ cs') ∧ t.First l (l ++ cs') ∧
      t.token? l = some token ∧ Cut (q.advance l) cs' ts r rest := by
  generalize hall : (q, token) :: ts = all at H
  induction H with
  | stop => cases hall
  | @take p _ l cs _ t ts' h H ih =>
    cases htoken : t.token? l with
    | none =>
      rw [htoken] at hall
      obtain ⟨t', l', cs', gap, h', htoken', H'⟩ := ih hall
      have skipped : Cut p (l ++ cs) ((t.token? l).toList.map (p, ·) ++ []) q (l' ++ cs') :=
        .take h gap
      rw [htoken] at skipped
      exact ⟨t', l', cs', skipped, h', htoken', H'⟩
    | some token' =>
      rw [htoken] at hall
      cases hall
      exact ⟨t, l, cs, .stop, h, htoken, H⟩

/-- Each token of a cut has a lexeme in the text, which is cut in front of it and behind it. -/
theorem Cut.at_token (H : Cut p cs (ts ++ (q, token) :: us) r rest) :
    ∃ (t : Terminal) (l cs' : List Char), Cut p cs ts q (l ++ cs') ∧ t.First l (l ++ cs') ∧
      t.token? l = some token ∧ Cut (q.advance l) cs' us r rest := by
  obtain ⟨_, _, H₁, H₂⟩ := H.split
  obtain ⟨t, l, cs', gap, hfirst, ht, H₃⟩ := H₂.first
  have front := H₁.trans gap
  rw [List.append_nil] at front
  exact ⟨t, l, cs', front, hfirst, ht, H₃⟩

/-! ## Texts of their own -/

/-- What is found at the start of a text is found there if the text ends earlier, but not before the
lexeme does. -/
theorem Terminal.First.of_prefix (h : t.First l cs) (hl : l <+: cs') (hcs : cs' <+: cs) :
    t.First l cs' := by
  obtain ⟨⟨_, hlexeme, hlongest⟩, earlier, later, hall, hnone⟩ := h
  exact ⟨⟨hl, hlexeme, fun hl' => hlongest (hl'.trans hcs)⟩, earlier, later, hall,
    fun u hu l' hl' => hnone u hu l' (hl'.trans hcs)⟩

/-- What has been cut off is cut up in the same way without what follows. -/
theorem Cut.alone (H : Cut p (cs ++ rest) ts q rest) : Cut p cs ts q [] := by
  generalize hall : cs ++ rest = all at H
  induction H generalizing cs with
  | stop =>
    obtain rfl : cs = [] := List.append_left_eq_self.mp hall
    exact .stop
  | @take p q l cs₁ rest t ts h H ih =>
    obtain ⟨mid, rfl, -⟩ := H.advance_eq
    obtain rfl : cs = l ++ mid := by simpa [← List.append_assoc] using hall
    refine .take (h.of_prefix (List.prefix_append _ _) ?_) (ih rfl)
    exact (List.prefix_append_right_inj l).mpr (List.prefix_append mid rest)

/-- A text is cut into the same tokens wherever it stands. -/
theorem Cut.anywhere (H : Cut p cs ts q rest) (p' : Position) :
    ∃ ts' q', Cut p' cs ts' q' rest ∧ ts'.map (·.2) = ts.map (·.2) := by
  induction H generalizing p' with
  | stop => exact ⟨[], p', .stop, rfl⟩
  | @take p q l cs rest t ts h _ ih =>
    obtain ⟨ts', q', H', htokens⟩ := ih (p'.advance l)
    refine ⟨_, q', .take h H', ?_⟩
    simp [htokens]

/-! ## Reading a segment -/

variable {locate : Position → Option Location} {ds : List Datum} {es : List Sexpr}

theorem itemsToSexprs_cons_eq_ok {d : Datum} (h : itemsToSexprs locate (d :: ds) = .ok es) :
    ∃ v vs, d.toSexpr locate = .ok v ∧ itemsToSexprs locate ds = .ok vs ∧ es = v :: vs := by
  rw [itemsToSexprs] at h
  cases hd : d.toSexpr locate with
  | error e => rw [hd] at h; cases h
  | ok v =>
    cases hds : itemsToSexprs locate ds with
    | error e => rw [hd, hds] at h; cases h
    | ok vs =>
      rw [hd, hds] at h
      cases h
      exact ⟨v, vs, rfl, rfl, rfl⟩

theorem Datum.toSexpr_group_eq_ok {b : Bracket} {v : Sexpr}
    (h : (Datum.group b p ds).toSexpr locate = .ok v) :
    ∃ vs, itemsToSexprs locate ds = .ok vs ∧ groupOf b (locate p) vs = .ok v := by
  rw [Datum.toSexpr] at h
  cases hds : itemsToSexprs locate ds with
  | error e => rw [hds] at h; cases h
  | ok vs => exact ⟨vs, rfl, by rwa [hds] at h⟩

theorem Datum.toSexpr_deref_eq_ok {d : Datum} {v : Sexpr}
    (h : (Datum.deref p d).toSexpr locate = .ok v) :
    ∃ x, d.toSexpr locate = .ok x ∧ v = .form [.symbol "deref", x] (locate p) := by
  rw [Datum.toSexpr] at h
  cases hd : d.toSexpr locate with
  | error e => rw [hd] at h; cases h
  | ok x =>
    rw [hd] at h
    cases h
    exact ⟨x, rfl, rfl⟩

/-- The tokens of items with a meaning have this meaning wherever they stand. -/
theorem means_of_items (H : Items ts ds) :
    ∀ {es}, itemsToSexprs locate ds = .ok es → Means (ts.map (·.2)) es := by
  induction H with
  | nil =>
    intro es h
    cases h
    exact .nil
  | atom _ ih =>
    intro es h
    obtain ⟨v, vs, ha, hvs, rfl⟩ := itemsToSexprs_cons_eq_ok h
    exact .atom ha (ih hvs)
  | @group b p q inner ts items ds _ _ ihi ih =>
    intro es h
    obtain ⟨v, vs, hv, hvs, rfl⟩ := itemsToSexprs_cons_eq_ok h
    obtain ⟨xs, hxs, hgroup⟩ := Datum.toSexpr_group_eq_ok hv
    have bare : groupOf b none (xs.map unlocated) = .ok v.unlocated := by
      rw [groupOf_unlocated b (locate p), hgroup]
      rfl
    simpa using Means.group (ihi hxs) bare (ih hvs)
  | deref _ ih =>
    intro es h
    obtain ⟨v, vs, hv, hvs, rfl⟩ := itemsToSexprs_cons_eq_ok h
    obtain ⟨x, hx, rfl⟩ := Datum.toSexpr_deref_eq_ok hv
    exact .deref (ih (by rw [itemsToSexprs, hx, hvs]))

/-- A segment of a text is read as what it contributes to the whole, except for locations. -/
theorem readAll_of_cut (H : Cut p (cs ++ rest) ts q rest) (hi : Items ts ds)
    (hes : itemsToSexprs locate ds = .ok es) :
    readAll (String.ofList cs) = .ok (es.map unlocated) := by
  obtain ⟨ts', q', H', htokens⟩ := H.alone.anywhere .start
  obtain ⟨ds', hi', hes'⟩ := means_of_items hi hes ts' htokens
  have parsed : parse cs = .ok ds' := parse_eq_ok_iff.mpr ⟨ts', q', H', hi'⟩
  rw [readAll, String.toList_ofList, parsed]
  exact hes'

end SexprShell.Source
