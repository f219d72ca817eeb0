import SexprShell.Proofs.Source.Acceptance
import SexprShell.Proofs.Source.Layout
import SexprShell.Proofs.Source.Shift

/-!
# Reading one text behind another

A text that can be read leaves nothing open at its end: what stands on the lines below it is read
as it is by itself, only with higher lines (`readAll_append_newline`). No lexeme but a gap goes on
over the line feed between the two (`Terminal.First.append_newline`).
-/

namespace SexprShell.Source

open Terminal Text

variable {t : Terminal} {l l' cs rest : List Char} {p q : Position}
  {ts : List (Position × Token)}

/-! ## Lexemes at the end of a line -/

theorem IsDigits.isWordChar (h : IsDigits l) : ∀ c ∈ l, isWordChar c :=
  fun c hc => isWordChar_of_isDigit (h.2 c hc)

theorem IsInteger.isWordChar (h : IsInteger l) : ∀ c ∈ l, isWordChar c := by
  obtain ⟨sign, digits, rfl, hsign, hd⟩ := h
  have minus : isWordChar '-' := by decide
  have := hd.isWordChar
  rcases hsign with rfl | rfl <;> simpa [minus]

theorem IsExponent.isWordChar (h : IsExponent l) : ∀ c ∈ l, isWordChar c := by
  obtain ⟨mark, sign, digits, rfl, hmark, hsign, hd⟩ := h
  have letters : isWordChar 'e' ∧ isWordChar 'E' := by decide
  have signs : isWordChar '-' ∧ isWordChar '+' := by decide
  have := hd.isWordChar
  rcases hmark with rfl | rfl <;> rcases hsign with rfl | rfl | rfl <;> simpa [letters, signs]

/-- Numbers, keywords and symbols are made of the characters of words. -/
theorem Terminal.Lexeme.isWordChar (h : t.Lexeme l)
    (ht : t ∈ [.ratio, .float, .int, .keyword, .symbol]) : ∀ c ∈ l, isWordChar c := by
  cases t with
  | ratio =>
    obtain ⟨n, d, rfl, hn, hd⟩ := h
    have slash : Source.isWordChar '/' := by decide
    simp only [List.forall_mem_append, List.forall_mem_cons]
    exact ⟨hn.isWordChar, slash, hd.isWordChar⟩
  | float =>
    obtain ⟨n, d, e, rfl, hn, hd, he⟩ := h
    have point : Source.isWordChar '.' := by decide
    have exponent : ∀ c ∈ e, Source.isWordChar c := by
      rcases he with rfl | he
      · exact List.forall_mem_nil _
      · exact he.isWordChar
    simp only [List.forall_mem_append, List.forall_mem_cons]
    exact ⟨hn.isWordChar, point, hd.isWordChar, exponent⟩
  | int => exact IsInteger.isWordChar h
  | keyword =>
    obtain ⟨w, rfl, _, hw⟩ := h
    have colon : Source.isWordChar ':' := by decide
    refine List.forall_mem_cons.mpr ⟨colon, fun c hc => ?_⟩
    exact (Bool.and_eq_true_iff.mp (hw c hc)).1
  | symbol =>
    obtain ⟨c, w, rfl, hc, hw⟩ := h
    simp only [isSymbolStart, Bool.and_eq_true] at hc
    exact List.forall_mem_cons.mpr ⟨hc.1.1, hw⟩
  | _ => simp at ht

/-- Only texts and gaps hold line feeds. -/
theorem Terminal.Lexeme.newline_notMem (h : t.Lexeme l) (htext : t ≠ .text) (hgap : t ≠ .gap) :
    '\n' ∉ l := by
  cases t with
  | ratio | float | int | keyword | symbol =>
    intro hn
    exact absurd (h.isWordChar (by simp) '\n' hn) (by decide)
  | text => exact absurd rfl htext
  | opening b => cases h; cases b <;> decide
  | closing b => cases h; cases b <;> decide
  | deref => cases h; decide
  | comment =>
    obtain ⟨w, rfl, hw⟩ := h
    intro hn
    exact hw '\n' (by simpa using hn) rfl
  | gap => exact absurd rfl hgap

/-- A text is the only lexeme of its kind at its place. -/
theorem length_eq_of_text (h : Terminal.text.Lexeme l) (h' : Terminal.text.Lexeme l')
    (hl : l <+: cs) (hl' : l' <+: cs) : l'.length = l.length := by
  have width : ∀ {w}, Terminal.text.Lexeme w → w <+: cs →
      Terminal.text.width? cs = some w.length := by
    rintro w ⟨b, rfl, hb⟩ ⟨rest, rfl⟩
    simp [width?, closingWidth?_append hb]
  exact Option.some.inj ((width h' hl').symm.trans (width h hl))

/-- Only a text is found at a double quote. -/
theorem Terminal.First.eq_text (h : t.First l ('"' :: cs)) : t = .text := by
  have found := h.first?
  have gap : runWidth? isGap ('"' :: cs) = none := runWidth?_stop fun c hc => by cases hc; decide
  rw [first?_cons (by decide) (by decide)] at found
  cases hc : closingWidth? cs <;>
    simp [all, width?, isSymbolStart, isWordChar, wordBreaks, Bracket.opening, Bracket.closing, hc,
      gap] at found
  exact found.1.symm

/-- No terminal is tried twice, and gaps are tried last. -/
theorem not_tried_earlier {earlier later : List Terminal} (h : all = earlier ++ t :: later) :
    t ∉ earlier ∧ .gap ∉ earlier := by
  have distinct : all.Nodup := by decide
  have last : all = all.dropLast ++ [.gap] := by decide
  constructor
  · intro ht
    rw [h] at distinct
    exact (List.nodup_append.mp distinct).2.2 t ht t List.mem_cons_self rfl
  · intro hgap
    have within : .gap ∈ all.dropLast := by
      rw [h, List.dropLast_append_of_ne_nil (by simp)]
      exact List.mem_append_left _ hgap
    rw [last] at distinct
    exact (List.nodup_append.mp distinct).2.2 _ within _ List.mem_cons_self rfl

/-- A terminal that is tried no later than another one. -/
def Terminal.NoLater (u t : Terminal) : Prop := u = t ∨ u ∈ all.takeWhile (· != t)

theorem noLater_iff {u : Terminal} {earlier later : List Terminal}
    (h : all = earlier ++ t :: later) : u.NoLater t ↔ u = t ∨ u ∈ earlier := by
  have others : ∀ v ∈ earlier, (v != t) = true := by
    intro v hv
    simp only [bne_iff_ne]
    rintro rfl
    exact (not_tried_earlier h).1 hv
  rw [NoLater, h, List.takeWhile_append_of_pos others, List.takeWhile_cons_of_neg (by simp),
    List.append_nil]

/-- A lexeme longer than the one that is found belongs to a terminal that is tried later. -/
theorem Terminal.First.not_noLater {u : Terminal} (h : t.First l cs) (hl' : l' <+: cs)
    (hu : u.Lexeme l') (hlength : l.length < l'.length) : ¬ u.NoLater t := by
  obtain ⟨⟨_, _, hlongest⟩, earlier, later, hall, hnone⟩ := h
  rw [noLater_iff hall]
  rintro (rfl | htried)
  · exact absurd (hlongest hl' hu) (Nat.not_le_of_lt hlength)
  · exact hnone u htried l' hl' hu

/-- What is found at the start of a text is found in another one with the same beginning, if all
lexemes there that go beyond this beginning are texts, or belong to terminals that are tried
later. -/
theorem Terminal.First.change (h : t.First l cs) {common new : List Char} (hl : l <+: common)
    (hcs : common <+: cs) (hnew : common <+: new)
    (beyond : ∀ {u : Terminal} {l' : List Char}, l' <+: new → u.Lexeme l' →
      l' <+: common ∨ (u = .text ∧ common <+: l') ∨ ¬ u.NoLater t) : t.First l new := by
  obtain ⟨⟨_, hlexeme, hlongest⟩, earlier, later, hall, hnone⟩ := id h
  refine ⟨⟨hl.trans hnew, hlexeme, ?_⟩, earlier, later, hall, ?_⟩
  · intro l' hl' hu
    rcases beyond hl' hu with hp | ⟨rfl, _⟩ | hlater
    · exact hlongest (hp.trans hcs) hu
    · exact (length_eq_of_text hlexeme hu (hl.trans hnew) hl').le
    · exact absurd (.inl rfl) hlater
  · intro u hu l' hl' hlexeme'
    rcases beyond hl' hlexeme' with hp | ⟨rfl, hp⟩ | hlater
    · exact hnone u hu l' (hp.trans hcs) hlexeme'
    · obtain ⟨w, rfl, _⟩ := hlexeme'
      cases common with
      | nil => exact hlexeme.ne_nil (List.prefix_nil.mp hl)
      | cons c common =>
        obtain ⟨rfl, _⟩ := List.cons_prefix_cons.mp hp
        obtain ⟨rest, rfl⟩ := hcs
        exact (not_tried_earlier hall).1 (h.eq_text ▸ hu)
    · exact hlater ((noLater_iff hall).mpr (.inr hu))

/-- What is found at a place stays there if more lines follow the text, unless it is a gap. -/
theorem Terminal.First.append_newline (h : t.First l cs) (hgap : t ≠ .gap) :
    t.First l (cs ++ '\n' :: rest) := by
  refine h.change h.longest.isPrefix (List.prefix_refl cs) (List.prefix_append _ _) ?_
  intro u l' hl' hu
  rcases List.prefix_or_prefix_of_prefix hl' (List.prefix_append cs _) with hp | ⟨m, rfl⟩
  · exact .inl hp
  · cases m with
    | nil => exact .inl (by simp)
    | cons c m =>
      obtain ⟨rfl, _⟩ := List.cons_prefix_cons.mp ((List.prefix_append_right_inj cs).mp hl')
      by_cases htext : u = .text
      · exact .inr (.inl ⟨htext, List.prefix_append _ _⟩)
      · -- Another lexeme with a line feed is a gap, and gaps are tried last.
        obtain rfl : u = .gap := by
          by_contra hno
          exact hu.newline_notMem htext hno (by simp)
        obtain ⟨-, earlier, later, hall, -⟩ := h
        rw [noLater_iff hall, not_or]
        exact .inr (.inr ⟨hgap.symm, (not_tried_earlier hall).2⟩)

/-! ## Cutting and parsing -/

theorem spacing_of_isGap (h : ∀ c ∈ l, isGap c) : Spacing l := by
  induction l with
  | nil => exact .nil
  | cons c l ih => exact .gap (h c (by simp)) (ih fun d hd => h d (by simp [hd]))

/-- A text that can be cut up is cut up in the same way in front of further lines. -/
theorem Cut.scan_append_newline (H : Cut p cs ts q []) :
    scan 0 p (cs ++ '\n' :: rest) =
      (ts ++ (scan 0 (q.next '\n') rest).1, (scan 0 (q.next '\n') rest).2) := by
  generalize hend : ([] : List Char) = e at H
  induction H with
  | stop =>
    subst hend
    rw [List.nil_append, scan_gap (by decide)]
    rfl
  | @take p q l cs _ t ts h _ ih =>
    rw [List.append_assoc]
    by_cases hgap : t = .gap
    · subst hgap
      rw [scan_spacing (spacing_of_isGap h.longest.lexeme.2), ih hend]
      rfl
    · have first : t.First l (l ++ cs ++ '\n' :: rest) := h.append_newline hgap
      rw [List.append_assoc] at first
      rw [scan_take first.first? h.longest.lexeme.ne_nil, ih hend]
      simp

/-- A text that is cut up entirely is gone through entirely. -/
theorem Cut.advance_eq (H : Cut p cs ts q rest) : ∃ l, cs = l ++ rest ∧ q = p.advance l := by
  induction H with
  | stop => exact ⟨[], rfl, rfl⟩
  | @take _ _ l _ _ _ _ _ _ ih =>
    obtain ⟨l', rfl, rfl⟩ := ih
    exact ⟨l ++ l', by simp, by rw [Position.advance_append]⟩

/-- The items of two texts, the second on the lines below the first. -/
theorem parse_append_newline {ds : List Datum} (h : parse cs = .ok ds) :
    parse (cs ++ '\n' :: rest) =
      match parse rest with
      | .ok ds' => .ok (ds ++ ds'.map (Datum.down (1 + cs.count '\n')))
      | .error e => .error (e.down (1 + cs.count '\n')) := by
  obtain ⟨ts, q, hcut, hitems⟩ := parse_eq_ok_iff.mp h
  have below : q.next '\n' = Position.start.down (1 + cs.count '\n') := by
    obtain ⟨l, hl, rfl⟩ := hcut.advance_eq
    rw [List.append_nil] at hl
    subst hl
    rw [Position.next_newline, Position.line_advance]
    rfl
  simp only [parse, hcut.scan_append_newline, below, scan_down, hitems.run_eq, Stack.addAll_outside,
    List.append_nil]
  rw [Stack.run_outside _ (Position.start.down (1 + cs.count '\n'))]
  have run : Stack.run ⟨[], ds.reverse⟩ _ ((scan 0 .start rest).2.down (1 + cs.count '\n')) _ =
      match parse rest with
      | .ok ds' => .ok (ds.reverse.reverse ++ ds'.map (Datum.down (1 + cs.count '\n')))
      | .error e => .error (e.down (1 + cs.count '\n')) :=
    Stack.run_down ⟨[], []⟩ .start (scan 0 .start rest).1
  rw [List.reverse_reverse] at run
  exact run

/-! ## Reading -/

/-- A fault has no position that could be further down. -/
theorem down_of_itemsToSexprs {locate : Position → Option Location} {ds : List Datum}
    {e : ReadError} (k : Nat) (h : itemsToSexprs locate ds = .error e) : e.down k = e := by
  obtain ⟨d, _, hd⟩ := List.exists_of_findSome?_eq_some (error_iff_offence.mp h)
  exact e.down_of_position? k (d.position?_of_offence hd).1

/-- Of two texts the second is read as by itself, on the lines below the first: its expressions come
behind those of the first, with locations that much lower, and so does its error. -/
theorem readAll_append_newline {s₁ : String} {file : Option String} {track : Bool}
    {es : List Sexpr} (h : readAll s₁ file track = .ok es) (s₂ : String) :
    readAll (s₁ ++ "\n" ++ s₂) file track =
      match readAll s₂ file track with
      | .ok es' => .ok (es ++ es'.map (Sexpr.down (1 + s₁.toList.count '\n')))
      | .error e => .error (e.down (1 + s₁.toList.count '\n')) := by
  have chars : (s₁ ++ "\n" ++ s₂).toList = s₁.toList ++ '\n' :: s₂.toList := by simp
  unfold readAll at h ⊢
  cases hds : parse s₁.toList with
  | error e => rw [hds] at h; cases h
  | ok ds =>
    rw [hds] at h
    rw [chars, parse_append_newline hds]
    cases parse s₂.toList with
    | error e => rfl
    | ok ds' =>
      simp only [itemsToSexprs_append h, itemsToSexprs_down]
      cases hes' : itemsToSexprs (locateIn file track) ds' with
      | ok es' => rfl
      | error e => exact congrArg Except.error (down_of_itemsToSexprs _ hes').symm

/-- Behind a text that ends with a comment and holds a line feed between quotes. -/
theorem readAll_append_newline_comment :
    readAll "(a \"b\nc\") ;d" none true =
      .ok [.form [.symbol "a", .text "b\nc"] (some ⟨1, none, some 1⟩)] ∧
    readAll ("(a \"b\nc\") ;d" ++ "\n" ++ " @x") none true =
      .ok [.form [.symbol "a", .text "b\nc"] (some ⟨1, none, some 1⟩),
        .form [.symbol "deref", .symbol "x"] (some ⟨3, none, some 2⟩)] ∧
    readAll ("(a \"b\nc\") ;d" ++ "\n" ++ " ]") none true =
      .error (.unexpectedClosing .square ⟨3, 2⟩) := by
  have first : readAll "(a \"b\nc\") ;d" none true =
      .ok [.form [.symbol "a", .text "b\nc"] (some ⟨1, none, some 1⟩)] := rfl
  exact ⟨first, readAll_append_newline first " @x", readAll_append_newline first " ]"⟩

end SexprShell.Source
