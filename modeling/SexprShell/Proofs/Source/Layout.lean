import SexprShell.Proofs.Source.Cutting
import SexprShell.Proofs.Source.Notation
import SexprShell.Source.Read

/-!
# Scanning laid-out pieces

Whatever its layout, a text is cut into the tokens of its pieces (`scan_laid`). For an atom this
says that no terminal tried earlier has a lexeme there and that the lexeme ends where the atom does
(`first?_lexeme`).
-/

namespace SexprShell.Source

open Terminal Text Number

variable {c : Char} {l w cs rest : List Char} {p : Position}

/-! ## First characters -/

theorem pairWidth?_eq_none {separator : Char} (h : intWidth? cs = none) :
    pairWidth? separator cs = none := by
  simp [pairWidth?, h]

/-- Where no number starts, the terminals for numbers are passed over. -/
theorem first?_of_no_number (h : intWidth? cs = none) :
    first? cs = (all.drop 3).findSome? fun t => (t.width? cs).map (t, ·) := by
  simp [first?, all, width?, h, pairWidth?_eq_none h]

theorem intWidth?_cons (hd : isDigit c = false) (hm : c ≠ '-') : intWidth? (c :: cs) = none := by
  rw [intWidth?_digits (by simpa using hm)]
  exact runWidth?_stop fun d hd' => by cases hd'; exact hd

theorem first?_cons (hd : isDigit c = false) (hm : c ≠ '-') :
    first? (c :: cs) = (all.drop 3).findSome? fun t => (t.width? (c :: cs)).map (t, ·) :=
  first?_of_no_number (intWidth?_cons hd hm)

theorem first?_opening (b : Bracket) : first? (b.opening :: rest) = some (.opening b, 1) := by
  cases b <;> rw [Bracket.opening, first?_cons (by decide) (by decide)] <;>
    simp [all, width?, isSymbolStart, isWordChar, wordBreaks, Bracket.opening, Bracket.closing]

theorem first?_closing (b : Bracket) : first? (b.closing :: rest) = some (.closing b, 1) := by
  cases b <;> rw [Bracket.closing, first?_cons (by decide) (by decide)] <;>
    simp [all, width?, isSymbolStart, isWordChar, wordBreaks, Bracket.opening, Bracket.closing]

theorem first?_mark : first? ('@' :: rest) = some (.deref, 1) := by
  rw [first?_cons (by decide) (by decide)]
  simp [all, width?, isSymbolStart, Bracket.opening, Bracket.closing]

theorem first?_comment (hw : ∀ c ∈ w, c ≠ '\n') :
    first? (';' :: (w ++ '\n' :: rest)) = some (.comment, 1 + w.length) := by
  have run : runWidth (· != '\n') (w ++ '\n' :: rest) = w.length := by
    rw [runWidth_append fun c hc => by simpa using hw c hc, runWidth_stop]
    · rfl
    · rintro c ⟨⟩; rfl
  rw [first?_cons (by decide) (by decide)]
  simp [all, width?, isSymbolStart, isWordChar, wordBreaks, Bracket.opening, Bracket.closing, run]

theorem first?_gap (hc : isGap c) :
    first? (c :: cs) = some (.gap, 1 + runWidth isGap cs) := by
  have word := isWordChar_of_isGap hc
  have digit : isDigit c = false := by
    cases hd : isDigit c with
    | false => rfl
    | true => rw [← word, isWordChar_of_isDigit hd]
  have other : ∀ d, isGap d = false → c ≠ d := by
    rintro d hd rfl
    rw [hd] at hc
    cases hc
  have run : runWidth? isGap (c :: cs) = some (1 + runWidth isGap cs) :=
    runWidth?_append (l := [c]) (by simpa using hc) (by simp)
  rw [first?_cons digit (other _ (by decide))]
  have brackets : ∀ b : Bracket, isGap b.opening = false ∧ isGap b.closing = false := by
    intro b; cases b <;> decide
  simp only [all, List.drop, List.findSome?_cons]
  simp [width?, isSymbolStart, word, run, other ':' (by decide), other '"' (by decide),
    other '@' (by decide), other ';' (by decide), fun b => other _ (brackets b).1,
    fun b => other _ (brackets b).2]

/-! ## Atoms -/

theorem first?_int (hl : IsInteger l) (hr : EndsWord rest) :
    first? (l ++ rest) = some (.int, l.length) := by
  have stop := runWidth_stop hr.not_digit
  have pair : ∀ separator, isWordChar separator → pairWidth? separator (l ++ rest) = none :=
    fun separator hs => pairWidth?_integer hl fun c hc =>
      ⟨hr.not_digit c hc, by rintro rfl; rw [hr c hc] at hs; cases hs⟩
  simp [first?, all, width?, intWidth?_append hl, stop, pair '/' (by decide), pair '.' (by decide)]

theorem first?_ratio {n d : List Char} (hn : IsInteger n) (hd : IsDigits d)
    (hr : EndsWord rest) :
    first? ((n ++ '/' :: d) ++ rest) = some (.ratio, (n ++ '/' :: d).length) := by
  have pair : pairWidth? '/' (n ++ '/' :: (d ++ rest)) = _ := pairWidth?_append isDigit_slash hn hd
  rw [runWidth_stop hr.not_digit] at pair
  simp [first?, all, width?, pair]
  omega

theorem first?_text {b : List Char} (hb : IsQuotable b) :
    first? ('"' :: (b ++ '"' :: rest)) = some (.text, b.length + 2) := by
  rw [first?_cons (by decide) (by decide)]
  simp [all, width?, closingWidth?_append hb]

theorem first?_keyword (hw : ∀ c ∈ w, isKeywordChar c) (hne : w ≠ []) (hr : EndsWord rest) :
    first? (':' :: (w ++ rest)) = some (.keyword, w.length + 1) := by
  have stop : runWidth isKeywordChar rest = 0 :=
    runWidth_stop fun c hc => by simp [isKeywordChar, hr c hc]
  rw [first?_cons (by decide) (by decide)]
  simp [all, width?, runWidth?_append hw hne, stop]

theorem first?_symbol (hc : isSymbolStart c) (hw : ∀ c ∈ w, isWordChar c) (hr : EndsWord rest)
    (hn : intWidth? (c :: (w ++ rest)) = none) :
    first? (c :: (w ++ rest)) = some (.symbol, w.length + 1) := by
  have run : runWidth isWordChar (w ++ rest) = w.length := by
    rw [runWidth_append hw, runWidth_stop hr, Nat.add_zero]
  have other : ∀ d, isSymbolStart d = false → c ≠ d := by
    rintro d hd rfl
    rw [hd] at hc
    cases hc
  rw [first?_of_no_number hn]
  simp only [all, List.drop, List.findSome?_cons]
  simp [width?, hc, run, other ':' (by decide), other '"' (by decide)]
  omega

/-! ## What atoms are read as -/

theorem isQuotable_text (cs : List Char) : IsQuotable (cs.flatMap quotedTextChar) := by
  induction cs with
  | nil => exact .nil
  | cons c cs ih =>
    rw [List.flatMap_cons, quotedTextChar]
    split
    · exact ih.escape
    · next h => exact ih.plain (fun hc => h (.inl hc)) fun hc => h (.inr hc)

theorem unescape_text (cs : List Char) : unescape (cs.flatMap quotedTextChar) = cs := by
  induction cs with
  | nil => rfl
  | cons c cs ih =>
    rw [List.flatMap_cons, quotedTextChar]
    split
    · next h =>
      rcases h with rfl | rfl <;> simp [unescape, escaped, ih]
    · next h =>
      simp only [List.cons_append, List.nil_append]
      rw [unescape.eq_2 _ _ (fun _ _ hc => absurd (.inr hc) h), ih]

theorem token?_ratio (q : Rat) : Terminal.token? .ratio
    ((toString q.num).toList ++ '/' :: (toString q.den).toList) =
      some (.atom (.ratio q.num q.den)) := by
  have h : ∀ c ∈ (toString q.num).toList, (c != '/') = true := by
    intro c hc
    simp only [bne_iff_ne]
    rintro rfl
    exact slash_notMem_toString q.num hc
  rw [token?, ratioOf, List.takeWhile_append_of_pos h, List.dropWhile_append_of_pos h,
    List.takeWhile_cons_of_neg (by simp), List.dropWhile_cons_of_neg (by simp), List.append_nil,
    integerOf_toString, List.drop_one, List.tail_cons, Nat.toString_eq_repr, Nat.toList_repr,
    digitsValue_toDigits]

theorem toSexpr_symbol {s : String} (h : s ≠ "nil" ∧ s ≠ "true" ∧ s ≠ "false") :
    (Atom.symbol s).toSexpr = .ok (.symbol s) := by
  simp [Atom.toSexpr, h.1, h.2.1, h.2.2]

/-- Where the name of a symbol stands, no number starts. -/
theorem intWidth?_symbolName {s : String} (hs : IsSymbolName s) (hr : EndsWord rest) :
    intWidth? (s.toList ++ rest) = none := by
  have stop : ∀ sign cs, (sign = [] ∨ sign = ['-']) → s.toList = sign ++ cs →
      runWidth? isDigit (cs ++ rest) = none := by
    intro sign cs hsign heq
    refine runWidth?_stop fun d hd => ?_
    cases cs with
    | nil => exact hr.not_digit d hd
    | cons c cs => cases hd; exact hs.noNumber sign d cs hsign heq
  cases hcs : s.toList with
  | nil => exact absurd hcs hs.ne_nil
  | cons c cs =>
    by_cases hc : c = '-'
    · subst hc
      rw [List.cons_append, Source.intWidth?, stop ['-'] cs (.inr rfl) hcs]
      rfl
    · rw [intWidth?_digits (by simpa using hc), ← hcs]
      exact stop [] _ (.inl rfl) rfl

/-- In whatever follows its lexeme, an expression without parts is read as itself. -/
theorem first?_lexeme {e : Sexpr} (he : e.Readable) (hl : e.lexeme? = some l) :
    ∃ t a, (∀ rest, EndsWord rest → first? (l ++ rest) = some (t, l.length)) ∧
      t.token? l = some (.atom a) ∧ a.toSexpr = .ok e := by
  have named : ∀ c w, isSymbolStart c → isDigit c = false → c ≠ '-' → (∀ c ∈ w, isWordChar c) →
      ∀ rest, EndsWord rest → first? (c :: w ++ rest) = some (.symbol, (c :: w).length) :=
    fun c w hc hd hm hw rest hr => first?_symbol hc hw hr (intWidth?_cons hd hm)
  cases he with
  | nil =>
    cases hl
    exact ⟨.symbol, .symbol "nil", named 'n' ['i', 'l'] (by decide) (by decide) (by decide)
      (List.all_eq_true.mp (by decide)), rfl, rfl⟩
  | bool b =>
    cases hl
    cases b with
    | true => exact ⟨.symbol, .symbol "true", named 't' ['r', 'u', 'e'] (by decide) (by decide)
        (by decide) (List.all_eq_true.mp (by decide)), rfl, rfl⟩
    | false => exact ⟨.symbol, .symbol "false", named 'f' ['a', 'l', 's', 'e'] (by decide)
        (by decide) (by decide) (List.all_eq_true.mp (by decide)), rfl, rfl⟩
  | int n =>
    cases hl
    exact ⟨.int, .int n, fun rest hr => first?_int (isInteger_toString n) hr,
      by rw [token?, integerOf_toString], rfl⟩
  | @ratio q hq =>
    cases hl
    have hd : IsDigits (toString q.den).toList := by
      rw [Nat.toString_eq_repr, Nat.toList_repr]
      exact isDigits_toDigits q.den
    refine ⟨.ratio, .ratio q.num q.den,
      fun rest hr => first?_ratio (isInteger_toString q.num) hd hr, token?_ratio q, ?_⟩
    have h0 : q.den ≠ 0 := by omega
    have h1 : q.den ≠ 1 := by omega
    simp [Atom.toSexpr, h0, h1, Rat.mkRat_self]
  | text s =>
    cases hl
    refine ⟨.text, .text s, fun rest _ => ?_, ?_, rfl⟩
    · have : first? ('"' :: (s.toList.flatMap quotedTextChar ++ '"' :: rest)) = _ :=
        first?_text (isQuotable_text s.toList)
      simpa using this
    · rw [token?, List.drop_one, List.tail_cons, List.dropLast_concat, unescape_text,
        String.ofList_toList]
  | @symbol s hs =>
    cases hl
    refine ⟨.symbol, .symbol s, fun rest hr => ?_, by rw [token?, String.ofList_toList],
      toSexpr_symbol hs.unnamed⟩
    have number := intWidth?_symbolName hs hr
    have word := hs.word
    cases hcs : s.toList with
    | nil => exact absurd hcs hs.ne_nil
    | cons c w =>
      rw [hcs] at number word
      obtain ⟨h1, h2⟩ := hs.head c (by rw [hcs]; rfl)
      refine first?_symbol ?_ (fun d hd => word d (by simp [hd])) hr number
      simp [isSymbolStart, word c (by simp), h1, h2]
  | @keyword s hs =>
    cases hl
    refine ⟨.keyword, .keyword s, fun rest hr => first?_keyword hs.word hs.ne_nil hr, ?_, rfl⟩
    rw [token?, List.drop_one, List.tail_cons, String.ofList_toList]
  | list | form | map => cases hl

/-! ## Scanning -/

theorem scan_gaps (p : Position) (cs : List Char) : scan 0 p cs =
    scan 0 (p.advance (cs.takeWhile isGap)) (cs.dropWhile isGap) := by
  cases cs with
  | nil => rfl
  | cons c cs =>
    by_cases hc : isGap c
    · have first : first? ((c :: cs).takeWhile isGap ++ (c :: cs).dropWhile isGap) =
          some (.gap, ((c :: cs).takeWhile isGap).length) := by
        rw [List.takeWhile_append_dropWhile, first?_gap hc, List.takeWhile_cons_of_pos hc,
          List.length_cons, runWidth, Nat.add_comm]
      have := scan_take (p := p) first (by simp [hc])
      rw [List.takeWhile_append_dropWhile] at this
      rw [this]
      rfl
    · rw [List.takeWhile_cons_of_neg hc, List.dropWhile_cons_of_neg hc, Position.advance_nil]

theorem scan_gap (hc : isGap c) : scan 0 p (c :: cs) = scan 0 (p.next c) cs := by
  rw [scan_gaps p, scan_gaps (p.next c) cs, List.takeWhile_cons_of_pos hc,
    List.dropWhile_cons_of_pos hc, Position.advance_cons]

theorem scan_spacing {g : List Char} (H : Spacing g) :
    ∀ p, scan 0 p (g ++ cs) = scan 0 (p.advance g) cs := by
  induction H with
  | nil => exact fun p => rfl
  | gap hc _ ih =>
    intro p
    rw [List.cons_append, scan_gap hc, ih, Position.advance_cons]
  | @comment w g hw _ ih =>
    intro p
    have first : first? ((';' :: w) ++ ('\n' :: (g ++ cs))) =
        some (.comment, (';' :: w).length) := by
      rw [List.cons_append, first?_comment hw, List.length_cons, Nat.add_comm]
    have newline : isGap '\n' := by decide
    have := scan_take (p := p) first (by simp)
    simp only [List.cons_append, List.append_assoc] at this ⊢
    rw [this, scan_gap newline, ih]
    simp [token?, Position.advance_append]

/-- The token that a piece is read as. -/
inductive Reads : Piece → Token → Prop where
  | opening (b : Bracket) : Reads (.opening b) (.opening b)
  | closing (b : Bracket) : Reads (.closing b) (.closing b)
  | mark : Reads .mark .deref
  | atom {l : List Char} {t : Terminal} {a : Atom} : l ≠ [] →
      (∀ rest, EndsWord rest → first? (l ++ rest) = some (t, l.length)) →
      t.token? l = some (.atom a) → Reads (.atom l) (.atom a)

theorem Reads.scan_eq {piece : Piece} {token : Token} (H : Reads piece token)
    (hr : piece.isAtom = true → EndsWord rest) : scan 0 p (piece.chars ++ rest) =
      ((p, token) :: (scan 0 (p.advance piece.chars) rest).1,
        (scan 0 (p.advance piece.chars) rest).2) := by
  cases H with
  | opening b => exact scan_take (l := [b.opening]) (first?_opening b) (by simp)
  | closing b => exact scan_take (l := [b.closing]) (first?_closing b) (by simp)
  | mark => exact scan_take (l := ['@']) first?_mark (by simp)
  | atom hne hfirst htoken =>
    have := scan_take (p := p) (hfirst rest (hr rfl)) hne
    rw [htoken] at this
    exact this

/-- Laid-out pieces are cut into their tokens. -/
theorem scan_laid {b : Bool} {ps : List Piece} {tokens : List Token} (H : Laid b ps cs)
    (hp : List.Forall₂ Reads ps tokens) :
    ∀ p, ∃ ts, scan 0 p cs = (ts, .complete) ∧ ts.map (·.2) = tokens := by
  induction H generalizing tokens with
  | nil hg =>
    cases hp
    intro p
    have : scan 0 p (_ ++ []) = _ := scan_spacing hg p
    rw [List.append_nil] at this
    exact ⟨[], this, rfl⟩
  | @cons _ g cs piece ps hg _ hlaid ih =>
    cases hp with
    | cons hread hps =>
      intro p
      have ends : piece.isAtom = true → EndsWord cs := by
        intro h
        rw [h] at hlaid
        exact hlaid.endsWord
      obtain ⟨ts, hts, rfl⟩ := ih hps ((p.advance g).advance piece.chars)
      refine ⟨(p.advance g, _) :: ts, ?_, rfl⟩
      rw [scan_spacing hg, hread.scan_eq ends, hts]

end SexprShell.Source
