import SexprShell.Proofs.Pointwise
import SexprShell.Proofs.Source.Segment

/-!
# Words

A word is cut into the same atoms whatever follows it (`Cut.append_endsWord`), so that a form of
words is read as the expressions of its words, one after another (`readAll_inForm_eq_ok_iff`). A
word is one expression unless a number stands at its start and is not all of it: numbers are tried
before symbols, and the rest of the word is read on its own (`readAll_word_eq_single_iff`).
-/

namespace SexprShell.Source

open Terminal Text Number Sexpr

variable {t u : Terminal} {l l' w rest : List Char} {p q : Position}
  {ts : List (Position × Token)} {tokens : List Token}

/-! ## Lexemes inside a word -/

/-- Only numbers, keywords and symbols start with a character of a word. -/
theorem Terminal.Lexeme.of_keywordChar {c : Char} (h : t.Lexeme (c :: l)) (hc : isKeywordChar c) :
    t ∈ [.ratio, .float, .int, .keyword, .symbol] := by
  have other (d : Char) (hd : isKeywordChar d = false) : c ≠ d := by
    rintro rfl
    rw [hd] at hc
    cases hc
  cases t with
  | ratio | float | int | keyword | symbol => simp
  | text =>
    obtain ⟨b, heq, _⟩ := h
    exact absurd (List.cons.inj heq).1 (other '"' (by decide))
  | opening b =>
    refine absurd (List.cons.inj h).1 (other _ ?_)
    cases b <;> decide
  | closing b =>
    refine absurd (List.cons.inj h).1 (other _ ?_)
    cases b <;> decide
  | deref => exact absurd (List.cons.inj h).1 (other '@' (by decide))
  | comment =>
    obtain ⟨b, heq, _⟩ := h
    exact absurd (List.cons.inj heq).1 (other ';' (by decide))
  | gap =>
    have word := (Bool.and_eq_true_iff.mp hc).1
    rw [isWordChar_of_isGap (h.2 c List.mem_cons_self)] at word
    cases word

/-- No lexeme goes on over the end of a word. -/
theorem Terminal.Lexeme.prefix_word (h : t.Lexeme l) (hl : l <+: w ++ rest) (hne : w ≠ [])
    (hw : ∀ c ∈ w, isKeywordChar c) (hr : EndsWord rest) : l <+: w := by
  rcases List.prefix_or_prefix_of_prefix hl (List.prefix_append w rest) with hp | ⟨m, rfl⟩
  · exact hp
  · cases m with
    | nil => simp
    | cons d m =>
      exfalso
      cases w with
      | nil => exact hne rfl
      | cons c w =>
        have word := h.isWordChar (h.of_keywordChar (hw c List.mem_cons_self)) d (by simp)
        obtain ⟨rest', hrest⟩ := (List.prefix_append_right_inj (c :: w)).mp hl
        have hd : rest.head? = some d := by rw [← hrest]; rfl
        rw [hr d hd] at word
        cases word

/-- What is found at the start of a word does not depend on what follows the word. -/
theorem Terminal.First.append_endsWord (h : t.First l w) (hne : w ≠ [])
    (hw : ∀ c ∈ w, isKeywordChar c) (hr : EndsWord rest) : t.First l (w ++ rest) := by
  refine h.change h.longest.isPrefix (List.prefix_refl w) (List.prefix_append _ _) ?_
  intro u l' hl' hu
  exact .inl (hu.prefix_word hl' hne hw hr)

theorem first?_append_eq_none (h : first? w = none) (hne : w ≠ [])
    (hw : ∀ c ∈ w, isKeywordChar c) (hr : EndsWord rest) : first? (w ++ rest) = none := by
  cases hfirst : first? (w ++ rest) with
  | none => rfl
  | some found =>
    obtain ⟨t, n⟩ := found
    obtain ⟨l, hl, rfl⟩ := first?_eq_some_iff.mp hfirst
    have within := hl.longest.lexeme.prefix_word hl.longest.isPrefix hne hw hr
    have tried : t ∈ all := by
      obtain ⟨earlier, later, hall, _⟩ := hl.first
      simp [hall]
    have := List.findSome?_eq_none_iff.mp h t tried
    exact absurd hl.longest.lexeme
      (width?_eq_none_iff.mp (Option.map_eq_none_iff.mp this) l within)

/-- A word is cut in the same way whatever follows it. -/
theorem Cut.append_endsWord {w' : List Char} (H : Cut p w ts q w')
    (hw : ∀ c ∈ w, isKeywordChar c) (hr : EndsWord rest) : Cut p (w ++ rest) ts q (w' ++ rest) := by
  induction H with
  | stop => exact .stop
  | @take _ _ l cs _ _ _ h _ ih =>
    have nonempty : l ++ cs ≠ [] := by simp [h.longest.lexeme.ne_nil]
    have first := h.append_endsWord nonempty hw hr
    rw [List.append_assoc] at first ⊢
    exact .take first (ih fun c hc => hw c (List.mem_append_right _ hc))

/-! ## The tokens of words -/

/-- A text is cut up entirely into these tokens, wherever it stands. -/
def ScansTo (cs : List Char) (tokens : List Token) : Prop :=
  ∀ p, ∃ ts, scan 0 p cs = (ts, .complete) ∧ ts.map (·.2) = tokens

theorem scansTo_of_scan {cs : List Char} (h : scan 0 p cs = (ts, .complete)) :
    ScansTo cs (ts.map (·.2)) := by
  intro p'
  obtain ⟨q, H⟩ := scan_eq_complete_iff.mp h
  obtain ⟨ts', q', H', htokens⟩ := H.anywhere p'
  exact ⟨ts', scan_eq_complete_iff.mpr ⟨q', H'⟩, htokens⟩

theorem scansTo_nil : ScansTo [] tokens ↔ tokens = [] := by
  constructor
  · intro h
    obtain ⟨ts, hts, rfl⟩ := h .start
    cases hts
    rfl
  · rintro rfl p
    exact ⟨[], rfl, rfl⟩

theorem scansTo_gap {c : Char} {cs : List Char} (hc : isGap c) :
    ScansTo (c :: cs) tokens ↔ ScansTo cs tokens := by
  constructor
  · intro h
    obtain ⟨ts, hts, rfl⟩ := h .start
    rw [scan_gap hc] at hts
    exact scansTo_of_scan hts
  · intro h p
    obtain ⟨ts, hts, htokens⟩ := h (p.next c)
    exact ⟨ts, by rw [scan_gap hc, hts], htokens⟩

/-- The token of a piece comes in front of those of what follows it. -/
theorem scansTo_piece {piece : Piece} {token : Token} (H : Reads piece token)
    (hr : piece.isAtom = true → EndsWord rest) :
    ScansTo (piece.chars ++ rest) tokens ↔ ∃ a, ScansTo rest a ∧ tokens = token :: a := by
  constructor
  · intro h
    obtain ⟨ts, hts, rfl⟩ := h .start
    rw [H.scan_eq hr, Prod.mk.injEq] at hts
    exact ⟨_, scansTo_of_scan (Prod.ext rfl hts.2), by rw [← hts.1]; rfl⟩
  · rintro ⟨a, ha, rfl⟩ p
    obtain ⟨ts, hts, rfl⟩ := ha (p.advance piece.chars)
    exact ⟨_, by rw [H.scan_eq hr, hts], rfl⟩

/-- The tokens of a word come in front of those of what follows it. -/
theorem scansTo_word (hw : ∀ c ∈ w, isKeywordChar c) (hr : EndsWord rest) :
    ScansTo (w ++ rest) tokens ↔ ∃ a b, ScansTo w a ∧ ScansTo rest b ∧ tokens = a ++ b := by
  constructor
  · intro h
    obtain ⟨ts, q, w', H, hend⟩ := exists_cut .start w
    have scanned := (H.append_endsWord hw hr).scan_eq
    obtain ⟨us, hus, rfl⟩ := h .start
    rw [hus, Prod.mk.injEq] at scanned
    rcases hend with rfl | ⟨c, cs, rfl, hnone⟩
    · have first := scansTo_of_scan (scan_eq_complete_iff.mpr ⟨q, H⟩)
      have second := scansTo_of_scan (Prod.ext rfl scanned.2.symm)
      exact ⟨_, _, first, second, by rw [scanned.1, List.map_append]⟩
    · -- A word that is stuck is stuck in front of anything.
      obtain ⟨l, rfl, -⟩ := H.advance_eq
      have stuck := first?_append_eq_none hnone (by simp)
        (fun d hd => hw d (List.mem_append_right _ hd)) hr
      rw [List.cons_append] at stuck scanned
      rw [scan_stuck stuck] at scanned
      cases scanned.2
  · rintro ⟨a, b, ha, hb, rfl⟩ p
    obtain ⟨ts, hts, rfl⟩ := ha p
    obtain ⟨q, H⟩ := scan_eq_complete_iff.mp hts
    obtain ⟨us, hus, rfl⟩ := hb q
    have scanned := (H.append_endsWord hw hr).scan_eq
    rw [List.nil_append, hus] at scanned
    exact ⟨ts ++ us, scanned, List.map_append⟩

/-- Words with single spaces between them are cut one after another. -/
theorem scansTo_words (hr : EndsWord rest) : ∀ {ws : List (List Char)} {tokens : List Token},
    (∀ w ∈ ws, ∀ c ∈ w, isKeywordChar c) → (ScansTo ([' '].intercalate ws ++ rest) tokens ↔
      ∃ ass b, List.Forall₂ ScansTo ws ass ∧ ScansTo rest b ∧ tokens = ass.flatten ++ b)
  | [], tokens, _ => by simp
  | [w], tokens, hws => by
    rw [List.intercalate_singleton, scansTo_word (hws w (by simp)) hr]
    constructor
    · rintro ⟨a, b, ha, hb, rfl⟩
      exact ⟨[a], b, .cons ha .nil, hb, by simp⟩
    · rintro ⟨_, b, _ | ⟨ha, _ | _⟩, hb, rfl⟩
      exact ⟨_, b, ha, hb, by simp⟩
  | w :: w' :: ws, tokens, hws => by
    have space : EndsWord (' ' :: ([' '].intercalate (w' :: ws) ++ rest)) := by
      rintro c ⟨⟩
      decide
    have later (tokens : List Token) := @scansTo_words hr (w' :: ws) tokens
      fun v hv => hws v (List.mem_cons_of_mem _ hv)
    rw [List.intercalate_cons_cons, List.append_assoc, List.append_assoc, List.singleton_append,
      scansTo_word (hws w (by simp)) space]
    simp only [scansTo_gap (c := ' ') (by decide), later,
      List.forall₂_cons_left_iff (l := w' :: ws)]
    constructor
    · rintro ⟨a, _, ha, ⟨ass, b, hass, hb, rfl⟩, rfl⟩
      exact ⟨a :: ass, b, ⟨a, ass, ha, hass, rfl⟩, hb, by simp⟩
    · rintro ⟨_, b, ⟨a, ass, ha, hass, rfl⟩, hb, rfl⟩
      exact ⟨a, _, ha, ⟨ass, b, hass, hb, rfl⟩, by simp⟩

/-- Every lexeme of a word is an atom. -/
theorem Terminal.Lexeme.exists_atom (h : t.Lexeme l) (hl : ∀ c ∈ l, isKeywordChar c) :
    ∃ a : Atom, t.token? l = some (.atom a) := by
  cases l with
  | nil => exact absurd rfl h.ne_nil
  | cons c l =>
    have among := h.of_keywordChar (hl c List.mem_cons_self)
    simp only [List.mem_cons, List.not_mem_nil, or_false] at among
    rcases among with rfl | rfl | rfl | rfl | rfl <;> exact ⟨_, rfl⟩

theorem Cut.exists_atoms {w' : List Char} (H : Cut p w ts q w') (hw : ∀ c ∈ w, isKeywordChar c) :
    ∃ as : List Atom, ts.map (·.2) = as.map .atom ∧ (w ≠ w' → as ≠ []) := by
  induction H with
  | stop => exact ⟨[], rfl, fun h => absurd rfl h⟩
  | @take _ _ l cs _ t _ h _ ih =>
    obtain ⟨as, has, -⟩ := ih fun c hc => hw c (List.mem_append_right _ hc)
    obtain ⟨a, ha⟩ := h.longest.lexeme.exists_atom fun c hc => hw c (List.mem_append_left _ hc)
    exact ⟨a :: as, by simp [ha, has], fun _ => by simp⟩

theorem ScansTo.exists_atoms (h : ScansTo w tokens) (hw : ∀ c ∈ w, isKeywordChar c) :
    ∃ as : List Atom, tokens = as.map .atom ∧ (w ≠ [] → as ≠ []) := by
  obtain ⟨ts, hts, rfl⟩ := h .start
  obtain ⟨q, H⟩ := scan_eq_complete_iff.mp hts
  exact H.exists_atoms hw

/-! ## Reading words -/

/-- Characters other than blanks, brackets, double quotes, semicolons, commas and marks, of which
the first is no colon. -/
structure IsWord (s : String) : Prop where
  ne_nil : s.toList ≠ []
  chars : ∀ c ∈ s.toList, isKeywordChar c
  head : ∀ c, s.toList.head? = some c → c ≠ ':'

/-- Words between round brackets, with single spaces between them. -/
def inForm (words : List String) : String := "(" ++ " ".intercalate words ++ ")"

variable {s : String} {words : List String} {file : Option String} {track : Bool}
  {locate : Position → Option Location} {as : List Atom} {es : List Sexpr}

theorem items_atoms (h : ts.map (·.2) = as.map .atom) : Items ts (as.map .atom) := by
  induction as generalizing ts with
  | nil =>
    cases List.map_eq_nil_iff.mp h
    exact .nil
  | cons a as ih =>
    obtain ⟨⟨p, _⟩, ts, rfl, rfl, htail⟩ := List.map_eq_cons_iff.mp h
    exact .atom (ih htail)

theorem itemsToSexprs_append_eq_ok_iff {xs ys : List Datum} :
    itemsToSexprs locate (xs ++ ys) = .ok es ↔ ∃ vs us, itemsToSexprs locate xs = .ok vs ∧
      itemsToSexprs locate ys = .ok us ∧ es = vs ++ us := by
  induction xs generalizing es with
  | nil => simp [itemsToSexprs]
  | cons x xs ih =>
    constructor
    · intro h
      obtain ⟨v, tail, hv, htail, rfl⟩ := itemsToSexprs_cons_eq_ok h
      obtain ⟨vs, us, hvs, hus, rfl⟩ := ih.mp htail
      exact ⟨v :: vs, us, by rw [itemsToSexprs, hv, hvs], hus, rfl⟩
    · rintro ⟨_, us, hxs, hus, rfl⟩
      obtain ⟨v, vs, hv, hvs, rfl⟩ := itemsToSexprs_cons_eq_ok hxs
      rw [List.cons_append, itemsToSexprs, hv, ih.mpr ⟨vs, us, hvs, hus, rfl⟩]
      rfl

theorem itemsToSexprs_flatten_eq_ok_iff : ∀ {dss : List (List Datum)} {es : List Sexpr},
    itemsToSexprs locate dss.flatten = .ok es ↔ ∃ ess,
      List.Forall₂ (fun ds vs => itemsToSexprs locate ds = .ok vs) dss ess ∧ es = ess.flatten
  | [], es => by simp [itemsToSexprs, eq_comm]
  | ds :: dss, es => by
    simp only [List.flatten_cons, itemsToSexprs_append_eq_ok_iff, itemsToSexprs_flatten_eq_ok_iff,
      List.forall₂_cons_left_iff]
    constructor
    · rintro ⟨vs, _, hvs, ⟨ess, hess, rfl⟩, rfl⟩
      exact ⟨vs :: ess, ⟨vs, ess, hvs, hess, rfl⟩, rfl⟩
    · rintro ⟨_, ⟨vs, ess, hvs, hess, rfl⟩, rfl⟩
      exact ⟨vs, _, hvs, ⟨ess, hess, rfl⟩, rfl⟩

theorem length_of_itemsToSexprs {ds : List Datum} (h : itemsToSexprs locate ds = .ok es) :
    es.length = ds.length := by
  induction ds generalizing es with
  | nil =>
    cases h
    rfl
  | cons d ds ih =>
    obtain ⟨v, vs, -, hvs, rfl⟩ := itemsToSexprs_cons_eq_ok h
    rw [List.length_cons, ih hvs, List.length_cons]

/-- A word is read as what its atoms mean. -/
theorem readAll_word_eq_ok_iff (hs : ∀ c ∈ s.toList, isKeywordChar c) :
    readAll s file track = .ok es ↔ ∃ as : List Atom, ScansTo s.toList (as.map .atom) ∧
      itemsToSexprs (locateIn file track) (as.map .atom) = .ok es := by
  constructor
  · intro h
    obtain ⟨ds, ⟨ts, q, H, hi⟩, hes⟩ := exists_notates_of_readAll h
    obtain ⟨as, has, -⟩ := H.exists_atoms hs
    have scans := scansTo_of_scan (scan_eq_complete_iff.mpr ⟨q, H⟩)
    rw [has] at scans
    rw [hi.unique (items_atoms has)] at hes
    exact ⟨as, scans, hes⟩
  · rintro ⟨as, hscan, hes⟩
    obtain ⟨ts, hts, has⟩ := hscan .start
    obtain ⟨q, H⟩ := scan_eq_complete_iff.mp hts
    rw [readAll_of_notates ⟨ts, q, H, items_atoms has⟩, hes]

theorem exists_atoms_of_forall₂ {ass : List (List Token)}
    (hws : ∀ s ∈ words, ∀ c ∈ s.toList, isKeywordChar c)
    (h : List.Forall₂ (fun s a => ScansTo s.toList a) words ass) :
    ∃ atoms : List (List Atom), ass = atoms.map (List.map .atom) ∧
      List.Forall₂ (fun s as => ScansTo s.toList (as.map .atom)) words atoms := by
  have through : List.Forall₂ (fun s a => ∃ as : List Atom, ScansTo s.toList (as.map .atom) ∧
      a = as.map .atom) words ass := by
    refine forall₂_imp_of_mem h fun s hs a ha => ?_
    obtain ⟨as, rfl, -⟩ := ha.exists_atoms (hws s hs)
    exact ⟨as, ha, rfl⟩
  obtain ⟨atoms, hatoms, heq⟩ := forall₂_through_iff.mp through
  exact ⟨atoms, forall₂_eq_map_iff.mp heq, hatoms⟩

/-- The tokens of words in a form, behind the opening bracket. -/
theorem scansTo_words_closing (hws : ∀ s ∈ words, ∀ c ∈ s.toList, isKeywordChar c) :
    ScansTo ([' '].intercalate (words.map String.toList) ++ [')']) tokens ↔
      ∃ ass : List (List Atom),
        List.Forall₂ (fun s as => ScansTo s.toList (as.map .atom)) words ass ∧
        tokens = ass.flatten.map .atom ++ [.closing .round] := by
  have ends : EndsWord [')'] := by
    rintro c ⟨⟩
    decide
  have closing (b : List Token) : ScansTo [')'] b ↔ b = [.closing .round] := by
    have last : ScansTo ((Piece.closing .round).chars ++ []) b ↔ _ :=
      scansTo_piece (.closing .round) (by rintro ⟨⟩)
    simpa only [Piece.chars, Bracket.closing, List.append_nil, scansTo_nil, exists_eq_left]
      using last
  have chars : ∀ w ∈ words.map String.toList, ∀ c ∈ w, isKeywordChar c := by
    simpa only [List.forall_mem_map] using hws
  simp only [scansTo_words ends chars, closing, List.forall₂_map_left_iff]
  constructor
  · rintro ⟨ass, _, hass, rfl, rfl⟩
    obtain ⟨atoms, rfl, hatoms⟩ := exists_atoms_of_forall₂ hws hass
    exact ⟨atoms, hatoms, by rw [List.map_flatten]⟩
  · rintro ⟨atoms, hatoms, rfl⟩
    refine ⟨atoms.map (List.map .atom), _, ?_, rfl, by rw [List.map_flatten]⟩
    exact List.forall₂_map_right_iff.mpr hatoms

theorem scan_opening : scan 0 p ('(' :: rest) = ((p, .opening .round) ::
    (scan 0 (p.next '(') rest).1, (scan 0 (p.next '(') rest).2) :=
  Reads.scan_eq (.opening .round) (by rintro ⟨⟩)

/-- A form of words is written with a group of the atoms of its words, one after another. -/
theorem notates_inForm_iff (hws : ∀ s ∈ words, ∀ c ∈ s.toList, isKeywordChar c) {ds : List Datum} :
    Notates (inForm words) ds ↔ ∃ ass : List (List Atom),
      List.Forall₂ (fun s as => ScansTo s.toList (as.map .atom)) words ass ∧
      ds = [.group .round .start (ass.flatten.map .atom)] := by
  have chars : (inForm words).toList =
      '(' :: ([' '].intercalate (words.map String.toList) ++ [')']) := by
    simp [inForm, String.toList_intercalate]
  rw [Notates, chars]
  constructor
  · rintro ⟨ts, q, H, hi⟩
    have scanned := scan_eq_complete_iff.mpr ⟨q, H⟩
    cases hrest : scan 0 (Position.start.next '(')
      ([' '].intercalate (words.map String.toList) ++ [')']) with
    | mk us ending =>
      rw [scan_opening, hrest, Prod.mk.injEq] at scanned
      obtain ⟨rfl, rfl⟩ := scanned
      obtain ⟨ass, hass, htokens⟩ := (scansTo_words_closing hws).mp (scansTo_of_scan hrest)
      obtain ⟨inner, last, rfl, hinner, hlast⟩ := List.map_eq_append_iff.mp htokens
      obtain ⟨⟨q', _⟩, rfl, rfl⟩ := List.map_eq_singleton_iff.mp hlast
      exact ⟨ass, hass, hi.unique (.group (items_atoms hinner) .nil)⟩
  · rintro ⟨ass, hass, rfl⟩
    obtain ⟨us, hus, htokens⟩ :=
      (scansTo_words_closing hws).mpr ⟨ass, hass, rfl⟩ (Position.start.next '(')
    obtain ⟨inner, last, rfl, hinner, hlast⟩ := List.map_eq_append_iff.mp htokens
    obtain ⟨⟨q', _⟩, rfl, rfl⟩ := List.map_eq_singleton_iff.mp hlast
    obtain ⟨q, H⟩ := scan_eq_complete_iff.mp (scan_opening.trans (by rw [hus]))
    exact ⟨_, q, H, .group (items_atoms hinner) .nil⟩

theorem forall₂_readAll_iff {ess : List (List Sexpr)}
    (hws : ∀ s ∈ words, ∀ c ∈ s.toList, isKeywordChar c) :
    List.Forall₂ (fun s vs => readAll s file track = .ok vs) words ess ↔
      ∃ ass : List (List Atom),
        List.Forall₂ (fun s as => ScansTo s.toList (as.map .atom)) words ass ∧
        List.Forall₂ (fun as vs => itemsToSexprs (locateIn file track) (as.map .atom) = .ok vs)
          ass ess := by
  rw [← forall₂_through_iff]
  constructor
  · intro h
    exact forall₂_imp_of_mem h fun s hs _ => (readAll_word_eq_ok_iff (hws s hs)).mp
  · intro h
    exact forall₂_imp_of_mem h fun s hs _ => (readAll_word_eq_ok_iff (hws s hs)).mpr

/-- A form of words is read as the expressions of its words, one after another. -/
theorem readAll_inForm_eq_ok_iff (hws : ∀ s ∈ words, ∀ c ∈ s.toList, isKeywordChar c) :
    readAll (inForm words) file track = .ok es ↔
      ∃ ess, List.Forall₂ (fun s vs => readAll s file track = .ok vs) words ess ∧
        es = [.form ess.flatten (locateIn file track .start)] := by
  constructor
  · intro h
    obtain ⟨ds, hds, hes⟩ := exists_notates_of_readAll h
    obtain ⟨ass, hass, rfl⟩ := (notates_inForm_iff hws).mp hds
    obtain ⟨v, vs, hv, hvs, rfl⟩ := itemsToSexprs_cons_eq_ok hes
    cases hvs
    obtain ⟨vs, hvs, hv⟩ := Datum.toSexpr_group_eq_ok hv
    cases hv
    rw [List.map_flatten] at hvs
    obtain ⟨ess, hess, rfl⟩ := itemsToSexprs_flatten_eq_ok_iff.mp hvs
    exact ⟨ess, (forall₂_readAll_iff hws).mpr ⟨ass, hass, List.forall₂_map_left_iff.mp hess⟩, rfl⟩
  · rintro ⟨ess, hess, rfl⟩
    obtain ⟨ass, hass, hmeaning⟩ := (forall₂_readAll_iff hws).mp hess
    have hvs : itemsToSexprs (locateIn file track) (ass.flatten.map .atom) = .ok ess.flatten := by
      rw [List.map_flatten]
      exact itemsToSexprs_flatten_eq_ok_iff.mpr ⟨ess, List.forall₂_map_left_iff.mpr hmeaning, rfl⟩
    rw [readAll_of_notates ((notates_inForm_iff hws).mpr ⟨ass, hass, rfl⟩)]
    simp only [itemsToSexprs, Datum.toSexpr, hvs, groupOf]

/-! ## Words that are split -/

/-- A number, other than a ratio whose denominator is zero. -/
def IsNumeral (l : List Char) : Prop :=
  IsInteger l ∨ Terminal.float.Lexeme l ∨
    ∃ n d, l = n ++ '/' :: d ∧ IsInteger n ∧ IsDigits d ∧ digitsValue d ≠ 0

/-- No number stands at the start of a word without being the whole word. -/
def Unsplit (s : String) : Prop :=
  IsNumeral s.toList ∨ ∀ l, l <+: s.toList → ¬ IsInteger l

/-- A word with one token is the lexeme of it. -/
theorem Cut.exists_first {a : Atom} (H : Cut p w ts q []) (hw : ∀ c ∈ w, isKeywordChar c)
    (hts : ts.map (·.2) = [.atom a]) :
    ∃ t : Terminal, t.First w w ∧ t.token? w = some (.atom a) := by
  cases H with
  | stop => cases hts
  | @take _ _ l cs _ t ts h H =>
    obtain ⟨as, has, hne⟩ := H.exists_atoms fun c hc => hw c (List.mem_append_right _ hc)
    obtain ⟨b, hb⟩ := h.longest.lexeme.exists_atom fun c hc => hw c (List.mem_append_left _ hc)
    simp only [hb, has, Option.toList_some, List.map_cons, List.map_nil, List.singleton_append,
      List.cons.injEq, Token.atom.injEq, List.map_eq_nil_iff] at hts
    obtain ⟨rfl, rfl⟩ := hts
    have rest : cs = [] := by
      by_contra hcs
      exact hne hcs rfl
    subst rest
    rw [List.append_nil] at h ⊢
    exact ⟨t, h, hb⟩

theorem scansTo_of_first? {a : Atom} (h : first? w = some (t, w.length)) (hne : w ≠ [])
    (ha : t.token? w = some (.atom a)) : ScansTo w [.atom a] := by
  intro p
  have whole : first? (w ++ []) = some (t, w.length) := by rwa [List.append_nil]
  have scanned := scan_take (p := p) whole hne
  rw [List.append_nil, ha] at scanned
  exact ⟨_, scanned, rfl⟩

theorem IsInteger.slash_notMem (h : IsInteger l) : '/' ∉ l := by
  obtain ⟨sign, digits, rfl, hsign, -, hdigits⟩ := h
  intro hslash
  rcases List.mem_append.mp hslash with hs | hd
  · rcases hsign with rfl | rfl
    · cases hs
    · simp at hs
  · have digit := hdigits _ hd
    rw [isDigit_slash] at digit
    cases digit

/-- A ratio has a value unless its denominator is zero. -/
theorem exists_toSexpr_ratioOf_iff {n d : List Char} (hn : IsInteger n) :
    (∃ e, (ratioOf (n ++ '/' :: d)).toSexpr = .ok e) ↔ digitsValue d ≠ 0 := by
  have other : ∀ c ∈ n, (c != '/') = true := by
    intro c hc
    simp only [bne_iff_ne]
    rintro rfl
    exact hn.slash_notMem hc
  rw [ratioOf, List.takeWhile_append_of_pos other, List.dropWhile_append_of_pos other]
  by_cases hzero : digitsValue d = 0 <;> simp [Atom.toSexpr, hzero]

/-- A number with a point is found whole. -/
theorem first?_float (h : Terminal.float.Lexeme l) : first? l = some (.float, l.length) := by
  refine first?_eq_some_iff.mpr ⟨l, ⟨⟨List.prefix_refl l, h, fun hp _ => hp.length_le⟩,
    [ratio], _, rfl, ?_⟩, rfl⟩
  obtain ⟨n, d, e, rfl, hn, -⟩ := h
  intro u hu
  rw [List.mem_singleton.mp hu]
  refine width?_eq_none_iff.mp (pairWidth?_integer hn ?_)
  rintro c ⟨⟩
  exact ⟨isDigit_point, by decide⟩

/-- A word is one lexeme if no number at its start is split off, and the lexeme has a meaning. -/
theorem Unsplit.exists_atom (h : Unsplit s) (hs : IsWord s) :
    ∃ (t : Terminal) (a : Atom) (e : Sexpr), first? s.toList = some (t, s.toList.length) ∧
      t.token? s.toList = some (.atom a) ∧ a.toSexpr = .ok e := by
  have ends : EndsWord [] := by rintro c ⟨⟩
  rcases h with (hint | hfloat | ⟨n, d, hl, hn, hd, hzero⟩) | hnone
  · have first := first?_int hint ends
    rw [List.append_nil] at first
    exact ⟨_, _, _, first, rfl, rfl⟩
  · exact ⟨_, _, _, first?_float hfloat, rfl, rfl⟩
  · have first := first?_ratio hn hd ends
    rw [List.append_nil, ← hl] at first
    obtain ⟨e, he⟩ := (exists_toSexpr_ratioOf_iff hn).mpr hzero
    exact ⟨_, _, e, first, rfl, by rw [hl, he]⟩
  · cases hw : s.toList with
    | nil => exact absurd hw hs.ne_nil
    | cons c w =>
      have chars : ∀ d ∈ c :: w, isWordChar d ∧ d ≠ '@' := by
        simpa [hw, isKeywordChar] using hs.chars
      have start : isSymbolStart c := by
        have colon := hs.head c (by rw [hw]; rfl)
        simp [isSymbolStart, chars c List.mem_cons_self, colon]
      rw [hw] at hnone
      have number : intWidth? (c :: (w ++ [])) = none := by
        rw [List.append_nil]
        exact width?_eq_none_iff (t := .int).mpr hnone
      have first := first?_symbol start (fun d hd => (chars d (List.mem_cons_of_mem _ hd)).1) ends
        number
      rw [List.append_nil] at first
      exact ⟨_, _, _, first, rfl, rfl⟩

/-- A terminal that is tried before the one that is found has no lexeme there. -/
theorem Terminal.First.not_earlier (h : t.First l w) (hu : u ∈ all.takeWhile (· != t)) :
    ∀ l', l' <+: w → ¬ u.Lexeme l' := by
  obtain ⟨earlier, later, hall, hnone⟩ := h.first
  have other : u ≠ t := by simpa using List.mem_takeWhile_imp hu
  exact hnone u (((noLater_iff hall).mp (.inr hu)).resolve_left other)

/-- A word that is one lexeme with a meaning has no number split off. -/
theorem Terminal.First.unsplit {a : Atom} {e : Sexpr} (h : t.First s.toList s.toList)
    (hs : IsWord s) (ha : t.token? s.toList = some (.atom a)) (he : a.toSexpr = .ok e) :
    Unsplit s := by
  have lexeme := h.longest.lexeme
  have among : t ∈ [.ratio, .float, .int, .keyword, .symbol] := by
    cases hw : s.toList with
    | nil => exact absurd hw hs.ne_nil
    | cons c w =>
      rw [hw] at lexeme
      exact lexeme.of_keywordChar (hs.chars c (by simp [hw]))
  simp only [List.mem_cons, List.not_mem_nil, or_false] at among
  rcases among with rfl | rfl | rfl | rfl | rfl
  · obtain ⟨n, d, hl, hn, hd⟩ := lexeme
    cases ha
    rw [hl] at he
    exact .inl (.inr (.inr ⟨n, d, hl, hn, hd, (exists_toSexpr_ratioOf_iff hn).mp ⟨e, he⟩⟩))
  · exact .inl (.inr (.inl lexeme))
  · exact .inl (.inl lexeme)
  · exact .inr (h.not_earlier (u := .int) (by decide))
  · exact .inr (h.not_earlier (u := .int) (by decide))

/-- A word alone is one expression exactly if no number at its start is split off. -/
theorem readAll_word_eq_single_iff (hs : IsWord s) :
    (∃ e, readAll s file track = .ok [e]) ↔ Unsplit s := by
  constructor
  · rintro ⟨e, he⟩
    obtain ⟨as, hscan, hmeaning⟩ := (readAll_word_eq_ok_iff hs.chars).mp he
    obtain ⟨a, rfl⟩ := List.length_eq_one_iff.mp
      (by simpa using (length_of_itemsToSexprs hmeaning).symm)
    obtain ⟨ts, hts, has⟩ := hscan .start
    obtain ⟨q, H⟩ := scan_eq_complete_iff.mp hts
    obtain ⟨t, first, token⟩ := H.exists_first hs.chars has
    obtain ⟨v, _, hv, -, -⟩ := itemsToSexprs_cons_eq_ok hmeaning
    exact first.unsplit hs token hv
  · intro h
    obtain ⟨t, a, e, hfirst, htoken, he⟩ := h.exists_atom hs
    refine ⟨e, (readAll_word_eq_ok_iff hs.chars).mpr ⟨[a], ?_, ?_⟩⟩
    · exact scansTo_of_first? hfirst hs.ne_nil htoken
    · simp only [List.map_cons, List.map_nil, itemsToSexprs, Datum.toSexpr, he]

/-- A word that is read at all is at least one expression. -/
theorem length_pos_of_readAll (hs : IsWord s) (h : readAll s file track = .ok es) :
    0 < es.length := by
  obtain ⟨as, hscan, hmeaning⟩ := (readAll_word_eq_ok_iff hs.chars).mp h
  obtain ⟨as', has, hne⟩ := hscan.exists_atoms hs.chars
  rw [length_of_itemsToSexprs hmeaning, List.length_map, ← List.length_map Token.atom, has,
    List.length_map]
  exact List.length_pos_iff.mpr (hne hs.ne_nil)

/-- The items of a form of words are at least as many as the words, and as many only if no word
has a number split off. -/
theorem length_flatten_of_readAll {ess : List (List Sexpr)} (hws : ∀ w ∈ words, IsWord w)
    (h : List.Forall₂ (fun s vs => readAll s file track = .ok vs) words ess) :
    words.length ≤ ess.flatten.length ∧
      (ess.flatten.length = words.length ↔ ∀ w ∈ words, Unsplit w) := by
  induction h with
  | nil => simp
  | @cons s vs words ess hvs _ ih =>
    obtain ⟨hs, hws⟩ := List.forall_mem_cons.mp hws
    obtain ⟨hle, hiff⟩ := ih hws
    have pos := length_pos_of_readAll hs hvs
    have single : (∃ e, readAll s file track = .ok [e]) ↔ Unsplit s :=
      readAll_word_eq_single_iff hs
    simp only [hvs, Except.ok.injEq, ← List.length_eq_one_iff] at single
    rw [List.flatten_cons, List.length_append, List.length_cons, List.forall_mem_cons, ← single,
      ← hiff]
    omega

/-- A word is read as one expression, and words in a form as one item each, exactly if no word has
a number at its start that is not all of it. -/
theorem readAll_words_iff (hs : IsWord s) (hws : ∀ w ∈ words, IsWord w) :
    ((∃ e, readAll s file track = .ok [e]) ↔ Unsplit s) ∧
    ((∃ items location, readAll (inForm words) file track = .ok [.form items location] ∧
      items.length = words.length) ↔ ∀ w ∈ words, Unsplit w) := by
  have chars : ∀ w ∈ words, ∀ c ∈ w.toList, isKeywordChar c := fun w hw => (hws w hw).chars
  refine ⟨readAll_word_eq_single_iff hs, ?_, ?_⟩
  · rintro ⟨items, location, hread, hlength⟩
    obtain ⟨ess, hess, heq⟩ := (readAll_inForm_eq_ok_iff chars).mp hread
    cases heq
    exact (length_flatten_of_readAll hws hess).2.mp hlength
  · intro h
    have each : ∀ w ∈ words, ∃ vs, readAll w file track = .ok vs := by
      intro w hw
      obtain ⟨e, he⟩ := (readAll_word_eq_single_iff (hws w hw)).mpr (h w hw)
      exact ⟨[e], he⟩
    obtain ⟨ess, hess⟩ := exists_forall₂_iff.mpr each
    exact ⟨_, _, (readAll_inForm_eq_ok_iff chars).mpr ⟨ess, hess, rfl⟩,
      (length_flatten_of_readAll hws hess).2.mpr h⟩

theorem readAll_words_iff_listing :
    ((∃ e, readAll "1/2" = .ok [e]) ↔ Unsplit "1/2") ∧
    ((∃ items location, readAll (inForm ["ls", "-la"]) = .ok [.form items location] ∧
      items.length = 2) ↔ ∀ w ∈ ["ls", "-la"], Unsplit w) := by
  have ratio : IsWord "1/2" := ⟨by simp, List.all_eq_true.mp rfl, by simp⟩
  have command : IsWord "ls" := ⟨by simp, List.all_eq_true.mp rfl, by simp⟩
  have option : IsWord "-la" := ⟨by simp, List.all_eq_true.mp rfl, by simp⟩
  exact readAll_words_iff ratio (by simp [command, option])

/-- The number of a redirection is split off the rest of its word. -/
theorem readAll_redirection :
    IsWord "ls" ∧ IsWord "2>/dev/null" ∧
    readAll (inForm ["ls", "2>/dev/null"]) =
      .ok [.form [.symbol "ls", .int 2, .symbol ">/dev/null"] none] ∧
    ¬ ∃ e, readAll "2>/dev/null" = .ok [e] := by
  have command : IsWord "ls" := ⟨by simp, List.all_eq_true.mp rfl, by simp⟩
  have redirection : IsWord "2>/dev/null" := ⟨by simp, List.all_eq_true.mp rfl, by simp⟩
  refine ⟨command, redirection, by rfl, ?_⟩
  have read : readAll "2>/dev/null" = .ok [.int 2, .symbol ">/dev/null"] := by rfl
  rintro ⟨e, he⟩
  rw [read] at he
  cases he

end SexprShell.Source
