import SexprShell.Proofs.Source.Segment

/-!
# Where the notation of a text goes wrong

The position of an error of notation is the first place from which no text can be saved: what stands
in front of it can be completed (`exists_parse_of_cut`), while nothing can follow a closing bracket
that is refused (`Cut.before_closing`). All errors are described by `readAll_syntaxError`.
-/

namespace SexprShell.Source

open Terminal Text

variable {t : Terminal} {b : Bracket} {l cs rest : List Char} {c : Char} {p q last : Position}
  {ts us : List (Position × Token)} {s s' : Stack}

/-! ## In front of a closing bracket -/

/-- Only texts and comments hold closing brackets that are no lexemes of their own. -/
theorem Terminal.Lexeme.closing_notMem (h : t.Lexeme l) (htext : t ≠ .text)
    (hcomment : t ≠ .comment) (hl : l ≠ [b.closing]) : b.closing ∉ l := by
  cases t with
  | ratio | float | int | keyword | symbol =>
    intro hb
    have word := h.isWordChar (by simp) _ hb
    cases b <;> exact absurd word (by decide)
  | text => exact absurd rfl htext
  | opening b' => cases h; cases b <;> cases b' <;> decide
  | closing b' =>
    cases h
    intro hb
    rw [List.mem_singleton.mp hb] at hl
    exact hl rfl
  | deref => cases h; cases b <;> decide
  | comment => exact absurd rfl hcomment
  | gap =>
    intro hb
    have gap := h.2 _ hb
    cases b <;> exact absurd gap (by decide)

/-- A comment that goes on is a comment as far as it has come. -/
theorem comment_of_prefix (h : Terminal.comment.Lexeme l) (hcs : cs <+: l) (hne : cs ≠ []) :
    Terminal.comment.Lexeme cs := by
  obtain ⟨w, rfl, hw⟩ := h
  cases cs with
  | nil => exact absurd rfl hne
  | cons c cs =>
    obtain ⟨rfl, htail⟩ := List.cons_prefix_cons.mp hcs
    exact ⟨cs, rfl, fun d hd => hw d (htail.subset hd)⟩

/-- What is found in front of a closing bracket is found there whatever follows the bracket. -/
theorem Terminal.First.before_closing (h : t.First l (cs ++ b.closing :: rest)) (hl : l <+: cs)
    (rest' : List Char) : t.First l (cs ++ b.closing :: rest') := by
  have nonempty : cs ≠ [] := fun hcs => h.longest.lexeme.ne_nil (List.prefix_nil.mp (hcs ▸ hl))
  refine h.change hl (List.prefix_append _ _) (List.prefix_append _ _) ?_
  intro u l' hl' hu
  rcases List.prefix_or_prefix_of_prefix hl' (List.prefix_append cs _) with hp | ⟨m, rfl⟩
  · exact .inl hp
  · cases m with
    | nil => exact .inl (by simp)
    | cons c m =>
      obtain ⟨rfl, _⟩ := List.cons_prefix_cons.mp ((List.prefix_append_right_inj cs).mp hl')
      by_cases htext : u = .text
      · exact .inr (.inl ⟨htext, List.prefix_append _ _⟩)
      · -- Another lexeme with the bracket is a comment, and goes on in both texts.
        obtain rfl : u = .comment := by
          by_contra hno
          refine hu.closing_notMem (b := b) htext hno ?_ (by simp)
          intro heq
          cases cs with
          | nil => exact nonempty rfl
          | cons d cs => simp at heq
        have within : cs ++ [b.closing] <+: cs ++ b.closing :: m := ⟨m, by simp⟩
        have comment : Terminal.comment.Lexeme (cs ++ [b.closing]) :=
          comment_of_prefix hu within (by simp)
        refine .inr (.inr (h.not_noLater ⟨rest, by simp⟩ comment ?_))
        have := hl.length_le
        rw [List.length_append, List.length_singleton]
        omega

/-- A text is cut in the same way up to a closing bracket whatever follows the bracket. -/
theorem Cut.before_closing (H : Cut p (cs ++ b.closing :: rest) ts q (b.closing :: rest))
    (rest' : List Char) : Cut p (cs ++ b.closing :: rest') ts q (b.closing :: rest') := by
  generalize hall : cs ++ b.closing :: rest = all at H
  generalize hend : b.closing :: rest = e at H
  induction H generalizing cs with
  | stop =>
    obtain rfl : cs = [] := List.append_left_eq_self.mp (hall.trans hend.symm)
    exact .stop
  | @take p q l cs₁ _ t ts h H ih =>
    subst hend
    obtain ⟨mid, rfl, -⟩ := H.advance_eq
    obtain rfl : cs = l ++ mid := by simpa [← List.append_assoc] using hall
    have cut := ih rfl rfl
    rw [← List.append_assoc] at h
    have first := h.before_closing (List.prefix_append l mid) rest'
    rw [List.append_assoc] at first ⊢
    exact .take first cut

/-! ## Where nothing is found -/

/-- Nothing is found only at a double quote without another one that could close a text, and at a
colon without the rest of a keyword. -/
theorem of_first?_eq_none (h : first? (c :: cs) = none) :
    (c = '"' ∧ ∀ w, IsQuotable w → ¬ w ++ ['"'] <+: cs) ∨
      (c = ':' ∧ ∀ d, cs.head? = some d → isKeywordChar d = false) := by
  have none : ∀ (t : Terminal) (l : List Char), l <+: c :: cs → ¬ t.Lexeme l := by
    intro t
    have tried : t ∈ all := by
      cases t with
      | opening b => cases b <;> decide
      | closing b => cases b <;> decide
      | _ => decide
    have := List.findSome?_eq_none_iff.mp h t tried
    exact width?_eq_none_iff.mp (Option.map_eq_none_iff.mp this)
  have alone (t : Terminal) : ¬ t.Lexeme [c] := none t [c] ⟨cs, rfl⟩
  by_cases hquote : c = '"'
  · subst hquote
    refine .inl ⟨rfl, fun w hw hp => none .text ('"' :: (w ++ ['"'])) ?_ ⟨w, rfl, hw⟩⟩
    exact List.cons_prefix_cons.mpr ⟨rfl, hp⟩
  · by_cases hcolon : c = ':'
    · subst hcolon
      refine .inr ⟨rfl, fun d hd => ?_⟩
      obtain ⟨cs, rfl⟩ : ∃ cs', cs = d :: cs' := by
        cases cs with
        | nil => cases hd
        | cons _ cs => cases hd; exact ⟨cs, rfl⟩
      rw [Bool.eq_false_iff]
      intro hd
      exact none .keyword [':', d] ⟨cs, rfl⟩ ⟨[d], rfl, by simp, by simpa using hd⟩
    · -- Any other character is a lexeme, or the beginning of a symbol.
      exfalso
      have gap : isGap c = false := Bool.eq_false_iff.mpr fun h => alone .gap ⟨by simp, by simpa⟩
      have start : isSymbolStart c = false :=
        Bool.eq_false_iff.mpr fun h => alone .symbol ⟨c, [], rfl, h, List.forall_mem_nil _⟩
      have at_ : c ≠ '@' := fun h => alone .deref (h ▸ rfl)
      simp only [isGap, Bool.or_eq_false_iff, beq_eq_false_iff_ne] at gap
      have broken : c ∈ wordBreaks := by
        simpa [isSymbolStart, isWordChar, gap.1, hcolon, at_] using start
      simp only [wordBreaks, List.mem_cons, List.not_mem_nil, or_false] at broken
      rcases broken with rfl | rfl | rfl | rfl | rfl | rfl | rfl | rfl | rfl
      · exact alone (.opening .round) rfl
      · exact alone (.closing .round) rfl
      · exact alone (.opening .square) rfl
      · exact alone (.closing .square) rfl
      · exact alone (.opening .curly) rfl
      · exact alone (.closing .curly) rfl
      · exact hquote rfl
      · exact alone .comment ⟨[], rfl, List.forall_mem_nil _⟩
      · exact gap.2 rfl

/-! ## Where the stack gives up -/

/-- Take tokens as long as there are any. -/
def Stack.takeAll (s : Stack) : List (Position × Token) → Except ReadError Stack
  | [] => .ok s
  | (p, token) :: rest =>
    match s.take p token with
    | .ok s' => s'.takeAll rest
    | .error e => .error e

theorem lastPosition_concat (ts : List (Position × Token)) (x : Position × Token) :
    lastPosition last (ts ++ [x]) = x.1 := by
  simp [lastPosition]

theorem Stack.run_of_takeAll {ending : Ending} (h : s.takeAll ts = .ok s') :
    s.run last ending (ts ++ us) = s'.run (lastPosition last ts) ending us := by
  induction ts generalizing s last with
  | nil => cases h; rfl
  | cons x ts ih =>
    obtain ⟨p, token⟩ := x
    cases hs : s.take p token with
    | error e =>
      rw [takeAll, hs] at h
      cases h
    | ok s₁ =>
      rw [takeAll, hs] at h
      rw [List.cons_append, run, hs]
      exact ih h

/-- Only a closing bracket is refused. -/
theorem Stack.take_error {token : Token} {e : ReadError} (h : s.take p token = .error e) :
    ∃ b, token = .closing b ∧ e = .unexpectedClosing b p := by
  cases token with
  | closing b =>
    simp only [take] at h
    repeat' split at h
    all_goals cases h
    all_goals exact ⟨b, rfl, rfl⟩
  | _ => cases h

/-- A run fails at a closing bracket, or where the scan is stuck, or because something is open at
the end. -/
theorem Stack.run_error {ending : Ending} {e : ReadError} (h : s.run last ending ts = .error e) :
    (∃ us vs p b s', ts = us ++ (p, .closing b) :: vs ∧ s.takeAll us = .ok s' ∧
      s'.take p (.closing b) = .error e ∧ e = .unexpectedClosing b p) ∨
    ∃ s', s.takeAll ts = .ok s' ∧ ((∃ c p, ending = .stuck c p ∧ e = .unmatched c p) ∨
      (ending = .complete ∧ s'.frames ≠ [] ∧ e = .unexpectedEnd (lastPosition last ts))) := by
  induction ts generalizing s last with
  | nil =>
    refine .inr ⟨s, rfl, ?_⟩
    cases ending with
    | stuck c p =>
      cases h
      exact .inl ⟨c, p, rfl, rfl⟩
    | complete =>
      simp only [run] at h
      split at h
      · cases h
      · next hframes =>
        cases h
        exact .inr ⟨rfl, by simpa using hframes, rfl⟩
  | cons x ts ih =>
    obtain ⟨p, token⟩ := x
    cases hs : s.take p token with
    | error e' =>
      rw [run, hs] at h
      cases h
      obtain ⟨b, rfl, he⟩ := take_error hs
      exact .inl ⟨[], ts, p, b, s, rfl, rfl, hs, he⟩
    | ok s₁ =>
      rw [run, hs] at h
      have taken (us : List (Position × Token)) :
          s.takeAll ((p, token) :: us) = s₁.takeAll us := by rw [takeAll, hs]
      rcases ih h with ⟨us, vs, q, b, s', rfl, htake, herror, he⟩ | ⟨s', htake, hend⟩
      · exact .inl ⟨(p, token) :: us, vs, q, b, s', rfl, (taken us).trans htake, herror, he⟩
      · exact .inr ⟨s', (taken ts).trans htake, hend⟩

/-! ## What can still be completed -/

/-- The bracket that an unfinished item waits for. -/
def Frame.awaited? : Frame → Option Bracket
  | .opened b _ _ => some b
  | .deref _ => none

/-- Behind a finished item, the closing brackets of what is open finish everything. -/
theorem Stack.run_awaited (frames : List Frame) {top : List Datum} {d : Datum}
    (hts : ts.map (·.2) = (frames.filterMap Frame.awaited?).map .closing) :
    ∃ ds, (Stack.add d frames top).run last .complete ts = .ok ds := by
  induction frames generalizing d ts last with
  | nil =>
    obtain rfl := List.map_eq_nil_iff.mp hts
    exact ⟨_, rfl⟩
  | cons f frames ih =>
    cases f with
    | deref p => exact ih hts
    | opened b p items =>
      obtain ⟨⟨q, _⟩, ts, rfl, rfl, hrest⟩ := List.map_eq_cons_iff.mp hts
      have closed : (Stack.add d (.opened b p items :: frames) top).take q (.closing b) =
          .ok (Stack.add (.group b p (d :: items).reverse) frames top) := by
        simp [add, take]
      rw [run, closed]
      exact ih hrest

theorem reads_closings (bs : List Bracket) :
    List.Forall₂ Reads (bs.map .closing) (bs.map .closing) := by
  induction bs with
  | nil => exact .nil
  | cons b bs ih => exact .cons (.closing b) ih

/-- A text with nothing but closing brackets behind a symbol. -/
theorem scan_closings (bs : List Bracket) (p : Position) :
    ∃ ts, scan 0 p ('x' :: bs.map Bracket.closing) = (ts, .complete) ∧
      ts.map (·.2) = .atom (.symbol "x") :: bs.map .closing := by
  have brackets : ∀ afterAtom, Laid afterAtom (bs.map .closing) (bs.map Bracket.closing) := by
    induction bs with
    | nil => exact fun _ => .nil .nil
    | cons b bs ih => exact fun _ => .cons .nil nofun (ih _)
  have word : ∀ rest, EndsWord rest → first? (['x'] ++ rest) = some (.symbol, 1) := fun rest hr =>
    first?_symbol (by decide) (List.forall_mem_nil _) hr (intWidth?_cons (by decide) (by decide))
  have laid : Laid false (.atom ['x'] :: bs.map .closing) ('x' :: bs.map Bracket.closing) :=
    .cons .nil nofun (brackets true)
  exact scan_laid laid (.cons (.atom (by simp) word rfl) (reads_closings bs)) p

/-- What is cut up entirely, and refused nowhere, is the beginning of a text with items. -/
theorem exists_parse_of_cut (H : Cut .start cs ts q [])
    (h : Stack.takeAll ⟨[], []⟩ ts = .ok s) : ∃ more ds, parse (cs ++ more) = .ok ds := by
  let awaited := s.frames.filterMap Frame.awaited?
  obtain ⟨us, hscan, hus⟩ := scan_closings awaited (q.next '\n')
  obtain ⟨⟨p, _⟩, us, rfl, rfl, hclosings⟩ := List.map_eq_cons_iff.mp hus
  obtain ⟨ds, hds⟩ : ∃ ds, (Stack.add (.atom (.symbol "x")) s.frames s.items).run p .complete us =
      .ok ds := Stack.run_awaited s.frames hclosings
  refine ⟨'\n' :: 'x' :: awaited.map Bracket.closing, ds, ?_⟩
  simp only [parse, H.scan_append_newline, hscan]
  rw [Stack.run_of_takeAll h]
  exact hds

/-! ## Errors of notation -/

/-- A text without errors of notation, whatever its items mean. -/
def IsWellFormed (src : String) : Prop :=
  ∀ file track e, readAll src file track = .error e → e.position? = none

/-- The beginning of a text without errors of notation. -/
def Completable (cs : List Char) : Prop := ∃ more, IsWellFormed (String.ofList (cs ++ more))

theorem isWellFormed_of_parse {src : String} {ds : List Datum} (h : parse src.toList = .ok ds) :
    IsWellFormed src := by
  intro file track e he
  rw [readAll, h] at he
  obtain ⟨d, _, hd⟩ := List.exists_of_findSome?_eq_some (error_iff_offence.mp he)
  exact (d.position?_of_offence hd).1

theorem completable_of_cut (H : Cut .start cs ts q [])
    (h : Stack.takeAll ⟨[], []⟩ ts = .ok s) : Completable cs := by
  obtain ⟨more, ds, hds⟩ := exists_parse_of_cut H h
  exact ⟨more, isWellFormed_of_parse (by rwa [String.toList_ofList])⟩

/-- An error with a position is one of notation. -/
theorem parse_eq_error {src : String} {file : Option String} {track : Bool} {e : ReadError}
    (h : readAll src file track = .error e) (hp : e.position? = some p) :
    parse src.toList = .error e := by
  cases hparse : parse src.toList with
  | error e' =>
    rw [readAll, hparse] at h
    cases h
    rfl
  | ok ds => cases hp.symm.trans (isWellFormed_of_parse hparse file track e h)

/-- A closing bracket that is refused is the end of every text with this beginning. -/
theorem parse_of_refused {e : ReadError} (H : Cut .start cs ts p (b.closing :: rest))
    (h : Stack.takeAll ⟨[], []⟩ ts = .ok s) (he : s.take p (.closing b) = .error e) :
    parse cs = .error e := by
  have bracket : scan 0 p ([b.closing] ++ rest) = _ := scan_take (first?_closing b) (by simp)
  simp only [parse, H.scan_eq]
  rw [Stack.run_of_takeAll h]
  rw [List.singleton_append] at bracket
  simp only [bracket, token?, Option.toList_some, List.map_cons, List.cons_append, Stack.run, he]

/-- The place of a closing bracket. -/
theorem Cut.at_closing (H : Cut .start cs (ts ++ (p, .closing b) :: us) q rest) :
    ∃ before after, cs = before ++ b.closing :: after ∧ p = Position.start.advance before ∧
      Cut .start (before ++ b.closing :: after) ts p (b.closing :: after) := by
  obtain ⟨t, l, after, H₁, hfirst, ht, -⟩ := H.at_token
  obtain rfl : t = .closing b := by
    cases t with
    | closing b' => cases ht; rfl
    | _ => cases ht
  obtain rfl : l = [b.closing] := hfirst.longest.lexeme
  obtain ⟨before, rfl, hposition⟩ := H₁.advance_eq
  exact ⟨before, after, rfl, hposition, H₁⟩

/-- Nothing but lexemes that mean nothing stands behind the last token. -/
theorem Cut.at_last {token : Token} (H : Cut .start cs (ts ++ [(p, token)]) q []) :
    ∃ rest, Cut .start cs ts p rest ∧ Cut p rest [(p, token)] q [] := by
  obtain ⟨t, l, after, H₁, hfirst, ht, H₂⟩ := H.at_token
  have last : Cut p (l ++ after) ((t.token? l).toList.map (p, ·) ++ []) q [] := .take hfirst H₂
  rw [ht] at last
  exact ⟨l ++ after, H₁, last⟩

/-- How the scan of a text ends. -/
theorem exists_scan_eq (cs : List Char) : ∃ ts q rest ending, Cut .start cs ts q rest ∧
    scan 0 .start cs = (ts, ending) ∧ ((rest = [] ∧ ending = .complete) ∨
      ∃ c cs', rest = c :: cs' ∧ ending = .stuck c q ∧ first? rest = none) := by
  obtain ⟨ts, q, rest, H, rfl | ⟨c, cs', rfl, hnone⟩⟩ := exists_cut .start cs
  · exact ⟨ts, q, [], .complete, H, by simp [H.scan_eq, scan], .inl ⟨rfl, rfl⟩⟩
  · exact ⟨ts, q, c :: cs', .stuck c q, H, by simp [H.scan_eq, scan_stuck hnone],
      .inr ⟨c, cs', rfl, rfl, hnone⟩⟩

/-- An error of notation is where the text goes wrong first. A closing bracket stands where no text
can go on with it; a character that is no lexeme is a double quote that nothing closes or a colon
without a name; and a text that ends too early can be completed, and has its last token at the
position. -/
theorem readAll_syntaxError {src : String} {file : Option String} {track : Bool} {e : ReadError}
    (h : readAll src file track = .error e) (hp : e.position? = some p) :
    (∃ b before after, e = .unexpectedClosing b p ∧ src.toList = before ++ b.closing :: after ∧
      p = Position.start.advance before ∧ Completable before ∧
      ∀ src' file' track', before ++ [b.closing] <+: src'.toList →
        readAll src' file' track' = .error e) ∨
    (∃ c before after, e = .unmatched c p ∧ src.toList = before ++ c :: after ∧
      p = Position.start.advance before ∧ Completable before ∧
      ((c = '"' ∧ ∀ w, IsQuotable w → ¬ w ++ ['"'] <+: after) ∨
        (c = ':' ∧ ∀ d, after.head? = some d → isKeywordChar d = false))) ∨
    (e = .unexpectedEnd p ∧ Completable src.toList ∧
      ∃ ts token q rest, Cut .start src.toList ts p rest ∧ Cut p rest [(p, token)] q []) := by
  have failed := parse_eq_error h hp
  obtain ⟨ts, q, rest, ending, H, hscan, hend⟩ := exists_scan_eq src.toList
  simp only [parse, hscan] at failed
  rcases Stack.run_error failed with
    ⟨us, vs, r, b, s, rfl, htake, herror, rfl⟩ | ⟨s, htake, hstop⟩
  · cases hp
    obtain ⟨before, after, hsrc, hposition, H⟩ := H.at_closing
    refine .inl ⟨b, before, after, rfl, hsrc, hposition, completable_of_cut H.alone htake, ?_⟩
    rintro src' file' track' ⟨rest', hrest'⟩
    have chars : src'.toList = before ++ b.closing :: rest' := by simpa using hrest'.symm
    rw [readAll, chars, parse_of_refused (H.before_closing rest') htake herror]
  · rcases hstop with ⟨c, r, rfl, rfl⟩ | ⟨rfl, hframes, rfl⟩
    · rcases hend with ⟨_, hstuck⟩ | ⟨_, after, rfl, hstuck, hnone⟩
      · cases hstuck
      · cases hstuck
        cases hp
        obtain ⟨before, hsrc, hposition⟩ := H.advance_eq
        rw [hsrc] at H
        exact .inr (.inl ⟨c, before, after, rfl, hsrc, hposition, completable_of_cut H.alone htake,
          of_first?_eq_none hnone⟩)
    · rcases hend with ⟨rfl, _⟩ | ⟨_, _, _, hstuck, _⟩
      · have completable := completable_of_cut H htake
        rcases List.eq_nil_or_concat' ts with rfl | ⟨us, ⟨r, token⟩, rfl⟩
        · cases htake
          exact absurd rfl hframes
        · rw [lastPosition_concat] at hp ⊢
          cases hp
          obtain ⟨rest, H₁, H₂⟩ := H.at_last
          exact .inr (.inr ⟨rfl, completable, us, token, q, rest, H₁, H₂⟩)
      · cases hstuck

/-- A bracket that does not match the innermost open one, inside a form that could go on. -/
theorem readAll_syntaxError_mismatch :
    readAll "(a\n [b) c]" none false = .error (.unexpectedClosing .round ⟨2, 4⟩) ∧
      ∃ b before after,
        ReadError.unexpectedClosing .round ⟨2, 4⟩ = .unexpectedClosing b ⟨2, 4⟩ ∧
        "(a\n [b) c]".toList = before ++ b.closing :: after ∧
        ⟨2, 4⟩ = Position.start.advance before ∧ Completable before ∧
        ∀ src' file' track', before ++ [b.closing] <+: src'.toList →
          readAll src' file' track' = .error (.unexpectedClosing .round ⟨2, 4⟩) := by
  have h : readAll "(a\n [b) c]" none false = .error (.unexpectedClosing .round ⟨2, 4⟩) := rfl
  refine ⟨h, ?_⟩
  rcases readAll_syntaxError h rfl with closing | ⟨_, _, _, hno, _⟩ | ⟨hno, _⟩
  · exact closing
  · cases hno
  · cases hno

end SexprShell.Source
