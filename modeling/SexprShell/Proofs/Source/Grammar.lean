import SexprShell.Proofs.Source.Cutting
import SexprShell.Source.Datum

/-!
# The grammar of tokens

`Items` says which sequences of tokens write which items: atoms, items between brackets that match,
and an item behind a mark. The stack machine reads this language: `Items.run_eq` is completeness,
`Stack.closes_of_run` soundness, and `parse_eq_ok_iff` puts them together with the cutting of the
text. What is not in the language is refused with a position (`position?_of_parse`).
-/

namespace SexprShell.Source

/-- The items that a sequence of tokens writes, with the positions of brackets and marks. -/
inductive Items : List (Position × Token) → List Datum → Prop where
  | nil : Items [] []
  | atom {p : Position} {a : Atom} {ts : List (Position × Token)} {ds : List Datum} :
      Items ts ds → Items ((p, .atom a) :: ts) (.atom a :: ds)
  | group {b : Bracket} {p q : Position} {inner ts : List (Position × Token)}
      {items ds : List Datum} : Items inner items → Items ts ds →
      Items ((p, .opening b) :: (inner ++ (q, .closing b) :: ts)) (.group b p items :: ds)
  | deref {p : Position} {ts : List (Position × Token)} {d : Datum} {ds : List Datum} :
      Items ts (d :: ds) → Items ((p, .deref) :: ts) (.deref p d :: ds)

variable {p q : Position} {inner ts us rest : List (Position × Token)} {d : Datum}
  {ds es out top : List Datum} {s : Stack} {frames : List Frame}

theorem Items.append (H : Items ts ds) (H' : Items us es) : Items (ts ++ us) (ds ++ es) := by
  induction H with
  | nil => exact H'
  | atom _ ih => exact .atom ih
  | group hi _ _ ih =>
    simp only [List.cons_append, List.append_assoc]
    exact .group hi ih
  | deref _ ih => exact .deref ih

/-! ## Completeness -/

/-- Add finished items one after another. -/
def Stack.addAll (s : Stack) (ds : List Datum) : Stack :=
  ds.foldl (fun s d => Stack.add d s.frames s.items) s

@[simp] theorem Stack.addAll_cons :
    s.addAll (d :: ds) = (Stack.add d s.frames s.items).addAll ds := rfl

theorem Stack.addAll_opened (b : Bracket) (items : List Datum) :
    Stack.addAll ⟨.opened b p items :: frames, top⟩ ds =
      ⟨.opened b p (ds.reverse ++ items) :: frames, top⟩ := by
  induction ds generalizing items with
  | nil => rfl
  | cons d ds ih => simpa [Stack.add] using ih (d :: items)

theorem Stack.addAll_outside : Stack.addAll ⟨[], top⟩ ds = ⟨[], ds.reverse ++ top⟩ := by
  induction ds generalizing top with
  | nil => rfl
  | cons d ds ih => simpa [Stack.add] using @ih (d :: top)

/-- The position of the last token. -/
def lastPosition (last : Position) (ts : List (Position × Token)) : Position :=
  ts.foldl (fun _ t => t.1) last

/-- Reading a sequence of items adds them to the stack, whatever follows. -/
theorem Items.run_eq (H : Items ts ds) {last : Position} {ending : Ending} :
    s.run last ending (ts ++ rest) =
      (s.addAll ds).run (lastPosition last ts) ending rest := by
  induction H generalizing s last rest with
  | nil => rfl
  | atom _ ih => exact ih
  | @group b p q inner ts items ds _ _ ihi ih =>
    have opening : (Stack.mk (.opened b p [] :: s.frames) s.items).run p ending
        (inner ++ (q, .closing b) :: (ts ++ rest)) = _ := ihi
    rw [Stack.addAll_opened] at opening
    have closing : (Stack.mk (.opened b p (items.reverse ++ []) :: s.frames) s.items).take q
        (.closing b) = .ok (Stack.add (.group b p items) s.frames s.items) := by
      simp [Stack.take]
    rw [List.cons_append, List.append_assoc, List.cons_append, Stack.run, Stack.take]
    simp only
    rw [opening, Stack.run, closing]
    simp only [ih, Stack.addAll_cons]
    simp [lastPosition]
  | deref _ ih => exact ih

/-! ## Soundness -/

/-- What the tokens that follow have to be for a stack to end up as `out`: they finish its
unfinished items from the innermost on. -/
inductive Stack.Closes : Stack → List (Position × Token) → List Datum → Prop where
  | outside {top ds : List Datum} {ts : List (Position × Token)} : Items ts ds →
      Closes ⟨[], top⟩ ts (top.reverse ++ ds)
  | opened {b : Bracket} {p q : Position} {items ds top out : List Datum} {frames : List Frame}
      {inner rest : List (Position × Token)} : Items inner ds →
      Closes (Stack.add (.group b p (items.reverse ++ ds)) frames top) rest out →
      Closes ⟨.opened b p items :: frames, top⟩ (inner ++ (q, .closing b) :: rest) out
  | deref {p : Position} {d : Datum} {top out : List Datum} {frames : List Frame}
      {first rest : List (Position × Token)} : Items first [d] →
      Closes (Stack.add (.deref p d) frames top) rest out →
      Closes ⟨.deref p :: frames, top⟩ (first ++ rest) out

theorem Stack.Closes.add (hi : Items inner [d])
    (H : Closes (Stack.add d frames top) rest out) : Closes ⟨frames, top⟩ (inner ++ rest) out := by
  cases frames with
  | nil =>
    cases H with
    | outside h =>
      have : Closes ⟨[], top⟩ _ _ := .outside (hi.append h)
      simpa using this
  | cons f frames =>
    cases f with
    | opened b p items =>
      cases H with
      | @opened _ _ q _ ds _ _ _ more tail h hc =>
        have : Closes ⟨.opened b p items :: frames, top⟩ _ out :=
          .opened (q := q) (hi.append h) (by simpa using hc)
        simpa using this
    | deref p => exact .deref hi H

theorem Stack.closes_of_run {last : Position} (h : s.run last .complete ts = .ok out) :
    s.Closes ts out := by
  obtain ⟨frames, top⟩ := s
  induction ts generalizing frames top last with
  | nil =>
    simp only [Stack.run] at h
    split at h
    · next he =>
      obtain rfl := List.isEmpty_iff.mp he
      cases h
      have : Closes ⟨[], top⟩ [] _ := .outside .nil
      simpa using this
    · cases h
  | cons t ts ih =>
    obtain ⟨p, token⟩ := t
    cases token with
    | atom a =>
      have written : Items [(p, .atom a)] [.atom a] := .atom .nil
      exact Closes.add written (@ih p _ _ h)
    | opening b =>
      cases @ih p _ _ h with
      | @opened _ _ q _ ds _ _ _ inner rest hi hc =>
        have := Closes.add (.group (b := b) (p := p) (q := q) hi .nil) hc
        simpa using this
    | deref =>
      cases @ih p _ _ h with
      | deref hi hc => exact Closes.add hi.deref hc
    | closing b =>
      cases frames with
      | nil => cases h
      | cons f frames =>
        cases f with
        | deref q => cases h
        | opened b' q items =>
          by_cases hb : b' = b
          · subst hb
            simp only [Stack.run, Stack.take, if_true] at h
            have closed : Closes ⟨.opened b' q items :: frames, top⟩ ([] ++ (p, .closing b') :: ts)
                out := .opened .nil (by simpa using @ih p _ _ h)
            exact closed
          · simp [Stack.run, Stack.take, Ne.symm hb] at h

/-! ## Whole texts -/

theorem run_eq_ok_iff {last : Position} :
    Stack.run ⟨[], []⟩ last .complete ts = .ok ds ↔ Items ts ds := by
  constructor
  · intro h
    cases Stack.closes_of_run h with
    | outside H => exact H
  · intro H
    have : Stack.run ⟨[], []⟩ last .complete (ts ++ []) = _ := H.run_eq
    rw [List.append_nil] at this
    rw [this, Stack.addAll_outside]
    simp [Stack.run]

/-- A sequence of tokens writes one sequence of items at most. -/
theorem Items.unique (H : Items ts ds) (H' : Items ts es) : ds = es := by
  have h : Stack.run ⟨[], []⟩ .start .complete ts = .ok ds := run_eq_ok_iff.mpr H
  rw [run_eq_ok_iff.mpr H'] at h
  cases h
  rfl

/-- A run of the stack that fails, or meets a scan that is stuck, has a position to show for it. -/
theorem position?_of_run {last : Position} {ending : Ending} {e : ReadError}
    (h : s.run last ending ts = .error e) : e.position?.isSome ∧ e.isMeaning = false := by
  induction ts generalizing s last with
  | nil =>
    simp only [Stack.run] at h
    split at h
    · cases h; exact ⟨rfl, rfl⟩
    · split at h <;> cases h
      exact ⟨rfl, rfl⟩
  | cons t ts ih =>
    simp only [Stack.run] at h
    split at h
    · exact ih h
    · next herr =>
      cases h
      unfold Stack.take at herr
      repeat' split at herr
      all_goals cases herr
      all_goals exact ⟨rfl, rfl⟩

theorem complete_of_run {last : Position} {ending : Ending} (h : s.run last ending ts = .ok ds) :
    ending = .complete := by
  induction ts generalizing s last with
  | nil =>
    cases ending with
    | complete => rfl
    | stuck => simp [Stack.run] at h
  | cons t ts ih =>
    simp only [Stack.run] at h
    split at h
    · exact ih h
    · cases h

/-- The items of a text: it is cut up entirely, and its tokens write them. -/
theorem parse_eq_ok_iff {cs : List Char} :
    parse cs = .ok ds ↔ ∃ ts q, Cut .start cs ts q [] ∧ Items ts ds := by
  simp only [parse]
  constructor
  · intro h
    obtain hc := complete_of_run h
    rw [hc, run_eq_ok_iff] at h
    obtain ⟨q, H⟩ := scan_eq_complete_iff.mp (Prod.ext rfl hc : scan 0 .start cs = (_, .complete))
    exact ⟨_, q, H, h⟩
  · rintro ⟨ts, q, H, hi⟩
    rw [scan_eq_complete_iff.mpr ⟨q, H⟩]
    exact run_eq_ok_iff.mpr hi

theorem position?_of_parse {cs : List Char} {e : ReadError} (h : parse cs = .error e) :
    e.position?.isSome ∧ e.isMeaning = false :=
  position?_of_run h

end SexprShell.Source
