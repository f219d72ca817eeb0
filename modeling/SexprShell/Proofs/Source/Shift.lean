import SexprShell.Proofs.Source.Location

/-!
# Texts further down

What becomes of a text that does not start on the first line but some lines further down: it is cut
in the same places (`scan_down`), the stack goes through the same states, also on top of items that
are there already (`Stack.run_down`), and the locations of its forms have higher lines
(`itemsToSexprs_down`).
-/

namespace SexprShell.Source

/-- The position so many lines further down. -/
def Position.down (k : Nat) (p : Position) : Position := ⟨p.line + k, p.column⟩

def Ending.down (k : Nat) : Ending → Ending
  | .complete => .complete
  | .stuck c p => .stuck c (p.down k)

/-- The same error in a text that starts so many lines further down. -/
def ReadError.down (k : Nat) : ReadError → ReadError
  | .unmatched c p => .unmatched c (p.down k)
  | .unexpectedClosing b p => .unexpectedClosing b (p.down k)
  | .unexpectedEnd p => .unexpectedEnd (p.down k)
  | e => e

mutual

def Datum.down (k : Nat) : Datum → Datum
  | .atom a => .atom a
  | .group b p items => .group b (p.down k) (downItems k items)
  | .deref p item => .deref (p.down k) (item.down k)

def downItems (k : Nat) : List Datum → List Datum
  | [] => []
  | d :: ds => d.down k :: downItems k ds

end

theorem downItems_eq_map {k : Nat} (ds : List Datum) : downItems k ds = ds.map (Datum.down k) := by
  induction ds with
  | nil => rfl
  | cons d ds ih => rw [downItems, ih, List.map_cons]

theorem ReadError.down_of_position? {e : ReadError} (k : Nat) (h : e.position? = none) :
    e.down k = e := by
  cases e with
  | unmatched | unexpectedClosing | unexpectedEnd => cases h
  | _ => rfl

variable {k : Nat} {p : Position}

/-! ## Positions -/

namespace Position

theorem down_next (c : Char) : (p.down k).next c = (p.next c).down k := by
  unfold next
  split
  · simp only [down, Nat.add_right_comm]
  · rfl

/-- A run of characters goes down one line for each line feed. -/
theorem line_advance (cs : List Char) : (p.advance cs).line = p.line + cs.count '\n' := by
  induction cs generalizing p with
  | nil => rfl
  | cons c cs ih =>
    rw [advance_cons, ih, next]
    split
    · next hc => simp only [hc, List.count_cons_self]; omega
    · next hc => simp only [List.count_cons_of_ne hc]

/-- Behind a line feed a new line starts. -/
theorem next_newline : p.next '\n' = start.down p.line := by
  simp only [next, if_true, down, start, Nat.add_comm]

end Position

/-! ## Scanning -/

/-- A token at its place, so many lines further down. -/
def downToken (k : Nat) (t : Position × Token) : Position × Token := (t.1.down k, t.2)

theorem scan_down : ∀ (n : Nat) (p : Position) (cs : List Char),
    scan n (p.down k) cs = ((scan n p cs).1.map (downToken k), (scan n p cs).2.down k)
  | _, _, [] => by simp [scan, Ending.down]
  | n + 1, p, c :: cs => by rw [scan, scan, Position.down_next, scan_down n]
  | 0, p, c :: cs => by
    cases h : Terminal.first? (c :: cs) with
    | none => simp [scan, h, Ending.down]
    | some r =>
      obtain ⟨t, width⟩ := r
      simp only [scan, h, Position.down_next, scan_down (width - 1)]
      cases t.token? ((c :: cs).take width) <;> rfl

/-! ## The stack -/

def Frame.down (k : Nat) : Frame → Frame
  | .opened b p items => .opened b (p.down k) (items.map (Datum.down k))
  | .deref p => .deref (p.down k)

/-- A stack in a text that starts so many lines further down, with the items of what stands in front
of that text below its own. -/
def Stack.down (k : Nat) (top : List Datum) (s : Stack) : Stack :=
  ⟨s.frames.map (Frame.down k), s.items.map (Datum.down k) ++ top⟩

variable {d : Datum} {top : List Datum} {s : Stack} {ending : Ending}

theorem Stack.add_down (frames : List Frame) (items : List Datum) :
    Stack.add (d.down k) (frames.map (Frame.down k)) (items.map (Datum.down k) ++ top) =
      (Stack.add d frames items).down k top := by
  induction frames generalizing d with
  | nil => rfl
  | cons f frames ih =>
    cases f with
    | opened b p inner => rfl
    | deref p => exact ih (d := .deref p d)

theorem Stack.take_down (s : Stack) (p : Position) (t : Token) :
    (s.down k top).take (p.down k) t =
      match s.take p t with
      | .ok s' => .ok (s'.down k top)
      | .error e => .error (e.down k) := by
  obtain ⟨frames, items⟩ := s
  cases t with
  | opening b => rfl
  | deref => rfl
  | atom a =>
    have added : Stack.add ((Datum.atom a).down k) _ (_ ++ top) = _ :=
      Stack.add_down frames items
    exact congrArg Except.ok added
  | closing b =>
    cases frames with
    | nil => rfl
    | cons f frames =>
      cases f with
      | deref q => rfl
      | opened b' q inner =>
        by_cases hb : b = b'
        · have added : Stack.add ((Datum.group b q inner.reverse).down k) _ (_ ++ top) = _ :=
            Stack.add_down frames items
          rw [Datum.down, downItems_eq_map, List.map_reverse] at added
          simpa [Stack.take, Stack.down, Frame.down, ← hb] using added
        · simp [Stack.take, Stack.down, Frame.down, hb, ReadError.down]

/-- The stack goes through the same states whatever stands in front of a text. -/
theorem Stack.run_down (s : Stack) (last : Position) (ts : List (Position × Token)) :
    (s.down k top).run (last.down k) (ending.down k) (ts.map (downToken k)) =
      match s.run last ending ts with
      | .ok ds => .ok (top.reverse ++ ds.map (Datum.down k))
      | .error e => .error (e.down k) := by
  induction ts generalizing s last with
  | nil =>
    cases ending with
    | stuck c p => rfl
    | complete =>
      obtain ⟨frames, items⟩ := s
      cases frames with
      | nil => simp [Stack.run, Stack.down, Ending.down]
      | cons f frames => rfl
  | cons t ts ih =>
    obtain ⟨p, token⟩ := t
    have step : (s.down k top).take (p.down k) token = _ := Stack.take_down s p token
    rw [List.map_cons, downToken, Stack.run, Stack.run, step]
    cases s.take p token with
    | ok s' => exact ih s' p
    | error e => rfl

/-- As long as nothing is open, it does not matter where the last token was. -/
theorem Stack.run_outside (last last' : Position) (ts : List (Position × Token)) :
    Stack.run ⟨[], top⟩ last ending ts = Stack.run ⟨[], top⟩ last' ending ts := by
  cases ts <;> rfl

/-! ## Meanings -/

variable {locate : Position → Option Location}

mutual

theorem Datum.toSexpr_down : ∀ d : Datum,
    (d.down k).toSexpr locate = d.toSexpr fun p => locate (p.down k)
  | .atom a => rfl
  | .group b p items => by simp only [Datum.down, Datum.toSexpr, itemsToSexprs_downItems items]
  | .deref p d => by simp only [Datum.down, Datum.toSexpr, d.toSexpr_down]

theorem itemsToSexprs_downItems : ∀ ds : List Datum,
    itemsToSexprs locate (downItems k ds) = itemsToSexprs (fun p => locate (p.down k)) ds
  | [] => rfl
  | d :: ds => by simp only [downItems, itemsToSexprs, d.toSexpr_down, itemsToSexprs_downItems ds]

end

/-- The expressions further down are the same with lower locations. -/
theorem itemsToSexprs_down (file : Option String) (track : Bool) (ds : List Datum) :
    itemsToSexprs (locateIn file track) (ds.map (Datum.down k)) =
      (itemsToSexprs (locateIn file track) ds).map (List.map (Sexpr.down k)) := by
  have locate : (fun p : Position => locateIn file track (p.down k)) =
      fun p => (locateIn file track p).map (Location.down k) := by
    funext p
    cases track <;> rfl
  rw [← downItems_eq_map, itemsToSexprs_downItems, locate]
  exact itemsToSexprs_relocated _ ds

theorem itemsToSexprs_append {ds ds' : List Datum} {es : List Sexpr}
    (h : itemsToSexprs locate ds = .ok es) :
    itemsToSexprs locate (ds ++ ds') = (itemsToSexprs locate ds').map (es ++ ·) := by
  induction ds generalizing es with
  | nil =>
    cases h
    cases h' : itemsToSexprs locate ds' <;> rw [List.nil_append, h'] <;> rfl
  | cons d ds ih =>
    simp only [itemsToSexprs] at h
    cases hd : d.toSexpr locate with
    | error e => rw [hd] at h; cases h
    | ok v =>
      cases hds : itemsToSexprs locate ds with
      | error e => rw [hd, hds] at h; cases h
      | ok vs =>
        rw [hd, hds] at h
        cases h
        simp only [List.cons_append, itemsToSexprs, hd, ih hds]
        cases itemsToSexprs locate ds' <;> rfl

end SexprShell.Source
