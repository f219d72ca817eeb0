import SexprShell.Proofs.Source.Lexeme
import SexprShell.Source.Token

/-!
# Cutting a text into lexemes

`Cut` takes lexemes off the left of a text, each time the longest one of the first terminal that has
any. A scan ends at the end of a text exactly if the text can be cut up entirely
(`scan_eq_complete_iff`), and its tokens are those of the lexemes.
-/

namespace SexprShell.Source

/-- Cutting the text `cs`, which starts at `p`, gives tokens and leaves `rest`, which starts at
`q`. -/
inductive Cut : Position → List Char → List (Position × Token) → Position → List Char → Prop where
  | stop {p : Position} {cs : List Char} : Cut p cs [] p cs
  | take {p q : Position} {l cs rest : List Char} {t : Terminal} {ts : List (Position × Token)} :
      t.First l (l ++ cs) → Cut (p.advance l) cs ts q rest →
      Cut p (l ++ cs) ((t.token? l).toList.map (p, ·) ++ ts) q rest

section
variable {p q : Position} {t : Terminal} {l cs rest : List Char} {ts : List (Position × Token)}

/-- One lexeme of a scan. -/
theorem scan_take (h : Terminal.first? (l ++ cs) = some (t, l.length)) (hl : l ≠ []) :
    scan 0 p (l ++ cs) = ((t.token? l).toList.map (p, ·) ++ (scan 0 (p.advance l) cs).1,
      (scan 0 (p.advance l) cs).2) := by
  cases l with
  | nil => exact absurd rfl hl
  | cons c l =>
    rw [List.cons_append] at h ⊢
    have skip : scan l.length (p.next c) (l ++ cs) = scan 0 (p.advance (c :: l)) cs := by
      rw [scan_skip, List.take_left, List.drop_left, Position.advance_cons]
    have lexeme : (c :: (l ++ cs)).take (l.length + 1) = c :: l := by simp
    simp only [scan, h, List.length_cons, Nat.add_sub_cancel, skip, lexeme]
    cases t.token? (c :: l) <;> rfl

theorem scan_stuck {c : Char} (h : Terminal.first? (c :: cs) = none) :
    scan 0 p (c :: cs) = ([], .stuck c p) := by
  simp [scan, h]

theorem Terminal.First.first? (h : t.First l cs) : Terminal.first? cs = some (t, l.length) :=
  Terminal.first?_eq_some_iff.mpr ⟨l, h, rfl⟩

/-- A scan goes through what has been cut off. -/
theorem Cut.scan_eq (H : Cut p cs ts q rest) :
    scan 0 p cs = (ts ++ (scan 0 q rest).1, (scan 0 q rest).2) := by
  induction H with
  | stop => rfl
  | take h _ ih =>
    rw [scan_take h.first? h.longest.lexeme.ne_nil, ih]
    simp

/-- Every text can be cut up to its end or to a place where no terminal has a lexeme. -/
theorem exists_cut (p : Position) (cs : List Char) : ∃ ts q rest, Cut p cs ts q rest ∧
    (rest = [] ∨ ∃ c cs', rest = c :: cs' ∧ Terminal.first? rest = none) := by
  cases cs with
  | nil => exact ⟨[], p, [], .stop, .inl rfl⟩
  | cons c cs =>
    cases h : Terminal.first? (c :: cs) with
    | none => exact ⟨[], p, c :: cs, .stop, .inr ⟨c, cs, rfl, h⟩⟩
    | some r =>
      obtain ⟨l, hl, _⟩ := Terminal.first?_eq_some_iff.mp h
      obtain ⟨cs', hcs⟩ := hl.longest.isPrefix
      have shorter : cs'.length ≤ cs.length := by
        have hpos := List.length_pos_iff.mpr hl.longest.lexeme.ne_nil
        have hlen := congrArg List.length hcs
        simp only [List.length_append, List.length_cons] at hlen
        omega
      rw [← hcs] at hl ⊢
      obtain ⟨ts, q, rest, H, hend⟩ := exists_cut (p.advance l) cs'
      exact ⟨_, q, rest, .take hl H, hend⟩
termination_by cs.length

theorem scan_eq_complete_iff :
    scan 0 p cs = (ts, .complete) ↔ ∃ q, Cut p cs ts q [] := by
  constructor
  · intro h
    obtain ⟨us, q, rest, H, rfl | ⟨c, cs', rfl, hnone⟩⟩ := exists_cut p cs
    · rw [H.scan_eq] at h
      obtain rfl : us = ts := by simpa [scan] using h
      exact ⟨q, H⟩
    · rw [H.scan_eq, scan_stuck hnone] at h
      simp at h
  · rintro ⟨q, H⟩
    rw [H.scan_eq]
    simp [scan]

end

end SexprShell.Source
