import SexprShell.Script.Fragment

/-!
# Characters that last

The changes to a rendered text trim blanks, break lines and spell names anew. Characters of other
kinds than these are neither taken out nor put in, and stay in their order.
-/

namespace SexprShell.Script

open Text

/-- What is replaced in names and put in for it, and the end of a branch. -/
def replaced : List Char := ['-', '.', '/', '_', 'D', 'O', 'T', 'S', 'L', 'A', 'H', ';']

/-- A kind of characters without blanks and without those that changes replace or put in. -/
structure Lasting (m : Char → Bool) : Prop where
  not_blank (c : Char) : m c = true → isBlank c = false
  not_replaced : ∀ c ∈ replaced, m c = false

variable {m p : Char → Bool} {s : String}

theorem filter_dropWhile (hp : ∀ c, m c = true → p c = false) (cs : List Char) :
    (cs.dropWhile p).filter m = cs.filter m := by
  induction cs with
  | nil => rfl
  | cons c cs ih =>
    cases h : p c with
    | true =>
      have : m c = false := by
        rw [Bool.eq_false_iff]
        intro hc
        cases h.symm.trans (hp c hc)
      rw [List.dropWhile_cons_of_pos h, ih, List.filter_cons_of_neg (by simp [this])]
    | false => rw [List.dropWhile_cons_of_neg (by simp [h])]

theorem filter_dropEndWhile (hp : ∀ c, m c = true → p c = false) (s : String) :
    (dropEndWhile p s).toList.filter m = s.toList.filter m := by
  rw [toList_dropEndWhile, List.filter_reverse, filter_dropWhile hp, List.filter_reverse,
    List.reverse_reverse]

namespace Lasting

variable (hm : Lasting m)
include hm

theorem not_newline (c : Char) (h : m c = true) : (c == '\n') = false := by
  rw [beq_eq_false_iff_ne]
  rintro rfl
  exact absurd (hm.not_blank _ h) (by decide)

theorem newline : m '\n' = false :=
  Bool.eq_false_iff.mpr fun h => absurd (hm.not_blank _ h) (by decide)

theorem blank : m ' ' = false :=
  Bool.eq_false_iff.mpr fun h => absurd (hm.not_blank _ h) (by decide)

theorem filter_strip (s : String) : (strip s).toList.filter m = s.toList.filter m := by
  rw [strip, filter_dropEndWhile hm.not_blank, String.toList_ofList, filter_dropWhile hm.not_blank]

theorem filter_of_allBlank (h : allBlank s = true) : s.toList.filter m = [] := by
  refine List.filter_eq_nil_iff.mpr fun c hc hmc => ?_
  cases (hm.not_blank c hmc).symm.trans (List.all_eq_true.mp h c hc)

theorem filter_terminated (s : String) : (terminated s).toList.filter m = s.toList.filter m := by
  unfold terminated
  split
  · rfl
  · simp [hm.newline]

theorem filter_mungedChar (c : Char) : (mungedChar c).filter m = [c].filter m := by
  have spelled (c : Char) (hc : c ∈ replaced) : ¬ m c = true := by
    rw [hm.not_replaced c hc]
    exact Bool.false_ne_true
  have gone {cs : List Char} (hc : ∀ x ∈ c :: cs, x ∈ replaced) :
      cs.filter m = [c].filter m := by
    rw [List.filter_eq_nil_iff.mpr fun x hx => spelled x (hc x (List.mem_cons_of_mem _ hx)),
      List.filter_cons_of_neg (spelled c (hc c List.mem_cons_self)), List.filter_nil]
  unfold mungedChar
  split
  · next h => subst h; exact gone (by simp [replaced])
  · split
    · next h => subst h; exact gone (by simp [replaced])
    · split
      · next h => subst h; exact gone (by simp [replaced])
      · rfl

theorem filter_munged (s : String) : (munged s).toList.filter m = s.toList.filter m := by
  rw [munged, String.toList_ofList, List.filter_flatMap]
  simp only [hm.filter_mungedChar]
  rw [← List.filter_flatMap, List.flatMap_singleton']

theorem filter_asBranch (block : Bool) (s : String) :
    (asBranch block s).toList.filter m = s.toList.filter m := by
  unfold asBranch
  have semicolon : m ';' = false := hm.not_replaced ';' (by decide)
  split <;> simp [hm.newline, hm.blank, semicolon, hm.filter_strip]

/-- The empty text is no statement, and has no comment. -/
theorem filter_asStatement {comment : String} (h : s = "" → comment.toList.filter m = []) :
    (asStatement comment s).toList.filter m =
      s.toList.filter m ++ comment.toList.filter m := by
  unfold asStatement
  split
  · next hs => rw [h hs, hs]; rfl
  · split
    · next hc => rw [hm.filter_terminated, hc]; simp
    · rw [hm.filter_terminated, String.toList_append, List.filter_append,
        filter_dropEndWhile hm.not_newline]

end Lasting

/-! ## Characters that do not last -/

theorem notMem_mungedChar {c : Char} (hc : c ∈ ['-', '.', '/']) (d : Char) :
    c ∉ mungedChar d := by
  have spelled {s : String} (hs : ∀ x ∈ ['-', '.', '/'], x ∉ s.toList) : c ∉ s.toList := hs c hc
  unfold mungedChar
  split
  · exact spelled (by simp)
  · split
    · exact spelled (by simp)
    · split
      · exact spelled (by simp)
      · rw [List.mem_singleton]
        rintro rfl
        simp_all

/-- No character that is written otherwise in a variable's name is left in one. -/
theorem notMem_munged {c : Char} (hc : c ∈ ['-', '.', '/']) (s : String) :
    c ∉ (munged s).toList := by
  rw [munged, String.toList_ofList, List.mem_flatMap]
  rintro ⟨d, -, hd⟩
  exact notMem_mungedChar hc d hd

end SexprShell.Script
