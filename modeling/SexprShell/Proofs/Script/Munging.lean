import Mathlib.Data.List.Basic
import SexprShell.Proofs.Script.Lasting

/-!
# Names in passes

A name is munged in one pass over its characters. Replacing one kind of character after the other
gives the same, because no text that is put in holds a character that a later pass replaces
(`toList_replacedInTurn`, `munged_passes`).
-/

namespace SexprShell.Script

open String.Slice String.Slice.Pattern

/-- Replace characters by texts, one kind after the other. Each pass also reads what the passes
before it have put in. -/
def replacedInTurn (table : List (Char × String)) (s : String) : String :=
  table.foldl (fun t p => t.replace (String.singleton p.1) p.2) s

/-- What a table has for a character, and the character itself if it has nothing. -/
def spelledBy (table : List (Char × String)) (c : Char) : List Char :=
  match table.lookup c with
  | some t => t.toList
  | none => [c]

/-- How the characters that a variable's name cannot hold are spelled. -/
def spellings : List (Char × String) := [('-', "__"), ('.', "_DOT_"), ('/', "_SLASH_")]

theorem flatMap_spelledBy_of_notMem {table : List (Char × String)} {cs : List Char}
    (h : ∀ p ∈ table, p.1 ∉ cs) : cs.flatMap (spelledBy table) = cs := by
  have same : ∀ c ∈ cs, spelledBy table c = [c] := by
    intro c hc
    have unlisted : table.lookup c = none :=
      List.lookup_eq_none_iff.mpr fun p hp => by
        rw [bne_iff_ne]
        rintro rfl
        exact h p hp hc
    rw [spelledBy, unlisted]
  rw [List.flatMap_congr same, List.flatMap_singleton']

/-! ## One pass -/

section

open Model ForwardStringSearcher

variable {c : Char} {r before after : String} {s : String.Slice} {p q : s.Pos}

/-- What a search passes over does not hold the character that it looks for. -/
theorem notMem_of_not_matchesAt {passed : String} (hp : p.Splits before (passed ++ after))
    (hq : q.Splits (before ++ passed) after)
    (h : ∀ x, p ≤ x → x < q → ¬ MatchesAt (String.singleton c) x) : c ∉ passed.toList := by
  intro hc
  obtain ⟨cs, ds, hpassed⟩ := List.append_of_mem hc
  obtain rfl : passed = String.ofList cs ++ (String.singleton c ++ String.ofList ds) :=
    String.toList_inj.mp (by simp [hpassed])
  rw [String.append_assoc, String.append_assoc] at hp
  -- the place behind the characters in front of the first `c`
  have hx := hp.splits_rotateRight
  have behind : p ≤ hp.rotateRight := (hp.le_iff_exists_eq_append hx).mpr ⟨_, rfl, rfl⟩
  have ahead : hp.rotateRight < q := (hx.lt_iff_exists_eq_append hq).mpr
    ⟨String.singleton c ++ String.ofList ds, by simp, by simp only [String.append_assoc],
      by rw [String.append_assoc]⟩
  exact h _ behind ahead (matchesAt_iff_splits.mpr ⟨_, _, hx⟩)

/-- The steps of a search for a character rebuild the text from where the search starts on, with the
replacement where the character was found. -/
theorem foldl_of_isValidSearchFrom {steps : List (SearchStep s)}
    (h : IsValidSearchFrom (String.singleton c) p steps) (cut : p.Splits before after)
    (acc : String) :
    (steps.foldl (fun
      | t, .matched .. => t ++ String.ToSlice.toSlice r
      | t, .rejected p q => t ++ s.slice! p q) acc).toList =
      acc.toList ++ after.toList.flatMap (spelledBy [(c, r)]) := by
  induction h generalizing before after acc with
  | endPos =>
    have nothing : after = "" := (splits_endPos_iff.mp cut).2
    simp [nothing]
  | matched found _ ih =>
    obtain ⟨x, y, hx, hy⟩ := isLongestMatchAt_iff_splits.mp found
    have put : (String.ToSlice.toSlice r).copy = r := String.copy_toSlice
    rw [List.foldl_cons, ih hy, (cut.eq hx).2]
    simp [spelledBy, put]
  | @mismatched steps p q lt unfound _ ih =>
    have le : p ≤ q := Std.le_of_lt lt
    obtain ⟨x, hx, rfl⟩ := (cut.le_iff_exists_eq_append q.splits).mp le
    have hq : q.Splits (before ++ x) (s.sliceFrom q).copy := by
      rw [← hx]
      exact q.splits
    have passed : (s.slice! p q).copy = x := by
      obtain ⟨_, h⟩ := copy_slice_eq_iff_splits.mpr ⟨_, _, cut, hq⟩
      rw [← slice_eq_slice! (h := le), h]
    have kept : x.toList.flatMap (spelledBy [(c, r)]) = x.toList :=
      flatMap_spelledBy_of_notMem <| List.forall_mem_singleton.mpr <|
        notMem_of_not_matchesAt cut hq unfound
    rw [List.foldl_cons, ih q.splits]
    simp [passed, kept]

end

/-- Replacing a character everywhere is a substitution of that character. -/
theorem toList_replace (c : Char) (r s : String) :
    (s.replace (String.singleton c) r).toList = s.toList.flatMap (spelledBy [(c, r)]) := by
  have lawful := Model.ForwardStringSearcher.lawfulToForwardSearcherModel
    (String.singleton_ne_empty (c := c))
  have search := lawful.isValidSearchFrom_toList s.toSlice
  have start : s.toSlice.startPos.Splits "" s := by simp
  rw [String.replace, String.Slice.replace, ← Std.Iter.foldl_toList]
  exact foldl_of_isValidSearchFrom search start ""

/-! ## Passes in turn -/

/-- Passes act as one substitution if no pass replaces what an earlier one has put in. -/
theorem toList_replacedInTurn : ∀ {table : List (Char × String)} (s : String),
    table.Pairwise (fun p q => q.1 ∉ p.2.toList) →
    (replacedInTurn table s).toList = s.toList.flatMap (spelledBy table)
  | [], s, _ => (flatMap_spelledBy_of_notMem (List.forall_mem_nil _)).symm
  | (c, r) :: table, s, h => by
    obtain ⟨apart, rest⟩ := List.pairwise_cons.mp h
    have step : ∀ x ∈ s.toList,
        (spelledBy [(c, r)] x).flatMap (spelledBy table) = spelledBy ((c, r) :: table) x := by
      intro x _
      by_cases hx : x = c
      · subst hx
        simpa [spelledBy] using flatMap_spelledBy_of_notMem apart
      · have missed : (x == c) = false := by simpa using hx
        simp [spelledBy, List.lookup_cons, missed]
    rw [replacedInTurn, List.foldl_cons]
    calc (replacedInTurn table (s.replace (String.singleton c) r)).toList
      _ = (s.toList.flatMap (spelledBy [(c, r)])).flatMap (spelledBy table) := by
        rw [toList_replacedInTurn _ rest, toList_replace]
      _ = s.toList.flatMap (spelledBy ((c, r) :: table)) := by
        rw [List.flatMap_assoc, List.flatMap_congr step]

/-! ## Munging -/

theorem spelledBy_spellings (c : Char) : spelledBy spellings c = mungedChar c := by
  unfold mungedChar
  split
  · next h => subst h; rfl
  · next hyphen =>
    split
    · next h => subst h; rfl
    · next point =>
      split
      · next h => subst h; rfl
      · next slash =>
        have unlisted := @flatMap_spelledBy_of_notMem spellings [c]
          (by simp [spellings, Ne.symm hyphen, Ne.symm point, Ne.symm slash])
        rwa [List.flatMap_singleton] at unlisted

theorem replacedInTurn_spellings (s : String) : replacedInTurn spellings s = munged s := by
  have apart : spellings.Pairwise (fun p q => q.1 ∉ p.2.toList) := by decide
  rw [← String.toList_inj, toList_replacedInTurn s apart, munged, String.toList_ofList,
    funext spelledBy_spellings]

theorem munged_append (s t : String) : munged (s ++ t) = munged s ++ munged t := by
  simp [munged, String.ofList_append]

theorem munged_of_notMem {s : String} (h : ∀ p ∈ spellings, p.1 ∉ s.toList) : munged s = s := by
  rw [← replacedInTurn_spellings, ← String.toList_inj]
  exact (toList_replacedInTurn s (by decide)).trans (flatMap_spelledBy_of_notMem h)

/-- Three passes over a text, for hyphens, for points and for slashes, are one substitution of
characters. So a text may be munged in pieces, munging it again changes nothing, and none of the
three characters is left. -/
theorem munged_passes :
    (∀ s : String, ((s.replace "-" "__").replace "." "_DOT_").replace "/" "_SLASH_" = munged s ∧
      (munged s).toList = s.toList.flatMap mungedChar) ∧
    (∀ s t, munged (s ++ t) = munged s ++ munged t) ∧
    (∀ s, munged (munged s) = munged s) ∧
    ∀ s, ∀ c ∈ ['-', '.', '/'], c ∉ (munged s).toList := by
  refine ⟨fun s => ⟨replacedInTurn_spellings s, String.toList_ofList⟩, munged_append, fun s => ?_,
    fun s c hc => notMem_munged hc s⟩
  refine munged_of_notMem fun p hp => notMem_munged ?_ s
  exact List.mem_map_of_mem (f := Prod.fst) hp

end SexprShell.Script
