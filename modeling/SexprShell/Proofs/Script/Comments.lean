import Mathlib.Data.List.DropRight
import SexprShell.Proofs.Script.Plain

/-!
# Comments at the ends of lines

Texts in which a comment that names a file is followed by further such comments or by a line feed,
never by code (`Commented`). A character of the file's name that occurs nowhere else tells comments
from code. Such texts can be joined, trimmed and made statements of; what their lines look like is
said by `Commented.lines`.
-/

namespace SexprShell.Script

open Text

/-- The comment for a line of a file. -/
def citation (file : String) (n : Nat) : List Char :=
  '#' :: ' ' :: file.toList ++ ':' :: Nat.toDigits 10 n

/-- A file whose name holds a character that is not ASCII, and stays the same as part of the name of
a variable. -/
structure Telltale (file : String) (c : Char) : Prop where
  mem : c ∈ file.toList
  not_ascii : 128 ≤ c.toNat
  kept : ∀ x ∈ file.toList, x ≠ '\n' ∧ x ≠ '-' ∧ x ≠ '.' ∧ x ≠ '/'

/-- A run of characters in which nothing but further comments and line feeds follow a comment, from
a place where its line may hold a comment already, or may not, to such a place. Outside comments the
character `c` does not occur. -/
inductive Commented (file : String) (c : Char) : Bool → List Char → Bool → Prop where
  | nil {p q : Bool} : (p = true → q = true) → Commented file c p [] q
  | code {x : Char} {cs : List Char} {q : Bool} : x ≠ c → x ≠ '\n' → Commented file c false cs q →
      Commented file c false (x :: cs) q
  | newline {p q : Bool} {cs : List Char} : Commented file c false cs q →
      Commented file c p ('\n' :: cs) q
  | comment (n : Nat) {cs : List Char} {q : Bool} : Commented file c true cs q →
      Commented file c false (citation file n ++ cs) q
  | further (n : Nat) {cs : List Char} {q : Bool} : Commented file c true cs q →
      Commented file c true (' ' :: citation file n ++ cs) q

variable {file : String} {c x : Char} {cs ds : List Char} {p q r : Bool} {n : Nat}

/-- What a comment is made of, apart from the blank in front of it. -/
theorem of_mem_citation (h : x ∈ citation file n) :
    x ∈ file.toList ∨ x = '#' ∨ x = ' ' ∨ x = ':' ∨ x.isDigit := by
  simp only [citation, List.cons_append, List.mem_cons, List.mem_append] at h
  rcases h with h | h | h | h | h
  · exact .inr (.inl h)
  · exact .inr (.inr (.inl h))
  · exact .inl h
  · exact .inr (.inr (.inr (.inl h)))
  · exact .inr (.inr (.inr (.inr (Source.isDigit_of_mem_toDigits h))))

/-- A comment ends with a digit. -/
theorem citation_eq_concat (file : String) (n : Nat) :
    ∃ init d, citation file n = init ++ [d] ∧ d.isDigit := by
  obtain ⟨ds, d, hd⟩ := (Nat.toDigits 10 n).eq_nil_or_concat.resolve_left Nat.toDigits_ne_nil
  rw [List.concat_eq_append] at hd
  exact ⟨'#' :: ' ' :: file.toList ++ ':' :: ds, d, by simp [citation, hd],
    Source.isDigit_of_mem_toDigits (n := n) (by simp [hd])⟩

namespace Telltale

variable (hc : Telltale file c)
include hc

theorem ne_ascii (hx : x.toNat < 128) : x ≠ c := by
  rintro rfl
  have := hc.not_ascii
  omega

theorem ne (x : Char) (hx : x.toNat < 128) : c ≠ x := (hc.ne_ascii hx).symm

theorem notMem_of_plain {s : String} (h : Plain s) : c ∉ s.toList := fun hs =>
  hc.ne_ascii (ascii_of_isPlain (h c hs)) rfl

theorem citation_kept (h : x ∈ citation file n) : x ≠ '\n' ∧ x ≠ '-' ∧ x ≠ '.' ∧ x ≠ '/' := by
  rcases of_mem_citation h with h | rfl | rfl | rfl | h
  · exact hc.kept x h
  · decide
  · decide
  · decide
  · refine ⟨?_, ?_, ?_, ?_⟩ <;> (rintro rfl; cases h)

theorem munged_citation : (citation file n).flatMap mungedChar = citation file n := by
  have same : ∀ x ∈ citation file n, mungedChar x = [x] := by
    intro x hx
    obtain ⟨_, hhyphen, hdot, hslash⟩ := hc.citation_kept hx
    simp [mungedChar, hhyphen, hdot, hslash]
  rw [List.flatMap_congr same, List.flatMap_singleton']

end Telltale

/-! ## Joining -/

namespace Commented

theorem to_true (h : Commented file c p cs q) : Commented file c p cs true := by
  induction h with
  | nil => exact .nil fun _ => rfl
  | code hx hn _ ih => exact .code hx hn ih
  | newline _ ih => exact .newline ih
  | comment n _ ih => exact .comment n ih
  | further n _ ih => exact .further n ih

/-- A run that can stand behind a comment can stand elsewhere, too. -/
theorem of_true (hc : Telltale file c) (h : Commented file c true cs q) :
    Commented file c p cs q := by
  cases p with
  | true => exact h
  | false =>
    cases h with
    | nil => exact .nil nofun
    | newline h => exact .newline h
    | further n h => exact .code (hc.ne_ascii (by decide)) (by decide) (.comment n h)

theorem append (hc : Telltale file c) (h : Commented file c p cs q)
    (h' : Commented file c q ds r) : Commented file c p (cs ++ ds) r := by
  induction h with
  | @nil p q hpq =>
    cases q with
    | true => exact h'.of_true hc
    | false =>
      cases p with
      | true => exact absurd (hpq rfl) (by decide)
      | false => exact h'
  | code hx hn _ ih => exact .code hx hn (ih h')
  | newline _ ih => exact .newline (ih h')
  | comment n _ ih =>
    rw [List.append_assoc]
    exact .comment n (ih h')
  | further n _ ih =>
    rw [List.append_assoc]
    exact .further n (ih h')

theorem of_notMem (h : c ∉ cs) : Commented file c false cs false := by
  induction cs with
  | nil => exact .nil id
  | cons x cs ih =>
    rw [List.mem_cons, not_or] at h
    by_cases hn : x = '\n'
    · subst hn
      exact .newline (ih h.2)
    · exact .code (Ne.symm h.1) hn (ih h.2)

theorem newline_end (hc : Telltale file c) (h : Commented file c p cs q) :
    Commented file c p (cs ++ ['\n']) false :=
  h.append hc (.newline (.nil id))

/-- A comment behind any run, with a blank in front. -/
theorem cite (hc : Telltale file c) (n : Nat) (h : Commented file c p cs true) :
    Commented file c p (cs ++ ' ' :: citation file n) true := by
  have comment : Commented file c true (' ' :: citation file n ++ []) true := .further n (.nil id)
  rw [List.append_nil] at comment
  exact h.append hc comment

/-! ## Changes -/

/-- As part of a variable's name, a comment stays what it is. -/
theorem munged (hc : Telltale file c) (h : Commented file c p cs q) :
    Commented file c p (cs.flatMap mungedChar) q := by
  induction h with
  | nil h => exact .nil h
  | @code x cs q hx hn _ ih =>
    rw [List.flatMap_cons]
    refine append hc (of_notMem ?_) ih
    have ascii : ∀ s : String, Plain s → c ∉ s.toList := fun s => hc.notMem_of_plain
    unfold mungedChar
    split
    · exact ascii "__" (by decide)
    · split
      · exact ascii "_DOT_" (by decide)
      · split
        · exact ascii "_SLASH_" (by decide)
        · simpa using Ne.symm hx
  | newline _ ih => exact .newline ih
  | comment n _ ih =>
    rw [List.flatMap_append, hc.munged_citation]
    exact .comment n ih
  | further n _ ih =>
    have blank : mungedChar ' ' = [' '] := rfl
    rw [List.cons_append, List.flatMap_cons, List.flatMap_append, hc.munged_citation, blank]
    exact .further n ih

/-- No comment starts with a blank, so that none is lost with the blanks in front. -/
theorem dropWhile_blank (h : Commented file c false cs q) :
    Commented file c false (cs.dropWhile isBlank) q := by
  induction cs with
  | nil => exact h
  | cons x cs ih =>
    rw [List.dropWhile_cons]
    split
    · next hx =>
      apply ih
      generalize hl : x :: cs = l at h
      cases h with
      | nil => cases hl
      | code _ _ h => cases hl; exact h
      | newline h => cases hl; exact h
      | comment n h =>
        cases hl
        exact absurd hx (by decide)
    · exact h

/-- A last blank is no part of a comment. -/
theorem of_concat_blank (hx : isBlank x = true) (h : Commented file c p (cs ++ [x]) q) :
    Commented file c p cs true := by
  -- Behind a comment the blank belongs to the rest, which is shorter.
  have behind : ∀ {before rest ds : List Char} {n : Nat},
      before ++ citation file n ++ rest = ds ++ [x] →
      ∃ rest', rest = rest' ++ [x] ∧ ds = before ++ citation file n ++ rest' := by
    intro before rest ds n h
    rcases rest.eq_nil_or_concat with rfl | ⟨rest', y, rfl⟩
    · obtain ⟨init, d, hd, digit⟩ := citation_eq_concat file n
      rw [List.append_nil, hd, ← List.append_assoc] at h
      obtain ⟨_, hl⟩ := List.append_inj' h rfl
      cases hl
      have blank : isBlank x = false := Source.isBlank_of_isDigit (by
        rw [isDigit, Source.digit?_of_isDigit digit]
        rfl)
      rw [blank] at hx
      cases hx
    · rw [List.concat_eq_append] at h ⊢
      rw [← List.append_assoc] at h
      obtain ⟨hinit, hl⟩ := List.append_inj' h rfl
      cases hl
      exact ⟨rest', rfl, hinit.symm⟩
  generalize hl : cs ++ [x] = l at h
  induction h generalizing cs with
  | nil => simp at hl
  | code hy hn _ ih =>
    cases cs with
    | nil => exact .nil fun _ => rfl
    | cons z cs =>
      cases hl
      exact .code hy hn (ih rfl)
  | newline _ ih =>
    cases cs with
    | nil => exact .nil fun _ => rfl
    | cons z cs =>
      cases hl
      exact .newline (ih rfl)
  | comment n _ ih =>
    obtain ⟨rest', rfl, rfl⟩ := @behind [] _ _ _ hl.symm
    exact .comment n (ih rfl)
  | further n _ ih =>
    obtain ⟨rest', rfl, rfl⟩ := @behind [' '] _ _ _ hl.symm
    exact .further n (ih rfl)

/-- So trailing blanks of any kind can be taken away. -/
theorem rdropWhile {f : Char → Bool} (hf : ∀ x, f x = true → isBlank x = true)
    (h : Commented file c p cs q) : Commented file c p (cs.rdropWhile f) true := by
  induction cs using List.reverseRecOn generalizing q with
  | nil => exact h.to_true
  | append_singleton cs x ih =>
    rw [List.rdropWhile_concat]
    split
    · next hx => exact ih (h.of_concat_blank (hf x hx))
    · exact h.to_true

theorem strip {s : String} (h : Commented file c false s.toList q) :
    Commented file c false (Text.strip s).toList true := by
  rw [toList_strip]
  exact h.dropWhile_blank.rdropWhile fun _ => id

/-! ## Statements and branches -/

/-- A text is closed behind a comment by a line feed. -/
theorem terminated (hc : Telltale file c) {s : String} (h : Commented file c p s.toList q)
    (hs : s.toList.getLast? = some '\n' → q = false) :
    Commented file c p (Script.terminated s).toList false := by
  unfold Script.terminated
  split
  · next hlast => rwa [hs hlast] at h
  · rw [String.toList_append]
    exact h.newline_end hc

theorem asStatement (hc : Telltale file c) {comment s : String}
    (hcomment : comment = "" ∨ ∃ n, comment.toList = ' ' :: citation file n)
    (h : Commented file c false s.toList false) :
    Commented file c false (Script.asStatement comment s).toList false := by
  unfold Script.asStatement
  split
  · exact .nil id
  · split
    · exact h.terminated hc fun _ => rfl
    · next hne =>
      obtain ⟨n, hn⟩ := hcomment.resolve_left hne
      have trimmed : Commented file c false (dropEndWhile (· == '\n') s).toList true := by
        rw [toList_dropEndWhile]
        refine h.rdropWhile fun x hx => ?_
        cases beq_iff_eq.mp hx
        decide
      have cited : Commented file c false (dropEndWhile (· == '\n') s ++ comment).toList true := by
        rw [String.toList_append, hn]
        exact trimmed.cite hc n
      refine cited.terminated hc fun hlast => ?_
      obtain ⟨init, d, hd, digit⟩ := citation_eq_concat file n
      rw [String.toList_append, hn, hd, ← List.cons_append, ← List.append_assoc,
        List.getLast?_concat] at hlast
      cases hlast
      cases digit

theorem asBranch (hc : Telltale file c) {s : String} (block : Bool)
    (h : Commented file c false s.toList false) :
    Commented file c false (Script.asBranch block s).toList false := by
  unfold Script.asBranch
  split
  · simp only [String.toList_append]
    exact append hc (append hc (.newline (.nil id)) h.strip) (.newline (.nil id))
  · have blank : c ∉ " ".toList := hc.notMem_of_plain (by decide)
    have semicolon : c ∉ ";".toList := hc.notMem_of_plain (by decide)
    simp only [String.toList_append]
    exact append hc (append hc (of_notMem blank) h) (of_notMem semicolon)

/-! ## Lines -/

/-- Comments one after another, with blanks in front. -/
def trail (file : String) (ns : List Nat) : List Char := ns.flatMap fun n => ' ' :: citation file n

/-- A line on which the character shows only in comments, and nothing follows them. -/
def Clean (file : String) (c : Char) (line : List Char) : Prop :=
  c ∉ line ∨ ∃ code n ns, c ∉ code ∧ line = code ++ citation file n ++ trail file ns

theorem splitOn_append_of_notMem (h : '\n' ∉ ds) :
    (ds ++ cs).splitOn '\n' = (cs.splitOn '\n').modifyHead (ds ++ ·) := by
  induction ds with
  | nil =>
    rw [List.nil_append]
    cases cs.splitOn '\n' <;> rfl
  | cons x ds ih =>
    rw [List.mem_cons, not_or] at h
    rw [List.cons_append, List.splitOn_cons_eq_if_modifyHead, if_neg (by simpa using Ne.symm h.1),
      ih h.2]
    cases cs.splitOn '\n' <;> rfl

theorem Clean.cons {line : List Char} (hx : x ≠ c) (h : Clean file c line) :
    Clean file c (x :: line) := by
  rcases h with h | ⟨code, n, ns, hcode, rfl⟩
  · exact .inl (List.not_mem_cons_of_ne_of_not_mem (Ne.symm hx) h)
  · exact .inr ⟨x :: code, n, ns, List.not_mem_cons_of_ne_of_not_mem (Ne.symm hx) hcode, rfl⟩

/-- All lines are clean, the first one up to what stands in front of it. -/
theorem lines (hc : Telltale file c) (h : Commented file c p cs q) :
    ∃ first rest, cs.splitOn '\n' = first :: rest ∧ (∀ line ∈ rest, Clean file c line) ∧
      if p then ∃ ns, first = trail file ns else Clean file c first := by
  have inline : ∀ n, '\n' ∉ citation file n := fun n h => (hc.citation_kept h).1 rfl
  induction h with
  | @nil p q h =>
    refine ⟨[], [], rfl, List.forall_mem_nil _, ?_⟩
    cases p with
    | true => exact ⟨[], rfl⟩
    | false => exact .inl List.not_mem_nil
  | code hx hn _ ih =>
    obtain ⟨first, rest, hs, hrest, hfirst⟩ := ih
    refine ⟨_ :: first, rest, ?_, hrest, hfirst.cons hx⟩
    rw [List.splitOn_cons_eq_if_modifyHead, if_neg (by simpa using hn), hs]
    rfl
  | @newline p q cs _ ih =>
    obtain ⟨first, rest, hs, hrest, hfirst⟩ := ih
    refine ⟨[], first :: rest, ?_, List.forall_mem_cons.mpr ⟨hfirst, hrest⟩, ?_⟩
    · rw [List.splitOn_cons_eq_if_modifyHead, if_pos (by decide), hs]
    · cases p with
      | true => exact ⟨[], rfl⟩
      | false => exact .inl List.not_mem_nil
  | comment n _ ih =>
    obtain ⟨first, rest, hs, hrest, ns, rfl⟩ := ih
    refine ⟨citation file n ++ trail file ns, rest, ?_, hrest, ?_⟩
    · rw [splitOn_append_of_notMem (inline n), hs]
      rfl
    · exact .inr ⟨[], n, ns, List.not_mem_nil, rfl⟩
  | further n _ ih =>
    obtain ⟨first, rest, hs, hrest, ns, rfl⟩ := ih
    refine ⟨trail file (n :: ns), rest, ?_, hrest, n :: ns, rfl⟩
    rw [splitOn_append_of_notMem, hs]
    · rfl
    · exact List.not_mem_cons_of_ne_of_not_mem (by decide) (inline n)

end Commented

end SexprShell.Script
