import Mathlib.Data.List.TakeWhile
import SexprShell.Source.Terminal

/-!
# The languages of the terminals

What each terminal matches, said without a scanner: `Terminal.Lexeme` is its language. The widths of
`Terminal.width?` are those of the longest lexemes at the start of a text (`width?_eq_some_iff`,
`width?_eq_none_iff`), so that `Terminal.first?` finds the first terminal with a lexeme there, and
its longest one (`first?_eq_some_iff`).
-/

namespace SexprShell.Source

open Text

/-! ## Languages -/

/-- At least one digit, and nothing but digits. -/
def IsDigits (cs : List Char) : Prop := cs ≠ [] ∧ ∀ c ∈ cs, isDigit c

/-- Digits, possibly behind a minus sign. -/
def IsInteger (cs : List Char) : Prop :=
  ∃ sign digits, cs = sign ++ digits ∧ (sign = [] ∨ sign = ['-']) ∧ IsDigits digits

/-- A letter `e`, possibly a sign, and digits. -/
def IsExponent (cs : List Char) : Prop :=
  ∃ mark sign digits, cs = mark :: (sign ++ digits) ∧ (mark = 'e' ∨ mark = 'E') ∧
    (sign = [] ∨ sign = ['-'] ∨ sign = ['+']) ∧ IsDigits digits

/-- What can stand between the quotes of a text: characters other than quotes and backslashes, and
pairs of a backslash and any character. -/
inductive IsQuotable : List Char → Prop where
  | nil : IsQuotable []
  | plain {c : Char} {cs : List Char} : c ≠ '"' → c ≠ '\\' → IsQuotable cs → IsQuotable (c :: cs)
  | escape {c : Char} {cs : List Char} : IsQuotable cs → IsQuotable ('\\' :: c :: cs)

namespace Terminal

/-- The language of a terminal. -/
def Lexeme : Terminal → List Char → Prop
  | ratio, l => ∃ n d, l = n ++ '/' :: d ∧ IsInteger n ∧ IsDigits d
  | float, l => ∃ n d e, l = n ++ '.' :: (d ++ e) ∧ IsInteger n ∧ IsDigits d ∧
      (e = [] ∨ IsExponent e)
  | int, l => IsInteger l
  | keyword, l => ∃ w, l = ':' :: w ∧ w ≠ [] ∧ ∀ c ∈ w, isKeywordChar c
  | text, l => ∃ b, l = '"' :: (b ++ ['"']) ∧ IsQuotable b
  | symbol, l => ∃ c w, l = c :: w ∧ isSymbolStart c ∧ ∀ c ∈ w, isWordChar c
  | opening b, l => l = [b.opening]
  | closing b, l => l = [b.closing]
  | deref, l => l = ['@']
  | comment, l => ∃ w, l = ';' :: w ∧ ∀ c ∈ w, c ≠ '\n'
  | gap, l => l ≠ [] ∧ ∀ c ∈ l, isGap c

/-- The lexeme at the start of a text than which no other one there is longer. -/
structure Longest (t : Terminal) (l cs : List Char) : Prop where
  isPrefix : l <+: cs
  lexeme : t.Lexeme l
  length_le : ∀ {l'}, l' <+: cs → t.Lexeme l' → l'.length ≤ l.length

/-- The longest lexeme of the first terminal that has one at the start of a text. -/
structure First (t : Terminal) (l cs : List Char) : Prop where
  longest : t.Longest l cs
  first : ∃ earlier later, all = earlier ++ t :: later ∧
    ∀ u ∈ earlier, ∀ l', l' <+: cs → ¬ u.Lexeme l'

end Terminal

/-! ## Runs -/

section
variable {p : Char → Bool} {c : Char} {l cs rest : List Char}

theorem runWidth_append (h : ∀ c ∈ l, p c) :
    runWidth p (l ++ rest) = l.length + runWidth p rest := by
  simp [runWidth, List.takeWhile_append_of_pos h]

theorem runWidth_stop (h : ∀ c, rest.head? = some c → p c = false) : runWidth p rest = 0 := by
  cases rest with
  | nil => rfl
  | cons c cs => simp [runWidth, h c rfl]

theorem runWidth?_eq_some {n : Nat} :
    runWidth? p cs = some n ↔ n = runWidth p cs ∧ n ≠ 0 := by
  unfold runWidth?
  cases runWidth p cs <;> simp [eq_comm]
  omega

theorem runWidth?_append (h : ∀ c ∈ l, p c) (hl : l ≠ []) :
    runWidth? p (l ++ rest) = some (l.length + runWidth p rest) := by
  have := List.length_pos_iff.mpr hl
  exact runWidth?_eq_some.mpr ⟨(runWidth_append h).symm, by omega⟩

theorem runWidth?_stop (h : ∀ c, rest.head? = some c → p c = false) :
    runWidth? p rest = none := by
  simp [runWidth?, runWidth_stop h]

/-- What a run covers, and that there is something. -/
theorem runWidth?_sound {n : Nat} (h : runWidth? p cs = some n) :
    ∃ l rest, cs = l ++ rest ∧ n = l.length ∧ l ≠ [] ∧ ∀ c ∈ l, p c := by
  obtain ⟨rfl, hn⟩ := runWidth?_eq_some.mp h
  refine ⟨cs.takeWhile p, cs.dropWhile p, List.takeWhile_append_dropWhile.symm, rfl, ?_,
    fun _ => List.mem_takeWhile_imp⟩
  intro h0
  simp [runWidth, h0] at hn

end

/-! ## Numbers -/

theorem isDigit_minus : isDigit '-' = false := by decide

theorem isDigit_slash : isDigit '/' = false := by decide

theorem isDigit_point : isDigit '.' = false := by decide

section
variable {l n d e rest cs : List Char}

theorem intWidth?_digits (h : cs.head? ≠ some '-') : intWidth? cs = runWidth? isDigit cs := by
  unfold intWidth?
  split
  · simp at h
  · rfl

/-- An integer goes on as long as digits follow it. -/
theorem intWidth?_append (h : IsInteger l) :
    intWidth? (l ++ rest) = some (l.length + runWidth isDigit rest) := by
  obtain ⟨sign, digits, rfl, rfl | rfl, hd, hall⟩ := h
  · rw [intWidth?_digits]
    · exact runWidth?_append hall hd
    · cases digits with
      | nil => exact absurd rfl hd
      | cons c cs =>
        have hc := hall c (by simp)
        rintro h
        cases h
        rw [isDigit_minus] at hc
        cases hc
  · simp [intWidth?, runWidth?_append hall hd]
    omega

theorem intWidth?_sound {w : Nat} (h : intWidth? cs = some w) :
    ∃ l rest, cs = l ++ rest ∧ w = l.length ∧ IsInteger l := by
  unfold intWidth? at h
  split at h
  · obtain ⟨v, hv, rfl⟩ := Option.map_eq_some_iff.mp h
    obtain ⟨l, rest, rfl, rfl, hl, hall⟩ := runWidth?_sound hv
    exact ⟨'-' :: l, rest, rfl, rfl, ['-'], l, rfl, .inr rfl, hl, hall⟩
  · obtain ⟨l, rest, rfl, rfl, hl, hall⟩ := runWidth?_sound h
    exact ⟨l, rest, rfl, rfl, [], l, rfl, .inl rfl, hl, hall⟩

/-- Two numbers around a separator go on as long as digits follow the second. -/
theorem pairWidth?_append {separator : Char} (hs : isDigit separator = false) (hn : IsInteger n)
    (hd : IsDigits d) : pairWidth? separator (n ++ separator :: (d ++ rest)) =
      some (n.length + 1 + (d.length + runWidth isDigit rest)) := by
  have stop : runWidth isDigit (separator :: (d ++ rest)) = 0 :=
    runWidth_stop fun c hc => by cases hc; exact hs
  simp [pairWidth?, intWidth?_append hn, stop, runWidth?_append hd.2 hd.1]

/-- An integer without the separator behind it is no pair. -/
theorem pairWidth?_integer {separator : Char} (h : IsInteger l)
    (hr : ∀ c, rest.head? = some c → isDigit c = false ∧ c ≠ separator) :
    pairWidth? separator (l ++ rest) = none := by
  have stop : runWidth isDigit rest = 0 := runWidth_stop fun c hc => (hr c hc).1
  unfold pairWidth?
  simp only [intWidth?_append h, stop, Nat.add_zero, List.drop_left]
  cases rest with
  | nil => rfl
  | cons c cs => simp [(hr c rfl).2]

theorem pairWidth?_sound {separator : Char} {w : Nat} (h : pairWidth? separator cs = some w) :
    ∃ n d rest, cs = n ++ separator :: (d ++ rest) ∧ w = n.length + 1 + d.length ∧
      IsInteger n ∧ IsDigits d := by
  unfold pairWidth? at h
  split at h
  · cases h
  · next v hv =>
    obtain ⟨n, tail, rfl, rfl, hn⟩ := intWidth?_sound hv
    rw [List.drop_left] at h
    split at h
    · next c tail =>
      split at h
      · next hc =>
        obtain ⟨u, hu, rfl⟩ := Option.map_eq_some_iff.mp h
        obtain ⟨d, rest, rfl, rfl, hd, hall⟩ := runWidth?_sound hu
        exact ⟨n, d, rest, by rw [hc], rfl, hn, hd, hall⟩
      · cases h
    · cases h

/-- An exponent goes on as long as digits follow it. -/
theorem exponentWidth_append (h : IsExponent e) :
    exponentWidth (e ++ rest) = e.length + runWidth isDigit rest := by
  obtain ⟨mark, sign, digits, rfl, hm, hs, hd, hall⟩ := h
  have run : runWidth? isDigit (digits ++ rest) = _ := runWidth?_append hall hd
  rcases hs with rfl | rfl | rfl
  · cases digits with
    | nil => exact absurd rfl hd
    | cons c cs =>
      have hc := hall c (by simp)
      have h1 : ¬ (c = '-' ∨ c = '+') := by
        rintro (rfl | rfl) <;> revert hc <;> decide
      simp only [List.cons_append] at run
      simp only [exponentWidth, List.cons_append, List.nil_append, if_pos hm, if_neg h1, run]
      simp
      omega
  · simp [exponentWidth, hm, run]
    omega
  · simp [exponentWidth, hm, run]
    omega

theorem exponentWidth_sound (cs : List Char) :
    ∃ e rest, cs = e ++ rest ∧ exponentWidth cs = e.length ∧ (e = [] ∨ IsExponent e) := by
  have none : ∃ e rest, cs = e ++ rest ∧ 0 = e.length ∧ (e = [] ∨ IsExponent e) :=
    ⟨[], cs, rfl, rfl, .inl rfl⟩
  unfold exponentWidth
  split
  · next mark rest =>
    split
    · next hm =>
      split
      · next s digits =>
        split
        · next hs =>
          cases hr : runWidth? isDigit digits with
          | none => exact none
          | some w =>
            obtain ⟨ds, rest, rfl, rfl, hd, hall⟩ := runWidth?_sound hr
            exact ⟨mark :: s :: ds, rest, rfl, rfl, .inr ⟨mark, [s], ds, rfl, hm,
              by rcases hs with rfl | rfl <;> simp, hd, hall⟩⟩
        · cases hr : runWidth? isDigit (s :: digits) with
          | none => exact none
          | some w =>
            obtain ⟨ds, rest, heq, rfl, hd, hall⟩ := runWidth?_sound hr
            exact ⟨mark :: ds, rest, by rw [heq]; rfl, rfl, .inr ⟨mark, [], ds, rfl, hm, .inl rfl,
              hd, hall⟩⟩
      · exact none
    · exact none
  · exact none

end

/-! ## Texts -/

theorem closingWidth?_append {b : List Char} (h : IsQuotable b) (rest : List Char) :
    closingWidth? (b ++ '"' :: rest) = some (b.length + 1) := by
  induction h with
  | nil => rfl
  | @plain c cs hq hb _ ih =>
    rw [List.cons_append, closingWidth?.eq_4 _ _ hq (by simp [hb]) (by simp [hb]), ih]
    rfl
  | escape _ ih => simp [closingWidth?, ih]

theorem closingWidth?_sound : ∀ {cs : List Char} {w : Nat}, closingWidth? cs = some w →
    ∃ b rest, cs = b ++ '"' :: rest ∧ w = b.length + 1 ∧ IsQuotable b := by
  intro cs
  induction cs using closingWidth?.induct with
  | case1 rest =>
    intro w h
    cases h
    exact ⟨[], rest, rfl, rfl, .nil⟩
  | case2 c cs ih =>
    intro w h
    obtain ⟨v, hv, rfl⟩ := Option.map_eq_some_iff.mp h
    obtain ⟨b, rest, rfl, rfl, hb⟩ := ih hv
    exact ⟨'\\' :: c :: b, rest, rfl, rfl, hb.escape⟩
  | case3 => intro w h; cases h
  | case4 c cs hq h2 h3 ih =>
    intro w h
    have hb : c ≠ '\\' := by
      rintro rfl
      cases cs with
      | nil => exact h3 rfl rfl
      | cons d ds => exact h2 d ds rfl rfl
    rw [closingWidth?.eq_4 _ _ hq h2 h3] at h
    obtain ⟨v, hv, rfl⟩ := Option.map_eq_some_iff.mp h
    obtain ⟨b, rest, rfl, rfl, hb'⟩ := ih hv
    exact ⟨c :: b, rest, rfl, rfl, hb'.plain hq hb⟩
  | case5 => intro w h; cases h

/-! ## Widths and lexemes -/

namespace Terminal

variable {t : Terminal} {l cs : List Char} {n : Nat}

/-- A terminal takes at least what any lexeme at the start of a text has. -/
theorem width?_append : ∀ {t : Terminal} {l : List Char}, t.Lexeme l → ∀ rest,
    ∃ n, t.width? (l ++ rest) = some n ∧ l.length ≤ n
  | ratio, _, ⟨n, d, rfl, hn, hd⟩, rest => by
    have : pairWidth? '/' (n ++ '/' :: (d ++ rest)) = _ := pairWidth?_append isDigit_slash hn hd
    exact ⟨_, by simpa [width?] using this, by simp; omega⟩
  | float, _, ⟨n, d, e, rfl, hn, hd, he⟩, rest => by
    have pair : pairWidth? '.' (n ++ '.' :: (d ++ (e ++ rest))) = _ :=
      pairWidth?_append isDigit_point hn hd
    rcases he with rfl | he
    · refine ⟨_, by simp only [width?]; simpa using ⟨_, pair, rfl⟩, ?_⟩
      simp; omega
    · have stop : runWidth isDigit (e ++ rest) = 0 := by
        obtain ⟨mark, _, _, rfl, hm, _⟩ := he
        refine runWidth_stop fun c hc => ?_
        cases hc
        rcases hm with rfl | rfl <;> decide
      have drop : (n ++ '.' :: (d ++ (e ++ rest))).drop (n.length + 1 + d.length) = e ++ rest := by
        rw [show n ++ '.' :: (d ++ (e ++ rest)) = (n ++ '.' :: d) ++ (e ++ rest) by simp]
        exact List.drop_left' (by simp; omega)
      rw [stop, Nat.add_zero] at pair
      refine ⟨n.length + 1 + d.length + (e.length + runWidth isDigit rest), ?_, by simp; omega⟩
      simp [width?, pair, drop, exponentWidth_append he]
  | int, _, h, rest => ⟨_, intWidth?_append h, by omega⟩
  | keyword, _, ⟨w, rfl, hw, hall⟩, rest => by
    simp [width?, runWidth?_append hall hw]
  | text, _, ⟨b, rfl, hb⟩, rest => by
    simp [width?, closingWidth?_append hb]
  | symbol, _, ⟨c, w, rfl, hc, hall⟩, rest => by
    simp [width?, hc, runWidth_append hall]
    omega
  | opening b, _, rfl, rest | closing b, _, rfl, rest => by simp [width?]
  | deref, _, rfl, rest => by simp [width?]
  | comment, _, ⟨w, rfl, hall⟩, rest => by
    have hall : ∀ c ∈ w, (c != '\n') = true := fun c hc => by simpa using hall c hc
    simp [width?, runWidth_append hall]
    omega
  | gap, _, ⟨hl, hall⟩, rest => ⟨_, runWidth?_append hall hl, by omega⟩

/-- What a terminal takes is a lexeme. -/
theorem width?_sound : ∀ {t : Terminal} {cs : List Char} {n : Nat}, t.width? cs = some n →
    ∃ l rest, cs = l ++ rest ∧ n = l.length ∧ t.Lexeme l
  | ratio, cs, n, h => by
    obtain ⟨a, d, rest, rfl, rfl, ha, hd⟩ := pairWidth?_sound h
    exact ⟨a ++ '/' :: d, rest, by simp, by simp; omega, a, d, rfl, ha, hd⟩
  | float, cs, n, h => by
    obtain ⟨v, hv, rfl⟩ := Option.map_eq_some_iff.mp h
    obtain ⟨a, d, rest, rfl, rfl, ha, hd⟩ := pairWidth?_sound hv
    have drop : (a ++ '.' :: (d ++ rest)).drop (a.length + 1 + d.length) = rest := by
      rw [show a ++ '.' :: (d ++ rest) = (a ++ '.' :: d) ++ rest by simp]
      exact List.drop_left' (by simp; omega)
    obtain ⟨e, rest', hrest, he, hexp⟩ := exponentWidth_sound rest
    rw [drop, he]
    exact ⟨a ++ '.' :: (d ++ e), rest', by simp [hrest], by simp; omega, a, d, e, rfl, ha, hd, hexp⟩
  | int, cs, n, h => intWidth?_sound h
  | keyword, [], _, h | text, [], _, h | symbol, [], _, h | opening _, [], _, h
  | closing _, [], _, h | deref, [], _, h | comment, [], _, h => by cases h
  | keyword, c :: cs, n, h => by
    by_cases hc : c = ':'
    · subst hc
      obtain ⟨v, hv, rfl⟩ := Option.map_eq_some_iff.mp h
      obtain ⟨w, rest, rfl, rfl, hw, hall⟩ := runWidth?_sound hv
      exact ⟨':' :: w, rest, rfl, rfl, w, rfl, hw, hall⟩
    · simp [width?, hc] at h
  | text, c :: cs, n, h => by
    by_cases hc : c = '"'
    · subst hc
      obtain ⟨v, hv, rfl⟩ := Option.map_eq_some_iff.mp h
      obtain ⟨b, rest, rfl, rfl, hb⟩ := closingWidth?_sound hv
      exact ⟨'"' :: (b ++ ['"']), rest, by simp, by simp, b, rfl, hb⟩
    · simp [width?, hc] at h
  | symbol, c :: cs, n, h => by
    by_cases hc : isSymbolStart c
    · simp only [width?, if_pos hc, Option.some.injEq] at h
      subst h
      exact ⟨c :: cs.takeWhile isWordChar, cs.dropWhile isWordChar,
        by simp [List.takeWhile_append_dropWhile], by simp [runWidth]; omega, c, _, rfl, hc,
        fun _ => List.mem_takeWhile_imp⟩
    · simp [width?, hc] at h
  | opening b, c :: cs, n, h | closing b, c :: cs, n, h => by
    simp only [width?, Option.ite_none_right_eq_some, Option.some.injEq] at h
    obtain ⟨rfl, rfl⟩ := h
    exact ⟨[_], cs, rfl, rfl, rfl⟩
  | deref, c :: cs, n, h => by
    by_cases hc : c = '@'
    · subst hc
      cases h
      exact ⟨['@'], cs, rfl, rfl, rfl⟩
    · simp [width?, hc] at h
  | comment, c :: cs, n, h => by
    by_cases hc : c = ';'
    · subst hc
      cases h
      refine ⟨';' :: cs.takeWhile (· != '\n'), cs.dropWhile (· != '\n'),
        by simp [List.takeWhile_append_dropWhile], by simp [runWidth]; omega, _, rfl, ?_⟩
      intro c hc
      simpa using List.mem_takeWhile_imp hc
    · simp [width?, hc] at h
  | gap, cs, n, h => runWidth?_sound h

theorem width?_eq_some_iff :
    t.width? cs = some n ↔ ∃ l, t.Longest l cs ∧ n = l.length := by
  constructor
  · intro h
    obtain ⟨l, rest, rfl, rfl, hl⟩ := width?_sound h
    refine ⟨l, ⟨List.prefix_append .., hl, fun {l'} hp hl' => ?_⟩, rfl⟩
    obtain ⟨rest', hr⟩ := hp
    obtain ⟨n, hn, hle⟩ := width?_append hl' rest'
    rw [hr, h] at hn
    cases hn
    exact hle
  · rintro ⟨l, ⟨⟨rest, rfl⟩, hl, hmax⟩, rfl⟩
    obtain ⟨n, hn, hle⟩ := width?_append hl rest
    obtain ⟨l', rest', heq, rfl, hl'⟩ := width?_sound hn
    have := hmax ⟨rest', heq.symm⟩ hl'
    rw [hn]
    congr 1
    omega

theorem width?_eq_none_iff : t.width? cs = none ↔ ∀ l, l <+: cs → ¬ t.Lexeme l := by
  constructor
  · rintro h l ⟨rest, rfl⟩ hl
    obtain ⟨n, hn, _⟩ := width?_append hl rest
    rw [h] at hn
    cases hn
  · intro h
    cases hw : t.width? cs with
    | none => rfl
    | some n =>
      obtain ⟨l, rest, rfl, _, hl⟩ := width?_sound hw
      exact absurd hl (h l (List.prefix_append ..))

theorem first?_eq_some_iff :
    first? cs = some (t, n) ↔ ∃ l, t.First l cs ∧ n = l.length := by
  simp only [first?, List.findSome?_eq_some_iff, Option.map_eq_some_iff, Option.map_eq_none_iff,
    Prod.mk.injEq]
  constructor
  · rintro ⟨earlier, _, later, hall, ⟨_, hw, rfl, rfl⟩, hnone⟩
    obtain ⟨l, hl, rfl⟩ := width?_eq_some_iff.mp hw
    exact ⟨l, ⟨hl, earlier, later, hall, fun u hu => width?_eq_none_iff.mp (hnone u hu)⟩, rfl⟩
  · rintro ⟨l, ⟨hl, earlier, later, hall, hnone⟩, rfl⟩
    exact ⟨earlier, t, later, hall, ⟨_, width?_eq_some_iff.mpr ⟨l, hl, rfl⟩, rfl, rfl⟩,
      fun u hu => width?_eq_none_iff.mpr (hnone u hu)⟩

/-- No lexeme is empty. -/
theorem Lexeme.ne_nil : ∀ {t : Terminal} {l : List Char}, t.Lexeme l → l ≠ []
  | ratio, _, ⟨_, _, rfl, _⟩ | float, _, ⟨_, _, _, rfl, _⟩ => by simp
  | int, _, ⟨_, _, rfl, _, hd, _⟩ => by simp [hd]
  | keyword, _, ⟨_, rfl, _⟩ | text, _, ⟨_, rfl, _⟩ | symbol, _, ⟨_, _, rfl, _⟩
  | comment, _, ⟨_, rfl, _⟩ => by simp
  | opening _, _, rfl | closing _, _, rfl | deref, _, rfl => by simp
  | gap, _, h => h.1

end Terminal

end SexprShell.Source
