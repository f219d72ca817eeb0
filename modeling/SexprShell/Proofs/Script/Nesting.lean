import Mathlib.Algebra.Group.Nat.Even
import SexprShell.Proofs.Script.Plain

/-!
# Nested brackets

Texts whose brackets are nested properly (`WellNested`), and a machine that goes through a text with
a stack of open brackets. A text that leaves every state of the machine as it is is well nested and
has an even number of double quotes (`Nesting.wellNested_of_after`, `Nesting.even_of_after`).
-/

namespace SexprShell.Script

open Source (Bracket)

/-- Every bracket has its partner of the same kind, and what stands between two partners is nested
properly itself. -/
inductive WellNested : List Char → Prop where
  | nil : WellNested []
  | other {c : Char} : (∀ b : Bracket, c ≠ b.opening ∧ c ≠ b.closing) → WellNested [c]
  | append {cs ds : List Char} : WellNested cs → WellNested ds → WellNested (cs ++ ds)
  | enclosed (b : Bracket) {cs : List Char} :
      WellNested cs → WellNested (b.opening :: cs ++ [b.closing])

/-- The brackets that are open, the innermost one first, and whether the number of double quotes so
far is odd. -/
structure Nesting where
  opened : List Bracket
  quoted : Bool

namespace Nesting

def enter (b : Bracket) (n : Nesting) : Nesting := { n with opened := b :: n.opened }

/-- Close the innermost open bracket, which must be of this kind. -/
def leave (b : Bracket) (n : Nesting) : Option Nesting :=
  match n.opened with
  | b' :: bs => if b = b' then some { n with opened := bs } else none
  | [] => none

def quote (n : Nesting) : Nesting := { n with quoted := !n.quoted }

def next (n : Nesting) : Char → Option Nesting
  | '(' => some (n.enter .round)
  | '[' => some (n.enter .square)
  | '{' => some (n.enter .curly)
  | ')' => n.leave .round
  | ']' => n.leave .square
  | '}' => n.leave .curly
  | '"' => some n.quote
  | _ => some n

/-- The state behind a run of characters. -/
def after (n : Nesting) : List Char → Option Nesting
  | [] => some n
  | c :: cs => (n.next c).bind fun m => m.after cs

variable {n m : Nesting} {b : Bracket} {c : Char} {cs ds : List Char} {s : String}

@[simp] theorem leave_enter : (n.enter b).leave b = some n := by
  simp [leave, enter]

@[simp] theorem quote_quote : n.quote.quote = n := by
  simp [quote]

theorem leave_eq_some : n.leave b = some m ↔ n = m.enter b := by
  constructor
  · intro h
    obtain ⟨opened, quoted⟩ := n
    cases opened with
    | nil => cases h
    | cons b' bs =>
      simp only [leave] at h
      split at h
      · next hb =>
        cases h
        rw [enter, hb]
      · cases h
  · rintro rfl
    exact leave_enter

theorem next_eq_of_not_mark (h : isMark c = false) : n.next c = some n := by
  unfold next
  split <;> first | rfl | exact absurd h (by decide)

@[simp] theorem after_nil : n.after [] = some n := rfl

@[simp] theorem after_cons : n.after (c :: cs) = (n.next c).bind fun m => m.after cs := rfl

@[simp] theorem after_append : n.after (cs ++ ds) = (n.after cs).bind fun m => m.after ds := by
  induction cs generalizing n with
  | nil => rfl
  | cons c cs ih =>
    cases h : n.next c with
    | none => simp [h]
    | some m => simp [h, ih]

theorem after_eq_of_not_mark (h : ∀ c ∈ cs, isMark c = false) : n.after cs = some n := by
  induction cs with
  | nil => rfl
  | cons c cs ih =>
    rw [after_cons, next_eq_of_not_mark (h c List.mem_cons_self)]
    exact ih fun d hd => h d (List.mem_cons_of_mem _ hd)

theorem after_plain (h : Plain s) : n.after s.toList = some n :=
  after_eq_of_not_mark fun c hc => not_mark_of_isPlain (h c hc)

/-! ## Inside quotes -/

theorem next_quote (h : n.next c = some m) : n.quote.next c = some m.quote := by
  have left : ∀ {b}, n.leave b = some m → n.quote.leave b = some m.quote := by
    intro b h
    rw [leave_eq_some] at h ⊢
    rw [h]
    rfl
  unfold next at h ⊢
  split at h <;> first | exact left h | (cases h; rfl)

/-- Brackets are counted inside quotes as well. -/
theorem after_quote (h : n.after cs = some m) : n.quote.after cs = some m.quote := by
  induction cs generalizing n with
  | nil => cases h; rfl
  | cons c cs ih =>
    rw [after_cons, Option.bind_eq_some_iff] at h
    obtain ⟨k, hk, h⟩ := h
    rw [after_cons, next_quote hk]
    exact ih h

/-! ## What the machine accepts -/

/-- What closes these brackets one after the other is nested properly in between. -/
inductive Closing : List Bracket → List Char → Prop where
  | done {cs : List Char} : WellNested cs → Closing [] cs
  | leave {b : Bracket} {bs : List Bracket} {cs ds : List Char} :
      WellNested cs → Closing bs ds → Closing (b :: bs) (cs ++ b.closing :: ds)

theorem Closing.append {bs : List Bracket} (hc : WellNested cs) (h : Closing bs ds) :
    Closing bs (cs ++ ds) := by
  cases h with
  | done h => exact .done (.append hc h)
  | leave h hs =>
    rw [← List.append_assoc]
    exact .leave (.append hc h) hs

theorem Closing.enclosed {bs : List Bracket} (h : Closing (b :: bs) cs) :
    Closing bs (b.opening :: cs) := by
  cases h with
  | @leave _ _ inner rest hc hs =>
    have pair : b.opening :: (inner ++ b.closing :: rest) =
        (b.opening :: inner ++ [b.closing]) ++ rest := by simp
    rw [pair]
    exact hs.append (.enclosed b hc)

/-- How the machine takes a character: as a bracket of some kind, or as one that is none. -/
theorem next_cases (h : n.next c = some m) :
    (∃ b : Bracket, c = b.opening ∧ m.opened = b :: n.opened) ∨
    (∃ b : Bracket, c = b.closing ∧ n.opened = b :: m.opened) ∨
    (∀ b : Bracket, c ≠ b.opening ∧ c ≠ b.closing) ∧ m.opened = n.opened := by
  have left : ∀ {b : Bracket}, n.leave b = some m → n.opened = b :: m.opened := by
    intro b h
    rw [leave_eq_some.mp h]
    rfl
  unfold next at h
  split at h
  · cases h; exact .inl ⟨.round, rfl, rfl⟩
  · cases h; exact .inl ⟨.square, rfl, rfl⟩
  · cases h; exact .inl ⟨.curly, rfl, rfl⟩
  · exact .inr (.inl ⟨.round, rfl, left h⟩)
  · exact .inr (.inl ⟨.square, rfl, left h⟩)
  · exact .inr (.inl ⟨.curly, rfl, left h⟩)
  · cases h
    exact .inr (.inr ⟨by rintro (_ | _ | _) <;> decide, rfl⟩)
  · cases h
    refine .inr (.inr ⟨?_, rfl⟩)
    rintro (_ | _ | _) <;> exact ⟨by assumption, by assumption⟩

/-- A text that leaves nothing open closes what was open in front of it. -/
theorem closing_of_after (h : n.after cs = some m) (hm : m.opened = []) : Closing n.opened cs := by
  induction cs generalizing n with
  | nil =>
    cases h
    rw [hm]
    exact .done .nil
  | cons c cs ih =>
    rw [after_cons, Option.bind_eq_some_iff] at h
    obtain ⟨k, hk, h⟩ := h
    have rest := ih h
    rcases next_cases hk with ⟨b, rfl, hb⟩ | ⟨b, rfl, hb⟩ | ⟨hno, hb⟩
    · rw [hb] at rest
      exact rest.enclosed
    · rw [hb]
      exact .leave .nil rest
    · rw [← hb]
      exact rest.append (.other hno)

theorem wellNested_of_after (h : n.after cs = some n) (hn : n.opened = []) : WellNested cs := by
  have closing := closing_of_after h hn
  rw [hn] at closing
  cases closing with
  | done h => exact h

/-- The machine counts double quotes. -/
theorem quoted_of_after (h : n.after cs = some m) :
    m.quoted = (n.quoted ^^ decide (cs.count '"' % 2 = 1)) := by
  induction cs generalizing n with
  | nil =>
    cases h
    simp
  | cons c cs ih =>
    rw [after_cons, Option.bind_eq_some_iff] at h
    obtain ⟨k, hk, h⟩ := h
    rw [ih h]
    by_cases hc : c = '"'
    · subst hc
      cases hk
      rw [List.count_cons_self]
      rcases Nat.mod_two_eq_zero_or_one (cs.count '"') with h2 | h2 <;>
        simp [quote, Nat.add_mod, h2]
    · have same : k.quoted = n.quoted := by
        unfold next at hk
        split at hk <;> first
          | exact absurd rfl hc
          | (cases hk; rfl)
          | (rw [leave_eq_some.mp hk]; rfl)
      rw [same, List.count_cons_of_ne hc]

theorem even_of_after (h : n.after cs = some n) : Even (cs.count '"') := by
  rw [Nat.even_iff]
  have := quoted_of_after h
  rcases Nat.mod_two_eq_zero_or_one (cs.count '"') with h2 | h2
  · exact h2
  · simp [h2] at this

end Nesting

end SexprShell.Script
