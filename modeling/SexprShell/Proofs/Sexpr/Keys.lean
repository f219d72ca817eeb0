import Mathlib.Logic.Basic
import SexprShell.Proofs.Sexpr.Entries

/-!
# Keys of mappings

What keys are told apart by (`same_iff`), and their kinds.
-/

namespace SexprShell.Sexpr

/-! ## What keys are told apart by -/

/-- What is left of a key without locations and the representation of numbers. -/
inductive Identity where
  | nil
  | quantity (q : Quantity)
  | text (s : String)
  | name (kind : NameKind) (spelling : String)
  | foreign (typeName : String)
  | seq (kind : SequenceKind) (items : List Identity)
  | form (items : List Identity)

mutual

/-- What an expression is told apart by; nothing for what holds a mapping, or equals nothing. -/
def identity? : Sexpr → Option Identity
  | nil => some .nil
  | text s => some (.text s)
  | name kind s => some (.name kind s)
  | foreign t => if t = "object" then none else some (.foreign t)
  | seq kind items => (identities? items).map (.seq kind)
  | form items _ => (identities? items).map .form
  | map _ => none
  | bool b => (bool b).quantity?.map .quantity
  | int n => (int n).quantity?.map .quantity
  | ratio q => (ratio q).quantity?.map .quantity
  | float d => (float d).quantity?.map .quantity

def identities? : List Sexpr → Option (List Identity)
  | [] => some []
  | e :: es => e.identity?.bind fun x => (identities? es).map (x :: ·)

end

variable {a b : Sexpr}

theorem identity?_eq_quantity_iff {q : Quantity} :
    a.identity? = some (.quantity q) ↔ a.quantity? = some q := by
  cases a with
  | bool | int | ratio | float => simp [identity?]
  | _ => simp [identity?, quantity?]

/-- Numbers and booleans are equal to what stands for the same quantity. -/
theorem sameQuantity_iff : (match a.quantity?, b.quantity? with
      | some x, some y => x == y
      | _, _ => false) = true ↔ ∃ q, a.quantity? = some q ∧ b.quantity? = some q := by
  cases a.quantity? with
  | none => simp
  | some x =>
    cases b.quantity? with
    | none => simp
    | some y => simpa using eq_comm

theorem sameAtom_iff (ha : a.isForm = false ∧ a.isSeq = false ∧ a.isMap = false) :
    a.sameAtom b ↔ ∃ i, a.identity? = some i ∧ b.identity? = some i := by
  cases a with
  | seq => cases ha.2.1
  | map => cases ha.2.2
  | form => cases ha.1
  | bool | int | ratio | float =>
    simp only [identity?, Option.map_eq_some_iff, exists_exists_and_eq_and,
      identity?_eq_quantity_iff]
    exact sameQuantity_iff
  | nil => cases b <;> simp [sameAtom, identity?, quantity?]
  | text s => cases b <;> simp [sameAtom, identity?, quantity?, eq_comm (b := s)]
  | name k s =>
    cases b <;> simp [sameAtom, identity?, quantity?, eq_comm (b := s), eq_comm (b := k)]
  | foreign t =>
    cases b with
    | foreign u =>
      simp only [sameAtom, identity?, Bool.and_eq_true, beq_iff_eq, bne_iff_ne,
        Option.ite_none_left_eq_some, Option.some.injEq]
      constructor
      · rintro ⟨rfl, ht⟩
        exact ⟨_, ⟨ht, rfl⟩, ht, rfl⟩
      · rintro ⟨_, ⟨ht, rfl⟩, _, hu⟩
        cases hu
        exact ⟨rfl, ht⟩
    | _ => simp [sameAtom, identity?, quantity?]

mutual

/-- Keys are equal exactly if nothing tells them apart. -/
theorem same_iff : ∀ {a b : Sexpr}, a.unhashable? = none →
    (a.same b ↔ ∃ i, a.identity? = some i ∧ b.identity? = some i)
  | seq .tuple xs, b, h => by
    have items (ys : List Sexpr) : sameItems xs ys ↔ _ := sameItems_iff h
    cases b with
    | seq l ys =>
      simp only [same, Bool.and_eq_true, beq_iff_eq, items, identity?, Option.map_eq_some_iff]
      constructor
      · rintro ⟨rfl, is, hxs, hys⟩
        exact ⟨_, ⟨is, hxs, rfl⟩, is, hys, rfl⟩
      · rintro ⟨_, ⟨is, hxs, rfl⟩, _, hys, heq⟩
        cases heq
        exact ⟨rfl, is, hxs, hys⟩
    | _ => simp [same, identity?]
  | form xs _, b, h => by
    have items (ys : List Sexpr) : sameItems xs ys ↔ _ := sameItems_iff h
    cases b with
    | form ys =>
      simp only [same, items, identity?, Option.map_eq_some_iff]
      constructor
      · rintro ⟨is, hxs, hys⟩
        exact ⟨_, ⟨is, hxs, rfl⟩, is, hys, rfl⟩
      · rintro ⟨_, ⟨is, hxs, rfl⟩, _, hys, heq⟩
        cases heq
        exact ⟨is, hxs, hys⟩
    | _ => simp [same, identity?]
  | seq .list _, _, h | map _, _, h => by cases h
  | nil, b, _ | bool _, b, _ | int _, b, _ | ratio _, b, _ | float _, b, _ | text _, b, _
  | name .., b, _ | foreign _, b, _ => by
    rw [same]
    · exact sameAtom_iff ⟨rfl, rfl, rfl⟩
    all_goals nofun

theorem sameItems_iff : ∀ {xs ys : List Sexpr}, unhashableIn? xs = none →
    (sameItems xs ys ↔ ∃ is, identities? xs = some is ∧ identities? ys = some is)
  | [], ys, _ => by
    cases ys with
    | nil => simp [sameItems, identities?]
    | cons y ys => simp [sameItems, identities?, Option.bind_eq_some_iff]
  | x :: xs, ys, h => by
    obtain ⟨hx, hxs⟩ := Option.or_eq_none_iff.mp h
    cases ys with
    | nil => simp [sameItems, identities?, Option.bind_eq_some_iff]
    | cons y ys =>
      simp only [sameItems, Bool.and_eq_true, same_iff hx, sameItems_iff hxs, identities?,
        Option.bind_eq_some_iff, Option.map_eq_some_iff]
      constructor
      · rintro ⟨⟨i, hx, hy⟩, is, hxs, hys⟩
        exact ⟨i :: is, ⟨i, hx, is, hxs, rfl⟩, i, hy, is, hys, rfl⟩
      · rintro ⟨_, ⟨i, hx, is, hxs, rfl⟩, j, hy, js, hys, heq⟩
        cases heq
        exact ⟨⟨i, hx, hy⟩, is, hxs, hys⟩

end

/-- Neither a list nor a mapping, and equal to itself. -/
structure IsKey (a : Sexpr) : Prop where
  hashable : a.unhashable? = none
  identity : ∃ i, a.identity? = some i

theorem IsKey.same_self (ha : a.IsKey) : a.same a := by
  obtain ⟨i, hi⟩ := ha.identity
  exact (same_iff ha.hashable).mpr ⟨i, hi, hi⟩

theorem IsKey.same_comm (ha : a.IsKey) (hb : b.IsKey) : a.same b = b.same a := by
  rw [Bool.eq_iff_iff, same_iff ha.hashable, same_iff hb.hashable]
  exact exists_congr fun i => and_comm

/-! ## Kinds of keys -/

inductive Kind where
  | nil
  | boolean
  | integer
  | ratio
  | float
  | text
  | name (kind : NameKind)
  | sequence (kind : SequenceKind)
  | mapping
  | form
  | foreign
  deriving DecidableEq

def kind : Sexpr → Kind
  | nil => .nil
  | bool _ => .boolean
  | int _ => .integer
  | ratio _ => .ratio
  | float _ => .float
  | text _ => .text
  | name k _ => .name k
  | seq k _ => .sequence k
  | map _ => .mapping
  | form .. => .form
  | foreign _ => .foreign

/-- Expressions of different kinds are equal only as numbers, among which the booleans are one and
zero. -/
theorem same_iff_of_kind_ne (h : a.kind ≠ b.kind) :
    a.same b ↔ ∃ q, a.quantity? = some q ∧ b.quantity? = some q := by
  cases a with
  | bool | int | ratio | float => exact sameQuantity_iff
  | _ => cases b <;> simp_all [same, sameAtom, quantity?, kind]

end SexprShell.Sexpr
