import SexprShell.Script.Signature

/-!
# Signatures and their faults

A signature is read exactly if it is a sequence of symbols followed by flags; otherwise the first
item out of place is refused. The declarations of flags fail at the first field that has no text.
-/

namespace SexprShell.Script

open Sexpr

/-! ## Expressions without a text of their own -/

/-- An expression is no literal, for this reason. -/
inductive Unwritable : Sexpr → Failure → Prop where
  /-- No double is large enough. -/
  | ratio {q : Rat} : Number.Format.double.encode? q = none → Unwritable (.ratio q) .overflow
  | list (items : List Sexpr) : Unwritable (.seq .list items) (.ofCause (.unknownValue "list"))
  | tuple (items : List Sexpr) : Unwritable (.seq .tuple items) (.ofCause (.unknownValue "tuple"))
  | map (entries : List (Sexpr × Sexpr)) :
      Unwritable (.map entries) (.ofCause (.unknownValue "dict"))
  | form (items : List Sexpr) (location : Option Location) :
      Unwritable (.form items location) (.ofCause (.unknownValue "Form"))
  | foreign (t : String) : Unwritable (.foreign t) (.ofCause (.unknownValue t))

variable {e : Sexpr} {es xs ys : List Sexpr} {f : Failure}

theorem literal_error_iff : literal e = .error f ↔ Unwritable e f := by
  constructor
  · intro h
    cases e with
    | ratio q =>
      simp only [literal] at h
      split at h
      · cases h
      · next hq => cases h; exact .ratio (Option.map_eq_none_iff.mp hq)
    | seq kind items => cases kind <;> (cases h; constructor)
    | map | form | foreign => cases h; constructor
    | _ => cases h
  · intro h
    cases h with
    | ratio hq => simp only [literal, Number.ratioText?, hq, Option.map_none]
    | _ => rfl

/-- A sequence of steps fails at the first step that does. -/
theorem bind_error_iff {x : Except Failure α} {k : α → Except Failure β} :
    (x >>= k) = .error f ↔ x = .error f ∨ ∃ a, x = .ok a ∧ k a = .error f := by
  cases x with
  | error g =>
    refine ⟨fun h => by cases h; exact .inl rfl, ?_⟩
    rintro (h | ⟨a, h, _⟩)
    · cases h
      rfl
    · cases h
  | ok a =>
    refine ⟨fun h => .inr ⟨a, rfl, h⟩, ?_⟩
    rintro (h | ⟨b, h, hk⟩)
    · cases h
    · cases h
      exact hk

theorem bind_ok_iff {x : Except Failure α} {k : α → Except Failure β} {b : β} :
    (x >>= k) = .ok b ↔ ∃ a, x = .ok a ∧ k a = .ok b := by
  cases x with
  | error g =>
    constructor
    · intro h
      cases h
    · rintro ⟨_, ⟨⟩, _⟩
  | ok a =>
    refine ⟨fun h => ⟨a, rfl, h⟩, ?_⟩
    rintro ⟨_, h, hk⟩
    cases h
    exact hk

/-- The first of these expressions that is no literal is so for this reason. -/
inductive FirstUnwritable : List Sexpr → Failure → Prop where
  | here {e : Sexpr} {es : List Sexpr} {f : Failure} : Unwritable e f → FirstUnwritable (e :: es) f
  | there {e : Sexpr} {es : List Sexpr} {f : Failure} : (∀ g, ¬ Unwritable e g) →
      FirstUnwritable es f → FirstUnwritable (e :: es) f

theorem firstUnwritable_nil : ¬ FirstUnwritable [] f := by
  rintro ⟨⟩

theorem firstUnwritable_cons : FirstUnwritable (e :: es) f ↔
    Unwritable e f ∨ (∀ g, ¬ Unwritable e g) ∧ FirstUnwritable es f := by
  constructor
  · rintro (h | ⟨hn, h⟩)
    · exact .inl h
    · exact .inr ⟨hn, h⟩
  · rintro (h | ⟨hn, h⟩)
    · exact .here h
    · exact .there hn h

theorem firstUnwritable_append : FirstUnwritable (xs ++ ys) f ↔
    FirstUnwritable xs f ∨ (∀ x ∈ xs, ∀ g, ¬ Unwritable x g) ∧ FirstUnwritable ys f := by
  induction xs with
  | nil => simp [firstUnwritable_nil]
  | cons x xs ih =>
    rw [List.cons_append, firstUnwritable_cons, firstUnwritable_cons, ih]
    rw [List.forall_mem_cons, and_or_left, or_assoc, and_assoc]

theorem exists_firstUnwritable_iff :
    (∃ f, FirstUnwritable es f) ↔ ∃ e ∈ es, ∃ f, Unwritable e f := by
  constructor
  · rintro ⟨f, h⟩
    induction h with
    | here h => exact ⟨_, List.mem_cons_self, _, h⟩
    | there _ _ ih =>
      obtain ⟨e, he, h⟩ := ih
      exact ⟨e, List.mem_cons_of_mem _ he, h⟩
  · rintro ⟨e, he, f, h⟩
    induction es with
    | nil => cases he
    | cons x xs ih =>
      by_cases hx : ∃ g, Unwritable x g
      · exact hx.imp fun _ => .here
      · rcases List.mem_cons.mp he with rfl | he
        · exact absurd ⟨f, h⟩ hx
        · exact (ih he).imp fun _ => .there (not_exists.mp hx)

/-! ## Flags -/

namespace FlagSpec

variable {g : FlagSpec} {flags : List FlagSpec}

theorem field_error_iff : field e = .error f ↔ Unwritable e f := by
  cases e with
  | nil => constructor <;> rintro ⟨⟩
  | _ => simp only [field, literal_error_iff]

theorem exists_field_iff : (∃ s, field e = .ok s) ↔ ∀ g, ¬ Unwritable e g := by
  cases h : field e with
  | error g => simpa using ⟨g, field_error_iff.mp h⟩
  | ok s => simp [← field_error_iff, h]

/-- The fields of a flag in the order in which they are rendered. -/
def fields (g : FlagSpec) : List Sexpr := [g.long, g.default, g.doc, g.short, g.type]

theorem declaration_error_iff : g.declaration = .error f ↔ FirstUnwritable g.fields f := by
  simp only [declaration, fields, bind_error_iff, field_error_iff, firstUnwritable_cons,
    exists_and_right, exists_field_iff, firstUnwritable_nil, reduceCtorEq]

theorem exists_declaration_iff :
    (∃ s, g.declaration = .ok s) ↔ ∀ e ∈ g.fields, ∀ f, ¬ Unwritable e f := by
  have failed : (∃ f, g.declaration = .error f) ↔ ∃ e ∈ g.fields, ∃ f, Unwritable e f := by
    simp only [declaration_error_iff, exists_firstUnwritable_iff]
  cases h : g.declaration with
  | error f =>
    obtain ⟨e, he, f, hf⟩ := failed.mp ⟨f, h⟩
    refine ⟨?_, fun hn => absurd hf (hn e he f)⟩
    rintro ⟨s, ⟨⟩⟩
  | ok s =>
    refine ⟨fun _ e he f hf => ?_, fun _ => ⟨s, rfl⟩⟩
    obtain ⟨f, hf⟩ := failed.mpr ⟨e, he, f, hf⟩
    cases h.symm.trans hf

theorem mapM_declaration_error_iff :
    flags.mapM declaration = .error f ↔ FirstUnwritable (flags.flatMap fields) f := by
  induction flags with
  | nil => constructor <;> rintro ⟨⟩
  | cons g flags ih =>
    rw [List.mapM_cons, bind_error_iff, declaration_error_iff, List.flatMap_cons,
      firstUnwritable_append, ← exists_declaration_iff]
    simp only [bind_error_iff, ih, exists_and_right, pure, Except.pure, reduceCtorEq, and_false,
      exists_false, or_false]

end FlagSpec

/-- The declarations of a function fail at the first field of a flag that has no text, where the
help text is a text or nil. -/
theorem declarations_error_iff {doc : Sexpr} {flags : List FlagSpec}
    (hdoc : doc = .nil ∨ ∃ s, doc = .text s) :
    declarations doc flags = .error f ↔ FirstUnwritable (flags.flatMap FlagSpec.fields) f := by
  rcases hdoc with rfl | ⟨s, rfl⟩ <;>
    simp [declarations, helpText, bind_error_iff, FlagSpec.mapM_declaration_error_iff]

/-! ## Signatures -/

theorem exists_eq_symbol (h : e.isSymbol) : ∃ s, e = symbol s := by
  cases e with
  | name kind s =>
    cases kind with
    | symbol => exact ⟨s, rfl⟩
    | keyword | bare => cases h
  | _ => cases h

/-- An item cannot stand where a flag is expected. -/
inductive NoFlag : Sexpr → Failure → Prop where
  | misplaced (s : String) : NoFlag (.symbol s) (.ofCause (.misplacedArgument s))
  | shape {e : Sexpr} : e.isSymbol = false → (∀ g : FlagSpec, e ≠ g.toSexpr) →
      NoFlag e (.ofCause (.flagShape e))

/-- The items that a signature is written with. -/
def Signature.items (g : Signature) : List Sexpr :=
  g.positional.map symbol ++ g.flags.map FlagSpec.toSexpr

/-- A signature is refused: it is no sequence, or an item behind its symbols and flags is no flag,
nor a symbol among symbols. -/
inductive SignatureFault : Sexpr → Failure → Prop where
  | kind {e : Sexpr} : e.isSeq = false → SignatureFault e (.ofCause .signatureKind)
  | item {k : SequenceKind} {names : List String} {flags : List FlagSpec} {e : Sexpr}
      {rest : List Sexpr} {f : Failure} : NoFlag e f → (flags = [] → e.isSymbol = false) →
      SignatureFault (.seq k (names.map symbol ++ (flags.map FlagSpec.toSexpr ++ e :: rest))) f

namespace Signature

variable {g : Signature} {flags : List FlagSpec}

/-- An item is a flag, or cannot stand where one is expected. -/
theorem flag_or_noFlag (e : Sexpr) : (∃ g : FlagSpec, e = g.toSexpr) ∨ ∃ f, NoFlag e f := by
  cases h : FlagSpec.ofSexpr? e with
  | some g => exact .inl ⟨g, (FlagSpec.toSexpr_of_ofSexpr? h).symm⟩
  | none =>
    have noFlag : ∀ g : FlagSpec, e ≠ g.toSexpr := by
      rintro g rfl
      cases h
    cases hs : e.isSymbol with
    | false => exact .inr ⟨_, .shape hs noFlag⟩
    | true =>
      obtain ⟨s, rfl⟩ := exists_eq_symbol hs
      exact .inr ⟨_, .misplaced s⟩

theorem flagsOf_cons_flag (g : FlagSpec) (es : List Sexpr) :
    flagsOf (g.toSexpr :: es) = (flagsOf es).map (g :: ·) := rfl

theorem flagsOf_cons_noFlag (h : NoFlag e f) : flagsOf (e :: es) = .error f := by
  cases h with
  | misplaced s => rfl
  | shape hs hno =>
    have : FlagSpec.ofSexpr? e = none := by
      cases h : FlagSpec.ofSexpr? e with
      | none => rfl
      | some g => exact absurd (FlagSpec.toSexpr_of_ofSexpr? h).symm (hno g)
    rw [flagsOf, this]
    rintro s rfl
    cases hs

theorem flagsOf_eq_ok_iff : flagsOf es = .ok flags ↔ es = flags.map FlagSpec.toSexpr := by
  constructor
  · intro h
    induction es generalizing flags with
    | nil => cases h; rfl
    | cons e es ih =>
      rcases flag_or_noFlag e with ⟨g, rfl⟩ | ⟨f, hf⟩
      · rw [flagsOf_cons_flag] at h
        cases hes : flagsOf es with
        | error f => rw [hes] at h; cases h
        | ok gs =>
          rw [hes] at h
          cases h
          rw [ih hes, List.map_cons]
      · rw [flagsOf_cons_noFlag hf] at h
        cases h
  · rintro rfl
    induction flags with
    | nil => rfl
    | cons g flags ih =>
      rw [List.map_cons, flagsOf_cons_flag, ih]
      rfl

theorem flagsOf_eq_error_iff : flagsOf es = .error f ↔
    ∃ (flags : List FlagSpec) (e : Sexpr) (rest : List Sexpr),
      es = flags.map FlagSpec.toSexpr ++ e :: rest ∧ NoFlag e f := by
  constructor
  · intro h
    induction es with
    | nil => cases h
    | cons e es ih =>
      rcases flag_or_noFlag e with ⟨g, rfl⟩ | ⟨f', hf⟩
      · rw [flagsOf_cons_flag] at h
        cases hes : flagsOf es with
        | ok gs => rw [hes] at h; cases h
        | error f' =>
          rw [hes] at h
          cases h
          obtain ⟨flags, e, rest, rfl, hno⟩ := ih hes
          exact ⟨g :: flags, e, rest, rfl, hno⟩
      · cases (flagsOf_cons_noFlag hf).symm.trans h
        exact ⟨[], e, es, rfl, hf⟩
  · rintro ⟨flags, e, rest, rfl, hno⟩
    induction flags with
    | nil => exact flagsOf_cons_noFlag hno
    | cons g flags ih =>
      rw [List.map_cons, List.cons_append, flagsOf_cons_flag, ih]
      rfl

theorem ofItems_cons_symbol (s : String) (es : List Sexpr) : ofItems (symbol s :: es) =
    (ofItems es).map fun g => { g with positional := s :: g.positional } := rfl

theorem ofItems_of_head (h : ∀ e, es.head? = some e → e.isSymbol = false) :
    ofItems es = (flagsOf es).map fun flags => ⟨[], flags⟩ := by
  unfold ofItems
  split
  · cases h _ rfl
  · rfl

theorem ofItems_eq_ok_iff : ofItems es = .ok g ↔ es = g.items := by
  constructor
  · intro h
    induction es generalizing g with
    | nil => cases h; rfl
    | cons e es ih =>
      cases he : e.isSymbol with
      | true =>
        obtain ⟨s, rfl⟩ := exists_eq_symbol he
        rw [ofItems_cons_symbol] at h
        cases hes : ofItems es with
        | error f => rw [hes] at h; cases h
        | ok g' =>
          rw [hes] at h
          cases h
          rw [ih hes]
          rfl
      | false =>
        rw [ofItems_of_head (by rintro _ ⟨⟩; exact he)] at h
        cases hes : flagsOf (e :: es) with
        | error f => rw [hes] at h; cases h
        | ok flags =>
          rw [hes] at h
          cases h
          exact flagsOf_eq_ok_iff.mp hes
  · rintro rfl
    obtain ⟨names, flags⟩ := g
    rw [items]
    induction names with
    | nil =>
      have flagged : flagsOf (flags.map FlagSpec.toSexpr) = .ok flags := flagsOf_eq_ok_iff.mpr rfl
      rw [List.map_nil, List.nil_append, ofItems_of_head, flagged]
      · rfl
      · intro e he
        cases flags <;> cases he
        rfl
    | cons s names ih =>
      rw [List.map_cons, List.cons_append, ofItems_cons_symbol, ih]
      rfl

theorem ofItems_eq_error_iff : ofItems es = .error f ↔
    ∃ (names : List String) (flags : List FlagSpec) (e : Sexpr) (rest : List Sexpr),
      es = names.map symbol ++ (flags.map FlagSpec.toSexpr ++ e :: rest) ∧
      NoFlag e f ∧ (flags = [] → e.isSymbol = false) := by
  constructor
  · intro h
    induction es with
    | nil => cases h
    | cons e es ih =>
      cases he : e.isSymbol with
      | true =>
        obtain ⟨s, rfl⟩ := exists_eq_symbol he
        rw [ofItems_cons_symbol] at h
        cases hes : ofItems es with
        | ok g => rw [hes] at h; cases h
        | error f' =>
          rw [hes] at h
          cases h
          obtain ⟨names, flags, e, rest, rfl, hno⟩ := ih hes
          exact ⟨s :: names, flags, e, rest, rfl, hno⟩
      | false =>
        rw [ofItems_of_head (by rintro _ ⟨⟩; exact he)] at h
        cases hes : flagsOf (e :: es) with
        | ok flags => rw [hes] at h; cases h
        | error f' =>
          rw [hes] at h
          cases h
          obtain ⟨flags, e', rest, heq, hno⟩ := flagsOf_eq_error_iff.mp hes
          refine ⟨[], flags, e', rest, heq, hno, ?_⟩
          rintro rfl
          cases heq
          exact he
  · rintro ⟨names, flags, e, rest, rfl, hno, hfirst⟩
    induction names with
    | nil =>
      have refused := flagsOf_eq_error_iff.mpr ⟨flags, e, rest, rfl, hno⟩
      rw [List.map_nil, List.nil_append, ofItems_of_head, refused]
      · rfl
      · intro e' he
        cases flags with
        | nil => cases he; exact hfirst rfl
        | cons g flags => cases he; rfl
    | cons s names ih =>
      rw [List.map_cons, List.cons_append, ofItems_cons_symbol, ih]
      rfl

theorem ofSexpr_eq_ok_iff : ofSexpr e = .ok g ↔ ∃ k, e = .seq k g.items := by
  cases e with
  | seq k items => simp [ofSexpr, ofItems_eq_ok_iff]
  | _ =>
    constructor
    · rintro ⟨⟩
    · rintro ⟨k, ⟨⟩⟩

theorem ofSexpr_eq_error_iff : ofSexpr e = .error f ↔ SignatureFault e f := by
  cases e with
  | seq k items =>
    rw [ofSexpr, ofItems_eq_error_iff]
    constructor
    · rintro ⟨names, flags, e, rest, rfl, hno, hfirst⟩
      exact .item hno hfirst
    · rintro (h | ⟨hno, hfirst⟩)
      · cases h
      · exact ⟨_, _, _, _, rfl, hno, hfirst⟩
  | _ =>
    constructor
    · rintro ⟨⟩
      exact .kind rfl
    · rintro ⟨⟩
      rfl

end Signature

end SexprShell.Script
