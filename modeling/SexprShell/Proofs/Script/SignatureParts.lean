import Mathlib.Data.Set.List
import SexprShell.Proofs.Script.Signature

/-!
# The parts of a signature

A sequence of symbols followed by flags is a signature with these as its parts, and nothing else is
one. What does not fit behind the items before it says why a signature is refused: a symbol behind a
flag, or something that is neither a symbol nor a flag (`ofSexpr_outcome`).
-/

namespace SexprShell.Script

open Sexpr

/-- A flag is a sequence of five items, of whatever kind. -/
def IsFlag (e : Sexpr) : Prop := ∃ k items, e = .seq k items ∧ items.length = 5

/-- Symbols, then flags. -/
def SymbolsThenFlags (items : List Sexpr) : Prop :=
  ∃ names flags, items = names ++ flags ∧ (∀ e ∈ names, e.isSymbol) ∧ ∀ e ∈ flags, IsFlag e

/-- An item does not fit behind others, for this reason. -/
inductive Misfit (earlier : List Sexpr) : Sexpr → Cause → Prop where
  | behindFlag {x : Sexpr} {s : String} : x ∈ earlier → IsFlag x →
      Misfit earlier (.symbol s) (.misplacedArgument s)
  | noFlag {e : Sexpr} : e.isSymbol = false → ¬ IsFlag e → Misfit earlier e (.flagShape e)

variable {e : Sexpr} {es names flags earlier : List Sexpr} {c : Cause} {f : Failure}

/-! ## Symbols and flags -/

theorem isFlag_iff : IsFlag e ↔ ∃ g : FlagSpec, g.toSexpr = e := by
  constructor
  · intro h
    obtain ⟨k, items, rfl, hlength⟩ := h
    match items, hlength with
    | [type, long, short, doc, default], _ => exact ⟨⟨k, type, long, short, doc, default⟩, rfl⟩
  · intro h
    obtain ⟨g, rfl⟩ := h
    exact ⟨g.kind, _, rfl, rfl⟩

theorem IsFlag.not_symbol (h : IsFlag e) : e.isSymbol = false := by
  obtain ⟨k, items, rfl, -⟩ := h
  rfl

theorem isSymbol_iff : e.isSymbol ↔ ∃ s, symbol s = e := by
  refine ⟨fun h => (exists_eq_symbol h).imp fun _ => Eq.symm, fun h => ?_⟩
  obtain ⟨s, rfl⟩ := h
  rfl

/-- Symbols are the names of positional arguments. -/
theorem forall_isSymbol_iff :
    (∀ e ∈ names, e.isSymbol) ↔ ∃ ns : List String, ns.map symbol = names := by
  have range := Set.ext_iff.mp (Set.range_list_map symbol) names
  simpa only [isSymbol_iff, Set.mem_ofPred_eq, Set.mem_range] using range.symm

theorem forall_isFlag_iff :
    (∀ e ∈ flags, IsFlag e) ↔ ∃ gs : List FlagSpec, gs.map FlagSpec.toSexpr = flags := by
  have range := Set.ext_iff.mp (Set.range_list_map FlagSpec.toSexpr) flags
  simpa only [isFlag_iff, Set.mem_ofPred_eq, Set.mem_range] using range.symm

/-- The items of a signature are its symbols and flags. -/
theorem symbolsThenFlags_iff : SymbolsThenFlags es ↔ ∃ g : Signature, es = g.items := by
  constructor
  · intro h
    obtain ⟨names, flags, rfl, hnames, hflags⟩ := h
    obtain ⟨ns, rfl⟩ := forall_isSymbol_iff.mp hnames
    obtain ⟨gs, rfl⟩ := forall_isFlag_iff.mp hflags
    exact ⟨⟨ns, gs⟩, rfl⟩
  · intro h
    obtain ⟨g, rfl⟩ := h
    exact ⟨_, _, rfl, forall_isSymbol_iff.mpr ⟨_, rfl⟩, forall_isFlag_iff.mpr ⟨_, rfl⟩⟩

theorem Misfit.kind (h : Misfit earlier e c) : c.kind = .signature := by
  cases h <;> rfl

/-! ## Items one by one -/

/-- One more item fits if it is a flag, or if it is a symbol and no flag has come yet. -/
theorem symbolsThenFlags_concat_iff : SymbolsThenFlags (es ++ [e]) ↔
    SymbolsThenFlags es ∧ (IsFlag e ∨ e.isSymbol ∧ ∀ x ∈ es, ¬ IsFlag x) := by
  constructor
  · intro h
    obtain ⟨names, flags, heq, hnames, hflags⟩ := h
    rcases List.eq_nil_or_concat flags with rfl | ⟨flags, last, rfl⟩
    · obtain rfl : es ++ [e] = names := by rw [heq, List.append_nil]
      obtain ⟨hes, he⟩ := List.forall_mem_append.mp hnames
      refine ⟨⟨es, [], (List.append_nil es).symm, hes, List.forall_mem_nil _⟩, .inr ⟨?_, ?_⟩⟩
      · exact he e (List.mem_singleton_self e)
      · intro x hx hflag
        cases (hes x hx).symm.trans hflag.not_symbol
    · rw [List.concat_eq_append, ← List.append_assoc] at heq
      obtain ⟨rfl, hlast⟩ := List.append_inj' heq rfl
      cases hlast
      obtain ⟨hflags, he⟩ := List.forall_mem_append.mp (List.concat_eq_append ▸ hflags)
      exact ⟨⟨names, flags, rfl, hnames, hflags⟩, .inl (he e (List.mem_singleton_self e))⟩
  · intro h
    obtain ⟨⟨names, flags, rfl, hnames, hflags⟩, hflag | ⟨hsymbol, hno⟩⟩ := h
    · refine ⟨names, flags ++ [e], List.append_assoc _ _ _, hnames, ?_⟩
      exact List.forall_mem_append.mpr ⟨hflags, by simpa using hflag⟩
    · have none : flags = [] := by
        cases flags with
        | nil => rfl
        | cons x xs => exact absurd (hflags x List.mem_cons_self) (hno x (by simp))
      subst none
      refine ⟨names ++ [e], [], by simp, ?_, List.forall_mem_nil _⟩
      exact List.forall_mem_append.mpr ⟨hnames, by simpa using hsymbol⟩

/-- Either an item fits behind others, or there is a reason why it does not. -/
theorem not_symbolsThenFlags_concat_iff (h : SymbolsThenFlags earlier) :
    ¬ SymbolsThenFlags (earlier ++ [e]) ↔ ∃ c, Misfit earlier e c := by
  rw [symbolsThenFlags_concat_iff, and_iff_right h]
  constructor
  · intro hno
    obtain ⟨hflag, hsymbol⟩ := not_or.mp hno
    cases he : e.isSymbol with
    | false => exact ⟨_, .noFlag he hflag⟩
    | true =>
      obtain ⟨s, rfl⟩ := exists_eq_symbol he
      obtain ⟨x, hx⟩ := not_forall.mp fun hall => hsymbol ⟨he, hall⟩
      obtain ⟨hx, hflag⟩ := Classical.not_imp.mp hx
      exact ⟨_, .behindFlag hx (not_not.mp hflag)⟩
  · rintro ⟨c, hc⟩ hfits
    cases hc with
    | behindFlag hx hflag =>
      rcases hfits with hs | ⟨-, hno⟩
      · cases hs.not_symbol
      · exact hno _ hx hflag
    | noFlag hsymbol hflag =>
      rcases hfits with hf | ⟨hs, -⟩
      · exact hflag hf
      · cases hs.symm.trans hsymbol

/-! ## Refusals -/

namespace Signature

theorem ofSexpr_of_not_seq (h : e.isSeq = false) :
    ofSexpr e = .error (.ofCause .signatureKind) := by
  cases e with
  | seq => cases h
  | _ => rfl

/-- The first item that does not fit is what a signature is refused for. -/
theorem ofItems_refused_iff : ofItems es = .error f ↔ ∃ earlier e later c,
    es = earlier ++ e :: later ∧ SymbolsThenFlags earlier ∧ Misfit earlier e c ∧
      f = .ofCause c := by
  rw [ofItems_eq_error_iff]
  constructor
  · rintro ⟨names, flags, e, rest, rfl, hno, hfirst⟩
    have fits : SymbolsThenFlags (names.map symbol ++ flags.map FlagSpec.toSexpr) :=
      symbolsThenFlags_iff.mpr ⟨⟨names, flags⟩, rfl⟩
    rw [← List.append_assoc]
    cases hno with
    | misplaced s =>
      cases flags with
      | nil => cases hfirst rfl
      | cons g flags =>
        have flag : IsFlag g.toSexpr := isFlag_iff.mpr ⟨g, rfl⟩
        exact ⟨_, _, rest, _, rfl, fits, .behindFlag (by simp) flag, rfl⟩
    | shape hs hno =>
      refine ⟨_, e, rest, _, rfl, fits, .noFlag hs fun hflag => ?_, rfl⟩
      obtain ⟨g, hg⟩ := isFlag_iff.mp hflag
      exact hno g hg.symm
  · rintro ⟨earlier, e, later, c, rfl, hfits, hmisfit, rfl⟩
    obtain ⟨⟨names, flags⟩, rfl⟩ := symbolsThenFlags_iff.mp hfits
    refine ⟨names, flags, e, later, List.append_assoc _ _ _, ?_⟩
    cases hmisfit with
    | @behindFlag x s hx hflag =>
      refine ⟨.misplaced s, fun none => ?_⟩
      subst none
      rw [items, List.map_nil, List.append_nil] at hx
      cases hflag.not_symbol.symm.trans (forall_isSymbol_iff.mpr ⟨names, rfl⟩ x hx)
    | noFlag hs hflag =>
      exact ⟨.shape hs fun g hg => hflag (isFlag_iff.mpr ⟨g, hg.symm⟩), fun _ => hs⟩

/-- A sequence is split into its symbols and its flags, if it is made of symbols followed by flags,
without loss and in order. Otherwise it is refused for the first item behind which it is not, and
what comes later does not count. -/
theorem ofSexpr_outcome (signature : Sexpr) :
    (∀ names flags, (∃ g, ofSexpr signature = .ok g ∧ g.positional.map symbol = names ∧
        g.flags.map FlagSpec.toSexpr = flags) ↔
      (∃ k, signature = .seq k (names ++ flags)) ∧ (∀ e ∈ names, e.isSymbol) ∧
        ∀ e ∈ flags, IsFlag e) ∧
    ∀ f, ofSexpr signature = .error f ↔
      (signature.isSeq = false ∧ f = .ofCause .signatureKind) ∨
      ∃ k earlier e later c, signature = .seq k (earlier ++ e :: later) ∧
        SymbolsThenFlags earlier ∧ ¬ SymbolsThenFlags (earlier ++ [e]) ∧ Misfit earlier e c ∧
        c.kind = .signature ∧ f = .ofCause c := by
  constructor
  · intro names flags
    simp only [ofSexpr_eq_ok_iff]
    constructor
    · rintro ⟨g, ⟨k, rfl⟩, rfl, rfl⟩
      exact ⟨⟨k, rfl⟩, forall_isSymbol_iff.mpr ⟨_, rfl⟩, forall_isFlag_iff.mpr ⟨_, rfl⟩⟩
    · rintro ⟨⟨k, rfl⟩, hnames, hflags⟩
      obtain ⟨ns, rfl⟩ := forall_isSymbol_iff.mp hnames
      obtain ⟨gs, rfl⟩ := forall_isFlag_iff.mp hflags
      exact ⟨⟨ns, gs⟩, ⟨k, rfl⟩, rfl, rfl⟩
  · intro f
    cases signature with
    | seq k items =>
      rw [ofSexpr, ofItems_refused_iff]
      constructor
      · rintro ⟨earlier, e, later, c, rfl, hfits, hmisfit, rfl⟩
        have first := (not_symbolsThenFlags_concat_iff hfits).mpr ⟨c, hmisfit⟩
        exact .inr ⟨k, earlier, e, later, c, rfl, hfits, first, hmisfit, hmisfit.kind, rfl⟩
      · rintro (⟨⟨⟩, -⟩ | ⟨_, earlier, e, later, c, heq, hfits, -, hmisfit, -, rfl⟩)
        cases heq
        exact ⟨earlier, e, later, c, rfl, hfits, hmisfit, rfl⟩
    | _ =>
      rw [ofSexpr_of_not_seq rfl]
      constructor
      · rintro ⟨⟩
        exact .inl ⟨rfl, rfl⟩
      · rintro (⟨-, rfl⟩ | ⟨_, _, _, _, _, ⟨⟩, -⟩)
        rfl

/-- A symbol behind a flag is refused, and not the keyword that comes after it. -/
example : ofSexpr (.seq .list [.symbol "a", .seq .tuple [.nil, .nil, .nil, .nil, .nil], .symbol "b",
    .keyword "c"]) = .error (.ofCause (.misplacedArgument "b")) := by
  rfl

end Signature

end SexprShell.Script
