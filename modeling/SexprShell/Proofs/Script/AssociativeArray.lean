import SexprShell.Proofs.Script.Everywhere
import SexprShell.Proofs.Script.Lasting
import SexprShell.Proofs.Script.Texts

/-!
# Mappings in variables

Entries of a mapping are set one by one, by calls with the munged names of the variable and of the
key (`emit_associate_eq_ok_iff`). A mapping as a whole is set by the calls for its entries in their
order (`render_setEntries_eq_ok_iff`), and an entry is looked up by the same two names
(`emit_lookup_eq_ok_iff`).
-/

namespace SexprShell.Script

open Template Sexpr

/-! ## Calls -/

/-- The call that sets an entry, from the texts of variable, key and value. -/
def setCall (target key value : String) : String :=
  "hash_set " ++ munged target ++ " " ++ munged key ++ " " ++ value

/-- The expansion that looks an entry up. -/
def lookupCall (target key : String) : String :=
  "$(hash_echo " ++ munged target ++ " " ++ munged key ++ " -n)"

/-- Calls as one block: `{ hash_set m a 1; hash_set m b 2;  }`. -/
def callBlock (calls : List String) : String :=
  "\x7b " ++ String.join (calls.map (· ++ "; ")) ++ " \x7d"

variable {n k v : Sexpr} {ctx : Context} {entry : Sexpr × Sexpr}
  {entries : List (Sexpr × Sexpr)} {s : String} {location : Option Location}

theorem render_mungedSub_eq_ok_iff {e : Sexpr} :
    (mungedSub e ctx).render emit = .ok s ↔ ∃ x, emit e ctx = .ok x ∧ s = munged x := by
  rw [mungedSub, render_finish_eq_ok_iff]
  simp only [render, Finish.apply, Except.ok.injEq, eq_comm (b := s)]

theorem render_setEntry_eq_ok_iff : (setEntry n ctx entry).render emit = .ok s ↔
    ∃ name key value, emit n ctx = .ok name ∧ emit entry.1 ctx = .ok key ∧
      emit entry.2 ctx = .ok value ∧ s = setCall name key value := by
  delta setCall
  simp only [setEntry, concat, render_append_eq_ok_iff, render_text_eq_ok_iff,
    render_mungedSub_eq_ok_iff, render_sub, exists_and_left, exists_eq_left, String.append_assoc]
  constructor
  · rintro ⟨_, ⟨_, ⟨name, hn, rfl⟩, _, ⟨_, ⟨_, ⟨key, hk, rfl⟩, _, ⟨value, hv, rfl⟩, rfl⟩, rfl⟩,
      rfl⟩, rfl⟩
    exact ⟨name, hn, key, hk, value, hv, rfl⟩
  · rintro ⟨name, hn, key, hk, value, hv, rfl⟩
    exact ⟨_, ⟨_, ⟨name, hn, rfl⟩, _, ⟨_, ⟨_, ⟨key, hk, rfl⟩, _, ⟨value, hv, rfl⟩, rfl⟩, rfl⟩, rfl⟩,
      rfl⟩

/-- All entries of a mapping are set by the calls for one after another. -/
theorem render_setEntries_eq_ok_iff : (setEntries n entries ctx).render emit = .ok s ↔
    ∃ calls, List.Forall₂ (fun p call => (setEntry n ctx p).render emit = .ok call) entries calls ∧
      s = callBlock calls := by
  have closed (p : Sexpr × Sexpr) (x : String) :
      (append (setEntry n ctx p) (text "; ")).render emit = .ok x ↔
        ∃ call, (setEntry n ctx p).render emit = .ok call ∧ x = call ++ "; " := by
    simp only [render_append_eq_ok_iff, render_text_eq_ok_iff, exists_and_left, exists_eq_left]
  have parts (x : String) : (concat (entries.map fun p =>
      append (setEntry n ctx p) (text "; "))).render emit = .ok x ↔
      ∃ calls,
        List.Forall₂ (fun p call => (setEntry n ctx p).render emit = .ok call) entries calls ∧
        x = String.join (calls.map (· ++ "; ")) := by
    simp only [render_concat_eq_ok_iff, List.forall₂_map_left_iff, closed, forall₂_through_iff,
      forall₂_eq_map_iff]
    constructor
    · rintro ⟨_, ⟨calls, hcalls, rfl⟩, rfl⟩
      exact ⟨calls, hcalls, rfl⟩
    · rintro ⟨calls, hcalls, rfl⟩
      exact ⟨_, ⟨calls, hcalls, rfl⟩, rfl⟩
  have block : setEntries n entries ctx = concat [text "\x7b ",
      concat (entries.map fun p => append (setEntry n ctx p) (text "; ")), text " \x7d"] := rfl
  rw [block, render_enclosed_eq_ok_iff]
  simp only [parts, callBlock]
  constructor
  · rintro ⟨_, ⟨calls, hcalls, rfl⟩, rfl⟩
    exact ⟨calls, hcalls, rfl⟩
  · rintro ⟨calls, hcalls, rfl⟩
    exact ⟨_, ⟨calls, hcalls, rfl⟩, rfl⟩

/-! ## Forms -/

theorem render_checkedName_eq_ok_iff {rule : String} :
    (checkedName rule n ctx).render emit = .ok s ↔ emit n ctx = .ok s ∧ '-' ∉ s.toList := by
  rw [checkedName, render_finish_eq_ok_iff]
  simp only [render_sub, Finish.apply, identifier, List.contains_iff_mem]
  constructor
  · rintro ⟨x, hx, h⟩
    split at h
    · cases h
    · next hyphen =>
      cases h
      exact ⟨hx, hyphen⟩
  · rintro ⟨hx, hyphen⟩
    exact ⟨s, hx, if_neg hyphen⟩

/-- What is refused without a name fails if the name is refused, and otherwise has its own text. -/
theorem render_named_eq_ok_iff {rule : String} {t : Template} :
    (append (finish .dropped (checkedName rule n ctx)) t).render emit = .ok s ↔
      (∃ name, emit n ctx = .ok name ∧ '-' ∉ name.toList) ∧ t.render emit = .ok s := by
  simp only [render_append_eq_ok_iff, render_finish_eq_ok_iff, render_checkedName_eq_ok_iff,
    Finish.apply, Except.ok.injEq]
  constructor
  · rintro ⟨_, _, ⟨name, hname, rfl⟩, ht, rfl⟩
    exact ⟨⟨name, hname⟩, by rwa [String.empty_append]⟩
  · rintro ⟨⟨name, hname⟩, ht⟩
    exact ⟨_, _, ⟨name, hname, rfl⟩, ht, String.empty_append.symm⟩

theorem emit_newVariable_eq_ok_iff :
    emit (.form [.symbol "var", n, .map entries] location) ctx = .ok s ↔
      (∃ name, emit n ctx = .ok name ∧ '-' ∉ name.toList) ∧
      (setEntries n entries ctx).render emit = .ok s := by
  have var : Special.ofSymbol? "var" = some .newVariable := by decide
  rw [emit_ok_iff, template_of_special var]
  exact render_named_eq_ok_iff

theorem emit_merge_eq_ok_iff :
    emit (.form [.symbol "merge!", n, .map entries] location) ctx = .ok s ↔
      (setEntries n entries ctx).render emit = .ok s := by
  have merge : Special.ofSymbol? "merge!" = some .merge := by decide
  rw [emit_ok_iff, template_of_special merge]
  rfl

theorem emit_associate_eq_ok_iff :
    emit (.form [.symbol "assoc!", n, k, v] location) ctx = .ok s ↔
      (∃ name, emit n ctx = .ok name ∧ '-' ∉ name.toList) ∧
      (setEntry n ctx (k, v)).render emit = .ok s := by
  have assoc : Special.ofSymbol? "assoc!" = some .associate := by decide
  rw [emit_ok_iff, template_of_special assoc]
  exact render_named_eq_ok_iff

theorem emit_lookup_eq_ok_iff : emit (.form [.symbol "get", n, k] location) ctx = .ok s ↔
    ∃ name key, emit n ctx = .ok name ∧ emit k ctx = .ok key ∧ s = lookupCall name key := by
  have get : Special.ofSymbol? "get" = some .lookup := by decide
  have parts : Special.lookup.template [n, k] ctx = concat [text "$(hash_echo ",
      mungedSub n ctx, text " ", mungedSub k ctx, text " -n)"] := rfl
  rw [emit_ok_iff, template_of_special get, parts, render_pair_eq_ok_iff]
  simp only [render_mungedSub_eq_ok_iff]
  constructor
  · rintro ⟨_, _, ⟨name, hn, rfl⟩, ⟨key, hk, rfl⟩, rfl⟩
    exact ⟨name, key, hn, hk, rfl⟩
  · rintro ⟨name, key, hn, hk, rfl⟩
    exact ⟨_, _, ⟨name, hn, rfl⟩, ⟨key, hk, rfl⟩, rfl⟩

/-- A mapping is set by the calls that set its entries, in their order, whether the variable is new
or not; and a call that sets an entry names it as the expansion that looks it up does. -/
theorem emit_associative_array (n : Sexpr) (ctx : Context) (l₁ l₂ l₃ l₄ : Option Location) :
    (∀ entries name, emit n ctx = .ok name → '-' ∉ name.toList →
      ((∃ s, emit (.form [.symbol "var", n, .map entries] l₁) ctx = .ok s) ↔
        ∃ s, emit (.form [.symbol "merge!", n, .map entries] l₂) ctx = .ok s) ∧
      ((∃ s, emit (.form [.symbol "merge!", n, .map entries] l₂) ctx = .ok s) ↔
        ∀ p ∈ entries, ∃ call, emit (.form [.symbol "assoc!", n, p.1, p.2] l₃) ctx = .ok call) ∧
      ∀ calls, List.Forall₂
          (fun p call => emit (.form [.symbol "assoc!", n, p.1, p.2] l₃) ctx = .ok call)
          entries calls →
        emit (.form [.symbol "var", n, .map entries] l₁) ctx = .ok (callBlock calls) ∧
        emit (.form [.symbol "merge!", n, .map entries] l₂) ctx = .ok (callBlock calls)) ∧
    (∀ k v s, emit (.form [.symbol "assoc!", n, k, v] l₃) ctx = .ok s →
      ∃ name key value, emit n ctx = .ok name ∧ emit k ctx = .ok key ∧ emit v ctx = .ok value ∧
        s = setCall name key value ∧
        emit (.form [.symbol "get", n, k] l₄) ctx = .ok (lookupCall name key) ∧
        ∀ c ∈ ['-', '.', '/'], c ∉ (munged name).toList ∧ c ∉ (munged key).toList) := by
  constructor
  · intro entries name hname hyphen
    have named : ∃ name, emit n ctx = .ok name ∧ '-' ∉ name.toList := ⟨name, hname, hyphen⟩
    refine ⟨exists_congr fun s => ?_, ?_, fun calls hcalls => ?_⟩
    · rw [emit_newVariable_eq_ok_iff, and_iff_right named, emit_merge_eq_ok_iff]
    · simp only [emit_merge_eq_ok_iff, emit_associate_eq_ok_iff, and_iff_right named,
        ← exists_forall₂_iff]
      constructor
      · rintro ⟨s, hs⟩
        obtain ⟨calls, hcalls, -⟩ := render_setEntries_eq_ok_iff.mp hs
        exact ⟨calls, hcalls⟩
      · rintro ⟨calls, hcalls⟩
        exact ⟨_, render_setEntries_eq_ok_iff.mpr ⟨calls, hcalls, rfl⟩⟩
    · have set : (setEntries n entries ctx).render emit = .ok (callBlock calls) :=
        render_setEntries_eq_ok_iff.mpr
          ⟨calls, hcalls.imp fun p call h => (emit_associate_eq_ok_iff.mp h).2, rfl⟩
      exact ⟨emit_newVariable_eq_ok_iff.mpr ⟨named, set⟩, emit_merge_eq_ok_iff.mpr set⟩
  · intro k v s hs
    obtain ⟨name, key, value, hn, hk, hv, rfl⟩ :=
      render_setEntry_eq_ok_iff.mp (emit_associate_eq_ok_iff.mp hs).2
    exact ⟨name, key, value, hn, hk, hv, rfl, emit_lookup_eq_ok_iff.mpr ⟨name, key, hn, hk, rfl⟩,
      fun c hc => ⟨notMem_munged hc name, notMem_munged hc key⟩⟩

theorem emit_associative_array_ports :
    let entries := [(Sexpr.keyword "http-alt", Sexpr.int 8080), (.text "ssh", .int 22)]
    emit (.form [.symbol "var", .symbol "ports", .map entries] none) {} =
      .ok "{ hash_set ports http__alt 8080; hash_set ports ssh 22;  }" ∧
    emit (.form [.symbol "get", .symbol "ports", .keyword "http-alt"] none) {} =
      .ok "$(hash_echo ports http__alt -n)" := by
  intro entries
  obtain ⟨together, apart⟩ := emit_associative_array (.symbol "ports") {} none none none none
  have calls := (together entries "ports" rfl (by decide)).2.2
    ["hash_set ports http__alt 8080", "hash_set ports ssh 22"] (.cons rfl (.cons rfl .nil))
  obtain ⟨_, _, _, name, key, -, -, lookup, -⟩ := apart (.keyword "http-alt") (.int 8080) _ rfl
  cases name
  cases key
  exact ⟨calls.1, lookup⟩

end SexprShell.Script
