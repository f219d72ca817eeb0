import Mathlib.Data.List.Nodup
import SexprShell.Proofs.Sexpr.Forms
import SexprShell.Proofs.Source.Segment

/-!
# Where forms were written

The location of a form that was read is the place of a round bracket or a mark in the text, no two
forms have the same one, and the form can be read again from there (`readAll_located`). A form comes
from an item of its own (`countP_formsIn_le`), the item has tokens of its own
(`Items.exists_segment`), and the tokens of a text stand at different positions
(`Cut.nodup_positions`).
-/

namespace SexprShell.Source

open Terminal Sexpr

/-! ## Positions -/

/-- To be on an earlier line, or further left on the same line. -/
def Position.Before (p q : Position) : Prop :=
  p.line < q.line ∨ p.line = q.line ∧ p.column < q.column

namespace Position

variable {p q r : Position}

theorem Before.trans (h : p.Before q) (h' : q.Before r) : p.Before r := by
  unfold Before at *
  omega

theorem Before.ne (h : p.Before q) : p ≠ q := by
  rintro rfl
  unfold Before at h
  omega

theorem before_next (c : Char) : p.Before (p.next c) := by
  unfold next
  split
  · exact .inl (Nat.lt_succ_self _)
  · exact .inr ⟨rfl, Nat.lt_succ_self _⟩

theorem before_advance {l : List Char} (hl : l ≠ []) : p.Before (p.advance l) := by
  induction l generalizing p with
  | nil => exact absurd rfl hl
  | cons c l ih =>
    cases l with
    | nil => exact before_next c
    | cons d l => exact (before_next c).trans (ih (by simp))

end Position

variable {p q : Position} {cs rest : List Char} {ts : List (Position × Token)} {d : Datum}
  {ds : List Datum} {locate : Position → Option Location}

/-- The tokens of a text stand one behind the other. -/
theorem Cut.positions (H : Cut p cs ts q rest) :
    (∀ x ∈ ts, p = x.1 ∨ p.Before x.1) ∧ ts.Pairwise fun x y => x.1.Before y.1 := by
  induction H with
  | stop => exact ⟨List.forall_mem_nil _, .nil⟩
  | @take p _ l _ _ t ts h _ ih =>
    have later : ∀ x ∈ ts, p.Before x.1 := by
      intro x hx
      have lexeme : p.Before (p.advance l) := Position.before_advance h.longest.lexeme.ne_nil
      rcases ih.1 x hx with heq | hx
      · exact heq ▸ lexeme
      · exact lexeme.trans hx
    cases t.token? l with
    | none => exact ⟨fun x hx => .inr (later x hx), ih.2⟩
    | some token =>
      refine ⟨fun x hx => ?_, .cons later ih.2⟩
      rcases List.mem_cons.mp hx with rfl | hx
      · exact .inl rfl
      · exact .inr (later x hx)

theorem Cut.nodup_positions (H : Cut p cs ts q rest) : (ts.map (·.1)).Nodup :=
  List.pairwise_map.mpr (H.positions.2.imp Position.Before.ne)

/-! ## Items and their tokens -/

/-- Where the form that an item writes starts: at a round bracket or at a mark. Other items write no
form. -/
def Datum.start? : Datum → Option Position
  | .group .round p _ | .deref p _ => some p
  | _ => none

/-- The tokens of a sequence of items begin with those of the first item. -/
theorem Items.split_cons (H : Items ts (d :: ds)) :
    ∃ first rest, ts = first ++ rest ∧ Items first [d] ∧ Items rest ds := by
  generalize hall : d :: ds = all at H
  induction H generalizing d ds with
  | nil => cases hall
  | @atom p a ts ds' H _ =>
    cases hall
    exact ⟨[(p, .atom a)], ts, rfl, .atom .nil, H⟩
  | @group b p q inner ts items ds' hi H _ _ =>
    cases hall
    refine ⟨(p, .opening b) :: (inner ++ [(q, .closing b)]), ts, by simp, ?_, H⟩
    exact .group hi .nil
  | @deref p ts d' ds' _ ih =>
    cases hall
    obtain ⟨first, rest, rfl, hd, hds⟩ := ih rfl
    exact ⟨(p, .deref) :: first, rest, rfl, hd.deref, hds⟩

/-- An item inside others has a segment of their tokens to itself. -/
theorem Items.exists_segment (H : Items ts ds) (hd : d ∈ nodesIn ds) :
    ∃ before mid after, ts = before ++ (mid ++ after) ∧ Items mid [d] := by
  induction H with
  | nil => cases hd
  | @atom p a ts ds H ih =>
    rcases List.mem_append.mp hd with hd | hd
    · cases List.mem_singleton.mp hd
      exact ⟨[], [(p, .atom a)], ts, rfl, .atom .nil⟩
    · obtain ⟨before, mid, after, rfl, hmid⟩ := ih hd
      exact ⟨(p, .atom a) :: before, mid, after, rfl, hmid⟩
  | @group b p q inner ts items ds hi H ihi ih =>
    rcases List.mem_append.mp hd with hd | hd
    · rcases List.mem_append.mp hd with hd | hd
      · obtain ⟨before, mid, after, rfl, hmid⟩ := ihi hd
        exact ⟨(p, .opening b) :: before, mid, after ++ (q, .closing b) :: ts, by simp, hmid⟩
      · cases List.mem_singleton.mp hd
        exact ⟨[], (p, .opening b) :: (inner ++ [(q, .closing b)]), ts, by simp, .group hi .nil⟩
    · obtain ⟨before, mid, after, rfl, hmid⟩ := ih hd
      exact ⟨(p, .opening b) :: (inner ++ (q, .closing b) :: before), mid, after, by simp, hmid⟩
  | @deref p ts d' ds H ih =>
    have inside : d ∈ nodesIn (d' :: ds) ∨ d = .deref p d' := by
      simp only [nodesIn, Datum.nodes, List.mem_append, List.mem_singleton] at hd ⊢
      tauto
    rcases inside with hd | rfl
    · obtain ⟨before, mid, after, rfl, hmid⟩ := ih hd
      exact ⟨(p, .deref) :: before, mid, after, rfl, hmid⟩
    · obtain ⟨first, rest, rfl, hfirst, -⟩ := H.split_cons
      exact ⟨[], (p, .deref) :: first, rest, rfl, hfirst.deref⟩

/-- The first token of an item that writes a form. -/
theorem Items.first_of_start? (H : Items ts [d]) (hp : d.start? = some p) :
    ∃ token rest, ts = (p, token) :: rest ∧ (token = .opening .round ∨ token = .deref) := by
  cases H with
  | atom => cases hp
  | @group b =>
    cases b with
    | round =>
      cases hp
      exact ⟨_, _, rfl, .inl rfl⟩
    | square | curly => cases hp
  | deref =>
    cases hp
    exact ⟨_, _, rfl, .inr rfl⟩

/-- No token is the start of two forms. -/
theorem Items.count_start?_le (H : Items ts ds) (p : Position) :
    ((nodesIn ds).filterMap Datum.start?).count p ≤ (ts.map (·.1)).count p := by
  induction H with
  | nil => exact Nat.le_refl _
  | atom _ ih =>
    simp only [nodesIn, Datum.nodes, List.filterMap_append, List.count_append, List.map_cons,
      List.count_cons, List.filterMap_cons, Datum.start?]
    simp
    omega
  | @group b _ _ _ _ _ _ _ _ ihi ih =>
    simp only [nodesIn, Datum.nodes, List.filterMap_append, List.count_append, List.map_cons,
      List.map_append, List.count_cons, List.filterMap_cons]
    cases b <;> simp [Datum.start?, List.count_cons] <;> omega
  | deref _ ih =>
    simp only [nodesIn, List.filterMap_append, List.count_append] at ih
    simp only [nodesIn, Datum.nodes, List.filterMap_append, List.count_append, List.map_cons,
      List.count_cons, List.filterMap_cons, Datum.start?]
    simp
    omega

/-! ## Forms and their items -/

/-- The form that an item writes, if it writes one. -/
def Datum.form? (locate : Position → Option Location) (d : Datum) : Option Sexpr :=
  if d.start?.isSome then (d.toSexpr locate).toOption else none

theorem Datum.form?_eq_some {f : Sexpr} (h : d.form? locate = some f) :
    ∃ p, d.start? = some p ∧ d.toSexpr locate = .ok f ∧ f.location? = locate p := by
  unfold form? at h
  split at h
  · next hstart =>
    have written : d.toSexpr locate = .ok f := by
      cases hd : d.toSexpr locate with
      | error e => rw [hd] at h; cases h
      | ok v => rw [hd] at h; cases h; rfl
    obtain ⟨p, hp⟩ := Option.isSome_iff_exists.mp hstart
    refine ⟨p, hp, written, ?_⟩
    cases d with
    | atom a => cases hp
    | group b q items =>
      cases b with
      | round =>
        obtain ⟨es, -, hgroup⟩ := toSexpr_group_eq_ok written
        cases hp
        cases hgroup
        rfl
      | square | curly => cases hp
    | deref q d =>
      obtain ⟨x, -, rfl⟩ := toSexpr_deref_eq_ok written
      cases hp
      rfl
  · cases h

theorem Datum.form?_of_start? {f : Sexpr} (hp : d.start? = some p) (h : d.toSexpr locate = .ok f) :
    d.form? locate = some f := by
  rw [form?, hp, h]
  rfl

theorem Atom.forms_toSexpr {a : Atom} {v : Sexpr} (h : a.toSexpr = .ok v) : v.forms = [] := by
  cases a with
  | ratio n d =>
    simp only [Atom.toSexpr] at h
    split at h
    · cases h
    · cases h
      split <;> rfl
  | symbol s =>
    simp only [Atom.toSexpr, Except.ok.injEq] at h
    subst h
    repeat' split
    all_goals rfl
  | _ => cases h; rfl

/-- A mapping holds no other forms than the items that it is built from. -/
theorem countP_forms_mappingOf (P : Sexpr → Bool) {es : List Sexpr} {v : Sexpr}
    (h : mappingOf es = .ok v) : v.forms.countP P ≤ (formsIn es).countP P := by
  unfold mappingOf entriesOf at h
  split at h
  · cases h
  · cases hkeys : (pairUp es).findSome? fun p => p.1.unhashable? with
    | some u => rw [hkeys] at h; cases h
    | none =>
      rw [hkeys] at h
      cases h
      have inserted := countP_formsInEntries_insertAll P (pairUp es) []
      have paired := countP_formsInEntries_pairUp P es
      simp only [formsInEntries, List.countP_nil, Nat.zero_add] at inserted
      exact inserted.trans paired

mutual

/-- Each form in what an item writes is written by an item of its own. -/
theorem Datum.countP_forms_le (P : Sexpr → Bool) : ∀ (d : Datum) {v : Sexpr},
    d.toSexpr locate = .ok v →
      v.forms.countP P ≤ (d.nodes.filterMap (Datum.form? locate)).countP P
  | .atom a, v, h => by
    rw [Atom.forms_toSexpr h]
    exact Nat.zero_le _
  | .group b p items, v, h => by
    obtain ⟨es, hes, hgroup⟩ := Datum.toSexpr_group_eq_ok h
    have inner := countP_formsIn_le P items hes
    rw [Datum.nodes, List.filterMap_append, List.countP_append]
    cases b with
    | round =>
      cases hgroup
      rw [List.filterMap_cons, Datum.form?_of_start? rfl h, forms, List.countP_cons]
      simp only [List.filterMap_nil, List.countP_cons, List.countP_nil]
      omega
    | square =>
      cases hgroup
      exact Nat.le_add_right_of_le inner
    | curly => exact Nat.le_add_right_of_le ((countP_forms_mappingOf P hgroup).trans inner)
  | .deref p d, v, h => by
    obtain ⟨x, hx, rfl⟩ := Datum.toSexpr_deref_eq_ok h
    have inner := d.countP_forms_le P hx
    rw [Datum.nodes, List.filterMap_append, List.countP_append, List.filterMap_cons,
      Datum.form?_of_start? rfl h]
    simp only [forms, formsIn, List.nil_append, List.append_nil, List.filterMap_nil,
      List.countP_cons, List.countP_nil]
    omega

theorem countP_formsIn_le (P : Sexpr → Bool) : ∀ (ds : List Datum) {es : List Sexpr},
    itemsToSexprs locate ds = .ok es →
      (formsIn es).countP P ≤ ((nodesIn ds).filterMap (Datum.form? locate)).countP P
  | [], es, h => by
    cases h
    exact Nat.le_refl _
  | d :: ds, es, h => by
    obtain ⟨v, vs, hv, hvs, rfl⟩ := itemsToSexprs_cons_eq_ok h
    have first := d.countP_forms_le P hv
    have rest := countP_formsIn_le P ds hvs
    rw [formsIn, nodesIn, List.filterMap_append, List.countP_append, List.countP_append]
    omega

end

/-! ## Reading -/

variable {es : List Sexpr}

/-- The item that a form comes from. -/
theorem exists_item_of_mem_forms (hes : itemsToSexprs locate ds = .ok es) {f : Sexpr}
    (hf : f ∈ formsIn es) :
    ∃ d ∈ nodesIn ds, ∃ p, d.start? = some p ∧ d.toSexpr locate = .ok f ∧
      f.location? = locate p := by
  classical
  have counted := countP_formsIn_le (fun x => decide (x = f)) ds hes
  have pos : 0 < (formsIn es).countP fun x => decide (x = f) :=
    List.countP_pos_iff.mpr ⟨f, hf, decide_eq_true rfl⟩
  obtain ⟨x, hx, heq⟩ := List.countP_pos_iff.mp (Nat.lt_of_lt_of_le pos counted)
  obtain rfl := of_decide_eq_true heq
  obtain ⟨d, hd, hform⟩ := List.mem_filterMap.mp hx
  exact ⟨d, hd, Datum.form?_eq_some hform⟩

theorem locateIn_injective (file : Option String) : Function.Injective (locateIn file true) := by
  rintro ⟨line, column⟩ ⟨line', column'⟩ h
  simp only [locateIn, if_true, Option.some.injEq, Location.mk.injEq] at h
  rw [Position.mk.injEq]
  omega

theorem location?_form?_sublist (ds : List Datum) :
    ((ds.filterMap (Datum.form? locate)).map location?).Sublist
      ((ds.filterMap Datum.start?).map locate) := by
  induction ds with
  | nil => exact .slnil
  | cons d ds ih =>
    cases hf : d.form? locate with
    | none =>
      rw [List.filterMap_cons_none hf]
      refine ih.trans (List.Sublist.map _ ?_)
      exact (List.sublist_cons_self d ds).filterMap _
    | some f =>
      obtain ⟨p, hp, -, hlocation⟩ := Datum.form?_eq_some hf
      rw [List.filterMap_cons_some hf, List.filterMap_cons_some hp, List.map_cons, List.map_cons,
        hlocation]
      exact ih.cons_cons _

/-- Forms have different locations if those of different items are different. -/
theorem nodup_locations (hes : itemsToSexprs locate ds = .ok es)
    (h : ((nodesIn ds).filterMap Datum.start?).Nodup) (hlocate : Function.Injective locate) :
    ((formsIn es).map location?).Nodup := by
  refine List.nodup_iff_count.mpr fun l => ?_
  have places : (((nodesIn ds).filterMap Datum.start?).map locate).Nodup := h.map hlocate
  calc ((formsIn es).map location?).count l
      = (formsIn es).countP ((· == l) ∘ location?) := List.countP_map
    _ ≤ ((nodesIn ds).filterMap (Datum.form? locate)).countP ((· == l) ∘ location?) :=
        countP_formsIn_le _ ds hes
    _ = (((nodesIn ds).filterMap (Datum.form? locate)).map location?).count l :=
        List.countP_map.symm
    _ ≤ (((nodesIn ds).filterMap Datum.start?).map locate).count l :=
        (location?_form?_sublist _).count_le l
    _ ≤ 1 := List.nodup_iff_count.mp places l

/-- The characters in front of items that write forms. -/
theorem Terminal.First.eq_of_start {t : Terminal} {l : List Char} {token : Token}
    (h : t.First l cs) (ht : t.token? l = some token)
    (htoken : token = .opening .round ∨ token = .deref) : l = ['('] ∨ l = ['@'] := by
  have lexeme := h.longest.lexeme
  rcases htoken with rfl | rfl
  · cases t with
    | opening b => cases ht; exact .inl lexeme
    | _ => cases ht
  · cases t with
    | deref => exact .inr lexeme
    | _ => cases ht

/-- The text of a form starts with its bracket or its mark, and is read as the form. -/
theorem exists_text_of_item {f : Sexpr} (H : Cut .start cs ts q []) (hi : Items ts ds)
    (hd : d ∈ nodesIn ds) (hp : d.start? = some p) (hf : d.toSexpr locate = .ok f) :
    ∃ before c after, cs = before ++ c :: after ∧ (c = '(' ∨ c = '@') ∧
      p = Position.start.advance before ∧
      ∃ l, l <+: c :: after ∧ read (String.ofList l) = .ok f.unlocated := by
  obtain ⟨us, mid, vs, rfl, hmid⟩ := hi.exists_segment hd
  obtain ⟨token, mid, rfl, htoken⟩ := hmid.first_of_start? hp
  obtain ⟨t, l, after, H₁, hfirst, ht, H₂⟩ := H.at_token
  obtain ⟨_, rest, H₃, -⟩ := H₂.split
  obtain ⟨before, rfl, hposition⟩ := H₁.advance_eq
  have segment : Cut p (l ++ after) ((t.token? l).toList.map (p, ·) ++ mid) _ rest :=
    .take hfirst H₃
  rw [ht] at segment
  obtain ⟨own, hown, -⟩ := segment.advance_eq
  have whole : readAll (String.ofList own) = .ok ([f].map unlocated) :=
    readAll_of_cut (hown ▸ segment) hmid (by rw [itemsToSexprs, hf]; rfl)
  have single : read (String.ofList own) = .ok f.unlocated := by
    rw [read, whole]
    rfl
  have inside : own <+: l ++ after := ⟨rest, hown.symm⟩
  rcases hfirst.eq_of_start ht htoken with rfl | rfl
  · exact ⟨before, '(', after, rfl, .inl rfl, hposition, own, inside, single⟩
  · exact ⟨before, '@', after, rfl, .inr rfl, hposition, own, inside, single⟩

/-- Forms have the locations of the round brackets and marks that they were written with, each its
own, and can be read again from there. Apart from locations, texts are read alike with and without
them, and fail alike. -/
theorem readAll_located (src : String) (file : Option String) :
    (∀ es, readAll src file true = .ok es →
      (∀ f ∈ formsIn es, ∃ before c after, src.toList = before ++ c :: after ∧
        (c = '(' ∨ c = '@') ∧
        f.location? = some ⟨(Position.start.advance before).line, file,
          some (Position.start.advance before).column⟩ ∧
        ∃ l, l <+: c :: after ∧ read (String.ofList l) = .ok f.unlocated) ∧
      ((formsIn es).map location?).Nodup) ∧
    ∀ file', readAll src file' false = (readAll src file true).map (List.map unlocated) := by
  refine ⟨fun es hes => ?_, fun file' => readAll_unlocated src file true⟩
  obtain ⟨ds, ⟨ts, q, H, hi⟩, hes⟩ := exists_notates_of_readAll hes
  constructor
  · intro f hf
    obtain ⟨d, hd, p, hp, hv, hlocation⟩ := exists_item_of_mem_forms hes hf
    obtain ⟨before, c, after, hsrc, hc, rfl, own⟩ := exists_text_of_item H hi hd hp hv
    exact ⟨before, c, after, hsrc, hc, hlocation, own⟩
  · refine nodup_locations hes ?_ (locateIn_injective file)
    refine List.nodup_iff_count.mpr fun p => (hi.count_start?_le p).trans ?_
    exact List.nodup_iff_count.mp H.nodup_positions p

/-- A form in the short notation, inside another one on the second line. -/
theorem readAll_located_deref :
    let x := Sexpr.form [.symbol "deref", .symbol "x"] (some ⟨2, none, some 5⟩)
    let es := [Sexpr.seq .list [.keyword "k", .form [.symbol "f", x] (some ⟨2, none, some 2⟩)]]
    readAll "[:k\n,(f @x)]" none true = .ok es ∧ ((formsIn es).map location?).Nodup ∧
      ∃ before c after, "[:k\n,(f @x)]".toList = before ++ c :: after ∧ (c = '(' ∨ c = '@') ∧
        x.location? = some ⟨(Position.start.advance before).line, none,
          some (Position.start.advance before).column⟩ ∧
        ∃ l, l <+: c :: after ∧ read (String.ofList l) = .ok x.unlocated := by
  intro x es
  have hes : readAll "[:k\n,(f @x)]" none true = .ok es := rfl
  obtain ⟨located, distinct⟩ := (readAll_located "[:k\n,(f @x)]" none).1 es hes
  have inside : x ∈ formsIn es := by simp [es, x, formsIn, forms]
  exact ⟨hes, distinct, located x inside⟩

end SexprShell.Source
