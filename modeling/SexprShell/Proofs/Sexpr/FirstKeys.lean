import Mathlib.Data.List.Induction
import Mathlib.Data.Set.Card
import SexprShell.Proofs.Sexpr.Equivalence

/-!
# First keys and last values

A mapping that is built from pairs has the keys that equal no earlier one (`keys_insertAll`), and
under each of them the value of the last pair whose key equals it (`lastUnder_insertAll`). There are
as many entries as classes of equal keys (`Represents.length_eq`).
-/

namespace SexprShell.Sexpr

variable {k k' v : Sexpr} {before given keys : List Sexpr} {entries pairs : List (Sexpr × Sexpr)}

/-! ## What can be a key -/

/-- Neither a list, nor a mapping, nor the value that is no number; and of a known type. -/
def KeyPart : Sexpr → Prop
  | seq .list _ | map _ | float .nan | foreign _ => False
  | _ => True

theorem KeyPart.proper (h : k.KeyPart) : k.Proper := by
  cases k with
  | float d =>
    rintro rfl
    exact h
  | map | foreign => exact h.elim
  | _ => trivial

theorem unhashableIn?_eq_none (h : ∀ x ∈ given, x.unhashable? = none) :
    unhashableIn? given = none := by
  induction given with
  | nil => rfl
  | cons x xs ih =>
    obtain ⟨hx, hxs⟩ := List.forall_mem_cons.mp h
    rw [unhashableIn?, hx, ih hxs]
    rfl

theorem Everywhere.hashable (h : k.Everywhere KeyPart) : k.unhashable? = none := by
  induction k using parts_induction with
  | step k ih =>
    have part : ∀ x ∈ k.parts, x.unhashable? = none := fun x hx => ih x hx (h.part hx)
    have here := h.here
    cases k with
    | seq kind xs =>
      cases kind with
      | list => exact here.elim
      | tuple => exact unhashableIn?_eq_none part
    | form xs => exact unhashableIn?_eq_none part
    | map | foreign => exact here.elim
    | _ => rfl

theorem Everywhere.isKey (h : k.Everywhere KeyPart) : k.IsKey := by
  have proper : k.Everywhere Proper := fun x hx => (h x hx).proper
  obtain ⟨i, hi, -⟩ := (same_iff h.hashable).mp proper.same_self
  exact ⟨h.hashable, i, hi⟩

/-! ## Keys of a mapping that is built -/

/-- The keys of a mapping that has been given values under other keys: no two are equal, every given
key is equal to one of them, and each is the first that was given of those equal to it. -/
structure Represents (keys given : List Sexpr) : Prop where
  distinct : keys.Pairwise fun a b => a.same b = false
  covers : ∀ g ∈ given, ∃ k ∈ keys, k.same g
  first : ∀ k ∈ keys, ∃ earlier later, given = earlier ++ k :: later ∧
    ∀ g ∈ earlier, g.same k = false

theorem Represents.known (H : Represents keys given) (hk : ∃ k' ∈ keys, k'.same k) :
    Represents keys (given ++ [k]) where
  distinct := H.distinct
  covers := by
    intro g hg
    rcases List.mem_append.mp hg with hg | hg
    · exact H.covers g hg
    · cases List.mem_singleton.mp hg
      exact hk
  first := by
    intro k' hk'
    obtain ⟨earlier, later, rfl, hearlier⟩ := H.first k' hk'
    exact ⟨earlier, later ++ [k], by simp, hearlier⟩

theorem Represents.new (H : Represents keys given) (hk : k.IsKey)
    (hnew : ∀ k' ∈ keys, k'.same k = false) : Represents (keys ++ [k]) (given ++ [k]) where
  distinct := by
    rw [List.pairwise_append]
    refine ⟨H.distinct, List.pairwise_singleton _ _, fun a ha b hb => ?_⟩
    cases List.mem_singleton.mp hb
    exact hnew a ha
  covers := by
    intro g hg
    rcases List.mem_append.mp hg with hg | hg
    · obtain ⟨k', hk', hsame⟩ := H.covers g hg
      exact ⟨k', List.mem_append_left _ hk', hsame⟩
    · cases List.mem_singleton.mp hg
      exact ⟨k, List.mem_append_right _ List.mem_cons_self, hk.same_self⟩
  first := by
    intro k' hk'
    rcases List.mem_append.mp hk' with hk' | hk'
    · obtain ⟨earlier, later, rfl, hearlier⟩ := H.first k' hk'
      exact ⟨earlier, later ++ [k], by simp, hearlier⟩
    · cases List.mem_singleton.mp hk'
      refine ⟨given, [], rfl, fun g hg => ?_⟩
      -- A given key equal to the new one would be equal to a key that is there.
      obtain ⟨k', hk', hsame⟩ := H.covers g hg
      cases hgk : g.same k with
      | false => rfl
      | true => rw [← hnew k' hk', same_trans hsame hgk]

/-- Setting a value leaves the keys as they are, or adds the key behind them. -/
theorem keys_insert (k v : Sexpr) : ∀ entries : List (Sexpr × Sexpr),
    ((∃ k' ∈ entries.map Prod.fst, k'.same k) ∧
      (insert k v entries).map Prod.fst = entries.map Prod.fst) ∨
    ((∀ k' ∈ entries.map Prod.fst, k'.same k = false) ∧
      (insert k v entries).map Prod.fst = entries.map Prod.fst ++ [k])
  | [] => .inr ⟨List.forall_mem_nil _, rfl⟩
  | (k', w) :: entries => by
    rw [insert]
    cases hk : k'.same k with
    | true => exact .inl ⟨⟨k', List.mem_cons_self, hk⟩, rfl⟩
    | false =>
      rw [if_neg Bool.false_ne_true, List.map_cons, List.map_cons]
      rcases keys_insert k v entries with ⟨⟨a, ha, hsame⟩, heq⟩ | ⟨hnew, heq⟩
      · exact .inl ⟨⟨a, List.mem_cons_of_mem _ ha, hsame⟩, by rw [heq]⟩
      · exact .inr ⟨List.forall_mem_cons.mpr ⟨hk, hnew⟩, by rw [heq, List.cons_append]⟩

theorem insertAll_concat (p : Sexpr × Sexpr) :
    insertAll entries (pairs ++ [p]) = insert p.1 p.2 (insertAll entries pairs) := by
  rw [insertAll, List.foldl_append]
  rfl

theorem represents_insertAll (hpairs : ∀ p ∈ pairs, p.1.IsKey) :
    Represents ((insertAll [] pairs).map Prod.fst) (pairs.map Prod.fst) := by
  induction pairs using List.reverseRecOn with
  | nil => exact ⟨.nil, List.forall_mem_nil _, List.forall_mem_nil _⟩
  | append_singleton pairs p ih =>
    have before : ∀ q ∈ pairs, q.1.IsKey := fun q hq => hpairs q (List.mem_append_left _ hq)
    have H := ih before
    rw [insertAll_concat, List.map_append]
    rcases keys_insert p.1 p.2 (insertAll [] pairs) with ⟨hknown, heq⟩ | ⟨hnew, heq⟩
    · rw [heq]
      exact H.known hknown
    · rw [heq]
      exact H.new (hpairs p (by simp)) hnew

/-- Two given keys are each equal to a key of their own. -/
def Apart (keys : List Sexpr) (k k' : Sexpr) : Prop :=
  ∃ (i j : Nat) (hi : i < keys.length) (hj : j < keys.length), i ≠ j ∧
    keys[i].same k ∧ keys[j].same k'

theorem Represents.mem_given (H : Represents keys given) (hk : k ∈ keys) : k ∈ given := by
  obtain ⟨earlier, later, rfl, -⟩ := H.first k hk
  simp

theorem Represents.isKey (H : Represents keys given) (hgiven : ∀ g ∈ given, g.IsKey)
    (hk : k ∈ keys) : k.IsKey :=
  hgiven k (H.mem_given hk)

/-- A key has one place only. -/
theorem Represents.index_unique (H : Represents keys given) (hgiven : ∀ g ∈ given, g.IsKey)
    {i j : Nat} (hi : i < keys.length) (hj : j < keys.length) (h : keys[i].same keys[j]) :
    i = j := by
  have distinct := List.pairwise_iff_getElem.mp H.distinct
  rcases Nat.lt_trichotomy i j with hij | hij | hij
  · rw [distinct i j hi hj hij] at h
    cases h
  · exact hij
  · rw [(H.isKey hgiven (List.getElem_mem hi)).same_comm (H.isKey hgiven (List.getElem_mem hj)),
      distinct j i hj hi hij] at h
    cases h

/-- Given keys are kept apart exactly if they are not equal. -/
theorem Represents.apart_iff (H : Represents keys given) (hgiven : ∀ g ∈ given, g.IsKey)
    (hk : k ∈ given) (hk' : k' ∈ given) : Apart keys k k' ↔ k.same k' = false := by
  have isKey := hgiven k hk
  have isKey' := hgiven k' hk'
  constructor
  · rintro ⟨i, j, hi, hj, hne, hik, hjk'⟩
    have isKeyⱼ := H.isKey hgiven (List.getElem_mem hj)
    cases hsame : k.same k' with
    | false => rfl
    | true =>
      rw [isKeyⱼ.same_comm isKey'] at hjk'
      have between := same_trans (same_trans hik hsame) hjk'
      exact absurd (H.index_unique hgiven hi hj between) hne
  · intro hsame
    obtain ⟨a, ha, hak⟩ := H.covers k hk
    obtain ⟨b, hb, hbk'⟩ := H.covers k' hk'
    obtain ⟨i, hi, rfl⟩ := List.getElem_of_mem ha
    obtain ⟨j, hj, rfl⟩ := List.getElem_of_mem hb
    refine ⟨i, j, hi, hj, ?_, hak, hbk'⟩
    rintro rfl
    have isKeyᵢ := H.isKey hgiven ha
    rw [isKeyᵢ.same_comm isKey] at hak
    rw [same_trans hak hbk'] at hsame
    cases hsame

/-! ## First keys -/

/-- The keys that equal none before them, in order. -/
def newKeys (before : List Sexpr) : List Sexpr → List Sexpr
  | [] => []
  | k :: ks =>
    if before.any (·.same k) then newKeys (before ++ [k]) ks
    else k :: newKeys (before ++ [k]) ks

theorem newKeys_concat (k : Sexpr) : newKeys before (keys ++ [k]) =
    newKeys before keys ++ if (before ++ keys).any (·.same k) then [] else [k] := by
  induction keys generalizing before with
  | nil => simp [newKeys]
  | cons a keys ih =>
    simp only [List.cons_append, newKeys, ih, List.append_assoc]
    split <;> rfl

/-- A key equals one that is kept exactly if it equals one that was given. -/
theorem Represents.exists_same_iff (H : Represents keys given) :
    (∃ a ∈ keys, a.same k) ↔ ∃ g ∈ given, g.same k := by
  constructor
  · rintro ⟨a, ha, hak⟩
    exact ⟨a, H.mem_given ha, hak⟩
  · rintro ⟨g, hg, hgk⟩
    obtain ⟨a, ha, hag⟩ := H.covers g hg
    exact ⟨a, ha, same_trans hag hgk⟩

theorem keys_insertAll (hpairs : ∀ p ∈ pairs, p.1.IsKey) :
    (insertAll [] pairs).map Prod.fst = newKeys [] (pairs.map Prod.fst) := by
  induction pairs using List.reverseRecOn with
  | nil => rfl
  | append_singleton pairs p ih =>
    have before : ∀ q ∈ pairs, q.1.IsKey := fun q hq => hpairs q (List.mem_append_left _ hq)
    have known := (represents_insertAll before).exists_same_iff (k := p.1)
    rw [insertAll_concat, List.map_append, List.map_singleton, newKeys_concat, ← ih before]
    rcases keys_insert p.1 p.2 (insertAll [] pairs) with ⟨hknown, heq⟩ | ⟨hnew, heq⟩
    · have given := List.any_eq_true.mpr (known.mp hknown)
      rw [heq, List.nil_append, if_pos given, List.append_nil]
    · have given : ¬ (pairs.map Prod.fst).any (·.same p.1) := by
        rw [List.any_eq_true, ← known]
        rintro ⟨a, ha, hsame⟩
        rw [hnew a ha] at hsame
        cases hsame
      rw [heq, List.nil_append, if_neg given]

/-! ## Last values -/

/-- A value is given under a key, and none is given behind it under an equal key. -/
def LastUnder (pairs : List (Sexpr × Sexpr)) (k v : Sexpr) : Prop :=
  ∃ earlier k' later, pairs = earlier ++ (k', v) :: later ∧ k.same k' ∧
    ∀ q ∈ later, k.same q.1 = false

theorem LastUnder.concat {p : Sexpr × Sexpr} (h : LastUnder pairs k v)
    (hp : k.same p.1 = false) : LastUnder (pairs ++ [p]) k v := by
  obtain ⟨earlier, k', later, rfl, hk, hlater⟩ := h
  refine ⟨earlier, k', later ++ [p], by simp, hk, fun q hq => ?_⟩
  rcases List.mem_append.mp hq with hq | hq
  · exact hlater q hq
  · cases List.mem_singleton.mp hq
    exact hp

/-- What is in a mapping once a value is set: the entry under an equal key, and those that were
there under other keys. -/
theorem mem_insert {e : Sexpr × Sexpr} (hk : k.IsKey)
    (hkeys : ∀ a ∈ entries, a.1.IsKey)
    (hdistinct : entries.Pairwise fun a b => a.1.same b.1 = false) (he : e ∈ insert k v entries) :
    e.1.same k ∧ e.2 = v ∨ e ∈ entries ∧ e.1.same k = false := by
  induction entries with
  | nil =>
    cases List.mem_singleton.mp he
    exact .inl ⟨hk.same_self, rfl⟩
  | cons a entries ih =>
    obtain ⟨ha, hentries⟩ := List.forall_mem_cons.mp hkeys
    obtain ⟨hother, hrest⟩ := List.pairwise_cons.mp hdistinct
    rw [insert] at he
    split at he
    · next hsame =>
      rcases List.mem_cons.mp he with rfl | he
      · exact .inl ⟨hsame, rfl⟩
      · refine .inr ⟨List.mem_cons_of_mem _ he, ?_⟩
        rw [← Bool.not_eq_true]
        intro hek
        rw [(hentries e he).same_comm hk] at hek
        have equal := same_trans hsame hek
        rw [hother e he] at equal
        cases equal
    · next hsame =>
      rcases List.mem_cons.mp he with rfl | he
      · exact .inr ⟨List.mem_cons_self, Bool.not_eq_true _ ▸ hsame⟩
      · exact (ih hentries hrest he).imp_right fun h => ⟨List.mem_cons_of_mem _ h.1, h.2⟩

theorem lastUnder_insertAll (hpairs : ∀ p ∈ pairs, p.1.IsKey) :
    ∀ e ∈ insertAll [] pairs, LastUnder pairs e.1 e.2 := by
  induction pairs using List.reverseRecOn with
  | nil => exact List.forall_mem_nil _
  | append_singleton pairs p ih =>
    intro e he
    have before : ∀ q ∈ pairs, q.1.IsKey := fun q hq => hpairs q (List.mem_append_left _ hq)
    have H := represents_insertAll before
    have isKey : ∀ a ∈ insertAll [] pairs, a.1.IsKey := fun a ha =>
      H.isKey (List.forall_mem_map.mpr before) (List.mem_map_of_mem ha)
    rw [insertAll_concat] at he
    rcases mem_insert (hpairs p (by simp)) isKey (List.pairwise_map.mp H.distinct) he with
      ⟨hsame, hvalue⟩ | ⟨hold, hother⟩
    · exact ⟨pairs, p.1, [], by rw [hvalue], hsame, List.forall_mem_nil _⟩
    · exact (ih before e hold).concat hother

/-! ## Classes of keys -/

/-- The keys among those given that equal one of them. -/
def equalTo (given : List Sexpr) (k : Sexpr) : Set Sexpr := {g | g ∈ given ∧ k.same g}

/-- The classes of equal keys. -/
def classes (given : List Sexpr) : Set (Set Sexpr) := equalTo given '' {k | k ∈ given}

theorem equalTo_eq {a b : Sexpr} (ha : a.IsKey) (hb : b.IsKey) (h : a.same b) :
    equalTo given a = equalTo given b := by
  have h' : b.same a := by rwa [← ha.same_comm hb]
  ext g
  exact and_congr_right fun _ => ⟨same_trans h', same_trans h⟩

/-- There are as many keys as classes of keys that are given. -/
theorem Represents.length_eq (H : Represents keys given) (hgiven : ∀ g ∈ given, g.IsKey) :
    keys.length = (classes given).ncard := by
  have isKey : ∀ a ∈ keys, a.IsKey := fun a => H.isKey hgiven
  have range : classes given = Set.range fun i : Fin keys.length => equalTo given keys[i] := by
    ext c
    constructor
    · rintro ⟨g, hg, rfl⟩
      obtain ⟨a, ha, hag⟩ := H.covers g hg
      obtain ⟨i, hi, rfl⟩ := List.getElem_of_mem ha
      exact ⟨⟨i, hi⟩, equalTo_eq (isKey _ ha) (hgiven g hg) hag⟩
    · rintro ⟨i, rfl⟩
      exact ⟨_, H.mem_given (List.getElem_mem i.2), rfl⟩
  have injective : Function.Injective fun i : Fin keys.length => equalTo given keys[i] := by
    intro i j hij
    have hj : keys[j] ∈ equalTo given keys[j] :=
      ⟨H.mem_given (List.getElem_mem j.2), (isKey _ (List.getElem_mem j.2)).same_self⟩
    have hi : keys[j] ∈ equalTo given keys[i] := by
      rw [show equalTo given keys[i] = equalTo given keys[j] from hij]
      exact hj
    exact Fin.ext (H.index_unique hgiven i.2 j.2 hi.2)
  rw [range, Set.ncard_range_of_injective injective, Nat.card_eq_fintype_card, Fintype.card_fin]

end SexprShell.Sexpr
