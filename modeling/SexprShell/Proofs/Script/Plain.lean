import SexprShell.Proofs.Source.Numeral
import SexprShell.Proofs.Script.Provenance

/-!
# Plain texts

Numerals, operators and the words of the script language are made of ASCII characters other than
brackets, double quotes and line feeds. So is the text of every literal that is no text and no name
itself (`literal_plain`), and what special forms carry with them (`Special.carried_plain`).
-/

namespace SexprShell.Script

open Number

/-- The brackets and the double quote. -/
def isMark (c : Char) : Bool := ['(', ')', '[', ']', '{', '}', '"'].contains c

/-- The ASCII characters on one line that are no marks. -/
def isPlain (c : Char) : Bool := decide (c.toNat < 128) && !isMark c && c != '\n'

/-- A text of plain characters. -/
def Plain (s : String) : Prop := ∀ c ∈ s.toList, isPlain c

instance (s : String) : Decidable (Plain s) := List.decidableBAll _ s.toList

variable {s : String} {cs : List Char} {c : Char}

theorem plain_ofList (h : ∀ c ∈ cs, isPlain c) : Plain (String.ofList cs) := by
  rwa [Plain, String.toList_ofList]

theorem ascii_of_isPlain (h : isPlain c) : c.toNat < 128 := by
  simp only [isPlain, Bool.and_eq_true, decide_eq_true_eq] at h
  exact h.1.1

theorem not_mark_of_isPlain (h : isPlain c) : isMark c = false := by
  simp only [isPlain, Bool.and_eq_true, Bool.not_eq_true'] at h
  exact h.1.2

/-! ## Numerals -/

theorem isPlain_of_isDigit (h : c.isDigit) : isPlain c := by
  have mark : isMark c = false := by
    rw [isMark, Bool.eq_false_iff]
    intro hc
    rw [List.contains_iff_mem] at hc
    simp only [List.mem_cons, List.not_mem_nil, or_false] at hc
    rcases hc with rfl | rfl | rfl | rfl | rfl | rfl | rfl <;> cases h
  have newline : (c != '\n') = true := by
    rw [bne_iff_ne]
    rintro rfl
    cases h
  have ascii : c.toNat < 128 := by
    simp only [Char.isDigit, Bool.and_eq_true, decide_eq_true_eq] at h
    exact Nat.lt_of_le_of_lt (UInt32.le_iff_toNat_le.mp h.2) (by decide)
  simp [isPlain, mark, newline, ascii]

theorem isPlain_toDigits {n : Nat} : ∀ c ∈ Nat.toDigits 10 n, isPlain c :=
  fun _ hc => isPlain_of_isDigit (Source.isDigit_of_mem_toDigits hc)

theorem plain_toString_nat (n : Nat) : Plain (toString n) := by
  have digits : (toString n).toList = Nat.toDigits 10 n := Nat.toList_repr
  rw [Plain, digits]
  exact isPlain_toDigits

theorem plain_toString_int (n : Int) : Plain (toString n) := by
  rw [Plain]
  obtain ⟨m, -, h⟩ | ⟨m, -, h⟩ := Source.toList_toString_int n
  · rw [h]
    exact isPlain_toDigits
  · rw [h]
    exact List.forall_mem_cons.mpr ⟨rfl, isPlain_toDigits⟩

theorem isPlain_replicate {n : Nat} : ∀ c ∈ List.replicate n '0', isPlain c := by
  intro c hc
  rw [(List.mem_replicate.mp hc).2]
  rfl

/-- Digits stay plain when a point and an exponent are put to them. -/
theorem isPlain_scientific (h : ∀ c ∈ cs, isPlain c) (e : Int) :
    ∀ c ∈ scientific cs e, isPlain c := by
  have fraction : ∀ c ∈ if cs.length ≤ 1 then [] else '.' :: cs.drop 1, isPlain c := by
    split
    · exact List.forall_mem_nil _
    · exact List.forall_mem_cons.mpr ⟨rfl, fun c hc => h c (List.mem_of_mem_drop hc)⟩
  have sign : isPlain (if e < 0 then '-' else '+') := by
    split <;> rfl
  simp only [scientific, List.forall_mem_append, List.forall_mem_cons]
  exact ⟨⟨⟨fun c hc => h c (List.mem_of_mem_take hc), fraction⟩, rfl, sign, isPlain_replicate⟩,
    isPlain_toDigits⟩

theorem isPlain_positional (h : ∀ c ∈ cs, isPlain c) (point : Int) :
    ∀ c ∈ positional cs point, isPlain c := by
  unfold positional
  split
  · simp only [List.cons_append, List.forall_mem_append, List.forall_mem_cons]
    exact ⟨rfl, rfl, isPlain_replicate, h⟩
  · simp only [List.forall_mem_append, List.forall_mem_cons]
    refine ⟨⟨fun c hc => h c (List.mem_of_mem_take hc), isPlain_replicate⟩, rfl, ?_⟩
    split
    · exact List.forall_mem_cons.mpr ⟨rfl, List.forall_mem_nil _⟩
    · exact fun c hc => h c (List.mem_of_mem_drop hc)

theorem isPlain_layout (k e : Int) : ∀ c ∈ layout k e, isPlain c := by
  have digits : ∀ c ∈ ((Nat.toDigits 10 k.natAbs).reverse.dropWhile (· == '0')).reverse,
      isPlain c := by
    intro c hc
    have hc := (List.dropWhile_sublist _).subset (List.mem_reverse.mp hc)
    exact isPlain_toDigits c (List.mem_reverse.mp hc)
  unfold layout
  simp only
  split
  · exact isPlain_scientific digits _
  · exact isPlain_positional digits _

theorem plain_toText : ∀ d : Double, Plain d.toText
  | .finite q => by
    simp only [Double.toText]
    split
    · decide
    · apply plain_ofList
      split
      · exact List.forall_mem_cons.mpr ⟨rfl, isPlain_layout _ _⟩
      · exact isPlain_layout _ _
  | .negativeZero | .infinite true | .infinite false | .nan => by decide

theorem plain_singleText (d : Double) : Plain (singleText d) := by
  unfold singleText
  split
  · split
    · exact plain_toText _
    · split <;> exact plain_toText _
  · exact plain_toText _

/-! ## Literals -/

/-- A literal is written as its own characters, or plainly. -/
theorem literal_plain {e : Sexpr} (h : literal e = .ok s) : e.spelling? = some s ∨ Plain s := by
  cases e with
  | text x | name kind x => exact .inl (congrArg some (Except.ok.inj h))
  | nil => cases h; exact .inr (by decide)
  | bool b => cases h; cases b <;> exact .inr (by decide)
  | int n => cases h; exact .inr (plain_toString_int n)
  | float d => cases h; exact .inr (plain_toText d)
  | ratio q =>
    simp only [literal] at h
    split at h
    · next x hx =>
      obtain ⟨d, _, rfl⟩ := Option.map_eq_some_iff.mp hx
      cases h
      exact .inr (plain_singleText _)
    · cases h
  | seq kind items => cases kind <;> cases h
  | map | form | foreign => cases h

/-! ## Operators -/

theorem plain_spelled {op : String} (h : Operator.isInfix op) : Plain (Operator.spelled op) := by
  have known : op ∈ Operator.arithmetic ++ Operator.comparisons ++ Operator.connectives := by
    simpa [Operator.isInfix, or_assoc] using h
  have all : ∀ op ∈ Operator.arithmetic ++ Operator.comparisons ++ Operator.connectives,
      Plain (Operator.spelled op) := by decide
  exact all op known

/-- The mark of an option is plain. -/
theorem chosenOption?_plain {pairs : List (Sexpr × Sexpr)} {mark : String} {value : Sexpr}
    (h : chosenOption? pairs = some (mark, value)) : Plain mark := by
  obtain ⟨o, ho, h⟩ := List.exists_of_findSome?_eq_some h
  obtain ⟨v, _, h⟩ := Option.map_eq_some_iff.mp h
  have all : ∀ o ∈ expansionOptions, Plain o.2 := by decide
  cases h
  exact all o ho

/-- The text that a special form carries with it: a flag or an operator. -/
def Special.carried : Special → String
  | .fileTest flag => flag
  | .chain op => op
  | _ => ""

theorem Special.carried_plain {special : Special} (h : ofSymbol? s = some special) :
    Plain special.carried := by
  rcases Option.or_eq_some_iff.mp h with h | ⟨_, h⟩
  · obtain ⟨_, _, heq, _⟩ := List.lookup_eq_some_iff.mp h
    have words : ∀ p ∈ table, Plain p.2.carried := by decide
    exact words (s, special) (heq ▸ by simp)
  · obtain ⟨_, _, rfl⟩ := Option.map_eq_some_iff.mp h
    exact plain_ofList (List.forall_mem_nil _)

/-! ## Declarations -/

/-- A property of plain texts and line feeds that texts keep when they are joined and quoted. -/
structure TextProperty (P : String → Prop) : Prop where
  plain {s : String} : Plain s → P s
  newline : P "\n"
  append {s t : String} : P s → P t → P (s ++ t)
  quoted {s : String} : P s → P (doubleQuoted s)
  parsing : P flagParsing

namespace TextProperty

variable {P : String → Prop} (hP : TextProperty P) {doc : Sexpr} {flags : List FlagSpec}
include hP

theorem field {e : Sexpr} (he : ∀ x, e.spelling? = some x → P x)
    (h : FlagSpec.field e = .ok s) : P s := by
  unfold FlagSpec.field at h
  split at h
  · cases h
    exact hP.plain (by decide)
  · exact (literal_plain h).elim (he s) hP.plain

theorem declaration {f : FlagSpec} (hf : ∀ e ∈ f.fields, ∀ x, e.spelling? = some x → P x)
    (h : f.declaration = .ok s) : P s := by
  simp only [FlagSpec.declaration, bind_ok_iff] at h
  obtain ⟨long, hl, default, hd, doc, hdoc, short, hs, type, ht, h⟩ := h
  cases h
  simp only [FlagSpec.fields, List.forall_mem_cons] at hf
  obtain ⟨hlong, hdefault, hdocs, hshort, htype, -⟩ := hf
  have gap : P " " := hP.plain (by decide)
  have spaced : ∀ {x y : String}, P x → P y → P (x ++ " " ++ y) := fun hx hy =>
    hP.append (hP.append hx gap) hy
  have fields : P (" ".intercalate [doubleQuoted long, doubleQuoted default, doubleQuoted doc,
      doubleQuoted short]) := by
    simp only [String.intercalate_cons_cons, String.intercalate_singleton]
    exact spaced (hP.quoted (hP.field hlong hl)) (spaced (hP.quoted (hP.field hdefault hd))
      (spaced (hP.quoted (hP.field hdocs hdoc)) (hP.quoted (hP.field hshort hs))))
  exact hP.append (hP.append (hP.append (hP.append (hP.plain (by decide)) (hP.field htype ht)) gap)
    fields) hP.newline

theorem join {ss : List String} (h : ∀ s ∈ ss, P s) : P (String.join ss) := by
  induction ss with
  | nil => exact hP.plain (by decide)
  | cons s ss ih =>
    rw [String.join_cons]
    exact hP.append (h s List.mem_cons_self) (ih fun t ht => h t (List.mem_cons_of_mem _ ht))

theorem mapM_declaration {ss : List String}
    (hf : ∀ f ∈ flags, ∀ e ∈ f.fields, ∀ x, e.spelling? = some x → P x)
    (h : flags.mapM FlagSpec.declaration = .ok ss) : ∀ s ∈ ss, P s := by
  induction flags generalizing ss with
  | nil =>
    cases h
    exact List.forall_mem_nil _
  | cons f flags ih =>
    simp only [List.mapM_cons, bind_ok_iff] at h
    obtain ⟨s, hs, ss', hss, h⟩ := h
    cases h
    rw [List.forall_mem_cons] at hf ⊢
    exact ⟨hP.declaration hf.1 hs, ih hf.2 hss⟩

/-- The declarations of a function have a property if its help text and the fields of its flags
do. -/
theorem declarations (hdoc : ∀ x, doc.spelling? = some x → P x)
    (hf : ∀ f ∈ flags, ∀ e ∈ f.fields, ∀ x, e.spelling? = some x → P x)
    (h : Script.declarations doc flags = .ok s) : P s := by
  have helped : ∃ help, P help ∧ (do
      let declared ← flags.mapM FlagSpec.declaration
      .ok (help ++ String.join declared ++ if flags.isEmpty then "" else flagParsing)) =
        (.ok s : Outcome) := by
    cases doc with
    | nil => exact ⟨"", hP.plain (by decide), h⟩
    | text x =>
      refine ⟨"FLAGS_HELP=" ++ doubleQuoted x ++ "\n", ?_, h⟩
      exact hP.append (hP.append (hP.plain (by decide)) (hP.quoted (hdoc x rfl))) hP.newline
    | _ => cases h
  obtain ⟨help, hhelp, h⟩ := helped
  obtain ⟨ss, hss, h⟩ := bind_ok_iff.mp h
  cases h
  refine hP.append (hP.append hhelp (hP.join (hP.mapM_declaration hf hss))) ?_
  split
  · exact hP.plain (by decide)
  · exact hP.parsing

end TextProperty

end SexprShell.Script
