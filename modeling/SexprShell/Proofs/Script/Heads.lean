import SexprShell.Proofs.Script.EntryPoints

/-!
# Heads with a point

A symbol that begins with a point calls a method if an identifier follows, and is a command
otherwise: no word for a special form and no operator begins with a point.
-/

namespace SexprShell.Script

variable {m : String}

theorem Special.lookup_point (m : String) : table.lookup ("." ++ m) = none := by
  have words : ∀ p ∈ table, p.1.toList.head? ≠ some '.' := by decide
  rw [List.lookup_eq_none_iff]
  intro p hp
  rw [bne_iff_ne]
  intro heq
  apply words p hp
  rw [← heq]
  simp

theorem Special.dotted?_point (m : String) :
    dotted? ("." ++ m) = if Text.isIdentifier m then some m else none := by
  have point : ("." ++ m).toList = '.' :: m.toList := by simp
  rw [dotted?, point]
  simp

/-- The head of a call of a method. -/
theorem Special.ofSymbol?_method (h : Text.isIdentifier m = true) :
    ofSymbol? ("." ++ m) = some (.dotted m) := by
  rw [ofSymbol?, lookup_point, dotted?_point, if_pos h]
  rfl

theorem Special.ofSymbol?_path (h : Text.isIdentifier m = false) :
    ofSymbol? ("." ++ m) = none := by
  rw [ofSymbol?, lookup_point, dotted?_point, h]
  rfl

theorem Operator.isInfix_point (m : String) : isInfix ("." ++ m) = false := by
  have words : ∀ op ∈ arithmetic ++ comparisons ++ connectives, op.toList.head? ≠ some '.' := by
    decide
  rw [Bool.eq_false_iff]
  intro h
  refine words ("." ++ m) ?_ (by simp)
  simpa [isInfix, or_assoc] using h

end SexprShell.Script
