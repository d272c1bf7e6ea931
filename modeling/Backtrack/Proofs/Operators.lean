import Backtrack.Pattern.Operand

/-!
# Bracketing the pattern operators

`a + b` is an open sequence of the parts of `a` and of `b`, where the parts of an open
sequence are its children and the parts of any other pattern are the pattern itself. Taking
parts turns `+` into concatenation, so however a row of operands is bracketed, the parts of the
result are the parts of the operands in order, and the result is one open sequence of them.
The same holds for `<|>` with open choices.

An explicit sequence, a sequence with a separator, a suppressed sequence and a choice are
their own only part, so `+` keeps them nested: a sequence gives back pieces only of its own
steps, and splicing a closed one would change what it matches. A pattern that is not an open
sequence repeated by `* n` is the sum of `n` copies of it.

Main statement: `operators_splice`.
-/

namespace Backtrack

/-- A bracketing of a row of operands under one binary operator: a single operand, or two
bracketed rows joined. -/
inductive Bracketing (α : Type) where
  | leaf (x : α)
  | join (l r : Bracketing α)

namespace Bracketing

variable {α β γ : Type}

/-- The operands, left to right. -/
def operands : Bracketing α → List α
  | leaf x => [x]
  | join l r => l.operands ++ r.operands

/-- The value of the bracketed row, with `f` giving the value of an operand and `op` joining
two values. -/
def fold (op : β → β → β) (f : α → β) : Bracketing α → β
  | leaf x => f x
  | join l r => op (l.fold op f) (r.fold op f)

@[simp] theorem operands_leaf (x : α) : (leaf x).operands = [x] := rfl

@[simp] theorem operands_join (l r : Bracketing α) : (join l r).operands = l.operands ++ r.operands := rfl

@[simp] theorem fold_leaf (op : β → β → β) (f : α → β) (x : α) : (leaf x).fold op f = f x := rfl

@[simp] theorem fold_join (op : β → β → β) (f : α → β) (l r : Bracketing α) :
    (join l r).fold op f = op (l.fold op f) (r.fold op f) := rfl

/-- A row of two or more operands is a join. -/
theorem eq_join_of_two_le {t : Bracketing α} (h : 2 ≤ t.operands.length) : ∃ l r, t = join l r := by
  cases t with
  | leaf x => simp at h
  | join l r => exact ⟨l, r, rfl⟩

/-- When `parts` turns `op` into concatenation, the parts of a bracketed row are the parts of
its operands in order, whatever the bracketing. -/
theorem parts_fold {op : β → β → β} {parts : β → List γ} (hop : ∀ a b, parts (op a b) = parts a ++ parts b)
    (f : α → β) (t : Bracketing α) : parts (t.fold op f) = (t.operands.map f).flatMap parts := by
  induction t with
  | leaf x => simp
  | join l r ihl ihr => simp [hop, ihl, ihr]

end Bracketing

namespace Pattern

/-! ### Parts -/

/-- A pattern that is not an open sequence is its own only part. -/
theorem sequenceParts_of_not_isOpenSequence {p : Pattern} (h : p.isOpenSequence = false) :
    p.sequenceParts = [p] := by
  unfold sequenceParts
  split
  · simp [isOpenSequence] at h
  · rfl

theorem choiceParts_orElse (a b : Pattern) : (orElse a b).choiceParts = a.choiceParts ++ b.choiceParts := rfl

/-! ### Every bracketing gives one node -/

variable {α : Type} (f : α → Pattern) (l r : Bracketing α)

/-- A bracketed sum of two or more operands is one open sequence of their parts. -/
theorem fold_append_join :
    (Bracketing.join l r).fold (· + ·) f =
      mk (.sequence (((Bracketing.join l r).operands.map f).flatMap sequenceParts) none true) false := by
  have hl := Bracketing.parts_fold sequenceParts_append f l
  have hr := Bracketing.parts_fold sequenceParts_append f r
  show append (l.fold (· + ·) f) (r.fold (· + ·) f) = _
  simp only [append, hl, hr, Bracketing.operands_join, List.map_append, List.flatMap_append]
  rfl

/-- A bracketed choice of two or more operands is one open choice of their alternatives. -/
theorem fold_orElse_join :
    (Bracketing.join l r).fold orElse f =
      mk (.choice (((Bracketing.join l r).operands.map f).flatMap choiceParts) true) false := by
  have hl := Bracketing.parts_fold choiceParts_orElse f l
  have hr := Bracketing.parts_fold choiceParts_orElse f r
  simp only [Bracketing.fold_join, orElse, hl, hr, Bracketing.operands_join, List.map_append,
    List.flatMap_append]
  rfl

/-- Every bracketing of `n ≥ 2` copies of a pattern that is not an open sequence adds up to the
pattern times `n`. -/
theorem fold_append_replicate {p : Pattern} (hp : p.isOpenSequence = false) {n : Nat} (hn : 2 ≤ n)
    {t : Bracketing Pattern} (ht : t.operands = List.replicate n p) : t.fold (· + ·) id = p * n := by
  obtain ⟨l, r, rfl⟩ := Bracketing.eq_join_of_two_le (by rw [ht, List.length_replicate]; exact hn)
  rw [fold_append_join, ht, List.map_id, List.flatMap_replicate, sequenceParts_of_not_isOpenSequence hp,
    List.flatten_replicate_singleton]
  rfl

/-- An explicit sequence of one pattern takes the parts of that pattern as its children. -/
theorem sequence_single (p : Pattern) : sequence [p] = mk (.sequence p.sequenceParts none false) false := rfl

end Pattern

open Pattern

/-- However a row of two or more operands (patterns, text, grammars) is bracketed, `+` builds
one unsuppressed open sequence whose children are the parts of the operands in order, and
`<|>` one open choice of their alternatives; an explicit sequence of one pattern takes its
parts; and a pattern that is not an open sequence, times `n ≥ 2`, is every bracketed sum of
`n` copies of it. -/
theorem operators_splice :
    (∀ l r : Bracketing Operand, (Bracketing.join l r).fold (· + ·) Operand.toPattern =
      mk (.sequence (((Bracketing.join l r).operands.map Operand.toPattern).flatMap sequenceParts) none true) false) ∧
    (∀ l r : Bracketing Operand, (Bracketing.join l r).fold orElse Operand.toPattern =
      mk (.choice (((Bracketing.join l r).operands.map Operand.toPattern).flatMap choiceParts) true) false) ∧
    (∀ p : Pattern, sequence [p] = mk (.sequence p.sequenceParts none false) false) ∧
    (∀ p : Pattern, p.isOpenSequence = false → ∀ n, 2 ≤ n →
      ∀ t : Bracketing Pattern, t.operands = List.replicate n p → p * n = t.fold (· + ·) id) :=
  ⟨fold_append_join Operand.toPattern, fold_orElse_join Operand.toPattern, sequence_single,
    fun _ hp _ hn _ ht ↦ (fold_append_replicate hp hn ht).symm⟩

/-- Three copies of a literal: `"ab" * 3` is `"ab" + "ab" + "ab"`. -/
theorem literal_times_three :
    (literal "ab").isOpenSequence = false ∧ 2 ≤ 3 ∧
      literal "ab" * 3 = literal "ab" + literal "ab" + literal "ab" :=
  ⟨rfl, by decide, operators_splice.2.2.2 (literal "ab") rfl 3 (by decide)
    (.join (.join (.leaf _) (.leaf _)) (.leaf _)) rfl⟩

end Backtrack
