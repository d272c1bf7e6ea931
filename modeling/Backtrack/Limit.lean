import Backtrack.Word

/-!
# Length limits

How many characters a pattern can consume at most: a finite word or no limit at all.
Sums and multiples of finite limits saturate at the largest word; every finite limit lies
below the unbounded one.

Main statements: `add_comm`, `le_total` and `max_comm` say that limits add and compare as
their order promises.
-/

namespace Backtrack

/-- The most characters a match can consume: a finite word, or no limit. -/
inductive Limit where
  | finite (n : Nat)
  | unbounded
  deriving DecidableEq, Repr

namespace Limit

/-- Sum of two limits; finite sums saturate. -/
def add : Limit → Limit → Limit
  | finite a, finite b => finite (Word.satAdd a b)
  | _, _ => unbounded

instance : Add Limit := ⟨add⟩

/-- The limit of `count` repetitions; `none` is a count without ceiling, which keeps a zero
limit at zero. -/
def times : Limit → Option Nat → Limit
  | finite n, some c => finite (Word.satMul n c)
  | finite 0, none => finite 0
  | _, _ => unbounded

/-- Finite limits are ordered by size and lie below the unbounded one. -/
def le : Limit → Limit → Prop
  | finite a, finite b => a ≤ b
  | _, unbounded => True
  | unbounded, finite _ => False

instance : LE Limit := ⟨le⟩

instance decLe : (a b : Limit) → Decidable (a ≤ b)
  | finite a, finite b => inferInstanceAs (Decidable (a ≤ b))
  | finite _, unbounded => isTrue trivial
  | unbounded, unbounded => isTrue trivial
  | unbounded, finite _ => isFalse id

/-- The larger of two limits. -/
def max (a b : Limit) : Limit := if a ≤ b then b else a

/-- Three-way comparison under the order of limits. -/
def compare : Limit → Limit → Ordering
  | finite a, finite b => Ord.compare a b
  | finite _, unbounded => .lt
  | unbounded, finite _ => .gt
  | unbounded, unbounded => .eq

/-- The finite value, if any. -/
def toFinite? : Limit → Option Nat
  | finite n => some n
  | unbounded => none

/-- A number, or `Infinity`. -/
def render : Limit → String
  | finite n => toString n
  | unbounded => "Infinity"

/-- A limit from an optional maximum: no maximum is no limit. -/
def ofOption : Option Nat → Limit
  | some n => finite n
  | none => unbounded

@[simp] theorem finite_le_finite (a b : Nat) : finite a ≤ finite b ↔ a ≤ b := Iff.rfl

@[simp] theorem le_unbounded (a : Limit) : a ≤ unbounded := by
  cases a <;> exact trivial

@[simp] theorem not_unbounded_le_finite (n : Nat) : ¬ unbounded ≤ finite n := id

@[simp] theorem finite_add_finite (a b : Nat) : finite a + finite b = finite (Word.satAdd a b) := rfl

@[simp] theorem unbounded_add (a : Limit) : unbounded + a = unbounded := rfl

@[simp] theorem add_unbounded (a : Limit) : a + unbounded = unbounded := by
  cases a <;> rfl

theorem add_comm (a b : Limit) : a + b = b + a := by
  cases a <;> cases b <;> simp [Word.satAdd, Nat.add_comm]

theorem le_total (a b : Limit) : a ≤ b ∨ b ≤ a := by
  cases a <;> cases b <;> simp
  omega

theorem max_comm (a b : Limit) : max a b = max b a := by
  cases a with
  | finite a =>
    cases b with
    | finite b =>
      by_cases h : a ≤ b <;> by_cases h' : b ≤ a <;> simp [max, h, h'] <;> omega
    | unbounded => simp [max]
  | unbounded => cases b <;> simp [max]

end Limit
end Backtrack
