/-!
# Machine words

Lengths, counts and offsets are unsigned 64-bit words. Arithmetic on them comes in two
flavours: the length bounds of patterns saturate at the largest word, while a few sums and
differences wrap around modulo `2 ^ 64`, as plain word arithmetic does.

All functions take and return `Nat`; their results are words whenever their arguments are.
-/

namespace Backtrack
namespace Word

/-- How many distinct words there are. -/
def size : Nat := Nat.pow 2 64

/-- The largest word, `2 ^ 64 - 1`. -/
def top : Nat := size - 1

/-- Addition that stops at the largest word. -/
def satAdd (a b : Nat) : Nat := min (a + b) top

/-- Multiplication that stops at the largest word. -/
def satMul (a b : Nat) : Nat := min (a * b) top

/-- Addition modulo `2 ^ 64`. -/
def wrapAdd (a b : Nat) : Nat := (a + b) % size

/-- Multiplication modulo `2 ^ 64`. -/
def wrapMul (a b : Nat) : Nat := (a * b) % size

/-- Subtraction modulo `2 ^ 64`: a smaller minuend wraps to a large word. -/
def wrapSub (a b : Nat) : Nat := (a % size + (size - b % size)) % size

/-- Sum of a list of words modulo `2 ^ 64`. -/
def wrapSum (xs : List Nat) : Nat := xs.foldl wrapAdd 0

theorem satAdd_le_top (a b : Nat) : satAdd a b ≤ top := Nat.min_le_right _ _

theorem satMul_le_top (a b : Nat) : satMul a b ≤ top := Nat.min_le_right _ _

theorem satAdd_of_le {a b : Nat} (h : a + b ≤ top) : satAdd a b = a + b :=
  Nat.min_eq_left h

theorem wrapSub_of_le {a b : Nat} (hb : b ≤ a) (ha : a < size) : wrapSub a b = a - b := by
  unfold wrapSub
  have hb' : b < size := Nat.lt_of_le_of_lt hb ha
  rw [Nat.mod_eq_of_lt ha, Nat.mod_eq_of_lt hb']
  have : a + (size - b) = (a - b) + size := by omega
  rw [this, Nat.add_mod_right, Nat.mod_eq_of_lt (by omega)]

end Word
end Backtrack
