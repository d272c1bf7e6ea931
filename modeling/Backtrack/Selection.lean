import Backtrack.Fragment

/-!
# Selections

A selection keeps some items of a list fragment: one item by index, a range of items, or
several items by index. Indices count from the end when negative, as `-1` names the last
item. A fragment that is no list counts as a list of itself, and the empty fragment as the
empty list.

* An index out of range selects the empty fragment.
* A range bound is clamped into `0..len`; a negative bound counts from the end and stops at
  zero. A range whose start lies past its end selects nothing.
* A list of indices keeps the items of the indices in range, in the order of the indices.

Main statement: `apply_range_length` (a range keeps `to - from` items).
-/

namespace Backtrack

/-- Which items of a list fragment to keep. -/
inductive Selection where
  | index (i : Int)
  | range (start stop : Option Int)
  | indices (is : List Int)
  deriving DecidableEq, Repr

namespace Selection

/-- The position named by a possibly negative index, if it lies in `0..len`. -/
def resolve (i : Int) (len : Nat) : Option Nat :=
  let k := if i < 0 then (if i.natAbs ≤ len then some (len - i.natAbs) else none) else some i.toNat
  k.bind fun k ↦ if k < len then some k else none

/-- A possibly negative range bound moved into `0..len`. -/
def clamp (b : Int) (len : Nat) : Nat :=
  if b < 0 then len - b.natAbs else min b.toNat len

/-- The items a fragment offers to a selection. -/
def itemsOf : Fragment → List Fragment
  | .list items => items
  | .empty => []
  | f => [f]

/-- The selected part of a fragment. -/
def apply (sel : Selection) (f : Fragment) : Fragment :=
  let items := itemsOf f
  let len := items.length
  match sel with
  | index i => ((resolve i len).bind (items[·]?)).getD .empty
  | range start stop =>
    let lo := (start.map (clamp · len)).getD 0
    let hi := (stop.map (clamp · len)).getD len
    .list ((items.take hi).drop lo)
  | indices is => .list (is.filterMap fun i ↦ (resolve i len).bind (items[·]?))

/-- `-1`, `1..-1`, `..2`, `2..`, or `[0, 2]`. -/
def render : Selection → String
  | index i => toString i
  | range start stop =>
    (start.map toString).getD "" ++ ".." ++ (stop.map toString).getD ""
  | indices is => "[" ++ ", ".intercalate (is.map toString) ++ "]"

theorem clamp_le (b : Int) (len : Nat) : clamp b len ≤ len := by
  unfold clamp; split <;> omega

theorem apply_range_length (start stop : Option Int) (f : Fragment) :
    (apply (range start stop) f).size =
      (stop.map (clamp · (itemsOf f).length)).getD (itemsOf f).length
        - (start.map (clamp · (itemsOf f).length)).getD 0 := by
  simp only [apply, Fragment.size, List.length_drop, List.length_take]
  congr 1
  cases stop with
  | none => simp
  | some b => simpa using Nat.min_eq_left (clamp_le b _)

end Selection
end Backtrack
