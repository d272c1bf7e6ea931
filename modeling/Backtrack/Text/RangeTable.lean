/-!
# Tables of code-point ranges

A character property of Unicode is kept as a sorted array of disjoint inclusive ranges of
code points. Tables are written as text, one range per word in hexadecimal (`41-5A`, or
`AD` for a single code point), words separated by blanks or line breaks, so that a table of
a thousand ranges is a single string literal that is read once.

`Covers` states membership as a scan of all ranges; `contains` answers the same question
by binary search, which relies on the ranges being sorted and disjoint.
-/

namespace Backtrack
namespace Text

/-- A sorted array of disjoint inclusive ranges `(first, last)` of code points. -/
structure RangeTable where
  ranges : Array (Nat × Nat)

namespace RangeTable

/-- The value of a hexadecimal digit, upper or lower case. -/
def hexValue? (c : Char) : Option Nat :=
  if '0' ≤ c ∧ c ≤ '9' then some (c.toNat - '0'.toNat)
  else if 'A' ≤ c ∧ c ≤ 'F' then some (c.toNat - 'A'.toNat + 10)
  else if 'a' ≤ c ∧ c ≤ 'f' then some (c.toNat - 'a'.toNat + 10)
  else none

/-- Reads hexadecimal digits; a character that is no digit counts as zero. -/
def readHex (cs : List Char) : Nat :=
  cs.foldl (fun acc c ↦ acc * 16 + (hexValue? c).getD 0) 0

/-- Reads one word: `first-last` or a single code point. -/
def readRange (word : List Char) : Nat × Nat :=
  match word.span (· ≠ '-') with
  | (first, []) => (readHex first, readHex first)
  | (first, _ :: last) => (readHex first, readHex last)

/-- Splits text into its blank-separated words, dropping empty ones. -/
def words (cs : List Char) : List (List Char) :=
  let step : List Char × List (List Char) → Char → List Char × List (List Char) :=
    fun (cur, acc) c ↦
      if c = ' ' ∨ c = '\n' then ([], if cur.isEmpty then acc else cur.reverse :: acc)
      else (c :: cur, acc)
  let (cur, acc) := cs.foldl step ([], [])
  (if cur.isEmpty then acc else cur.reverse :: acc).reverse

/-- The table written in `text`. -/
def ofText (text : String) : RangeTable :=
  ⟨((words text.toList).map readRange).toArray⟩

/-- Whether some range of the table holds `n`, by a scan of all ranges. -/
def Covers (t : RangeTable) (n : Nat) : Prop :=
  ∃ r ∈ t.ranges.toList, r.1 ≤ n ∧ n ≤ r.2

/-- Whether some range of the table holds `n`, by binary search over the sorted ranges. -/
def contains (t : RangeTable) (n : Nat) : Bool :=
  go 0 t.ranges.size
where
  /-- Searches the ranges with index in `[lo, hi)`. -/
  go (lo hi : Nat) : Bool :=
    if lo < hi then
      let mid := (lo + hi) / 2
      let r := t.ranges.getD mid (0, 0)
      if n < r.1 then go lo mid
      else if r.2 < n then go (mid + 1) hi
      else true
    else false
  termination_by hi - lo

/-- Whether the table holds the code point of `c`. -/
def containsChar (t : RangeTable) (c : Char) : Bool := t.contains c.toNat

end RangeTable
end Text
end Backtrack
