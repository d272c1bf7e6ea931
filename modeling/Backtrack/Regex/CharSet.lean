import Backtrack.Regex.Tables.CaseFold

/-!
# Sets of characters

A class of a regular expression is a list of inclusive ranges of code points. Building a class
from its items sorts the ranges and merges those that overlap or touch, which gives the
canonical form: sorted ranges with a gap between any two. Surrogate code points are not
characters, so a step from one character to the next skips them: `E000` comes right after
`D7FF`. Two ranges with only the surrogates between them still count as apart.

The operations work range by range on the lists they are given. Intersection, difference and
case folding of canonical classes give canonical classes again, but negation only keeps the
order: it takes the gap between each range and the next, from the character after the first
to the character before the second. Between a range ending at `D7FF` and one starting at
`E000` those two ends cross, and the gap, taken with its ends the other way round, holds both
`D7FF` and `E000`: a negated class keeps these two characters. Whatever later takes such a
class in as an item makes it canonical again; a class that is used as it stands keeps the
ranges as negation left them, which is what the automaton is built from.

Case folding closes a set under simple case folding: each character brings along the other
characters of its class in `caseOrbits`.
-/

namespace Backtrack
namespace Regex

/-- The largest code point. -/
def maxCode : Nat := 0x10FFFF

/-- A class of characters as a list of inclusive ranges of code points. -/
structure CharSet where
  ranges : List (Nat × Nat)
  deriving DecidableEq, Repr

namespace CharSet

/-- The character after `c`, skipping the surrogates. -/
def succ (c : Nat) : Nat := if c = 0xD7FF then 0xE000 else c + 1

/-- The character before `c`, skipping the surrogates. -/
def pred (c : Nat) : Nat := if c = 0xE000 then 0xD7FF else c - 1

/-- The range with ends `a` and `b`, in whichever order they come. -/
def between (a b : Nat) : Nat × Nat := if a ≤ b then (a, b) else (b, a)

/-- Sorts ranges and merges those that overlap or touch; empty ranges are dropped. -/
def canonical (rs : List (Nat × Nat)) : List (Nat × Nat) :=
  let sorted := (rs.filter fun r ↦ r.1 ≤ r.2).mergeSort fun a b ↦ decide (a.1 ≤ b.1)
  let step : List (Nat × Nat) → Nat × Nat → List (Nat × Nat) := fun acc r ↦
    match acc with
    | (lo, hi) :: rest => if r.1 ≤ hi + 1 then (lo, max hi r.2) :: rest else r :: acc
    | [] => [r]
  (sorted.foldl step []).reverse

def ofRanges (rs : List (Nat × Nat)) : CharSet := ⟨canonical rs⟩

def empty : CharSet := ⟨[]⟩

def all : CharSet := ⟨[(0, maxCode)]⟩

def single (c : Char) : CharSet := ⟨[(c.toNat, c.toNat)]⟩

def range (lo hi : Nat) : CharSet := ofRanges [between lo hi]

/-- Both classes in canonical form; when `b` adds nothing, because it is empty or has the same
ranges, `a` is kept as it is. -/
def union (a b : CharSet) : CharSet :=
  if b.ranges.isEmpty || a.ranges == b.ranges then a else ofRanges (a.ranges ++ b.ranges)

/-- The ranges outside `rs`: the part before the first, the gap between each range and the
next, and the part after the last. -/
def gaps (rs : List (Nat × Nat)) : List (Nat × Nat) :=
  match rs with
  | [] => [(0, maxCode)]
  | first :: _ =>
    let before := if first.1 > 0 then [(0, pred first.1)] else []
    let inner := (rs.zip rs.tail).map fun (r, s) ↦ between (succ r.2) (pred s.1)
    let after := match rs.getLast? with
      | some last => if last.2 < maxCode then [(succ last.2, maxCode)] else []
      | none => []
    before ++ inner ++ after

/-- The characters outside the class, gap by gap. -/
def negate (a : CharSet) : CharSet := ⟨gaps a.ranges⟩

/-- The common parts of two sorted range lists, walking both: after comparing two ranges, the
one that ends first is done. -/
def meet : List (Nat × Nat) → List (Nat × Nat) → List (Nat × Nat)
  | r :: rs, s :: ss =>
    let lo := max r.1 s.1
    let hi := min r.2 s.2
    let common := if lo ≤ hi then [(lo, hi)] else []
    if r.2 < s.2 then common ++ meet rs (s :: ss) else common ++ meet (r :: rs) ss
  | _, _ => []
termination_by rs ss => rs.length + ss.length

def intersect (a b : CharSet) : CharSet :=
  if a.ranges.isEmpty then a else if b.ranges.isEmpty then empty else ⟨meet a.ranges b.ranges⟩

/-- What is left of range `r` once range `s` is taken out: nothing, the range itself when they
do not meet, or the parts below and above `s`. -/
def cut (r s : Nat × Nat) : List (Nat × Nat) :=
  if s.1 ≤ r.1 && r.2 ≤ s.2 then []
  else if max r.1 s.1 > min r.2 s.2 then [r]
  else (if s.1 > r.1 then [between r.1 (pred s.1)] else [])
    ++ (if s.2 < r.2 then [between (succ s.2) r.2] else [])

mutual
/-- The ranges of `as` without those of `bs`, both sorted: a range of `bs` wholly before the
current range of `as` is passed over, one wholly after leaves it untouched, and one that
meets it starts the cutting of `without`. -/
def remove : List (Nat × Nat) → List (Nat × Nat) → List (Nat × Nat)
  | [], _ => []
  | as, [] => as
  | r :: rs, s :: ss =>
    if s.2 < r.1 then remove (r :: rs) ss
    else if r.2 < s.1 then r :: remove rs (s :: ss)
    else without r (s :: ss) rs
termination_by as bs => 2 * (as.length + bs.length) + 1

/-- Cuts the ranges of `bs` out of `r` while they meet it. A range of `bs` that reaches past
`r` may still meet the next range, so it is kept for that one; the parts of `r` below a cut
are done. -/
def without (r : Nat × Nat) : List (Nat × Nat) → List (Nat × Nat) → List (Nat × Nat)
  | [], rest => r :: remove rest []
  | s :: ss, rest =>
    if max r.1 s.1 > min r.2 s.2 then r :: remove rest (s :: ss)
    else
      match (cut r s).reverse with
      | [] => remove rest (s :: ss)
      | last :: done =>
        done.reverse ++ (if s.2 > r.2 then last :: remove rest (s :: ss) else without last ss rest)
termination_by bs rest => 2 * (rest.length + bs.length + 1)
end

def difference (a b : CharSet) : CharSet :=
  if a.ranges.isEmpty || b.ranges.isEmpty then a else ⟨remove a.ranges b.ranges⟩

/-- The characters in exactly one of the classes: the union without the intersection. -/
def symmetricDifference (a b : CharSet) : CharSet := difference (union a b) (intersect a b)

def mem (a : CharSet) (n : Nat) : Bool := a.ranges.any fun r ↦ r.1 ≤ n && n ≤ r.2

/-- Whether every member is ASCII: the last range ends there. -/
def isAscii (a : CharSet) : Bool := (a.ranges.getLast?.map fun r ↦ decide (r.2 ≤ 0x7F)).getD true

def isEmpty (a : CharSet) : Bool := a.ranges.isEmpty

/-- The first index of `caseIndex` whose character is at least `n`, by binary search. -/
def foldStart (n : Nat) : Nat :=
  go 0 caseIndex.size
where
  go (lo hi : Nat) : Nat :=
    if lo < hi then
      let mid := (lo + hi) / 2
      if (caseIndex.getD mid (0, 0)).1 < n then go (mid + 1) hi else go lo mid
    else lo
  termination_by hi - lo

/-- The characters that fold together with some member of `[lo, hi]`. -/
def foldRange (lo hi : Nat) : List Nat :=
  let entries := (caseIndex.extract (foldStart lo) caseIndex.size).toList.takeWhile (·.1 ≤ hi)
  entries.flatMap fun (_, i) ↦ (caseOrbits.getD i #[]).toList

/-- The set closed under simple case folding. -/
def caseFold (a : CharSet) : CharSet :=
  ofRanges (a.ranges ++ (a.ranges.flatMap fun r ↦ (foldRange r.1 r.2).map fun n ↦ (n, n)))

/-- Only the ASCII letters gain their other case. -/
def asciiCaseFold (a : CharSet) : CharSet :=
  let upper := intersect a (range 0x41 0x5A)
  let lower := intersect a (range 0x61 0x7A)
  ofRanges (a.ranges ++ (upper.ranges.map fun r ↦ (r.1 + 32, r.2 + 32))
    ++ (lower.ranges.map fun r ↦ (r.1 - 32, r.2 - 32)))

end CharSet
end Regex
end Backtrack
