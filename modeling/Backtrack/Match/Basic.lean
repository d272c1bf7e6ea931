import Backtrack.Rules
import Backtrack.Cursor
import Backtrack.Pattern.Length

/-!
# Matches and giving back

A successful match records its fragment and, for matches that can shrink, its pieces: one
per character of a run, one per round of a repetition or separated list. A piece knows how
many characters it consumed and how many items it added to the fragment's list. Giving back
drops the last piece, as long as at least the minimum number of pieces remains, and says how
many characters the cursor has to move back.

Main statement: `giveBack_pieces` (giving back removes exactly one piece).
-/

namespace Backtrack

/-- One piece of a match that can shrink: characters consumed and list items added. -/
structure Piece where
  len : Nat
  items : Nat
  deriving DecidableEq, Repr

/-- A successful match: its fragment and the pieces it can give back, oldest first. -/
structure Matched where
  fragment : Fragment
  pieces : List Piece

namespace Matched

/-- A match that cannot shrink. -/
def fixed (f : Fragment) : Matched := ⟨f, []⟩

/-- Gives back the last character of a run of text, keeping at least `min` characters. -/
def dropLastChar (min : Nat) (m : Matched) : Option (Matched × Nat) :=
  if m.pieces.length ≤ min then none else
  match m.pieces.getLast?, m.fragment with
  | some last, .text s =>
    if s.isEmpty then none else some (⟨.text (String.ofList s.toList.dropLast), m.pieces.dropLast⟩, last.len)
  | _, _ => none

/-- Gives back the last round of a repetition, keeping at least `min` rounds; the round's
items leave the list. -/
def dropLastPiece (min : Nat) (m : Matched) : Option (Matched × Nat) :=
  if m.pieces.length ≤ min then none else
  match m.pieces.getLast?, m.fragment with
  | some last, .list items =>
    some (⟨.list (items.take (items.length - last.items)), m.pieces.dropLast⟩, last.len)
  | _, _ => none

theorem dropLastChar_pieces {min : Nat} {m r : Matched} {g : Nat} (h : m.dropLastChar min = some (r, g)) :
    r.pieces.length + 1 = m.pieces.length := by
  unfold dropLastChar at h
  split at h
  · contradiction
  · split at h
    · split at h
      · contradiction
      · cases h; simp; omega
    · contradiction

theorem dropLastPiece_pieces {min : Nat} {m r : Matched} {g : Nat} (h : m.dropLastPiece min = some (r, g)) :
    r.pieces.length + 1 = m.pieces.length := by
  unfold dropLastPiece at h
  split at h
  · contradiction
  · split at h
    · cases h; simp; omega
    · contradiction

end Matched

namespace Pattern

/-- Asks a pattern to give back the last piece of its match `m`: runs give back a character,
repetitions and separated lists a round, rules and shared patterns ask the pattern they lead
to. `budget` bounds how many rules may be followed; a match found within a nesting limit
never needs more than the levels left below it. -/
def giveBack (rules : RuleSet) (budget : Nat) (p : Pattern) (m : Matched) : Option (Matched × Nat) :=
  match p with
  | mk (.run r) _ | mk (.whitespace r) _ => m.dropLastChar r.min
  | mk (.repetition _ lo _) _ | mk (.separated _ _ lo _) _ => m.dropLastPiece lo
  | mk (.rule ref) _ =>
    match budget with
    | 0 => none
    | b + 1 => match rules.target? ref with
      | some t => giveBack rules b t m
      | none => none
  | mk (.embed _ (.shared inner)) _ => giveBack rules budget inner m
  | _ => none
  termination_by (budget, sizeOf p)

theorem giveBack_pieces (rules : RuleSet) (budget : Nat) (p : Pattern) (m r : Matched) (g : Nat)
    (h : p.giveBack rules budget m = some (r, g)) : r.pieces.length + 1 = m.pieces.length := by
  induction budget, p using giveBack.induct rules generalizing r g with
  | case1 => unfold giveBack at h; exact Matched.dropLastChar_pieces h
  | case2 => unfold giveBack at h; exact Matched.dropLastChar_pieces h
  | case3 => unfold giveBack at h; exact Matched.dropLastPiece_pieces h
  | case4 => unfold giveBack at h; exact Matched.dropLastPiece_pieces h
  | case5 => simp [giveBack] at h
  | case6 ref _ b t ht ih => simp only [giveBack, ht] at h; exact ih r g h
  | case7 ref _ b ht => simp [giveBack, ht] at h
  | case8 _ _ _ _ ih => simp only [giveBack] at h; exact ih r g h
  | case9 =>
    unfold giveBack at h
    split at h <;> first | contradiction | (exfalso; solve_by_elim)

end Pattern
end Backtrack
