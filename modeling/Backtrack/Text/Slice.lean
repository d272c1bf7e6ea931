import Backtrack.Text.Quoted

/-!
# Text slices

A slice is a stretch of a text given by two byte offsets into its UTF-8 encoding. Both
offsets must fall on character boundaries, which makes the slice a sequence of whole
characters. Shrinking a slice drops its last character, however many bytes it takes.
-/

namespace Backtrack
namespace Text

/-- The byte offsets of the character boundaries of a text, from zero to its length. -/
def boundaries (cs : List Char) : List Nat := cs.scanl (fun n c ↦ n + c.utf8Size) 0

/-- A stretch of a text between two character boundaries, given as byte offsets. -/
structure TextSlice where
  source : List Char
  start : Nat
  stop : Nat

namespace TextSlice

/-- The slice of `text` between byte offsets `start` and `stop`, if both are character
boundaries in order. -/
def make? (text : String) (start stop : Nat) : Option TextSlice :=
  let bs := boundaries text.toList
  if start ≤ stop && bs.contains start && bs.contains stop then some ⟨text.toList, start, stop⟩
  else none

/-- The characters of the slice. -/
def chars (s : TextSlice) : List Char :=
  let bs := boundaries s.source
  let first := bs.idxOf s.start
  let last := bs.idxOf s.stop
  (s.source.drop first).take (last - first)

def text (s : TextSlice) : String := String.ofList s.chars

/-- The length in bytes. -/
def size (s : TextSlice) : Nat := s.stop - s.start

/-- The whole text the slice is taken from. -/
def whole (s : TextSlice) : String := String.ofList s.source

/-- The slice without its last character, unless it is empty. -/
def dropLast? (s : TextSlice) : Option TextSlice :=
  match s.chars.getLast? with
  | some c => some { s with stop := s.stop - c.utf8Size }
  | none => none

/-- The slices obtained by dropping the last character again and again. -/
def shrinking (s : TextSlice) : List TextSlice :=
  go s.chars.length s
where
  go : Nat → TextSlice → List TextSlice
    | 0, _ => []
    | n + 1, s => match s.dropLast? with
      | some t => t :: go n t
      | none => []

end TextSlice
end Text
end Backtrack
