/-!
# Positions in text

A position is a line, a column and an offset, all counted in characters; lines and columns
start at one. `Position.locate text n` walks the first `n` characters of `text`: a line feed
starts the next line at column one, any other character moves one column right. An offset
past the end stops at the end.

Main statements: `locate_offset` (the offset is the number of characters walked) and
`locate_append` (walking splits at any point).
-/

namespace Backtrack
namespace Text

/-- A place in a text: line and column from one, offset from zero, all in characters. -/
structure Position where
  line : Nat
  column : Nat
  offset : Nat
  deriving DecidableEq, Repr

namespace Position

/-- The start of a text: line one, column one, offset zero. -/
def start : Position := ⟨1, 1, 0⟩

/-- The position after one more character. -/
def next (p : Position) (c : Char) : Position :=
  if c = '\n' then ⟨p.line + 1, 1, p.offset + 1⟩ else ⟨p.line, p.column + 1, p.offset + 1⟩

/-- The position after walking the characters `cs` from `p`. -/
def walk (p : Position) (cs : List Char) : Position := cs.foldl next p

/-- The position of character offset `n` in `text`, stopping at the end of the text. -/
def locate (text : List Char) (n : Nat) : Position := start.walk (text.take n)

/-- `line:column`. -/
def render (p : Position) : String := s!"{p.line}:{p.column}"

theorem walk_offset (p : Position) (cs : List Char) : (p.walk cs).offset = p.offset + cs.length := by
  induction cs generalizing p with
  | nil => rfl
  | cons c cs ih =>
    simp only [walk, List.foldl_cons] at ih ⊢
    rw [ih]
    unfold next
    split <;> simp <;> omega

theorem locate_offset (text : List Char) (n : Nat) : (locate text n).offset = min n text.length := by
  simp [locate, walk_offset, start]

theorem walk_append (p : Position) (cs ds : List Char) : p.walk (cs ++ ds) = (p.walk cs).walk ds := by
  simp [walk, List.foldl_append]

theorem locate_append (text : List Char) (m n : Nat) :
    locate text (m + n) = (locate text m).walk ((text.drop m).take n) := by
  unfold locate
  rw [← walk_append, List.take_add]

end Position
end Text
end Backtrack
