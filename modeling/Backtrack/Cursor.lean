import Backtrack.Failure
import Backtrack.Word

/-!
# Cursors

A cursor walks over the characters of a text. Besides its position it keeps a stack of
marks: a combinator pushes the position before it tries something and afterwards pops the
mark, either moving back to it (restore) or leaving the cursor where it is (forget). Popping
from an empty stack is an error.

Moving forward stops at the end of the text and moving back stops at the start. Offsets
are words, so the position reached by moving forward, or the one that `get` reads, is the sum
modulo `2 ^ 64`: a step of nearly `2 ^ 64` lands before the cursor. A window
before the cursor and a slice around it are cursors of their own over a copy of that part of
the text, at its start and with no marks.

The configuration of matching says how deep rules may nest, how far lookbehind may look,
and which characters count as whitespace.

Main statements: `restore_mark` and `forget_mark` (popping a pushed mark undoes the push).
-/

namespace Backtrack

/-- How matching behaves: the nesting limit of rules, the widest lookbehind window, and the
characters that configured whitespace and tokens skip. -/
structure Config where
  maxDepth : Nat := 1000
  maxLookbehind : Option Nat := none
  whitespace : String := " \t\r\n"
  deriving Repr

namespace Config

/-- Enters one more level of rule nesting at offset `offset`, or fails past the limit. -/
def enter (cfg : Config) (depth offset : Nat) : Except MatchError Nat :=
  if depth < cfg.maxDepth then .ok (depth + 1) else .error (.depthExceeded cfg.maxDepth offset)

/-- Whether `c` is one of the configured whitespace characters. -/
def isWhitespace (cfg : Config) (c : Char) : Bool := cfg.whitespace.toList.contains c

end Config

/-- A position in a text with a stack of saved positions, most recent first. -/
structure Cursor where
  text : Array Char
  pos : Nat := 0
  marks : List Nat := []

namespace Cursor

/-- A cursor at the start of `s`. -/
def ofString (s : String) : Cursor := ⟨s.toList.toArray, 0, []⟩

/-- The number of characters of the text. -/
def size (c : Cursor) : Nat := c.text.size

/-- Whether the cursor stands at (or past) the end. -/
def atEnd (c : Cursor) : Bool := c.pos ≥ c.size

/-- How many characters follow the cursor. -/
def remaining (c : Cursor) : Nat := c.size - c.pos

/-- The character after the cursor. -/
def peek? (c : Cursor) : Option Char := c.text[c.pos]?

/-- The character before the cursor. -/
def prev? (c : Cursor) : Option Char := if c.pos = 0 then none else c.text[c.pos - 1]?

/-- The text as a string. -/
def input (c : Cursor) : String := String.ofList c.text.toList

/-- The characters between two offsets; the end stops at the end of the text and the start
at the end. -/
def textBetween (c : Cursor) (start stop : Nat) : String :=
  let stop := min stop c.size
  let start := min start stop
  String.ofList (c.text.extract start stop).toList

/-- The characters from `start` to the cursor. -/
def takenSince (c : Cursor) (start : Nat) : String := c.textBetween start c.pos

/-- The characters after the cursor. -/
def rest (c : Cursor) : List Char := (c.text.extract c.pos c.size).toList

/-- Moves forward by `n`, a sum of words, stopping at the end. -/
def advance (c : Cursor) (n : Nat) : Cursor := { c with pos := min (Word.wrapAdd c.pos n) c.size }

/-- Moves back by `n`, stopping at the start. -/
def retreat (c : Cursor) (n : Nat) : Cursor := { c with pos := c.pos - n }

/-- Pushes the position on the mark stack. -/
def mark (c : Cursor) : Cursor := { c with marks := c.pos :: c.marks }

/-- Pops the last mark and moves back to it. -/
def restoreMark (c : Cursor) : Except MatchError Cursor :=
  match c.marks with
  | m :: ms => .ok { c with pos := m, marks := ms }
  | [] => .error (.markUnderflow c.pos)

/-- Pops the last mark and stays. -/
def forgetMark (c : Cursor) : Except MatchError Cursor :=
  match c.marks with
  | _ :: ms => .ok { c with marks := ms }
  | [] => .error (.markUnderflow c.pos)

/-- A fresh cursor over the characters between two offsets, clamped as in `textBetween`. -/
def sub (c : Cursor) (start stop : Nat) : Cursor := ofString (c.textBetween start stop)

/-- A fresh cursor over the `width` characters before the cursor, if there are as many. -/
def windowBefore (c : Cursor) (width : Nat) : Option Cursor :=
  if width ≤ c.pos then some (c.sub (c.pos - width) c.pos) else none

/-- The character `i` places after the cursor (a sum of words), or a failure past the end of
the text. -/
def get (c : Cursor) (i : Nat) : Except MatchError Char :=
  match c.text[Word.wrapAdd c.pos i]? with
  | some ch => .ok ch
  | none => .error (.failure ⟨.message "Unexpected end of input", .within c.text c.pos⟩)

/-- A failure at the cursor with a message. -/
def failure (c : Cursor) (msg : String) : Failure := ⟨.message msg, .within c.text c.pos⟩

/-- A failure at the cursor: `p` did not match. -/
def expected (c : Cursor) (p : Pattern) : Failure := ⟨.pattern p, .within c.text c.pos⟩

/-- A failure at the cursor: `p` matched where it must not. -/
def unexpected (c : Cursor) (p : Pattern) : Failure := ⟨.absent p, .within c.text c.pos⟩

/-- `Buffer("before" + "after")`: the text on both sides of the cursor. -/
def debug (c : Cursor) : String :=
  "Buffer(" ++ Text.quote (c.textBetween 0 c.pos) ++ " + " ++ Text.quote (c.textBetween c.pos c.size) ++ ")"

theorem restore_mark (c : Cursor) : c.mark.restoreMark = .ok c := rfl

theorem forget_mark (c : Cursor) : c.mark.forgetMark = .ok c := rfl

theorem advance_le (c : Cursor) (n : Nat) : (c.advance n).pos ≤ c.size := Nat.min_le_right _ _

end Cursor
end Backtrack
