import Backtrack.Cursor

/-!
# Buffers

A buffer is a cursor together with the configuration it is matched under and the current
depth of rule nesting. Entering a rule fails once the depth has reached the limit of the
configuration; leaving one never goes below zero.

Slices and windows are fresh buffers over part of the text, with their cursor at the start.
They keep the configuration and the depth. Slice bounds count from the cursor and are
clamped to the text.
-/

namespace Backtrack

/-- A cursor with its configuration and rule depth. -/
structure Buffer where
  cursor : Cursor
  config : Config := {}
  depth : Nat := 0

/-- One end of a slice: inclusive, exclusive, or open. -/
inductive Bound where
  | included (n : Nat)
  | excluded (n : Nat)
  | unbounded

namespace Buffer

/-- A buffer at the start of `s`. -/
def ofString (s : String) (config : Config := {}) : Buffer := ⟨Cursor.ofString s, config, 0⟩

def pos (b : Buffer) : Nat := b.cursor.pos

def size (b : Buffer) : Nat := b.cursor.size

/-- One level deeper, unless the limit is reached. -/
def enter (b : Buffer) : Except MatchError Buffer :=
  if b.depth ≥ b.config.maxDepth then .error (.depthExceeded b.config.maxDepth b.pos)
  else .ok { b with depth := b.depth + 1 }

/-- One level shallower, stopping at zero. -/
def leave (b : Buffer) : Buffer := { b with depth := b.depth - 1 }

/-- A fresh buffer over the characters between two offsets. -/
def sub (b : Buffer) (start stop : Nat) : Buffer := { b with cursor := b.cursor.sub start stop }

/-- The part of the text between two bounds counted from the cursor. -/
def slice (b : Buffer) (lo hi : Bound) : Buffer :=
  let start := match lo with
    | .included s => b.pos + s
    | .excluded s => b.pos + s + 1
    | .unbounded => b.pos
  let stop := match hi with
    | .included e => b.pos + e + 1
    | .excluded e => b.pos + e
    | .unbounded => b.size
  b.sub start stop

/-- The `width` characters before the cursor, if there are as many. -/
def windowBefore (b : Buffer) (width : Nat) : Option Buffer :=
  if width ≤ b.pos then some (b.sub (b.pos - width) b.pos) else none

/-- The position of a character offset in the text. -/
def location (b : Buffer) (offset : Nat) : Text.Position := Text.Position.locate b.cursor.text.toList offset

/-- A failure with a message at a character offset. -/
def failureAt (b : Buffer) (offset : Nat) (msg : String) : MatchError :=
  .failure ⟨.message msg, .within b.cursor.text offset⟩

theorem leave_enter (b : Buffer) (b' : Buffer) (h : b.enter = .ok b') : b'.leave = b := by
  unfold enter at h
  split at h
  · cases h
  · cases h
    rfl

end Buffer
end Backtrack
