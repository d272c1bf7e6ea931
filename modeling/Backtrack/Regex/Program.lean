import Backtrack.Regex.WordChars

/-!
# Regular expression programs

A compiled regular expression is a program for a nondeterministic machine: each
instruction either reads one character from a set of ranges, forks, jumps, records the
position into a capture slot, tests a zero-width assertion, or accepts.

`Program.capturesFrom` runs the machine from one position of a text by simulating all
threads at once, in priority order. When two threads reach the same instruction at the same
position, the one of higher priority wins, and a thread that accepts cuts off every thread
of lower priority. This gives the preferred match there: alternatives are preferred in the
order written, greedy repetitions prefer one more round, and lazy ones one fewer.
`Program.search` tries the positions from the start of the text on and keeps the first match,
which is the leftmost-first match.
-/

namespace Backtrack
namespace Regex

/-- Zero-width assertions about the characters around a position. -/
inductive Look where
  | textStart
  | textEnd
  | lineStart
  | lineEnd
  | lineStartCrlf
  | lineEndCrlf
  | wordBoundary
  | notWordBoundary
  | wordBoundaryAscii
  | notWordBoundaryAscii
  | wordStart
  | wordEnd
  | wordStartHalf
  | wordEndHalf
  | wordStartAscii
  | wordEndAscii
  | wordStartHalfAscii
  | wordEndHalfAscii
  deriving DecidableEq, Repr

/-- Word characters of the ASCII range: digits, letters and the underscore. -/
def isAsciiWord (c : Char) : Bool := c.isAlphanum || c = '_'

/-- Word characters in the Unicode sense. -/
def isWord (c : Char) : Bool := wordChars.containsChar c

namespace Look

/-- Whether the assertion holds at position `pos` of `text`. -/
def holds (l : Look) (text : Array Char) (pos : Nat) : Bool :=
  let prev := if pos = 0 then none else text[pos - 1]?
  let next := text[pos]?
  let wordBefore := prev.any isWord
  let wordAfter := next.any isWord
  let asciiBefore := prev.any isAsciiWord
  let asciiAfter := next.any isAsciiWord
  match l with
  | textStart => pos = 0
  | textEnd => pos ≥ text.size
  | lineStart => prev.all (· = '\n')
  | lineEnd => next.all (· = '\n')
  | lineStartCrlf => prev.all (· = '\n') || (prev = some '\r' && next != some '\n')
  | lineEndCrlf => next.all (· = '\r') || (next = some '\n' && prev != some '\r')
  | wordBoundary => wordBefore != wordAfter
  | notWordBoundary => wordBefore == wordAfter
  | wordBoundaryAscii => asciiBefore != asciiAfter
  | notWordBoundaryAscii => asciiBefore == asciiAfter
  | wordStart => !wordBefore && wordAfter
  | wordEnd => wordBefore && !wordAfter
  | wordStartHalf => !wordBefore
  | wordEndHalf => !wordAfter
  | wordStartAscii => !asciiBefore && asciiAfter
  | wordEndAscii => asciiBefore && !asciiAfter
  | wordStartHalfAscii => !asciiBefore
  | wordEndHalfAscii => !asciiAfter

end Look

/-- Whether a code point lies in one of the sorted inclusive ranges. -/
def inRanges (rs : Array (Nat × Nat)) (n : Nat) : Bool := rs.any fun r ↦ r.1 ≤ n && n ≤ r.2

/-- One instruction of the matching machine; targets are instruction indices. -/
inductive Inst where
  /-- Reads one character that lies in one of the ranges. -/
  | read (ranges : Array (Nat × Nat)) (next : Nat)
  /-- Forks; the first target has priority. -/
  | split (first second : Nat)
  | jump (next : Nat)
  /-- Records the current position in a capture slot. -/
  | save (slot : Nat) (next : Nat)
  | look (l : Look) (next : Nat)
  | accept
  deriving Repr

/-- A compiled regular expression. Group `g` records its start in slot `2 * g` and its end in
slot `2 * g + 1`; group zero is the whole match. -/
structure Program where
  insts : Array Inst
  start : Nat
  groups : Nat
  deriving Repr

/-- A thread of the machine: where it is and what it has captured. -/
structure Thread where
  pc : Nat
  slots : Array (Option Nat)

namespace Program

/-- Adds the thread at `pc` and, in priority order, every thread it reaches without reading,
to `acc`; instructions already in `seen` are skipped. `fuel` bounds the nesting of empty
moves, which never exceeds the number of instructions since each visits a new one. -/
def follow (prog : Program) (text : Array Char) (pos : Nat) :
    Nat → Nat → Array (Option Nat) → Array Thread × Array Bool → Array Thread × Array Bool
  | 0, _, _, acc => acc
  | fuel + 1, pc, slots, (ts, seen) =>
    if seen[pc]?.getD true then (ts, seen) else
    let seen := seen.set! pc true
    match prog.insts[pc]? with
    | some (.jump n) => follow prog text pos fuel n slots (ts, seen)
    | some (.split a b) =>
      follow prog text pos fuel b slots (follow prog text pos fuel a slots (ts, seen))
    | some (.save k n) => follow prog text pos fuel n (slots.set! k (some pos)) (ts, seen)
    | some (.look l n) => if l.holds text pos then follow prog text pos fuel n slots (ts, seen) else (ts, seen)
    | some _ => (ts.push ⟨pc, slots⟩, seen)
    | none => (ts, seen)

/-- The threads that `pc` leads to at `pos`, given the threads already there. -/
def addThread (prog : Program) (text : Array Char) (pos pc : Nat) (slots : Array (Option Nat))
    (acc : Array Thread × Array Bool) : Array Thread × Array Bool :=
  prog.follow text pos (prog.insts.size + 1) pc slots acc

/-- Steps every thread over the character at `pos`, in priority order, until one accepts.
Returns the threads for `pos + 1` and the slots of the accepting thread, if any. -/
def stepAll (prog : Program) (text : Array Char) (pos : Nat) (threads : List Thread)
    (acc : Array Thread × Array Bool) : Array Thread × Option (Array (Option Nat)) :=
  match threads with
  | [] => (acc.1, none)
  | t :: rest =>
    match prog.insts[t.pc]? with
    | some .accept => (acc.1, some t.slots)
    | some (.read rs n) =>
      match text[pos]? with
      | some c =>
        if inRanges rs c.toNat then stepAll prog text pos rest (prog.addThread text (pos + 1) n t.slots acc)
        else stepAll prog text pos rest acc
      | none => stepAll prog text pos rest acc
    | _ => stepAll prog text pos rest acc

/-- Runs the threads from `pos` to the end of the text, keeping the last accepted slots. -/
def run (prog : Program) (text : Array Char) (pos : Nat) (threads : Array Thread)
    (best : Option (Array (Option Nat))) : Option (Array (Option Nat)) :=
  if threads.isEmpty then best else
  let fresh := Array.replicate prog.insts.size false
  let (next, found) := prog.stepAll text pos threads.toList (#[], fresh)
  let best := found.orElse fun _ ↦ best
  if pos < text.size then prog.run text (pos + 1) next best else best
  termination_by text.size - pos

/-- The capture slots of the preferred match that starts at position `start` of `text`. -/
def capturesFrom (prog : Program) (text : Array Char) (start : Nat) : Option (Array (Option Nat)) :=
  let slots := Array.replicate (2 * prog.groups) none
  let fresh := Array.replicate prog.insts.size false
  let (init, _) := prog.addThread text start prog.start slots (#[], fresh)
  prog.run text start init none

/-- The capture slots of the leftmost-first match in `text`: the preferred match from the first
position, from the start of the text to its end, at which the machine matches. -/
def search (prog : Program) (text : Array Char) : Option (Array (Option Nat)) :=
  (List.range (text.size + 1)).findSome? (prog.capturesFrom text)

/-- The span of group `g` in a match, when the group took part in it. -/
def span? (slots : Array (Option Nat)) (g : Nat) : Option (Nat × Nat) :=
  match slots[2 * g]?, slots[2 * g + 1]? with
  | some (some s), some (some e) => some (s, e)
  | _, _ => none

end Program
end Regex
end Backtrack
