import Backtrack.Match.Engine
import Backtrack.Pattern.Build

/-!
# Running patterns

`consumeAt` ties the engine to the rules and to itself. Entering a rule first needs a rule
set in which the reference resolves, then a depth below the limit of the configuration; the
pattern it leads to is matched one level deeper. A grammar's bad pattern is checked against
the matched text in a fresh cursor from depth zero, anchored at both ends of the text. Such
checks may nest inside each other; each one uses up one of an allowance of `2 ^ 64`, which
only checks that would never end exhaust.

On top of it stand the entry points of a pattern: `consumeTracked` (match at a cursor),
`test` (whether it matches, leaving the cursor in place) and `parse` (match a fresh text
under the default configuration).
-/

namespace Backtrack

/-- A bad pattern required to cover a whole text. -/
def anchored (bad : Pattern) : Pattern := Pattern.stringStart + bad + Pattern.stringEnd

/-- How many grammar checks may nest inside each other. -/
def checkAllowance : Nat := Word.size

mutual
/-- The context of matching at rule depth `depth` with `checks` nested checks allowed. -/
def contextAt (rules : RuleSet) (config : Config) (checks depth : Nat) : Context := {
  config := config
  enter := fun ref s ↦
    match rules.target? ref with
    | none => .error (.unresolvedRule ref.name) s
    | some t =>
      if depth < config.maxDepth then consumeAt rules config checks (depth + 1) t s
      else .error (.depthExceeded config.maxDepth s.cursor.pos) s
  rejects := fun bad text ↦
    match checks with
    | 0 => throw .exhausted
    | c + 1 => do
      let (r, _) ← Engine.within (Cursor.ofString text) (consumeAt rules config c 0 (anchored bad))
      match r with
      | .ok _ => pure true
      | .error (.failure _) => pure false
      | .error e => throw e
  giveBack := fun q m ↦ q.giveBack rules (config.maxDepth - depth) m
  giveBack_shrinks := fun q m r h ↦ by
    have := Pattern.giveBack_pieces rules _ q m r.1 r.2 h
    omega }
  termination_by (checks, config.maxDepth - depth, 0)

/-- Matches `p` at the cursor with the rules of `rules` under `config`. -/
def consumeAt (rules : RuleSet) (config : Config) (checks depth : Nat) (p : Pattern) : Engine Matched :=
  Engine.consume (contextAt rules config checks depth) p
  termination_by (checks, config.maxDepth - depth, 1)
end

/-- The result of matching at a cursor: the outcome, the cursor afterwards and the events. -/
structure Outcome where
  result : Except MatchError Matched
  cursor : Cursor
  events : Array Event

/-- Runs a matching computation on a cursor. -/
def Engine.runOn {α : Type} (m : Engine α) (c : Cursor) : Except MatchError α × Cursor × Array Event :=
  match m ⟨c, #[]⟩ with
  | .ok a s => (.ok a, s.cursor, s.events)
  | .error e s => (.error e, s.cursor, s.events)

namespace Pattern

/-- Matches `p` at cursor `c`, at depth zero. -/
def consumeTracked (p : Pattern) (rules : RuleSet) (config : Config) (c : Cursor) : Outcome :=
  let (r, c', ev) := (consumeAt rules config checkAllowance 0 p).runOn c
  ⟨r, c', ev⟩

/-- Gives back the last piece of a match that `p` made at depth zero. -/
def rollback (p : Pattern) (rules : RuleSet) (config : Config) (m : Matched) : Option (Matched × Nat) :=
  p.giveBack rules config.maxDepth m

/-- Whether `p` matches at `c`; the cursor goes back to where it was, and the answer is no if
the mark pushed for that cannot be popped. -/
def test (p : Pattern) (rules : RuleSet) (config : Config) (c : Cursor) : Bool × Array Event :=
  let o := p.consumeTracked rules config c.mark
  (o.result matches .ok _ && o.cursor.restoreMark matches .ok _, o.events)

/-- Matches `p` at the start of a fresh text under the default configuration, reporting the
start and how far the cursor got. -/
def parse (p : Pattern) (rules : RuleSet) (input : String) : Except MatchError Fragment × Array Event :=
  let o := p.consumeTracked rules {} (Cursor.ofString input)
  (o.result.map (·.fragment),
    #[Event.parsingWith input p.render] ++ o.events ++ #[.consumed o.cursor.pos o.cursor.size])

end Pattern
end Backtrack
