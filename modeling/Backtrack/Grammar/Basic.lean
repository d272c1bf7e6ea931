import Backtrack.Match.Run

/-!
# Named grammars

A grammar is a pattern with a name. Its match is labelled with the name. It may carry a bad
pattern: when the text of its match matches the bad pattern in full, the match is rejected,
the cursor goes back to where the grammar started, and the failure reads
`Invalid match "text" in Name`.

Parsing runs a grammar on a fresh text and reports the parsed result: the name, the input,
the (unlabelled) fragment and how many characters were consumed. A complete parse also
requires the grammar to consume the whole input.
-/

namespace Backtrack

/-- The result of parsing with a grammar. -/
structure Parsed where
  name : String
  input : String
  fragment : Fragment
  consumed : Nat

namespace Parsed

/-- The text of the fragment. -/
def text (p : Parsed) : String := p.fragment.toText

/-- The fragment labelled with the grammar's name. -/
def toNamed (p : Parsed) : Fragment := .named p.name p.fragment

/-- `Name("input")`. -/
def repr (p : Parsed) : String := p.name ++ "(" ++ Text.quote p.input ++ ")"

/-- Item `i` of the fragment, if it is a list. -/
def get? (p : Parsed) (i : Nat) : Option Fragment := p.fragment.get? i

end Parsed

namespace Grammar

/-- The fewest characters a match consumes. -/
def minLength (g : Grammar) : Nat := g.body.minLength

/-- The most characters a match consumes. -/
def maxLength (g : Grammar) : Limit := g.body.maxLength

/-- Matches the grammar at the cursor, as a matcher of its own: the fragment is labelled
with the name. -/
def consumeAt (g : Grammar) (rules : RuleSet) (config : Config) : Engine Matched :=
  Engine.step (contextAt rules config checkAllowance 0) (g.toPattern 0)

/-- Matches the grammar at the start of a fresh text. -/
def run (g : Grammar) (rules : RuleSet) (config : Config) (input : String) :
    Except MatchError Parsed × Cursor × Array Event :=
  let (r, c, ev) := (g.consumeAt rules config).runOn (Cursor.ofString input)
  (r.map fun m ↦ ⟨g.name, input, m.fragment.unlabel, c.pos⟩, c, ev)

/-- Parses `input` under `config`, reporting the start. -/
def parseWith (g : Grammar) (rules : RuleSet) (config : Config) (input : String) :
    Except MatchError Parsed × Array Event :=
  let (r, _, ev) := g.run rules config input
  (r, #[Event.parsingAs input g.name] ++ ev)

/-- Parses `input` under the default configuration. -/
def parse (g : Grammar) (rules : RuleSet) (input : String) : Except MatchError Parsed × Array Event :=
  g.parseWith rules {} input

/-- Parses `input` under the default configuration and requires the whole input to be
consumed. -/
def parseComplete (g : Grammar) (rules : RuleSet) (input : String) : Except MatchError Parsed × Array Event :=
  let (r, c, ev) := g.run rules {} input
  match r with
  | .ok p =>
    if c.atEnd then (.ok p, ev)
    else (.error (.failure (c.failure ("Expected end of input after " ++ g.name))), ev)
  | .error e => (.error e, ev)

/-- Parses `input` as a plain matcher under the default configuration: the fragment is
labelled with the name, and the log reports the start and how far the cursor got. -/
def parseLabelled (g : Grammar) (rules : RuleSet) (input : String) : Except MatchError Fragment × Array Event :=
  let (r, c, ev) := (g.consumeAt rules {}).runOn (Cursor.ofString input)
  (r.map (·.fragment), #[Event.parsingWith input g.name] ++ ev ++ #[.consumed c.pos c.size])

/-- Whether the grammar matches at `c`; the cursor goes back to where it was, and the answer
is no if the mark pushed for that cannot be popped. -/
def test (g : Grammar) (rules : RuleSet) (c : Cursor) : Bool × Array Event :=
  let (r, c', ev) := (g.consumeAt rules {}).runOn c.mark
  (r matches .ok _ && c'.restoreMark matches .ok _, ev)

end Grammar
end Backtrack
