import Backtrack.Grammar.Basic

/-!
# Sets of grammars

A grammar set is a rule set whose rules are grammars, so that grammars may refer to each
other (and to themselves) by name. Defining a grammar defines the rule of its name as the
grammar's node; the set remembers the defined grammars, which are what it counts and parses
with. Names come from the rule set, in declaration order, and so include rules declared but
never defined.
-/

namespace Backtrack

/-- An error of a grammar set: a matching error, a rule error, or an unknown name. -/
inductive GrammarError where
  | matching (e : MatchError)
  | pattern (e : PatternError)
  | unknownGrammar (name : String)

namespace GrammarError

def render : GrammarError → String
  | matching e => e.render
  | pattern e => e.render
  | unknownGrammar n => "no grammar named `" ++ n ++ "`"

def kind : GrammarError → String
  | matching e => e.kind
  | pattern e => e.kind
  | unknownGrammar _ => "UnknownGrammar"

/-- The matching error inside, if it is one. -/
def asMatchError? : GrammarError → Option MatchError
  | matching e => some e
  | _ => none

end GrammarError

/-- Grammars that refer to each other through the rules of one set. -/
structure GrammarSet where
  rules : RuleSet
  grammars : List Grammar

namespace GrammarSet

/-- An empty set whose rules live in scope `scope`. -/
def empty (scope : Nat) : GrammarSet := ⟨.empty scope, []⟩

/-- The defined grammar named `name`. -/
def get? (gs : GrammarSet) (name : String) : Option Grammar := gs.grammars.find? (·.name == name)

def contains (gs : GrammarSet) (name : String) : Bool := (gs.get? name).isSome

/-- The number of defined grammars. -/
def size (gs : GrammarSet) : Nat := gs.grammars.length

/-- The declared names, in declaration order. -/
def names (gs : GrammarSet) : List String := gs.rules.names

/-- Defines the rule named after `g` as `g`'s node, identified by `tag`. -/
def define (gs : GrammarSet) (g : Grammar) (tag : Nat) : Logged (Except PatternError GrammarSet) := do
  match ← gs.rules.defineNoted g.name (g.toPattern tag) with
  | .error e => pure (.error e)
  | .ok rules =>
    note (.grammarDefined g.name)
    pure (.ok ⟨rules, gs.grammars.filter (·.name != g.name) ++ [g]⟩)

/-- Parses `input` with the grammar named `name`. -/
def parse (gs : GrammarSet) (name : String) (input : String) : Except GrammarError Parsed × Array Event :=
  match gs.get? name with
  | none => (.error (.unknownGrammar name), #[])
  | some g =>
    let (r, ev) := g.parse gs.rules input
    (r.mapError .matching, ev)

/-- `GrammarSet { rules: ... }`. -/
def debug (gs : GrammarSet) : String := "GrammarSet \x7b rules: " ++ gs.rules.debug ++ " \x7d"

end GrammarSet
end Backtrack
