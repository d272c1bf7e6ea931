import Backtrack.Failure

/-!
# Trace events

Matching and the operations of rule sets and grammars report what they do as a list of
events: failures of patterns, steps given back by a sequence, lookbehind windows that
matched, rules and grammars defined, parses started and finished, and matches that a
grammar rejected. Each event is shown as one line, led by its level: `TRACE` for the steps of
matching, `DEBUG` for operations, `WARN` for rejections.
-/

namespace Backtrack

/-- Something that matching or an operation reports. -/
inductive Event where
  /-- A pattern failed. -/
  | failed (p : Pattern) (f : Failure)
  /-- A sequence failed at a step and nothing could be given back. -/
  | stepFailed (seq : Pattern) (step : Nat) (f : Failure)
  /-- A step of a sequence gave back characters, leaving the cursor at `pos`. -/
  | gaveBack (p : Pattern) (count pos : Nat)
  /-- A lookbehind window of `width` characters before `pos` matched. -/
  | lookedBehind (width pos : Nat)
  /-- A separator matched but no element followed it. -/
  | strandedSeparator (f : Failure)
  | ruleDefined (name : String)
  | rulesResolved (count : Nat)
  | grammarDefined (name : String)
  /-- A grammar started to parse an input. -/
  | parsingAs (input grammar : String)
  /-- A matcher started to parse an input. -/
  | parsingWith (input description : String)
  /-- A parse stopped at `pos` of `size` characters. -/
  | consumed (pos size : Nat)
  /-- A grammar rejected its match because the text matched its bad pattern. -/
  | rejected (grammar text : String) (bad : Pattern)

namespace Event

/-- The event as one line of a log. -/
def line : Event → String
  | failed p f => "TRACE " ++ p.render ++ " failed: " ++ f.render
  | stepFailed p i f => "TRACE " ++ p.render ++ s!" failed at step {i}: " ++ f.render
  | gaveBack p n pos => "TRACE rolled back " ++ p.render ++ s!" by {n} symbols to {pos}"
  | lookedBehind w pos => s!"TRACE lookbehind matched {w} symbols before {pos}"
  | strandedSeparator f => "TRACE separator matched without a following element: " ++ f.render
  | ruleDefined n => "DEBUG defined rule `" ++ n ++ "`"
  | rulesResolved n => s!"DEBUG resolved {n} rules"
  | grammarDefined n => "DEBUG defined grammar `" ++ n ++ "`"
  | parsingAs input g => "DEBUG parsing " ++ Text.quote input ++ " as " ++ g
  | parsingWith input d => "DEBUG parsing " ++ Text.quote input ++ " with " ++ d
  | consumed pos size => s!"DEBUG consumed {pos} of {size} symbols"
  | rejected g text bad => "WARN " ++ g ++ " rejected " ++ Text.quote text ++ ": matches " ++ bad.render

end Event

/-- A computation that reports events as it goes. -/
abbrev Logged := StateM (Array Event)

/-- Reports an event. -/
def note (e : Event) : Logged Unit := modify (·.push e)

end Backtrack
