import Backtrack.Pattern.Display
import Backtrack.Text.Position

/-!
# Failures and match errors

A failure says what was expected at which offset: a message, a pattern that did not match
(`Expected P`), or a pattern that matched where it must not (`Did not expect P`). The line
and column of the offset are worked out only when the failure is shown, from the text it
happened in. A failure is written `what at line:column`; two failures are equal when their
offsets and messages are, wherever their lines and columns came from.

A failure is the one recoverable outcome of matching: a combinator may try something else
after it. Every other match error ends the whole match: a pop from an empty mark stack,
nesting past the depth limit, a rule that is not defined, and running out of the allowance
of nested grammar checks, which happens only when those checks would never end.
-/

namespace Backtrack

/-- What a failed match expected. -/
inductive Expectation where
  | message (text : String)
  | pattern (p : Pattern)
  | absent (p : Pattern)

/-- Where a failure happened: a position given outright, or an offset into a text. -/
inductive Place where
  | known (pos : Text.Position)
  | within (text : Array Char) (offset : Nat)

/-- A recoverable failure of a match. -/
structure Failure where
  expectation : Expectation
  place : Place

namespace Failure

/-- What was expected, in words. -/
def message (f : Failure) : String :=
  match f.expectation with
  | .message m => m
  | .pattern p => "Expected " ++ p.render
  | .absent p => "Did not expect " ++ p.render

/-- The offset of the failure, in characters. -/
def offset (f : Failure) : Nat :=
  match f.place with
  | .known pos => pos.offset
  | .within _ n => n

/-- The line, column and offset of the failure. -/
def position (f : Failure) : Text.Position :=
  match f.place with
  | .known pos => pos
  | .within text n => Text.Position.locate text.toList n

/-- `message at line:column`. -/
def render (f : Failure) : String := f.message ++ " at " ++ f.position.render

/-- `ParseFailure { message: "...", offset: n }`. -/
def debug (f : Failure) : String :=
  "ParseFailure \x7b message: " ++ Text.quote f.message ++ s!", offset: {f.offset} " ++ "\x7d"

/-- Failures are equal when their offsets and messages are. -/
def same (f g : Failure) : Bool := f.offset == g.offset && f.message == g.message

end Failure

/-- Why a match stopped. -/
inductive MatchError where
  | failure (f : Failure)
  | markUnderflow (offset : Nat)
  | depthExceeded (limit offset : Nat)
  | unresolvedRule (name : String)
  | exhausted

namespace MatchError

/-- Only failures are recoverable. -/
def recoverable : MatchError → Bool
  | failure _ => true
  | _ => false

/-- The error in words. -/
def render : MatchError → String
  | failure f => f.render
  | markUnderflow n => s!"cannot pop mark: mark stack is empty (offset {n})"
  | depthExceeded l n => s!"nesting depth limit of {l} exceeded at offset {n}"
  | unresolvedRule name => "rule `" ++ name ++ "` is not defined"
  | exhausted => "nested grammar checks do not terminate"

/-- The debug form, `Failure(ParseFailure { .. })` or `MarkUnderflow { offset: 3 }`. -/
def debug : MatchError → String
  | failure f => "Failure(" ++ f.debug ++ ")"
  | markUnderflow n => s!"MarkUnderflow \x7b offset: {n} \x7d"
  | depthExceeded l n => s!"DepthExceeded \x7b limit: {l}, offset: {n} \x7d"
  | unresolvedRule name => "UnresolvedRule \x7b name: " ++ Text.quote name ++ " \x7d"
  | exhausted => "Exhausted"

/-- The name of the kind of error. -/
def kind : MatchError → String
  | failure _ => "Failure"
  | markUnderflow _ => "MarkUnderflow"
  | depthExceeded .. => "DepthExceeded"
  | unresolvedRule _ => "UnresolvedRule"
  | exhausted => "Exhausted"

/-- Errors are equal when they are of one kind with equal fields. -/
def same : MatchError → MatchError → Bool
  | failure f, failure g => f.same g
  | markUnderflow a, markUnderflow b => a == b
  | depthExceeded l n, depthExceeded l' n' => l == l' && n == n'
  | unresolvedRule a, unresolvedRule b => a == b
  | exhausted, exhausted => true
  | _, _ => false

end MatchError
end Backtrack
