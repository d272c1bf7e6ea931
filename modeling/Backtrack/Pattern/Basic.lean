import Backtrack.Selection
import Backtrack.RegexLibrary

/-!
# Patterns

A pattern is a tree whose nodes match text at a cursor. Its leaves are primitives: one
character of a class, a run of such characters, whitespace, literal text, a regular
expression, or a zero-width boundary. Its inner nodes are combinators: lookaround, sequence
(optionally with a separator between the steps), ordered choice, repetition, separated
lists, and reshaping nodes (group, flatten, select, token). A rule node refers to a named
pattern of a rule set, which allows recursion; an embedded node holds a matcher of its own,
such as a named grammar.

Every node carries a suppression flag: a suppressed node still matches, but its fragment is
left out of its parent's result. Whitespace, boundaries and lookaround are suppressed unless
asked otherwise.

Main statement: `new_suppressed` (a new node is suppressed exactly when its shape is quiet
by default).
-/

namespace Backtrack

/-- A set of characters given by a list, or everything outside that list. -/
structure CharClass where
  chars : String
  inverse : Bool
  deriving DecidableEq, Repr

namespace CharClass

/-- The characters of `chars`. -/
def of (chars : String) : CharClass := ⟨chars, false⟩

/-- Every character outside `chars`. -/
def notOf (chars : String) : CharClass := ⟨chars, true⟩

/-- Every character. -/
def any : CharClass := notOf ""

/-- Whether the class accepts every character. -/
def isAny (c : CharClass) : Bool := c.inverse && c.chars.isEmpty

/-- Whether the class accepts `ch`. -/
def accepts (c : CharClass) (ch : Char) : Bool := c.chars.toList.contains ch != c.inverse

end CharClass

/-- A run of `min` to `max` characters of a class. A configured run reads its characters
from the whitespace of the matching configuration instead. -/
structure Run where
  cls : CharClass
  min : Nat
  max : Option Nat
  configured : Bool
  deriving DecidableEq, Repr

/-- Zero-width tests of the characters around the cursor. -/
inductive Boundary where
  | stringStart
  | stringEnd
  | lineStart
  | lineEnd
  | wordStart
  | wordEnd
  deriving DecidableEq, Repr

/-- Which capture groups of a regular expression make up its fragment. -/
inductive Groups where
  | one (g : Nat)
  | many (gs : List Nat)
  deriving DecidableEq, Repr

/-- Options of a regular expression pattern. -/
structure RegexOptions where
  groups : Groups := .one 0
  /-- The group whose end the cursor moves to. -/
  advance : Nat := 0
  caseInsensitive : Bool := false
  multiLine : Bool := false
  dotAll : Bool := false
  deriving DecidableEq, Repr

/-- A regular expression pattern: its source, its options and the expression the library built
from it. -/
structure RegexNode where
  source : String
  options : RegexOptions
  compiled : CompiledRegex

/-- A reference to the rule `name` of the rule set with identity `scope`. -/
structure RuleRef where
  name : String
  scope : Nat
  deriving DecidableEq, Repr

mutual
/-- A pattern node: a shape and whether the parent leaves out its fragment. -/
inductive Pattern where
  | mk (shape : Shape) (suppressed : Bool)

/-- What a pattern node matches. -/
inductive Shape where
  | char (cls : CharClass)
  | run (r : Run)
  | whitespace (r : Run)
  | literal (text : String)
  | regex (rx : RegexNode)
  | boundary (b : Boundary)
  | nextIs (negated : Bool) (inner : Pattern)
  | prevIs (negated : Bool) (inner : Pattern)
  /-- Steps in order, with the separator between each two; `auto` marks a sequence built by
  `+`, which later `+` extend instead of nesting. -/
  | sequence (children : List Pattern) (separator : Option Pattern) (auto : Bool)
  /-- The first child that matches; `auto` marks a choice built by `<|>`. -/
  | choice (children : List Pattern) (auto : Bool)
  | repetition (inner : Pattern) (min : Nat) (max : Option Nat)
  | separated (separator element : Pattern) (min : Nat) (max : Option Nat)
  | group (inner : Pattern)
  | flatten (inner : Pattern)
  | select (inner : Pattern) (selection : Selection)
  | token (inner : Pattern)
  | rule (ref : RuleRef)
  /-- A matcher of its own; `tag` identifies the construction, so that only copies of one
  embedded matcher compare equal. -/
  | embed (tag : Nat) (m : Embedded)

/-- Matchers that a pattern can embed. -/
inductive Embedded where
  /-- A named grammar: its body, and a pattern that its matches must not match in full. -/
  | grammar (name : String) (body : Pattern) (bad : Option Pattern)
  /-- Another pattern, behind a shared reference. -/
  | shared (inner : Pattern)
  /-- A matcher that always reports an empty mark stack. -/
  | broken
  /-- A matcher that steps over one character and pops a mark it never pushed. -/
  | unbalanced
end

namespace Shape

/-- Whitespace, boundaries and lookaround leave their fragment out unless asked otherwise. -/
def quietByDefault : Shape → Bool
  | whitespace _ | boundary _ | nextIs .. | prevIs .. => true
  | _ => false

end Shape

namespace Pattern

/-- The shape of a node. -/
def shape : Pattern → Shape
  | mk s _ => s

/-- Whether the parent leaves out this node's fragment. -/
def suppressed : Pattern → Bool
  | mk _ b => b

/-- A node of the given shape, suppressed if its shape is quiet by default. -/
def new (s : Shape) : Pattern := mk s s.quietByDefault

/-- The same node with the given suppression. -/
def withSuppress (p : Pattern) (b : Bool) : Pattern := mk p.shape b

/-- The same node, left out of its parent's result. -/
def suppress (p : Pattern) : Pattern := p.withSuppress true

@[simp] theorem shape_mk (s : Shape) (b : Bool) : (mk s b).shape = s := rfl

@[simp] theorem suppressed_mk (s : Shape) (b : Bool) : (mk s b).suppressed = b := rfl

theorem new_suppressed (s : Shape) : (new s).suppressed = s.quietByDefault := rfl

end Pattern

/-- A named grammar: a pattern whose fragment is labelled with the name, and optionally a
bad pattern that its matched text must not match in full. -/
structure Grammar where
  name : String
  body : Pattern
  bad : Option Pattern := none

end Backtrack
