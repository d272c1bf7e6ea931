import Backtrack.Pattern.Basic

/-!
# Building patterns

Functions that build pattern nodes, and the three operators:

* `a + b` is a sequence of the steps of `a` and of `b`, where an open sequence (built by `+`,
  without separator, not suppressed) gives its children instead of itself;
* `a <|> b` is a choice among the alternatives of `a` and of `b`, where an open choice gives
  its children;
* `p * n` is a sequence of `n` copies of `p`.

An explicit sequence of a single open sequence adopts that sequence's children.

Main statements: `append_assoc` (`+` is associative) and `sequenceParts_append` (the steps of
a sum are the steps of its parts).
-/

namespace Backtrack
namespace Pattern

/-- The steps that `+` splices in: the children of an open sequence, else the pattern. -/
def sequenceParts : Pattern → List Pattern
  | mk (.sequence cs none true) false => cs
  | p => [p]

/-- The alternatives that `<|>` splices in: the children of an open choice, else the pattern. -/
def choiceParts : Pattern → List Pattern
  | mk (.choice cs true) false => cs
  | p => [p]

/-- `a + b`: an open sequence of the steps of both. -/
def append (a b : Pattern) : Pattern := new (.sequence (a.sequenceParts ++ b.sequenceParts) none true)

/-- `a <|> b`: an open choice among the alternatives of both. -/
def orElse (a b : Pattern) : Pattern := new (.choice (a.choiceParts ++ b.choiceParts) true)

/-- `p * n`: an open sequence of `n` copies of `p`. -/
def times (p : Pattern) (n : Nat) : Pattern := new (.sequence (List.replicate n p) none true)

instance : HAdd Pattern Pattern Pattern := ⟨append⟩

instance : OrElse Pattern := ⟨fun a b ↦ orElse a (b ())⟩

instance : HMul Pattern Nat Pattern := ⟨times⟩

/-- Literal text. -/
def literal (t : String) : Pattern := new (.literal t)

/-- One character of `chars`. -/
def charOf (chars : String) : Pattern := new (.char (.of chars))

/-- One character outside `chars`. -/
def charNotOf (chars : String) : Pattern := new (.char (.notOf chars))

/-- Any one character. -/
def anyChar : Pattern := new (.char .any)

/-- A run of `min` to `max` characters of a class. -/
def charRun (cls : CharClass) (min : Nat) (max : Option Nat) : Pattern := new (.run ⟨cls, min, max, false⟩)

/-- One or more characters of `chars`. -/
def chars (s : String) : Pattern := charRun (.of s) 1 none

/-- One or more characters outside `chars`. -/
def charsNot (s : String) : Pattern := charRun (.notOf s) 1 none

/-- `min` to `max` characters of `chars`. -/
def charsBounded (s : String) (min : Nat) (max : Option Nat) : Pattern := charRun (.of s) min max

/-- Any amount of the whitespace of the configuration. -/
def whitespace : Pattern := new (.whitespace ⟨.of " \t\r\n", 0, none, true⟩)

/-- `min` to `max` whitespace characters of `s`. -/
def whitespaceBounded (s : String) (min : Nat) (max : Option Nat) : Pattern :=
  new (.whitespace ⟨.of s, min, max, false⟩)

/-- Any amount of whitespace characters of `s`. -/
def whitespaceOf (s : String) : Pattern := whitespaceBounded s 0 none

def stringStart : Pattern := new (.boundary .stringStart)
def stringEnd : Pattern := new (.boundary .stringEnd)
def lineStart : Pattern := new (.boundary .lineStart)
def lineEnd : Pattern := new (.boundary .lineEnd)
def wordStart : Pattern := new (.boundary .wordStart)
def wordEnd : Pattern := new (.boundary .wordEnd)

def nextIs (p : Pattern) : Pattern := new (.nextIs false p)
def nextIsNot (p : Pattern) : Pattern := new (.nextIs true p)
def prevIs (p : Pattern) : Pattern := new (.prevIs false p)
def prevIsNot (p : Pattern) : Pattern := new (.prevIs true p)

/-- An explicit sequence; a single open sequence gives its children. -/
def sequence : List Pattern → Pattern
  | [only] => new (.sequence only.sequenceParts none false)
  | cs => new (.sequence cs none false)

/-- A sequence with `sep` between each two children. -/
def sequenceSep (cs : List Pattern) (sep : Pattern) : Pattern := new (.sequence cs (some sep) false)

/-- An explicit choice. -/
def anyOf (cs : List Pattern) : Pattern := new (.choice cs false)

/-- `p` repeated `min` to `max` times. -/
def nMatches (p : Pattern) (min : Nat) (max : Option Nat) : Pattern := new (.repetition p min max)

def optional (p : Pattern) : Pattern := nMatches p 0 (some 1)
def zeroOrMore (p : Pattern) : Pattern := nMatches p 0 none
def oneOrMore (p : Pattern) : Pattern := nMatches p 1 none
def exactly (p : Pattern) (n : Nat) : Pattern := nMatches p n (some n)

/-- `min` to `max` elements with a suppressed separator between each two. -/
def separatedByBounded (sep elem : Pattern) (min : Nat) (max : Option Nat) : Pattern :=
  new (.separated sep.suppress elem min max)

/-- One or more elements with a suppressed separator between each two. -/
def separatedBy (sep elem : Pattern) : Pattern := separatedByBounded sep elem 1 none

def group (p : Pattern) : Pattern := new (.group p)
def flatten (p : Pattern) : Pattern := new (.flatten p)
def select (p : Pattern) (sel : Selection) : Pattern := new (.select p sel)
def token (p : Pattern) : Pattern := new (.token p)

/-- An embedded matcher, identified by `tag`. -/
def embed (tag : Nat) (m : Embedded) : Pattern := new (.embed tag m)

theorem sequenceParts_append (a b : Pattern) : (a + b).sequenceParts = a.sequenceParts ++ b.sequenceParts := rfl

theorem append_assoc (a b c : Pattern) : a + b + c = a + (b + c) := by
  show append (append a b) c = append a (append b c)
  simp [append, sequenceParts, new, Shape.quietByDefault, List.append_assoc]

end Pattern

namespace Grammar

/-- The grammar as a pattern node, identified by `tag`. -/
def toPattern (g : Grammar) (tag : Nat) : Pattern := Pattern.embed tag (.grammar g.name g.body g.bad)

end Grammar
end Backtrack
