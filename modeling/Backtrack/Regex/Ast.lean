import Backtrack.Regex.Error

/-!
# Syntax trees of regular expressions

The tree that parsing a regular expression produces, before any meaning is given to it.
Nodes keep the span of the pattern they were read from where a later stage may have to point
at them in an error.

The syntax is the usual one: literals and escapes, `.`, the anchors `^ $ \A \z`, word
boundaries, Perl classes `\d \s \w`, Unicode classes `\p{..}`, bracketed classes with ranges,
nesting, ASCII classes `[:alpha:]` and the set operations `&& -- ~~`, repetition with
`? * + {n} {n,} {n,m}` (lazy with a trailing `?`), capturing and non-capturing groups, named
groups, inline flags `(?imsuxUR)`, and alternation.
-/

namespace Backtrack
namespace Regex

/-- An inline flag. -/
inductive Flag where
  /-- `i`: letters match regardless of case. -/
  | caseInsensitive
  /-- `m`: `^` and `$` match at line ends. -/
  | multiLine
  /-- `s`: `.` matches a line feed. -/
  | dotAll
  /-- `U`: repetitions are lazy unless marked otherwise. -/
  | swapGreed
  /-- `u`: classes and boundaries are Unicode-aware. -/
  | unicode
  /-- `R`: a line ends with a carriage return, a line feed or both. -/
  | crlf
  /-- `x`: whitespace and `#` comments in the pattern are ignored. -/
  | ignoreWhitespace
  deriving DecidableEq, Repr

/-- An item of a flag list: a flag, or the `-` that negates the flags after it. -/
inductive FlagItem where
  | negation
  | flag (f : Flag)
  deriving DecidableEq, Repr

/-- The zero-width assertions of the syntax. -/
inductive Assertion where
  | startLine
  | endLine
  | startText
  | endText
  | wordBoundary
  | notWordBoundary
  | wordStart
  | wordEnd
  | wordStartHalf
  | wordEndHalf
  deriving DecidableEq, Repr

/-- The Perl classes `\d`, `\s` and `\w`. -/
inductive PerlClass where
  | digit
  | space
  | word
  deriving DecidableEq, Repr

/-- The ASCII classes usable inside brackets as `[:name:]`. -/
inductive AsciiClass where
  | alnum | alpha | ascii | blank | cntrl | digit | graph | lower | print | punct | space
  | upper | word | xdigit
  deriving DecidableEq, Repr

/-- The ASCII class of a name. -/
def AsciiClass.ofName? : String → Option AsciiClass
  | "alnum" => some .alnum
  | "alpha" => some .alpha
  | "ascii" => some .ascii
  | "blank" => some .blank
  | "cntrl" => some .cntrl
  | "digit" => some .digit
  | "graph" => some .graph
  | "lower" => some .lower
  | "print" => some .print
  | "punct" => some .punct
  | "space" => some .space
  | "upper" => some .upper
  | "word" => some .word
  | "xdigit" => some .xdigit
  | _ => none

/-- What a Unicode class asks for: `\pL` (one letter), `\p{Name}`, or `\p{name=value}`. -/
inductive UnicodeQuery where
  | oneLetter (c : Char)
  | named (name : String)
  | byValue (name value : String)
  deriving DecidableEq, Repr

/-- A literal character and where it was written; `byte` marks the two-digit hexadecimal
escape `\xNN`, the only way to write a byte. -/
structure Literal where
  c : Char
  byte : Bool
  span : Span
  deriving Repr

/-- The set operations of bracketed classes. -/
inductive SetOp where
  | intersection
  | difference
  | symmetricDifference
  deriving DecidableEq, Repr

/-- The contents of a bracketed class. -/
inductive ClassSet where
  | empty (span : Span)
  | char (lit : Literal)
  | range (lo hi : Literal)
  | ascii (kind : AsciiClass) (negated : Bool) (span : Span)
  | unicode (query : UnicodeQuery) (negated : Bool) (span : Span)
  | perl (kind : PerlClass) (negated : Bool) (span : Span)
  | bracketed (negated : Bool) (inner : ClassSet) (span : Span)
  | union (items : List ClassSet) (span : Span)
  | op (kind : SetOp) (lhs rhs : ClassSet) (span : Span)
  deriving Repr

/-- How often a repetition repeats. -/
inductive Repeat where
  | zeroOrOne
  | zeroOrMore
  | oneOrMore
  | exactly (n : Nat)
  | atLeast (n : Nat)
  | between (m n : Nat)
  deriving DecidableEq, Repr

/-- The kinds of groups: capturing (with its index and perhaps a name), or not capturing with
flags. -/
inductive GroupKind where
  | capture (index : Nat) (name : Option String)
  | plain (flags : List FlagItem)
  deriving Repr

/-- A regular expression as written. -/
inductive Ast where
  | empty
  | flags (items : List FlagItem)
  | literal (lit : Literal)
  | dot (span : Span)
  | assertion (kind : Assertion) (span : Span)
  | unicode (query : UnicodeQuery) (negated : Bool) (span : Span)
  | perl (kind : PerlClass) (negated : Bool) (span : Span)
  | bracketed (negated : Bool) (set : ClassSet) (span : Span)
  | repetition (kind : Repeat) (greedy : Bool) (inner : Ast) (span : Span)
  | group (kind : GroupKind) (inner : Ast) (span : Span)
  | alternation (alts : List Ast) (span : Span)
  | concat (items : List Ast) (span : Span)
  deriving Repr

/-- The span of a class item. -/
def ClassSet.span : ClassSet → Span
  | .empty s => s
  | .char l => l.span
  | .range lo hi => ⟨lo.span.start, hi.span.stop⟩
  | .ascii _ _ s | .unicode _ _ s | .perl _ _ s | .bracketed _ _ s | .union _ s | .op _ _ _ s => s

namespace Ast

/-- The span of a node, where it has one. -/
def span? : Ast → Option Span
  | literal l => some l.span
  | dot s | assertion _ s | unicode _ _ s | perl _ _ s | bracketed _ _ s
  | repetition _ _ _ s | group _ _ s | alternation _ s | concat _ s => some s
  | _ => none

end Ast
end Regex
end Backtrack
