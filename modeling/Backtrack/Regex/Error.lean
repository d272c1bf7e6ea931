import Backtrack.Text.Position

/-!
# Errors in regular expressions

A syntax error in a regular expression names what is wrong and where: a span of the pattern,
and for some errors a second span (the earlier of two duplicate names, say). The report shows
the pattern indented by four spaces, a line of carets under each span, and the error; a
pattern of several lines numbers its lines instead and frames them with lines of tildes.
-/

namespace Backtrack
namespace Regex

/-- What is wrong with a regular expression. -/
inductive ErrorKind where
  | captureLimitExceeded
  | classEscapeInvalid
  | classRangeInvalid
  | classRangeLiteral
  | classUnclosed
  | decimalEmpty
  | decimalInvalid
  | escapeHexEmpty
  | escapeHexInvalid
  | escapeHexInvalidDigit
  | escapeUnexpectedEof
  | escapeUnrecognized
  | flagDanglingNegation
  | flagDuplicate
  | flagRepeatedNegation
  | flagUnexpectedEof
  | flagUnrecognized
  | groupNameDuplicate
  | groupNameEmpty
  | groupNameInvalid
  | groupNameUnexpectedEof
  | groupUnclosed
  | groupUnopened
  | nestLimitExceeded (limit : Nat)
  | repetitionCountInvalid
  | repetitionCountDecimalEmpty
  | repetitionCountUnclosed
  | repetitionMissing
  | specialWordBoundaryUnclosed
  | specialWordBoundaryUnrecognized
  | specialWordOrRepetitionUnexpectedEof
  | unicodeClassInvalid
  | unsupportedBackreference
  | unsupportedLookAround
  | unicodeNotAllowed
  | invalidUtf8
  | unicodePropertyNotFound
  | unicodePropertyValueNotFound
  deriving DecidableEq, Repr

namespace ErrorKind

/-- The error in words. -/
def message : ErrorKind → String
  | captureLimitExceeded => "exceeded the maximum number of capturing groups (4294967294)"
  | classEscapeInvalid => "invalid escape sequence found in character class"
  | classRangeInvalid => "invalid character class range, the start must be <= the end"
  | classRangeLiteral => "invalid range boundary, must be a literal"
  | classUnclosed => "unclosed character class"
  | decimalEmpty => "decimal literal empty"
  | decimalInvalid => "decimal literal invalid"
  | escapeHexEmpty => "hexadecimal literal empty"
  | escapeHexInvalid => "hexadecimal literal is not a Unicode scalar value"
  | escapeHexInvalidDigit => "invalid hexadecimal digit"
  | escapeUnexpectedEof => "incomplete escape sequence, reached end of pattern prematurely"
  | escapeUnrecognized => "unrecognized escape sequence"
  | flagDanglingNegation => "dangling flag negation operator"
  | flagDuplicate => "duplicate flag"
  | flagRepeatedNegation => "flag negation operator repeated"
  | flagUnexpectedEof => "expected flag but got end of regex"
  | flagUnrecognized => "unrecognized flag"
  | groupNameDuplicate => "duplicate capture group name"
  | groupNameEmpty => "empty capture group name"
  | groupNameInvalid => "invalid capture group character"
  | groupNameUnexpectedEof => "unclosed capture group name"
  | groupUnclosed => "unclosed group"
  | groupUnopened => "unopened group"
  | nestLimitExceeded n => s!"exceed the maximum number of nested parentheses/brackets ({n})"
  | repetitionCountInvalid => "invalid repetition count range, the start must be <= the end"
  | repetitionCountDecimalEmpty => "repetition quantifier expects a valid decimal"
  | repetitionCountUnclosed => "unclosed counted repetition"
  | repetitionMissing => "repetition operator missing expression"
  | specialWordBoundaryUnclosed =>
    "special word boundary assertion is either unclosed or contains an invalid character"
  | specialWordBoundaryUnrecognized =>
    "unrecognized special word boundary assertion, valid choices are: start, end, start-half or end-half"
  | specialWordOrRepetitionUnexpectedEof =>
    "found either the beginning of a special word boundary or a bounded repetition on a \\b with an opening brace, but no closing brace"
  | unicodeClassInvalid => "invalid Unicode character class"
  | unsupportedBackreference => "backreferences are not supported"
  | unsupportedLookAround => "look-around, including look-ahead and look-behind, is not supported"
  | unicodeNotAllowed => "Unicode not allowed here"
  | invalidUtf8 => "pattern can match invalid UTF-8"
  | unicodePropertyNotFound => "Unicode property not found"
  | unicodePropertyValueNotFound => "Unicode property value not found"

end ErrorKind

/-- A stretch of the pattern, from character offset `start` up to `stop`. -/
structure Span where
  start : Nat
  stop : Nat
  deriving DecidableEq, Repr

/-- A syntax error of a regular expression: its kind, the whole pattern, the span at fault and
possibly a second span. -/
structure Error where
  kind : ErrorKind
  pattern : String
  span : Span
  aux : Option Span := none
  deriving Repr

namespace Error

/-- `n` copies of `c`. -/
def fill (n : Nat) (c : Char) : String := String.ofList (List.replicate n c)

/-- The lines of the pattern: split at line feeds, without a last empty line, and without the
carriage return before a line feed. -/
def patternLines (pattern : String) : List String :=
  let parts := pattern.splitOn "\n"
  let parts := if pattern.isEmpty then [] else
    match parts.getLast? with
    | some "" => parts.dropLast
    | _ => parts
  parts.map fun l ↦ if l.endsWith "\r" then String.ofList l.toList.dropLast else l

/-- Line and column (from one) of a character offset of the pattern. -/
def lineColumn (pattern : String) (offset : Nat) : Nat × Nat :=
  let p := Text.Position.locate pattern.toList offset
  (p.line, p.column)

/-- The carets under line `line` (from one) for the spans on it, after `pad` blanks. -/
def caretLine (pattern : String) (pad line : Nat) (spans : List Span) : Option String :=
  let onLine := spans.filter fun s ↦ (lineColumn pattern s.start).1 = line
  if onLine.isEmpty then none else
  let step : Nat × String → Span → Nat × String := fun (col, acc) s ↦
    let c0 := (lineColumn pattern s.start).2
    let c1 := (lineColumn pattern s.stop).2
    let gap := c0 - 1 - col
    let width := max 1 (c1 - c0)
    (col + gap + width, acc ++ fill gap ' ' ++ fill width '^')
  some (fill pad ' ' ++ (onLine.foldl step (0, "")).2)

/-- The spans in the order of their starts, one-line spans only. -/
def oneLineSpans (e : Error) : List Span :=
  let all := e.span :: e.aux.toList
  let one := all.filter fun s ↦ (lineColumn e.pattern s.start).1 = (lineColumn e.pattern s.stop).1
  one.mergeSort fun a b ↦ decide (a.start ≤ b.start)

/-- The full report of the error. -/
def render (e : Error) : String :=
  let lines := patternLines e.pattern
  let count := lines.length + (if e.pattern.endsWith "\n" then 1 else 0)
  let width := if count ≤ 1 then 0 else (toString count).length
  let pad := if width = 0 then 4 else 2 + width
  let spans := e.oneLineSpans
  let numbered := lines.zipIdx.map fun (l, i) ↦
    let label := if width = 0 then "    "
      else fill (width - (toString (i + 1)).length) ' ' ++ toString (i + 1) ++ ": "
    label ++ l ++ "\n" ++ ((caretLine e.pattern pad (i + 1) spans).map (· ++ "\n")).getD ""
  let notated := String.join numbered
  if e.pattern.contains '\n' then
    let divider := fill 79 '~'
    let multi := (e.span :: e.aux.toList).filter fun s ↦
      (lineColumn e.pattern s.start).1 ≠ (lineColumn e.pattern s.stop).1
    let notes := multi.map fun s ↦
      let (l0, c0) := lineColumn e.pattern s.start
      let (l1, c1) := lineColumn e.pattern s.stop
      s!"on line {l0} (column {c0}) through line {l1} (column {c1 - 1})"
    "regex parse error:\n" ++ divider ++ "\n" ++ notated ++ divider ++ "\n"
      ++ (if notes.isEmpty then "" else "\n".intercalate notes ++ "\n")
      ++ "error: " ++ e.kind.message
  else
    "regex parse error:\n" ++ notated ++ "error: " ++ e.kind.message

end Error

/-- Why a regular expression does not compile: a syntax error, or automata beyond the size
limit, in bytes. -/
inductive Failure where
  | malformed (e : Error)
  | tooBig (limit : Nat)
  deriving Repr

/-- The report of a failure. -/
def Failure.render : Failure → String
  | .malformed e => e.render
  | .tooBig limit => s!"Compiled regex exceeds size limit of {limit} bytes."

end Regex
end Backtrack
