import Backtrack.Regex.Parse
import Backtrack.Regex.Unicode
import Backtrack.Regex.Program

/-!
# The meaning of a regular expression

Reading turns a syntax tree into a simpler tree that only knows sets of characters,
assertions, repetitions, captures, concatenation and alternation. The flags decide on the
way what each piece means:

* `i` closes literals and classes under case folding (Perl classes already are closed);
* `m` turns `^` and `$` into line anchors, `R` makes those and `.` treat `\r` as a line end;
* `s` lets `.` match a line feed, `U` swaps greedy and lazy repetition;
* without `u`, classes, boundaries and case folding are ASCII-only, and anything that could
  match a byte outside ASCII is refused, since matching happens on text.

Flags set by `(?flags)` hold until the end of the enclosing group; flags of a group
`(?flags:...)` hold inside it.
-/

namespace Backtrack
namespace Regex

/-- A regular expression reduced to its meaning. -/
inductive Expr where
  | empty
  /-- A class; `bytes` marks one read without `u`, which the automaton sees as single bytes,
  all of them ASCII. -/
  | chars (set : CharSet) (bytes : Bool)
  | look (l : Look)
  | repetition (min : Nat) (max : Option Nat) (greedy : Bool) (inner : Expr)
  | capture (index : Nat) (inner : Expr)
  | concat (items : List Expr)
  | alternation (alts : List Expr)
  deriving Repr

namespace Expr

mutual
/-- Whether the expression can only match the empty string. -/
def zeroWidth : Expr → Bool
  | empty | look _ => true
  | chars _ _ => false
  | repetition _ _ _ h | capture _ h => zeroWidth h
  | concat hs | alternation hs => allZeroWidth hs

def allZeroWidth : List Expr → Bool
  | [] => true
  | h :: hs => zeroWidth h && allZeroWidth hs
end

mutual
/-- Whether the expression can match the empty string. -/
def matchesEmpty : Expr → Bool
  | empty | look _ => true
  | chars _ _ => false
  | repetition min _ _ h => min = 0 || matchesEmpty h
  | capture _ h => matchesEmpty h
  | concat hs => allMatchEmpty hs
  | alternation hs => anyMatchesEmpty hs

def allMatchEmpty : List Expr → Bool
  | [] => true
  | h :: hs => matchesEmpty h && allMatchEmpty hs

def anyMatchesEmpty : List Expr → Bool
  | [] => false
  | h :: hs => matchesEmpty h || anyMatchesEmpty hs
end

mutual
/-- One more than the largest index of a capture in the expression, or zero without any. -/
def captureBound : Expr → Nat
  | empty | look _ | chars _ _ => 0
  | repetition _ _ _ h => captureBound h
  | capture i h => Nat.max (i + 1) (captureBound h)
  | concat hs | alternation hs => listCaptureBound hs

def listCaptureBound : List Expr → Nat
  | [] => 0
  | h :: hs => Nat.max (captureBound h) (listCaptureBound hs)
end

/-- A repetition, simplified: an expression that only matches the empty string is repeated
at most once, `{0}` is nothing and `{1}` is the expression itself. -/
def repeatOf (min : Nat) (max : Option Nat) (greedy : Bool) (h : Expr) : Expr :=
  let (min, max) := if h.zeroWidth then (Nat.min min 1, some ((max.map (Nat.min · 1)).getD 1)) else (min, max)
  if min = 0 && max = some 0 then .empty
  else if min = 1 && max = some 1 then h
  else .repetition min max greedy h

end Expr

/-- The flags in force while reading. -/
structure Flags where
  caseInsensitive : Bool := false
  multiLine : Bool := false
  dotAll : Bool := false
  swapGreed : Bool := false
  unicode : Bool := true
  crlf : Bool := false

namespace Flags

/-- Sets or clears one flag. -/
def set (fs : Flags) (f : Flag) (on : Bool) : Flags :=
  match f with
  | .caseInsensitive => { fs with caseInsensitive := on }
  | .multiLine => { fs with multiLine := on }
  | .dotAll => { fs with dotAll := on }
  | .swapGreed => { fs with swapGreed := on }
  | .unicode => { fs with unicode := on }
  | .crlf => { fs with crlf := on }
  | .ignoreWhitespace => fs

/-- Applies a flag list: flags before a `-` are set, flags after it cleared. -/
def apply (fs : Flags) (items : List FlagItem) : Flags :=
  (items.foldl (fun (acc, on) item ↦ match item with
    | .negation => (acc, false)
    | .flag f => (acc.set f on, on)) (fs, true)).1

end Flags

abbrev Reading := StateT Flags (Except Fault)

namespace Reading

def fault {α : Type} (kind : ErrorKind) (span : Span) : Reading α := throw ⟨kind, span, none⟩

/-- A class closed under case folding when `i` is on, then negated if asked; without `u`, a
result reaching outside ASCII is refused at `span`. -/
def foldAndNegate (span : Span) (negated : Bool) (s : CharSet) : Reading CharSet := do
  let fs ← get
  if fs.unicode then
    let s := if fs.caseInsensitive then s.caseFold else s
    pure (if negated then s.negate else s)
  else
    let s := if fs.caseInsensitive then s.asciiCaseFold else s
    let s := if negated then s.negate else s
    if !s.isAscii then fault .invalidUtf8 span
    pure s

/-- A literal as a character: a byte escape beyond ASCII is refused without `u`. -/
def scalar (l : Literal) : Reading Char := do
  if !(← get).unicode && l.byte && l.c.toNat > 0x7F then fault .invalidUtf8 l.span
  pure l.c

/-- A literal inside a class; without `u` it must be ASCII. -/
def classLiteral (l : Literal) : Reading Nat := do
  let c ← scalar l
  if !(← get).unicode && c.toNat > 0x7F then fault .unicodeNotAllowed l.span
  pure c.toNat

/-- A Unicode class `\p{..}`, folded and negated as asked. -/
def unicodeClass (q : UnicodeQuery) (negated : Bool) (span : Span) : Reading CharSet := do
  if !(← get).unicode then fault .unicodeNotAllowed span
  match Regex.unicodeClass q with
  | .error .propertyNotFound => fault .unicodePropertyNotFound span
  | .error .propertyValueNotFound => fault .unicodePropertyValueNotFound span
  | .ok s => foldAndNegate span negated s

/-- A Perl class, negated as asked; without `u` it is the ASCII class and may not be
negated. -/
def perlClass (k : PerlClass) (negated : Bool) (span : Span) : Reading CharSet := do
  if (← get).unicode then
    let s := perlUnicode k
    pure (if negated then s.negate else s)
  else
    let s := perlAscii k
    let s := if negated then s.negate else s
    if !s.isAscii then fault .invalidUtf8 span
    pure s

/-- The set of the contents of a bracketed class, before its own folding and negation. Each
item goes into the class that holds it by union, starting from an empty class, so what comes
out is in canonical form even when the item itself, a negated class, is not. -/
def classSet : ClassSet → Reading CharSet
  | .empty _ => pure .empty
  | .char l => do
    let n ← classLiteral l
    pure (.range n n)
  | .range lo hi => do
    let a ← classLiteral lo
    let b ← classLiteral hi
    pure (.range a b)
  | .ascii k negated span => do pure (CharSet.empty.union (← foldAndNegate span negated (asciiClass k)))
  | .unicode q negated span => do pure (CharSet.empty.union (← unicodeClass q negated span))
  | .perl k negated span => do pure (CharSet.empty.union (← perlClass k negated span))
  | .bracketed negated inner span => do
    pure (CharSet.empty.union (← foldAndNegate span negated (← classSet inner)))
  | .union items _ => items.attach.foldlM (fun acc ⟨item, _⟩ ↦ do pure (acc.union (← classSet item))) .empty
  | .op kind lhs rhs _ => do
    let l ← classSet lhs
    let r ← classSet rhs
    let fs ← get
    let fold := fun (s : CharSet) ↦
      if !fs.caseInsensitive then s else if fs.unicode then s.caseFold else s.asciiCaseFold
    let (l, r) := (fold l, fold r)
    pure <| CharSet.empty.union <| match kind with
      | .intersection => l.intersect r
      | .difference => l.difference r
      | .symmetricDifference => l.symmetricDifference r

/-- A literal character, with its other cases when `i` is on; without `u` only ASCII letters
have other cases. Outside a class a character beyond ASCII is allowed even without `u`: it
stands for its encoding, which is valid text. -/
def literal (l : Literal) : Reading Expr := do
  let c ← scalar l
  let fs ← get
  if fs.caseInsensitive then
    if fs.unicode then return .chars (CharSet.single c).caseFold false
    if c.toNat < 0x80 && c.isAlpha then return .chars (CharSet.single c).asciiCaseFold true
  pure (.chars (.single c) false)

/-- `.`: any character but the line ends, or any at all with `s`. -/
def dot (span : Span) : Reading Expr := do
  let fs ← get
  if !fs.unicode then fault .invalidUtf8 span
  if fs.dotAll then return .chars .all false
  let ends := if fs.crlf then CharSet.ofRanges [(10, 10), (13, 13)] else .single '\n'
  pure (.chars ends.negate false)

/-- The assertion that an anchor or boundary stands for. -/
def assertion (k : Assertion) : Reading Expr := do
  let fs ← get
  let u := fs.unicode
  pure <| .look <| match k with
    | .startLine => if !fs.multiLine then .textStart else if fs.crlf then .lineStartCrlf else .lineStart
    | .endLine => if !fs.multiLine then .textEnd else if fs.crlf then .lineEndCrlf else .lineEnd
    | .startText => .textStart
    | .endText => .textEnd
    | .wordBoundary => if u then .wordBoundary else .wordBoundaryAscii
    | .notWordBoundary => if u then .notWordBoundary else .notWordBoundaryAscii
    | .wordStart => if u then .wordStart else .wordStartAscii
    | .wordEnd => if u then .wordEnd else .wordEndAscii
    | .wordStartHalf => if u then .wordStartHalf else .wordStartHalfAscii
    | .wordEndHalf => if u then .wordEndHalf else .wordEndHalfAscii

/-- The bounds of a repetition. -/
def bounds : Repeat → Nat × Option Nat
  | .zeroOrOne => (0, some 1)
  | .zeroOrMore => (0, none)
  | .oneOrMore => (1, none)
  | .exactly n => (n, some n)
  | .atLeast n => (n, none)
  | .between m n => (m, some n)

/-- Reads a tree, in the order it is written. -/
def ast : Ast → Reading Expr
  | .empty => pure .empty
  | .flags items => do
    modify (·.apply items)
    pure .empty
  | .literal l => literal l
  | .dot span => dot span
  | .assertion k _ => assertion k
  | .unicode q negated span => do pure (.chars (← unicodeClass q negated span) false)
  | .perl k negated span => do pure (.chars (← perlClass k negated span) !(← get).unicode)
  | .bracketed negated set span => do
    pure (.chars (← foldAndNegate span negated (← classSet set)) !(← get).unicode)
  | .repetition kind greedy inner _ => do
    let h ← ast inner
    let (min, max) := bounds kind
    pure (Expr.repeatOf min max (greedy != (← get).swapGreed) h)
  | .group kind inner _ => do
    let outer ← get
    if let .plain items := kind then modify (·.apply items)
    let h ← ast inner
    set outer
    pure <| match kind with
      | .capture index _ => .capture index h
      | .plain _ => h
  | .alternation alts _ => do pure (.alternation (← alts.attach.mapM fun ⟨a, _⟩ ↦ ast a))
  | .concat items _ => do pure (.concat (← items.attach.mapM fun ⟨a, _⟩ ↦ ast a))

end Reading
end Regex
end Backtrack
