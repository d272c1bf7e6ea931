import Backtrack.Regex.Ast
import Backtrack.Text.Alphabetic
import Backtrack.Text.Alphanumeric

/-!
# Parsing regular expressions

A hand-written parser that reads a pattern character by character, keeping a stack of the
groups and alternations still open, and a second stack for nested bracketed classes. Every
syntax error is reported with the span of the pattern at fault, as precisely as the reader
needs to find it:

* an unclosed group points at its opening parenthesis, an unopened one at the stray `)`;
* a repetition operator with nothing to repeat points at the operator;
* a bad escape, class range, flag or group name points at the offending characters;
* a duplicate flag or group name also points at the first occurrence.

Whitespace and `#` comments are skipped where the `x` flag is on. Inside counted repetitions
`{m,n}` whitespace is always allowed around the numbers.

After parsing, the tree is checked for nesting deeper than 250 levels (groups, classes,
repetitions, alternations and concatenations each add one).

Every loop here consumes at least one character per round, so the length of the pattern
(plus one) bounds its rounds.
-/

namespace Backtrack
namespace Regex

/-- A syntax error before the pattern is attached: what is wrong, and where. -/
structure Fault where
  kind : ErrorKind
  span : Span
  aux : Option Span := none

/-- The items of a concatenation being read, with the position where it started. -/
structure Concat where
  start : Nat
  items : Array Ast

namespace Concat

def push (c : Concat) (a : Ast) : Concat := { c with items := c.items.push a }

/-- The concatenation as one node, ending at `stop`: nothing, its only item, or all of them. -/
def toAst (c : Concat) (stop : Nat) : Ast :=
  match c.items.toList with
  | [] => .empty
  | [a] => a
  | as => .concat as ⟨c.start, stop⟩

end Concat

/-- A group or alternation still open, with what it needs once it closes. -/
inductive GroupFrame where
  /-- An open group: the concatenation it interrupts, its kind, the span of its opening and
  whether whitespace was skipped outside it. -/
  | group (prior : Concat) (kind : GroupKind) (span : Span) (ignoreSpace : Bool)
  /-- The branches of an alternation read so far, and where it started. -/
  | alternation (alts : List Ast) (start : Nat)

/-- The state of the parser. -/
structure ParseState where
  chars : Array Char
  pos : Nat := 0
  captures : Nat := 0
  names : List (String × Span) := []
  ignoreSpace : Bool := false
  groups : List GroupFrame := []

abbrev Parser := StateT ParseState (Except Fault)

/-- Whitespace as Unicode defines it. -/
def isWhiteSpace (c : Char) : Bool :=
  let n := c.toNat
  (0x9 ≤ n && n ≤ 0xD) || n = 0x20 || n = 0x85 || n = 0xA0 || n = 0x1680
    || (0x2000 ≤ n && n ≤ 0x200A) || n = 0x2028 || n = 0x2029 || n = 0x202F || n = 0x205F
    || n = 0x3000

/-- Characters that have a meaning of their own in a pattern. -/
def isMeta (c : Char) : Bool := "\\.+*?()|[]{}^$#&-~".contains c

/-- Characters that a backslash may precede to stand for themselves: the special ones, and
ASCII other than letters, digits, `<` and `>`. -/
def isEscapeable (c : Char) : Bool :=
  isMeta c || (c.toNat < 0x80 && !c.isAlphanum && c != '<' && c != '>')

/-- Characters allowed in a group name; the first must be a letter or `_`. -/
def isCaptureChar (c : Char) (first : Bool) : Bool :=
  if first then c = '_' || Text.alphabeticChars.containsChar c
  else c = '_' || c = '.' || c = '[' || c = ']' || Text.alphanumericChars.containsChar c

def isHex (c : Char) : Bool := c.isDigit || ('a' ≤ c && c ≤ 'f') || ('A' ≤ c && c ≤ 'F')

/-- The value of a hexadecimal digit. -/
def hexValue (c : Char) : Nat :=
  if c.isDigit then c.toNat - '0'.toNat
  else if 'a' ≤ c && c ≤ 'f' then c.toNat - 'a'.toNat + 10
  else c.toNat - 'A'.toNat + 10

/-- The code point of a hexadecimal numeral, if it names a character. Leading zeros do not
count, but a numeral beyond 32 bits names nothing. -/
def hexChar? (digits : List Char) : Option Char :=
  let n := digits.foldl (fun acc d ↦ acc * 16 + hexValue d) 0
  if n ≥ Nat.pow 2 32 then none
  else if n.isValidChar then some (Char.ofNat n)
  else none

namespace Parser

def fault {α : Type} (kind : ErrorKind) (span : Span) (aux : Option Span := none) : Parser α :=
  throw ⟨kind, span, aux⟩

def pos : Parser Nat := do pure (← get).pos

def cur? : Parser (Option Char) := do
  let s ← get
  pure s.chars[s.pos]?

/-- The current character; only asked where the pattern has not ended. -/
def cur : Parser Char := do pure ((← cur?).getD ' ')

def atEnd : Parser Bool := do
  let s ← get
  pure (s.pos ≥ s.chars.size)

def peek? : Parser (Option Char) := do
  let s ← get
  pure s.chars[s.pos + 1]?

/-- The empty span at the cursor. -/
def here : Parser Span := do
  let p ← pos
  pure ⟨p, p⟩

/-- The span of the current character. -/
def spanChar : Parser Span := do
  let p ← pos
  pure ⟨p, if (← atEnd) then p else p + 1⟩

def setPos (p : Nat) : Parser Unit := modify fun s ↦ { s with pos := p }

/-- Moves past the current character; whether a character follows. -/
def bump : Parser Bool := do
  modify fun s ↦ if s.pos < s.chars.size then { s with pos := s.pos + 1 } else s
  pure !(← atEnd)

/-- Moves past `t` if the pattern continues with it. -/
def bumpIf (t : String) : Parser Bool := do
  let s ← get
  let ts := t.toList
  if (s.chars.extract s.pos (s.pos + ts.length)).toList == ts then
    setPos (s.pos + ts.length)
    pure true
  else pure false

/-- Moves past the first of `ts` that the pattern continues with, trying them in order. -/
def bumpAny : List String → Parser Bool
  | [] => pure false
  | t :: ts => do if ← bumpIf t then pure true else bumpAny ts

/-- The number of rounds that any loop over the pattern needs at most. -/
def fuel : Parser Nat := do pure ((← get).chars.size + 1)

/-- Skips whitespace and comments, where the `x` flag is on. -/
def bumpSpace : Parser Unit := do
  if !(← get).ignoreSpace then return
  for _ in [0:← fuel] do
    match ← cur? with
    | none => break
    | some c =>
      if isWhiteSpace c then discard bump
      else if c = '#' then
        discard bump
        for _ in [0:← fuel] do
          match ← cur? with
          | none => break
          | some d =>
            discard bump
            if d = '\n' then break
      else break

/-- Moves past the current character and any skippable space; whether the pattern goes on. -/
def bumpAndBumpSpace : Parser Bool := do
  if !(← bump) then return false
  bumpSpace
  pure !(← atEnd)

/-- The next character after the current one, past skippable space. A comment stops the
skipping at its first character that is not whitespace. -/
def peekSpace : Parser (Option Char) := do
  let s ← get
  if !s.ignoreSpace then return s.chars[s.pos + 1]?
  if s.pos ≥ s.chars.size then return none
  let rest := (s.chars.extract (s.pos + 1) s.chars.size).toList
  let rec go (inComment : Bool) : List Char → Option Char
    | [] => rest.head?
    | c :: cs =>
      if isWhiteSpace c then go inComment cs
      else if !inComment && c = '#' then go true cs
      else some c
  pure (go false rest)

/-- The state of a flag in a flag list: set, cleared after a `-`, or not mentioned. -/
def flagState (items : List FlagItem) (f : Flag) : Option Bool :=
  let rec go (negated : Bool) : List FlagItem → Option Bool
    | [] => none
    | .negation :: rest => go true rest
    | .flag g :: rest => if g = f then some !negated else go negated rest
  go false items

/-- Reads a decimal number after skipping whitespace, and the whitespace after it. The
result says what went wrong instead of failing, for the caller to decide. -/
def decimal : Parser (Except Fault Nat) := do
  for _ in [0:← fuel] do
    match ← cur? with
    | some c => if isWhiteSpace c then discard bump else break
    | none => break
  let start ← pos
  let mut digits : List Char := []
  for _ in [0:← fuel] do
    match ← cur? with
    | some c =>
      if c.isDigit then
        digits := digits ++ [c]
        discard bumpAndBumpSpace
      else break
    | none => break
  let stop ← pos
  for _ in [0:← fuel] do
    match ← cur? with
    | some c => if isWhiteSpace c then discard bumpAndBumpSpace else break
    | none => break
  if digits.isEmpty then return .error ⟨.decimalEmpty, ⟨start, stop⟩, none⟩
  let n := digits.foldl (fun acc d ↦ acc * 10 + (d.toNat - '0'.toNat)) 0
  if n ≥ Nat.pow 2 32 then return .error ⟨.decimalInvalid, ⟨start, stop⟩, none⟩
  pure (.ok n)

/-- A decimal number of a counted repetition. -/
def countDecimal : Parser (Except Fault Nat) := do
  pure <| match ← decimal with
    | .error f => .error (if f.kind = .decimalEmpty then { f with kind := .repetitionCountDecimalEmpty } else f)
    | r => r

def liftFault {α : Type} : Except Fault α → Parser α
  | .ok a => pure a
  | .error f => throw f

/-- Reads the hexadecimal digits of `\x`, `\u` or `\U` without braces: exactly `count`. -/
def hexDigits (count : Nat) : Parser Literal := do
  let start ← pos
  let mut digits : List Char := []
  for i in [0:count] do
    if i > 0 then
      if !(← bumpAndBumpSpace) then fault .escapeUnexpectedEof (← here)
    let c ← cur
    if !isHex c then fault .escapeHexInvalidDigit (← spanChar)
    digits := digits ++ [c]
  discard bumpAndBumpSpace
  let stop ← pos
  match hexChar? digits with
  | none => fault .escapeHexInvalid ⟨start, stop⟩
  | some c => pure ⟨c, count = 2, ⟨start, stop⟩⟩

/-- Reads `{hex}` after `\x`, `\u` or `\U`. -/
def hexBrace : Parser Literal := do
  let brace ← pos
  let start := brace + 1
  let mut digits : List Char := []
  for _ in [0:← fuel] do
    if !(← bumpAndBumpSpace) then break
    let c ← cur
    if c = '}' then break
    if !isHex c then fault .escapeHexInvalidDigit (← spanChar)
    digits := digits ++ [c]
  if ← atEnd then fault .escapeUnexpectedEof ⟨brace, ← pos⟩
  let stop ← pos
  discard bumpAndBumpSpace
  if digits.isEmpty then fault .escapeHexEmpty ⟨brace, ← pos⟩
  match hexChar? digits with
  | none => fault .escapeHexInvalid ⟨start, stop⟩
  | some c => pure ⟨c, false, ⟨start, ← pos⟩⟩

/-- Reads a hexadecimal escape, at its letter. -/
def hex : Parser Literal := do
  let count := match ← cur with
    | 'x' => 2
    | 'u' => 4
    | _ => 8
  if !(← bumpAndBumpSpace) then fault .escapeUnexpectedEof (← here)
  if (← cur) = '{' then hexBrace else hexDigits count

/-- Reads a Unicode class `\pX`, `\p{..}` or `\P..`, at its letter. -/
def unicodeClass (start : Nat) : Parser Ast := do
  let negated := (← cur) = 'P'
  if !(← bumpAndBumpSpace) then fault .escapeUnexpectedEof (← here)
  if (← cur) = '{' then
    let mut name : List Char := []
    for _ in [0:← fuel] do
      if !(← bumpAndBumpSpace) then break
      let c ← cur
      if c = '}' then break
      name := name ++ [c]
    if ← atEnd then fault .escapeUnexpectedEof (← here)
    discard bump
    let stop ← pos
    let text := String.ofList name
    let (query, flip) :=
      match text.splitOn "!=" with
      | n :: v :: rest => (UnicodeQuery.byValue n ("!=".intercalate (v :: rest)), true)
      | _ =>
        match text.splitOn ":" with
        | n :: v :: rest => (UnicodeQuery.byValue n (":".intercalate (v :: rest)), false)
        | _ =>
          match text.splitOn "=" with
          | n :: v :: rest => (UnicodeQuery.byValue n ("=".intercalate (v :: rest)), false)
          | _ => (UnicodeQuery.named text, false)
    pure (.unicode query (negated != flip) ⟨start, stop⟩)
  else
    let c ← cur
    if c = '\\' then fault .unicodeClassInvalid (← spanChar)
    discard bumpAndBumpSpace
    pure (.unicode (.oneLetter c) negated ⟨start, ← pos⟩)

/-- Reads `{start}`, `{end}`, `{start-half}` or `{end-half}` after `\b`; gives up (leaving
the brace in place) when the brace does not begin a word. -/
def specialWordBoundary (wbStart : Nat) : Parser (Option Assertion) := do
  let valid := fun (c : Char) ↦ c.isAlpha || c = '-'
  let start ← pos
  if !(← bumpAndBumpSpace) then fault .specialWordOrRepetitionUnexpectedEof ⟨wbStart, ← pos⟩
  let contents ← pos
  if !valid (← cur) then
    setPos start
    return none
  let mut word : List Char := []
  for _ in [0:← fuel] do
    match ← cur? with
    | some c =>
      if valid c then
        word := word ++ [c]
        discard bumpAndBumpSpace
      else break
    | none => break
  if (← atEnd) || (← cur) != '}' then fault .specialWordBoundaryUnclosed ⟨start, ← pos⟩
  let stop ← pos
  discard bump
  match String.ofList word with
  | "start" => pure (some .wordStart)
  | "end" => pure (some .wordEnd)
  | "start-half" => pure (some .wordStartHalf)
  | "end-half" => pure (some .wordEndHalf)
  | _ => fault .specialWordBoundaryUnrecognized ⟨contents, stop⟩

/-- Reads an escape, at its backslash. -/
def escape : Parser Ast := do
  let start ← pos
  if !(← bump) then fault .escapeUnexpectedEof ⟨start, ← pos⟩
  let c ← cur
  if c.isDigit then fault .unsupportedBackreference ⟨start, (← pos) + 1⟩
  if c = 'x' || c = 'u' || c = 'U' then
    let lit ← hex
    return .literal { lit with span := ⟨start, lit.span.stop⟩ }
  if c = 'p' || c = 'P' then return ← unicodeClass start
  if "dswDSW".contains c then
    discard bump
    let kind := if c = 'd' || c = 'D' then PerlClass.digit
      else if c = 's' || c = 'S' then .space else .word
    return .perl kind c.isUpper ⟨start, ← pos⟩
  discard bump
  let span : Span := ⟨start, ← pos⟩
  if isEscapeable c then return .literal ⟨c, false, span⟩
  let special := fun (n : Nat) ↦ Ast.literal ⟨Char.ofNat n, false, span⟩
  match c with
  | 'a' => pure (special 7)
  | 'f' => pure (special 12)
  | 't' => pure (special 9)
  | 'n' => pure (special 10)
  | 'r' => pure (special 13)
  | 'v' => pure (special 11)
  | 'A' => pure (.assertion .startText span)
  | 'z' => pure (.assertion .endText span)
  | 'b' =>
    if (← cur?) = some '{' then
      if let some kind ← specialWordBoundary start then
        return .assertion kind ⟨start, ← pos⟩
    pure (.assertion .wordBoundary span)
  | 'B' => pure (.assertion .notWordBoundary span)
  | '<' => pure (.assertion .wordStart span)
  | '>' => pure (.assertion .wordEnd span)
  | _ => fault .escapeUnrecognized span

/-- Reads a literal, `.`, an anchor or an escape. -/
def primitive : Parser Ast := do
  let c ← cur
  if c = '\\' then return ← escape
  let span ← spanChar
  discard bump
  pure <| match c with
    | '.' => .dot span
    | '^' => .assertion .startLine span
    | '$' => .assertion .endLine span
    | _ => .literal ⟨c, false, span⟩

/-- Reads the flags of `(?flags)` or `(?flags:`, up to the `:` or `)`. -/
def flags : Parser (List FlagItem) := do
  let mut items : List (FlagItem × Span) := []
  let mut lastNegation : Option Span := none
  for _ in [0:← fuel] do
    let c ← cur
    if c = ':' || c = ')' then break
    let span ← spanChar
    if c = '-' then
      lastNegation := some span
      if let some (_, first) := items.find? (·.1 = .negation) then
        fault .flagRepeatedNegation span (some first)
      items := items ++ [(.negation, span)]
    else
      lastNegation := none
      let f ← match c with
        | 'i' => pure Flag.caseInsensitive
        | 'm' => pure .multiLine
        | 's' => pure .dotAll
        | 'U' => pure .swapGreed
        | 'u' => pure .unicode
        | 'R' => pure .crlf
        | 'x' => pure .ignoreWhitespace
        | _ => fault .flagUnrecognized span
      if let some (_, first) := items.find? (·.1 = .flag f) then
        fault .flagDuplicate span (some first)
      items := items ++ [(.flag f, span)]
    if !(← bump) then fault .flagUnexpectedEof (← here)
  if let some span := lastNegation then fault .flagDanglingNegation span
  pure (items.map (·.1))

/-- Counts one more capturing group. -/
def nextCapture : Parser Nat := do
  modify fun s ↦ { s with captures := s.captures + 1 }
  pure (← get).captures

/-- Reads a group name up to and past its `>`, and records it. -/
def captureName : Parser String := do
  if ← atEnd then fault .groupNameUnexpectedEof (← here)
  let start ← pos
  for _ in [0:← fuel] do
    let c ← cur
    if c = '>' then break
    if !isCaptureChar c ((← pos) = start) then fault .groupNameInvalid (← spanChar)
    if !(← bump) then break
  let stop ← pos
  if ← atEnd then fault .groupNameUnexpectedEof (← here)
  discard bump
  let name := String.ofList ((← get).chars.extract start stop).toList
  if name.isEmpty then fault .groupNameEmpty ⟨start, start⟩
  let span : Span := ⟨start, stop⟩
  if let some first := (← get).names.lookup name then fault .groupNameDuplicate span (some first)
  modify fun s ↦ { s with names := (name, span) :: s.names }
  pure name

/-- Reads the opening of a group: either flags that hold from here on, or the kind of a group
and the span of its opening parenthesis. -/
def groupOpen : Parser (List FlagItem ⊕ (GroupKind × Span)) := do
  let openSpan ← spanChar
  discard bump
  bumpSpace
  if ← bumpAny ["?=", "?!", "?<=", "?<!"] then
    fault .unsupportedLookAround ⟨openSpan.start, ← pos⟩
  let inner ← here
  if ← bumpAny ["?P<", "?<"] then
    let index ← nextCapture
    let name ← captureName
    return .inr (.capture index (some name), openSpan)
  if ← bumpIf "?" then
    if ← atEnd then fault .groupUnclosed openSpan
    let fs ← flags
    let close ← cur
    discard bump
    if close = ')' then
      if fs.isEmpty then fault .repetitionMissing inner
      return .inl fs
    return .inr (.plain fs, openSpan)
  let index ← nextCapture
  pure (.inr (.capture index none, openSpan))

/-- Opens a group, or applies flags, at a `(`. -/
def pushGroup (concat : Concat) : Parser Concat := do
  match ← groupOpen with
  | .inl fs =>
    if let some v := flagState fs .ignoreWhitespace then
      modify fun s ↦ { s with ignoreSpace := v }
    pure (concat.push (.flags fs))
  | .inr (kind, span) =>
    let old := (← get).ignoreSpace
    let new := match kind with
      | .plain fs => (flagState fs .ignoreWhitespace).getD old
      | _ => old
    modify fun s ↦ { s with groups := .group concat kind span old :: s.groups, ignoreSpace := new }
    pure ⟨← pos, #[]⟩

/-- Closes the innermost group at a `)`. -/
def popGroup (inner : Concat) : Parser Concat := do
  let (prior, kind, span, ignore, alt) ← match (← get).groups with
    | .group c k sp ig :: rest =>
      modify fun s ↦ { s with groups := rest }
      pure (c, k, sp, ig, none)
    | .alternation alts start :: .group c k sp ig :: rest =>
      modify fun s ↦ { s with groups := rest }
      pure (c, k, sp, ig, some (alts, start))
    | _ => fault .groupUnopened (← spanChar)
  modify fun s ↦ { s with ignoreSpace := ignore }
  let stop ← pos
  discard bump
  let body := match alt with
    | some (alts, start) => Ast.alternation (alts ++ [inner.toAst stop]) ⟨start, stop⟩
    | none => inner.toAst stop
  pure (prior.push (.group kind body ⟨span.start, ← pos⟩))

/-- Ends a branch of an alternation at a `|`. -/
def pushAlternate (concat : Concat) : Parser Concat := do
  let stop ← pos
  modify fun s ↦ match s.groups with
    | .alternation alts start :: rest =>
      { s with groups := .alternation (alts ++ [concat.toAst stop]) start :: rest }
    | gs => { s with groups := .alternation [concat.toAst stop] concat.start :: gs }
  discard bump
  pure ⟨← pos, #[]⟩

/-- The whole pattern once it has been read: no group may still be open. -/
def popGroupEnd (concat : Concat) : Parser Ast := do
  let stop ← pos
  match (← get).groups with
  | [] => pure (concat.toAst stop)
  | [.alternation alts start] => pure (.alternation (alts ++ [concat.toAst stop]) ⟨start, stop⟩)
  | .alternation _ _ :: .group _ _ sp _ :: _ => fault .groupUnclosed sp
  | .group _ _ sp _ :: _ => fault .groupUnclosed sp
  | _ => fault .groupUnclosed ⟨stop, stop⟩

/-- The last item of a concatenation, which a repetition operator applies to. -/
def operand (concat : Concat) : Parser Ast := do
  match concat.items.back? with
  | none | some .empty | some (.flags _) => fault .repetitionMissing (← here)
  | some a => pure a

/-- Applies `?`, `*` or `+` to the last item. -/
def repetition (concat : Concat) (kind : Repeat) : Parser Concat := do
  let a ← operand concat
  let opStart ← pos
  let mut greedy := true
  if (← bump) && (← cur) = '?' then
    greedy := false
    discard bump
  let start := (a.span?.map (·.start)).getD opStart
  pure ⟨concat.start, concat.items.pop.push (.repetition kind greedy a ⟨start, ← pos⟩)⟩

/-- Applies a counted repetition `{n}`, `{n,}` or `{m,n}` to the last item. -/
def counted (concat : Concat) : Parser Concat := do
  let start ← pos
  let a ← operand concat
  let unclosed : Parser Unit := do fault .repetitionCountUnclosed ⟨start, ← pos⟩
  if !(← bumpAndBumpSpace) then unclosed
  let first ← countDecimal
  if ← atEnd then unclosed
  let range ← if (← cur) = ',' then do
      if !(← bumpAndBumpSpace) then unclosed
      if (← cur) != '}' then
        let m ← liftFault first
        let n ← liftFault (← countDecimal)
        pure (Repeat.between m n)
      else pure (.atLeast (← liftFault first))
    else pure (.exactly (← liftFault first))
  if (← atEnd) || (← cur) != '}' then unclosed
  let mut greedy := true
  if (← bumpAndBumpSpace) && (← cur) = '?' then
    greedy := false
    discard bump
  let opSpan : Span := ⟨start, ← pos⟩
  if let .between m n := range then
    if m > n then fault .repetitionCountInvalid opSpan
  let astStart := (a.span?.map (·.start)).getD start
  pure ⟨concat.start, concat.items.pop.push (.repetition range greedy a ⟨astStart, ← pos⟩)⟩

/-! Bracketed classes. -/

/-- The items of a class being read. -/
structure Union where
  span : Span
  items : Array ClassSet

def Union.push (u : Union) (item : ClassSet) : Union :=
  let sp := item.span
  ⟨⟨if u.items.isEmpty then sp.start else u.span.start, sp.stop⟩, u.items.push item⟩

/-- The union as one item: nothing, its only item, or all of them. -/
def Union.toSet (u : Union) : ClassSet :=
  match u.items.toList with
  | [] => .empty u.span
  | [a] => a
  | as => .union as u.span

/-- A bracketed class still open, or a set operation waiting for its right side. -/
inductive ClassFrame where
  | opened (parent : Union) (negated : Bool) (span : Span)
  | op (kind : SetOp) (lhs : ClassSet)

def unclosedClass {α : Type} (stack : List ClassFrame) : Parser α :=
  match stack.findSome? fun | .opened _ _ sp => some sp | _ => none with
  | some sp => fault .classUnclosed sp
  | none => fault .classUnclosed ⟨0, 0⟩

/-- Completes the pending set operation, if any, with `rhs`. -/
def popClassOp (stack : List ClassFrame) (rhs : ClassSet) : ClassSet × List ClassFrame :=
  match stack with
  | .op kind lhs :: rest => (.op kind lhs rhs ⟨lhs.span.start, rhs.span.stop⟩, rest)
  | _ => (rhs, stack)

/-- Reads `[:name:]` or `[:^name:]`; gives up, leaving the cursor in place, on anything
else. -/
def asciiClass : Parser (Option ClassSet) := do
  let start ← pos
  let fallBack : Parser (Option ClassSet) := do
    setPos start
    pure none
  if !(← bump) || (← cur) != ':' then return ← fallBack
  if !(← bump) then return ← fallBack
  let mut negated := false
  if (← cur) = '^' then
    negated := true
    if !(← bump) then return ← fallBack
  let nameStart ← pos
  for _ in [0:← fuel] do
    if (← cur) = ':' then break
    if !(← bump) then break
  if ← atEnd then return ← fallBack
  let name := String.ofList ((← get).chars.extract nameStart (← pos)).toList
  if !(← bumpIf ":]") then return ← fallBack
  match AsciiClass.ofName? name with
  | some kind => pure (some (.ascii kind negated ⟨start, ← pos⟩))
  | none => fallBack

/-- Reads the opening of a bracketed class: the `[`, a `^`, and leading `-` or `]` that stand
for themselves. -/
def classOpen : Parser (Bool × Span × Union) := do
  let start ← pos
  if !(← bumpAndBumpSpace) then fault .classUnclosed ⟨start, ← pos⟩
  let mut negated := false
  if (← cur) = '^' then
    if !(← bumpAndBumpSpace) then fault .classUnclosed ⟨start, ← pos⟩
    negated := true
  let mut u : Union := ⟨← here, #[]⟩
  for _ in [0:← fuel] do
    if (← cur) != '-' then break
    u := u.push (.char ⟨'-', false, ← spanChar⟩)
    if !(← bumpAndBumpSpace) then fault .classUnclosed ⟨start, start⟩
  if u.items.isEmpty && (← cur) = ']' then
    u := u.push (.char ⟨']', false, ← spanChar⟩)
    if !(← bumpAndBumpSpace) then fault .classUnclosed ⟨start, ← pos⟩
  pure (negated, ⟨start, ← pos⟩, u)

/-- Reads one item of a class: an escape or a character. -/
def classItem : Parser Ast := do
  if (← cur) = '\\' then return ← escape
  let span ← spanChar
  let c ← cur
  discard bump
  pure (.literal ⟨c, false, span⟩)

/-- An escape as a class item. -/
def toClassItem : Ast → Parser ClassSet
  | .literal l => pure (.char l)
  | .perl k n s => pure (.perl k n s)
  | .unicode q n s => pure (.unicode q n s)
  | a => fault .classEscapeInvalid ((a.span?).getD ⟨0, 0⟩)

/-- An escape as an end of a range. -/
def toRangeEnd : Ast → Parser Literal
  | .literal l => pure l
  | a => fault .classRangeLiteral ((a.span?).getD ⟨0, 0⟩)

/-- Reads an item or a range `a-b`. -/
def classRange (stack : List ClassFrame) : Parser ClassSet := do
  let first ← classItem
  bumpSpace
  if ← atEnd then unclosedClass stack
  let next ← peekSpace
  if (← cur) != '-' || next = some ']' || next = some '-' then return ← toClassItem first
  if !(← bumpAndBumpSpace) then unclosedClass stack
  let second ← classItem
  let lo ← toRangeEnd first
  let hi ← toRangeEnd second
  if lo.c > hi.c then fault .classRangeInvalid ⟨lo.span.start, hi.span.stop⟩
  pure (.range lo hi)

/-- Reads a bracketed class, at its `[`. -/
def bracketed : Parser Ast := do
  let mut stack : List ClassFrame := []
  let mut u : Union := ⟨← here, #[]⟩
  for _ in [0:← fuel] do
    bumpSpace
    if ← atEnd then unclosedClass stack
    let c ← cur
    let next ← peek?
    if c = '[' then
      if !stack.isEmpty then
        if let some cls ← asciiClass then
          u := u.push cls
          continue
      let (negated, span, nested) ← classOpen
      stack := .opened u negated span :: stack
      u := nested
    else if c = ']' then
      let (set, rest) := popClassOp stack u.toSet
      match rest with
      | .opened parent negated span :: outer =>
        discard bump
        let node : Span := ⟨span.start, ← pos⟩
        if outer.isEmpty then return .bracketed negated set node
        u := parent.push (.bracketed negated set node)
        stack := outer
      | _ => unclosedClass stack
    else if (c = '&' || c = '-' || c = '~') && next = some c then
      discard (bumpIf (String.ofList [c, c]))
      let kind := if c = '&' then SetOp.intersection else if c = '-' then .difference
        else .symmetricDifference
      let (lhs, rest) := popClassOp stack u.toSet
      stack := .op kind lhs :: rest
      u := ⟨← here, #[]⟩
    else
      u := u.push (← classRange stack)
  unclosedClass stack

/-! The whole pattern. -/

/-- Reads the pattern from start to end. -/
def all : Parser Ast := do
  let mut concat : Concat := ⟨0, #[]⟩
  for _ in [0:← fuel] do
    bumpSpace
    match ← cur? with
    | none => break
    | some '(' => concat ← pushGroup concat
    | some ')' => concat ← popGroup concat
    | some '|' => concat ← pushAlternate concat
    | some '[' => concat := concat.push (← bracketed)
    | some '?' => concat ← repetition concat .zeroOrOne
    | some '*' => concat ← repetition concat .zeroOrMore
    | some '+' => concat ← repetition concat .oneOrMore
    | some '{' => concat ← counted concat
    | some _ => concat := concat.push (← primitive)
  popGroupEnd concat

end Parser

/-- How deeply groups, classes, repetitions, alternations and concatenations may nest. -/
def nestLimit : Nat := 250

/-- One level deeper at a node of span `span`. -/
def deeper (depth : Nat) (span : Span) : Except Fault Nat :=
  if depth + 1 > nestLimit then .error ⟨.nestLimitExceeded nestLimit, span, none⟩ else .ok (depth + 1)

mutual
/-- Checks the nesting of a class, in the order its parts are written. -/
def checkSet (depth : Nat) : ClassSet → Except Fault Unit
  | .bracketed _ inner span => do checkSet (← deeper depth span) inner
  | .union items span => do checkSets (← deeper depth span) items
  | .op _ lhs rhs span => do
    let d ← deeper depth span
    checkSet d lhs
    checkSet d rhs
  | _ => pure ()

def checkSets (depth : Nat) : List ClassSet → Except Fault Unit
  | [] => pure ()
  | s :: rest => do
    checkSet depth s
    checkSets depth rest
end

mutual
/-- Checks the nesting of a tree, in the order its parts are written. -/
def checkAst (depth : Nat) : Ast → Except Fault Unit
  | .bracketed _ set span => do checkSet (← deeper depth span) set
  | .repetition _ _ inner span => do checkAst (← deeper depth span) inner
  | .group _ inner span => do checkAst (← deeper depth span) inner
  | .alternation alts span => do checkAsts (← deeper depth span) alts
  | .concat items span => do checkAsts (← deeper depth span) items
  | _ => pure ()

def checkAsts (depth : Nat) : List Ast → Except Fault Unit
  | [] => pure ()
  | a :: rest => do
    checkAst depth a
    checkAsts depth rest
end

/-- Parses a pattern into its syntax tree, or reports the first syntax error. -/
def parse (pattern : String) : Except Error (Ast × Nat) :=
  let result := do
    let (ast, st) ← Parser.all.run { chars := pattern.toList.toArray }
    checkAst 0 ast
    pure (ast, st.captures)
  match result with
  | .ok r => .ok r
  | .error f => .error ⟨f.kind, pattern, f.span, f.aux⟩

end Regex
end Backtrack
