import Backtrack.Match.Basic
import Backtrack.Text.Alphanumeric

/-!
# The matching engine

`Engine.consume cx p` matches pattern `p` at the cursor. It moves the cursor past what it
matched and returns the fragment with the pieces it can give back, or stops with an error;
events are reported along the way. The context `cx` supplies the configuration and what lies
outside a single pattern tree: entering a rule, checking a grammar's bad pattern, and giving
back through rules. Tying these to the engine itself, with the nesting limit, happens in
`Backtrack.Match.Run`.

Combinators bracket their attempts with marks. A sequence that fails at a step walks back
over the steps already matched and asks the latest one that can to give back its last piece,
then matches the following steps again from there (`search` and `retry`): it tries, in
order, every way of splitting the text that the steps' giving back allows, step by step,
latest step first.

Loops are bounded: a repetition makes at most `2 ^ 64` rounds (its count is a word), a
lookbehind tries each width once, a sequence tries each piece of each step once.
-/

namespace Backtrack

/-- What matching carries along: the cursor and the events reported so far. -/
structure MatchState where
  cursor : Cursor
  events : Array Event

/-- A matching computation: it reads and moves the cursor, reports events, and can stop with
a match error. -/
abbrev Engine := EStateM MatchError MatchState

namespace Engine

/-- The cursor. -/
def cursor : Engine Cursor := fun s ↦ .ok s.cursor s

/-- Replaces the cursor. -/
def setCursor (c : Cursor) : Engine Unit := fun s ↦ .ok () { s with cursor := c }

/-- Changes the cursor. -/
def moveCursor (f : Cursor → Cursor) : Engine Unit := fun s ↦ .ok () { s with cursor := f s.cursor }

/-- The position of the cursor. -/
def position : Engine Nat := fun s ↦ .ok s.cursor.pos s

/-- Reports an event. -/
def record (e : Event) : Engine Unit := fun s ↦ .ok () { s with events := s.events.push e }

/-- Changes the cursor by an operation that can fail. -/
def cursorStep (f : Cursor → Except MatchError Cursor) : Engine Unit := fun s ↦
  match f s.cursor with
  | .ok c => .ok () { s with cursor := c }
  | .error e => .error e s

/-- Pushes a mark. -/
def mark : Engine Unit := moveCursor Cursor.mark

/-- Pops a mark and moves back to it. -/
def restoreMark : Engine Unit := cursorStep Cursor.restoreMark

/-- Pops a mark and stays. -/
def forgetMark : Engine Unit := cursorStep Cursor.forgetMark

/-- Stops with a failure made from the cursor. -/
def fail {α : Type} (f : Cursor → Failure) : Engine α := fun s ↦ .error (.failure (f s.cursor)) s

/-- Runs `m` and returns its outcome, error or not, as a value. -/
def outcome {α : Type} (m : Engine α) : Engine (Except MatchError α) := fun s ↦
  match m s with
  | .ok a s' => .ok (.ok a) s'
  | .error e s' => .ok (.error e) s'

/-- Runs `m`, turning a failure into a value; other errors stop as they are. -/
def attempt {α : Type} (m : Engine α) : Engine (Except Failure α) := fun s ↦
  match m s with
  | .ok a s' => .ok (.ok a) s'
  | .error (.failure f) s' => .ok (.error f) s'
  | .error e s' => .error e s'

/-- Runs `m` on cursor `c` instead, then puts the current cursor back; returns the outcome and
the cursor `m` left behind. -/
def within {α : Type} (c : Cursor) (m : Engine α) : Engine (Except MatchError α × Cursor) := fun s ↦
  match m { s with cursor := c } with
  | .ok a s' => .ok (.ok a, s'.cursor) { s' with cursor := s.cursor }
  | .error e s' => .ok (.error e, s'.cursor) { s' with cursor := s.cursor }

end Engine

open Engine

/-- Word characters for boundaries: letters, digits and the underscore. As in Unicode's
alphanumeric test, an ASCII character is decided by its ranges and only the others are looked up
in the table. -/
def isWordChar (c : Char) : Bool :=
  c.isAlphanum || c = '_' || (0x7F < c.toNat && Text.alphanumericChars.containsChar c)

namespace Boundary

/-- Whether the boundary holds at the cursor. -/
def holds (b : Boundary) (c : Cursor) : Bool :=
  match b with
  | stringStart => c.pos = 0
  | stringEnd => c.atEnd
  | lineStart => c.prev?.all (· = '\n')
  | lineEnd => c.peek?.all (· = '\n')
  | wordStart => !(c.prev?.any isWordChar) && c.peek?.any isWordChar
  | wordEnd => c.prev?.any isWordChar && !(c.peek?.any isWordChar)

end Boundary

/-- What matching needs beyond the pattern: the configuration, how to match what a rule
leads to one level deeper, whether a text matches a bad pattern in full, and how to give
back a piece of a match (through rules). Giving back always removes a piece. -/
structure Context where
  config : Config
  enter : RuleRef → Engine Matched
  rejects : Pattern → String → Engine Bool
  giveBack : Pattern → Matched → Option (Matched × Nat)
  giveBack_shrinks : ∀ p m r, giveBack p m = some r → r.1.pieces.length < m.pieces.length

/-- The outcome of searching the steps of a sequence: every step matched, with the steps and
their matches in order, or a step failed and nothing could be given back. -/
inductive Search where
  | done (steps : List (Pattern × Matched))
  | stuck (f : Failure) (step : Nat)

/-- Adds a fragment to a list of items unless the pattern is suppressed or the fragment is
empty; returns the items and how many were added. -/
def pushItem (items : Array Fragment) (p : Pattern) (f : Fragment) : Array Fragment × Nat :=
  if p.suppressed || f.isNothing then (items, 0) else (items.push f, 1)

/-- The items a sequence reports: the fragments of its unsuppressed steps, without empty ones. -/
def sequenceItems (steps : List (Pattern × Matched)) : List Fragment :=
  (steps.filter fun (q, m) ↦ !q.suppressed && !m.fragment.isNothing).map (·.2.fragment)

/-- Moves the cursor past the configured whitespace. -/
def skipWhitespace (cfg : Config) : Engine Unit :=
  moveCursor fun c ↦ c.advance ((c.rest.takeWhile cfg.isWhitespace).length)

namespace Engine

/-- One character of a class; at the end of the text, `Unexpected end of input`. -/
def matchChar (p : Pattern) (cls : CharClass) : Engine Matched := do
  let c ← cursor
  match c.get 0 with
  | .error e => throw e
  | .ok ch =>
    if cls.accepts ch then
      setCursor (c.advance 1)
      pure (.fixed (.text (String.singleton ch)))
    else fail (·.expected p)

/-- A greedy run of `min` to `max` characters, one piece per character. -/
def matchRun (cfg : Config) (p : Pattern) (r : Run) : Engine Matched := do
  mark
  let c ← cursor
  let accepts := fun ch ↦ if r.configured then cfg.isWhitespace ch else r.cls.accepts ch
  let avail := (c.rest.takeWhile accepts).length
  let count := match r.max with | some m => min avail m | none => avail
  setCursor (c.advance count)
  if count < r.min then
    restoreMark
    fail (·.expected p)
  else
    forgetMark
    let c' ← cursor
    pure ⟨.text (c'.takenSince c.pos), List.replicate count ⟨1, 1⟩⟩

/-- Literal text. -/
def matchLiteral (p : Pattern) (t : String) : Engine Matched := do
  let c ← cursor
  if t.toList.isPrefixOf c.rest then
    let c' := c.advance t.length
    setCursor c'
    pure (.fixed (.text (c'.takenSince c.pos)))
  else fail (·.expected p)

/-- The fragment of group `g` of a match in the text after the cursor `c`, whose groups the
library gave as byte spans of that text: the input between the symbol offsets where the bytes of
the group start and end, or nothing if the group did not take part. -/
def groupFragment (c : Cursor) (caps : Nat → Option (Nat × Nat)) (g : Nat) : Fragment :=
  match caps g with
  | some (s, e) =>
    let first := c.pos + (bytePrefix c.rest s).length
    .text (c.textBetween first (first + (byteSlice c.rest s e).length))
  | none => .empty

/-- Group `g` as an item of a list of groups: empty text if it did not take part. -/
def groupListed (c : Cursor) (caps : Nat → Option (Nat × Nat)) (g : Nat) : Fragment :=
  match groupFragment c caps g with
  | .empty => .text ""
  | f => f

/-- A regular expression at the cursor. The library matches it in the text after the cursor and
reports its groups in bytes of that text; the cursor moves over the characters up to the end of
the advance group, or of the whole match if that group did not take part. -/
def matchRegex (p : Pattern) (rx : RegexNode) : Engine Matched := do
  let c ← cursor
  match rx.compiled.captures (String.ofList c.rest) with
  | none => fail (·.expected p)
  | some caps =>
    let stop := ((caps rx.options.advance).orElse fun _ ↦ caps 0).map (·.2) |>.getD 0
    let frag := match rx.options.groups with
      | .one g => groupFragment c caps g
      | .many gs => .list (gs.map (groupListed c caps))
    setCursor (c.advance (bytePrefix c.rest stop).length)
    pure (.fixed frag)

/-- A zero-width boundary. -/
def matchBoundary (p : Pattern) (b : Boundary) : Engine Matched := do
  if b.holds (← cursor) then pure (.fixed .empty) else fail (·.expected p)

/-- The verdict of a lookaround once it knows whether the inner pattern was found. -/
def lookVerdict (p inner : Pattern) (negated found : Bool) : Engine Matched :=
  if found != negated then pure (.fixed .empty)
  else if found then fail (·.unexpected inner)
  else fail (·.expected p)

end Engine

theorem sizeOf_lt_of_mem_list {q : Pattern} {cs : List Pattern} (h : q ∈ cs) : sizeOf q < sizeOf cs :=
  List.sizeOf_lt_of_mem h

theorem mem_sequenceSteps {q : Pattern} {cs : List Pattern} {sep : Option Pattern}
    (h : q ∈ sequenceSteps cs sep) : q ∈ cs ∨ sep = some q := by
  unfold sequenceSteps at h
  split at h
  · exact .inl h
  · split at h
    · simp at h
    · rename_i s _ c cs'
      simp only [List.mem_cons, List.mem_flatMap] at h
      rcases h with rfl | ⟨d, hd, hq⟩
      · exact .inl (List.mem_cons_self ..)
      · simp only [List.not_mem_nil, or_false] at hq
        rcases hq with rfl | rfl
        · exact .inr rfl
        · exact .inl (List.mem_cons_of_mem _ hd)

theorem sizeOf_step_lt {q : Pattern} {cs : List Pattern} {sep : Option Pattern} {auto b : Bool}
    (h : q ∈ sequenceSteps cs sep) : sizeOf q < sizeOf (Pattern.mk (.sequence cs sep auto) b) := by
  rcases mem_sequenceSteps h with h | rfl
  · have := sizeOf_lt_of_mem_list h
    simp only [Pattern.mk.sizeOf_spec, Shape.sequence.sizeOf_spec]
    omega
  · simp only [Pattern.mk.sizeOf_spec, Shape.sequence.sizeOf_spec, Option.some.sizeOf_spec]
    omega

theorem sizeOf_choice_lt {q : Pattern} {cs : List Pattern} {auto b : Bool}
    (h : q ∈ cs) : sizeOf q < sizeOf (Pattern.mk (.choice cs auto) b) := by
  have := sizeOf_lt_of_mem_list h
  simp only [Pattern.mk.sizeOf_spec, Shape.choice.sizeOf_spec]
  omega

namespace Engine

variable (cx : Context)

mutual
/-- Matches `p` at the cursor; a failure is reported before it is passed on. -/
def consume (p : Pattern) : Engine Matched := fun s ↦
  match step p s with
  | .error (.failure f) s' => .error (.failure f) { s' with events := s'.events.push (.failed p f) }
  | r => r
  termination_by (sizeOf p, 4, 0, 0, 0)

/-- Matches `p` at the cursor, by its shape. -/
def step : Pattern → Engine Matched
  | p@(.mk (.char cls) _) => matchChar p cls
  | p@(.mk (.run r) _) => matchRun cx.config p r
  | p@(.mk (.whitespace r) _) => matchRun cx.config p r
  | p@(.mk (.literal t) _) => matchLiteral p t
  | p@(.mk (.regex rx) _) => matchRegex p rx
  | p@(.mk (.boundary k) _) => matchBoundary p k
  | .mk (.nextIs neg inner) b => do
    mark
    let r ← outcome (attempt (consume inner))
    restoreMark
    match r with
    | .error e => throw e
    | .ok found => lookVerdict (.mk (.nextIs neg inner) b) inner neg found.toBool
  | .mk (.prevIs neg inner) b => do
    let c ← cursor
    let limit := min c.pos (min (cx.config.maxLookbehind.getD c.pos) ((inner.maxLength.toFinite?).getD c.pos))
    let found ← scan (.mk (.prevIs neg inner) b) inner (by simp only [Pattern.mk.sizeOf_spec, Shape.prevIs.sizeOf_spec]; omega) c inner.minLength limit
    lookVerdict (.mk (.prevIs neg inner) b) inner neg found
  | .mk (.sequence cs sep auto) b => do
    mark
    match ← outcome (search (.mk (.sequence cs sep auto) b) (sequenceSteps cs sep)
        (fun _ h ↦ sizeOf_step_lt h) 0 []) with
    | .ok (.done steps) =>
      forgetMark
      pure (.fixed (.list (sequenceItems steps)))
    | .ok (.stuck f j) =>
      record (.stepFailed (.mk (.sequence cs sep auto) b) j f)
      restoreMark
      throw (.failure f)
    | .error e =>
      restoreMark
      throw e
  | .mk (.choice cs auto) b => do
    mark
    choose (.mk (.choice cs auto) b) cs (fun _ h ↦ sizeOf_choice_lt h)
  | .mk (.repetition inner lo hi) b => do
    mark
    let (items, pieces) ← rounds (.mk (.repetition inner lo hi) b) inner
      (by simp only [Pattern.mk.sizeOf_spec, Shape.repetition.sizeOf_spec]; omega) lo (hi.getD Word.size) #[] #[]
    if pieces.size < lo then
      restoreMark
      fail (·.expected (.mk (.repetition inner lo hi) b))
    else
      forgetMark
      pure ⟨.list items.toList, pieces.toList⟩
  | .mk (.separated sep elem lo hi) b => do
    mark
    let (items, pieces) ← listRounds (.mk (.separated sep elem lo hi) b) sep elem
      (by simp only [Pattern.mk.sizeOf_spec, Shape.separated.sizeOf_spec]; omega)
      (by simp only [Pattern.mk.sizeOf_spec, Shape.separated.sizeOf_spec]; omega)
      lo (hi.getD Word.size) #[] #[]
    if pieces.size < lo then
      restoreMark
      fail (·.expected (.mk (.separated sep elem lo hi) b))
    else
      forgetMark
      pure ⟨.list items.toList, pieces.toList⟩
  | .mk (.group inner) _ => do
    let start ← position
    let m ← consume inner
    let taken := (← cursor).takenSince start
    pure (.fixed (if taken == m.fragment.toText then .text taken else m.fragment.grouped))
  | .mk (.flatten inner) _ => do
    let m ← consume inner
    pure (.fixed (.list m.fragment.flatten))
  | .mk (.select inner sel) _ => do
    let m ← consume inner
    pure (.fixed (sel.apply m.fragment))
  | .mk (.token inner) _ => do
    mark
    skipWhitespace cx.config
    match ← outcome (consume inner) with
    | .ok m =>
      skipWhitespace cx.config
      forgetMark
      pure (.fixed m.fragment)
    | .error e =>
      restoreMark
      throw e
  | .mk (.rule ref) _ => cx.enter ref
  | .mk (.embed _ (.grammar name body bad)) _ => do
    let start ← position
    let m ← consume body
    match bad with
    | none => pure (.fixed (.named name m.fragment))
    | some badPattern =>
      let text := m.fragment.toText
      if ← cx.rejects badPattern text then
        record (.rejected name text badPattern)
        let c ← cursor
        setCursor (c.retreat (Word.wrapSub c.pos start))
        fail (·.failure ("Invalid match " ++ Text.quote text ++ " in " ++ name))
      else pure (.fixed (.named name m.fragment))
  | .mk (.embed _ (.shared inner)) _ => consume inner
  | .mk (.embed _ .broken) _ => do throw (.markUnderflow (← position))
  | .mk (.embed _ .unbalanced) _ => do
    moveCursor (·.advance 1)
    forgetMark
    pure (.fixed .empty)
  termination_by p => (sizeOf p, 3, 0, 0, 0)

/-- Tries the lookbehind windows from `width` up to `limit` characters before the cursor `c`,
narrowest first, for one that the inner pattern matches in full. -/
def scan (p inner : Pattern) (h : sizeOf inner < sizeOf p) (c : Cursor) (width limit : Nat) :
    Engine Bool :=
  if width ≤ limit then
    match c.windowBefore width with
    | none => pure false
    | some w => do
      let (r, w') ← within w (attempt (consume inner))
      match r with
      | .error e => throw e
      | .ok (.ok _) =>
        if w'.atEnd then
          record (.lookedBehind width c.pos)
          pure true
        else scan p inner h c (width + 1) limit
      | .ok (.error _) => scan p inner h c (width + 1) limit
  else pure false
  termination_by (sizeOf p, 2, limit + 1 - width, 0, 0)

/-- Matches the remaining steps of the sequence `p`; `j` is the index of the first of them
and `acc` holds the earlier steps with their matches. -/
def search (p : Pattern) (steps : List Pattern) (h : ∀ q ∈ steps, sizeOf q < sizeOf p) (j : Nat)
    (acc : List (Pattern × Matched)) : Engine Search :=
  match steps with
  | [] => pure (.done acc)
  | q :: rest => do
    have := h q (List.mem_cons_self ..)
    let start ← position
    match ← attempt (consume q) with
    | .error f => pure (.stuck f j)
    | .ok m => retry p q rest h j start m acc
  termination_by (sizeOf p, 2, steps.length, 1, 0)

/-- Step `q` (index `j`, started at `start`) matched as `m`: matches the steps after it, and
while they fail, gives back a piece of `m` and tries again. -/
def retry (p q : Pattern) (rest : List Pattern) (h : ∀ q' ∈ q :: rest, sizeOf q' < sizeOf p) (j start : Nat)
    (m : Matched) (acc : List (Pattern × Matched)) : Engine Search := do
  match ← search p rest (fun q' hq ↦ h q' (List.mem_cons_of_mem _ hq)) (j + 1) (acc ++ [(q, m)]) with
  | .done steps => pure (.done steps)
  | .stuck f k =>
    match hg : cx.giveBack q m with
    | some (m', g) =>
      moveCursor (·.retreat g)
      record (.gaveBack q g (← position))
      have := cx.giveBack_shrinks q m (m', g) hg
      retry p q rest h j start m' acc
    | none =>
      let c ← cursor
      setCursor (c.retreat (c.pos - start))
      pure (.stuck f k)
  termination_by (sizeOf p, 2, rest.length + 1, 0, m.pieces.length)

/-- Tries the alternatives in order; the first that matches wins. -/
def choose (p : Pattern) (rest : List Pattern) (h : ∀ q ∈ rest, sizeOf q < sizeOf p) : Engine Matched :=
  match rest with
  | [] => do
    restoreMark
    fail (·.expected p)
  | q :: more => do
    have := h q (List.mem_cons_self ..)
    match ← outcome (consume q) with
    | .ok m =>
      forgetMark
      pure (.fixed m.fragment)
    | .error (.failure _) =>
      restoreMark
      mark
      choose p more (fun q' hq ↦ h q' (List.mem_cons_of_mem _ hq))
    | .error e =>
      restoreMark
      throw e
  termination_by (sizeOf p, 2, rest.length, 0, 0)

/-- The rounds of a repetition, at most `left` more; a round that consumes nothing ends the
loop once `lo` rounds are done. -/
def rounds (p inner : Pattern) (h : sizeOf inner < sizeOf p) (lo left : Nat)
    (items : Array Fragment) (pieces : Array Piece) : Engine (Array Fragment × Array Piece) :=
  match left with
  | 0 => pure (items, pieces)
  | left + 1 => do
    let start ← position
    match ← outcome (consume inner) with
    | .error (.failure _) => pure (items, pieces)
    | .error e =>
      restoreMark
      throw e
    | .ok m =>
      let len := Word.wrapSub (← position) start
      if len = 0 ∧ pieces.size ≥ lo then pure (items, pieces)
      else
        let (items, n) := pushItem items inner m.fragment
        rounds p inner h lo left items (pieces.push ⟨len, n⟩)
  termination_by (sizeOf p, 2, left, 0, 0)

/-- The rounds of a separated list: an element first, then a separator and an element each
round, at most `left` more rounds. -/
def listRounds (p sep elem : Pattern) (hs : sizeOf sep < sizeOf p) (he : sizeOf elem < sizeOf p)
    (lo left : Nat) (items : Array Fragment) (pieces : Array Piece) :
    Engine (Array Fragment × Array Piece) :=
  match left with
  | 0 => pure (items, pieces)
  | left + 1 => do
    let start ← position
    let found : Except MatchError (Option (List (Pattern × Fragment))) ←
      if pieces.isEmpty then do
        match ← outcome (consume elem) with
        | .ok m => pure (.ok (some [(elem, m.fragment)]))
        | .error (.failure _) => pure (.ok none)
        | .error e => pure (.error e)
      else do
        mark
        match ← outcome (consume sep) with
        | .error (.failure _) =>
          restoreMark
          pure (.ok none)
        | .error e =>
          restoreMark
          pure (.error e)
        | .ok ms =>
          match ← outcome (consume elem) with
          | .ok me =>
            forgetMark
            pure (.ok (some [(sep, ms.fragment), (elem, me.fragment)]))
          | .error (.failure f) =>
            record (.strandedSeparator f)
            restoreMark
            pure (.ok none)
          | .error e =>
            restoreMark
            pure (.error e)
    match found with
    | .error e =>
      restoreMark
      throw e
    | .ok none => pure (items, pieces)
    | .ok (some frags) =>
      let len := Word.wrapSub (← position) start
      if len = 0 ∧ pieces.size ≥ lo then pure (items, pieces)
      else
        let (items, n) := frags.foldl (fun (acc : Array Fragment × Nat) (q, f) ↦
          let (items, k) := pushItem acc.1 q f
          (items, acc.2 + k)) (items, 0)
        listRounds p sep elem hs he lo left items (pieces.push ⟨len, n⟩)
  termination_by (sizeOf p, 2, left, 0, 0)
end

end Engine
end Backtrack
