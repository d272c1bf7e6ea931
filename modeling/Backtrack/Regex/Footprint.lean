import Backtrack.Regex.Expr
import Backtrack.Regex.Utf8

/-!
# The size of a compiled regular expression

A regular expression is refused when its automata would take more than 10 MiB. Two automata
are built, each within that limit: one that runs forwards and records the groups, and one
that runs backwards, without groups, to find where matches start. Their size is counted the
way the automaton builder counts it: 32 bytes per state, plus 8 bytes per transition of a
state that branches on several byte ranges and 4 bytes per alternative of a state that forks.
The size only grows while an automaton is built, so it exceeds the limit at some point
exactly when it does at the end; building stops as soon as it does.

The builder sees an expression in a normal form, its `Shape`: a class of one character is a
literal, adjacent literals are one literal, alternatives that are all single characters or
all classes are one class, and alternatives that all start with the same items have them
factored out.

A class beyond ASCII becomes a small automaton over the bytes of its UTF-8 sequences. Forwards,
equal states of it are shared through a table of 10,000 slots that keeps the last state
stored under each hash; backwards, only common tails are shared, through a table of 1,000
slots. Both tables forget everything between classes. Because a hash involves state numbers,
the states are numbered as the builder numbers them, in the order it adds them.
-/

namespace Backtrack
namespace Regex

/-- The limit on the size of each automaton, in bytes. -/
def sizeLimit : Nat := 10 * Nat.pow 2 20

/-- An expression as the automaton builder sees it. -/
inductive Shape where
  | empty
  /-- A nonempty string of bytes. -/
  | literal (bytes : List UInt8)
  /-- A class within ASCII, with its ranges, read as bytes or as characters; without ranges it
  never matches, and is then a class of bytes. -/
  | asciiClass (ranges : List (Nat × Nat)) (bytes : Bool)
  /-- A class with a character beyond ASCII and at least two characters. -/
  | unicodeClass (ranges : List (Nat × Nat))
  | look (l : Look)
  | repetition (min : Nat) (max : Option Nat) (greedy : Bool) (sub : Shape)
  | capture (index : Nat) (sub : Shape)
  /-- At least two items, none of them a concatenation or empty, no two literals adjacent. -/
  | concat (subs : List Shape)
  /-- At least two alternatives, none of them an alternation. -/
  | alternation (subs : List Shape)
  deriving Repr

namespace Shape

mutual
/-- Structural equality of shapes. -/
def beq : Shape → Shape → Bool
  | empty, empty => true
  | literal a, literal b => a == b
  | asciiClass a x, asciiClass b y => a == b && x == y
  | unicodeClass a, unicodeClass b => a == b
  | look a, look b => a == b
  | repetition m n g s, repetition m' n' g' s' => m == m' && n == n' && g == g' && beq s s'
  | capture i s, capture i' s' => i == i' && beq s s'
  | concat as, concat bs => beqList as bs
  | alternation as, alternation bs => beqList as bs
  | _, _ => false

def beqList : List Shape → List Shape → Bool
  | [], [] => true
  | a :: as, b :: bs => beq a b && beqList as bs
  | _, _ => false
end

instance : BEq Shape := ⟨beq⟩

mutual
/-- The length of the shortest string of bytes the shape matches; none when a class without
characters makes a part match nothing, and then for every alternation and concatenation that
holds that part. -/
def minLength : Shape → Option Nat
  | empty | look _ => some 0
  | literal bs => some bs.length
  | asciiClass [] _ => none
  | asciiClass _ _ => some 1
  | unicodeClass [] => none
  | unicodeClass ((lo, _) :: _) => some (encode lo).length
  | repetition min _ _ s => (minLength s).map (· * min)
  | capture _ s => minLength s
  | concat ss => concatMinLength ss
  | alternation ss => altMinLength ss

def concatMinLength : List Shape → Option Nat
  | [] => some 0
  | s :: ss => do pure ((← minLength s) + (← concatMinLength ss))

def altMinLength : List Shape → Option Nat
  | [] => none
  | [s] => minLength s
  | s :: ss => do pure (Nat.min (← minLength s) (← altMinLength ss))
end

mutual
/-- Whether the shape only matches the empty string. -/
def onlyEmpty : Shape → Bool
  | empty | look _ => true
  | literal _ | asciiClass _ _ | unicodeClass _ => false
  | repetition _ max _ s => max.isSome && onlyEmpty s
  | capture _ s => onlyEmpty s
  | concat ss | alternation ss => allOnlyEmpty ss

def allOnlyEmpty : List Shape → Bool
  | [] => true
  | s :: ss => onlyEmpty s && allOnlyEmpty ss
end

mutual
/-- Whether every match of the shape ends at the end of the text: the end-of-text assertion
comes last, possibly after other parts that only match the empty string. -/
def endsAtEnd : Shape → Bool
  | look l => l == .textEnd
  | repetition min _ _ s => min > 0 && endsAtEnd s
  | capture _ s => endsAtEnd s
  | concat ss => seqEndsAtEnd ss
  | alternation ss => allEndAtEnd ss
  | _ => false

/-- The same for a concatenation: an item counts when all items after it only match the empty
string. -/
def seqEndsAtEnd : List Shape → Bool
  | [] => false
  | s :: ss => seqEndsAtEnd ss || (allOnlyEmpty ss && endsAtEnd s)

def allEndAtEnd : List Shape → Bool
  | [] => true
  | s :: ss => endsAtEnd s && allEndAtEnd ss
end

/-- The shape of a class, read as bytes or not: one that never matches, a literal, or a class. -/
def ofRanges (rs : List (Nat × Nat)) (bytes : Bool) : Shape :=
  match rs with
  | [] => asciiClass [] true
  | [(lo, hi)] => if lo = hi then literal (encode lo) else if hi ≤ 0x7F then asciiClass rs bytes else unicodeClass rs
  | _ => if rs.all (·.2 ≤ 0x7F) then asciiClass rs bytes else unicodeClass rs

/-- Items of a concatenation with nested concatenations spliced in, empty items dropped and
adjacent literals joined. -/
def joinItems (items : List Shape) : List Shape :=
  let flat := items.flatMap fun s ↦ match s with
    | concat ss => ss
    | empty => []
    | s => [s]
  let step : List Shape → Shape → List Shape := fun acc s ↦
    match s, acc with
    | literal b, literal a :: rest => literal (a ++ b) :: rest
    | s, acc => s :: acc
  (flat.foldl step []).reverse

/-- A concatenation in normal form. -/
def concatOf (items : List Shape) : Shape :=
  match joinItems items with
  | [] => empty
  | [s] => s
  | ss => concat ss

/-- The character of a literal that encodes exactly one character. -/
def singleChar? : Shape → Option Nat
  | literal bs =>
    match (String.fromUTF8? ⟨bs.toArray⟩).map String.toList with
    | some [c] => some c.toNat
    | _ => none
  | _ => none

/-- The ranges of a class. -/
def classRanges? : Shape → Option (List (Nat × Nat))
  | asciiClass rs _ | unicodeClass rs => some rs
  | _ => none

/-- The bytes of a literal. -/
def literal? : Shape → Option (List UInt8)
  | literal bs => some bs
  | _ => none

/-- The items that all the concatenations start with, if every alternative is one and they
share at least one item. -/
def commonPrefix (alts : List Shape) : Option (List Shape) :=
  let items := alts.map fun s ↦ match s with
    | concat ss => some ss
    | _ => none
  match items with
  | some first :: rest =>
    if rest.any Option.isNone then none else
    let shared := (rest.filterMap id).foldl (fun acc ss ↦
      ((acc.zip ss).takeWhile fun (a, b) ↦ a == b).map (·.1)) first
    if shared.isEmpty then none else some shared
  | _ => none

/-- An alternation in normal form, given alternatives in normal form. Factoring out a common
start leaves alternatives that are normalised again, so the depth of the expression bounds
the work. -/
def alternationOf (fuel : Nat) (alts : List Shape) : Shape :=
  let flat := alts.flatMap fun s ↦ match s with
    | alternation ss => ss
    | s => [s]
  match flat with
  | [] => asciiClass [] true
  | [s] => s
  | _ =>
    match flat.mapM singleChar? with
    | some cs => ofRanges (CharSet.ofRanges (cs.map fun c ↦ (c, c))).ranges false
    | none =>
      match flat.mapM classRanges? with
      | some rss => ofRanges (CharSet.ofRanges rss.flatten).ranges false
      | none =>
        match fuel, commonPrefix flat with
        | fuel + 1, some shared =>
          let rests := flat.map fun s ↦ match s with
            | concat ss => concatOf (ss.drop shared.length)
            | s => s
          concatOf (shared ++ [alternationOf fuel rests])
        | _, _ => alternation flat

end Shape

namespace Expr

/-- The shape of an expression. -/
def shape : Expr → Shape
  | .empty => .empty
  | .chars s bytes => Shape.ofRanges s.ranges bytes
  | .look l => .look l
  | .repetition min max greedy h => .repetition min max greedy h.shape
  | .capture i h => .capture i h.shape
  | .concat hs => Shape.concatOf (hs.attach.map fun ⟨h, _⟩ ↦ h.shape)
  | .alternation hs => Shape.alternationOf 256 (hs.attach.map fun ⟨h, _⟩ ↦ h.shape)

end Expr

/-- A piece of automaton under construction: its entry, its exit, and whether the exit is a
fork, to which connecting a next state adds an alternative. -/
structure Piece where
  start : Nat
  stop : Nat
  forks : Bool

/-- An automaton builder that only counts: its states so far, the bytes they use besides their
own 32, and the two tables of shared states with the number of the class being built. -/
structure Builder where
  states : Nat := 0
  heap : Nat := 0
  class_ : Nat := 0
  shared : Array (Nat × List (UInt8 × UInt8 × Nat) × Nat) := Array.replicate 10000 (0, [], 0)
  tails : Array (Nat × (Nat × UInt8 × UInt8) × Nat) := Array.replicate 1000 (0, (0, 0, 0), 0)

/-! ## Alternations of literals

Alternatives that are all literals are built as a trie of their bytes, forwards, or backwards
from their last bytes. The trie keeps the order of the alternatives: its transitions out of a
state are split into chunks, a literal ending at the state closes the chunk being filled, and
later literals only add to the chunk after it. -/

/-- A state of the trie: its transitions, each chunk sorted by byte, and where the closed
chunks end. -/
structure TrieState where
  edges : Array (UInt8 × Nat) := #[]
  closedAt : Array Nat := #[]

namespace TrieState

/-- Where the chunk being filled starts. -/
def openFrom (s : TrieState) : Nat := s.closedAt.back?.getD 0

/-- Whether no transition leaves the state. -/
def isLeaf (s : TrieState) : Bool := s.edges.isEmpty

/-- The chunks in order, the one being filled last. -/
def chunks (s : TrieState) : List (List (UInt8 × Nat)) :=
  let starts := 0 :: s.closedAt.toList
  let ends := s.closedAt.toList ++ [s.edges.size]
  (starts.zip ends).map fun (a, b) ↦ (s.edges.extract a b).toList

/-- Follows byte `b` from state `i` of trie `t` within the chunk being filled, adding a state
and a transition in byte order when none reads it. -/
def step (t : Array TrieState) (i : Nat) (b : UInt8) : Array TrieState × Nat :=
  let s := t.getD i {}
  let start := s.openFrom
  let filling := (s.edges.extract start s.edges.size).toList
  match filling.find? (·.1 == b) with
  | some (_, next) => (t, next)
  | none =>
    let pos := start + (filling.filter (·.1 < b)).length
    let next := t.size
    let edges := s.edges.toList
    let s := { s with edges := (edges.take pos ++ [(b, next)] ++ edges.drop pos).toArray }
    ((t.set! i s).push {}, next)

/-- Adds a literal to trie `t`: its bytes from the root, then the chunk being filled at its last
state is closed, unless that state is a leaf that some literal already ends at. -/
def addLiteral (t : Array TrieState) (bytes : List UInt8) : Array TrieState :=
  let (t, last) := bytes.foldl (fun (t, i) b ↦ step t i b) (t, 0)
  let s := t.getD last {}
  if s.isLeaf && !s.closedAt.isEmpty then t
  else t.set! last { s with closedAt := s.closedAt.push s.edges.size }

end TrieState

namespace Builder

/-- The bytes the automaton takes so far. -/
def size (b : Builder) : Nat := 32 * b.states + b.heap

/-- Whether the automaton has outgrown the limit; building stops early once it has, since the
verdict can no longer change. -/
def tooLarge (b : Builder) : Bool := b.size > sizeLimit

/-- Adds a state using `heap` bytes besides its own; the number of the new state. -/
def add (b : Builder) (heap : Nat) : Builder × Nat :=
  ({ b with states := b.states + 1, heap := b.heap + heap }, b.states)

/-- Connects an exit to a next state: a fork gains an alternative. -/
def connect (b : Builder) (forks : Bool) : Builder :=
  if forks then { b with heap := b.heap + 4 } else b

/-- The hash of a list of transitions, which picks its slot among `slots`. -/
def hashTransitions (ts : List (UInt8 × UInt8 × Nat)) (slots : Nat) : Nat :=
  let prime : UInt64 := 1099511628211
  let h := ts.foldl (fun (h : UInt64) (lo, hi, next) ↦
    let h := (h ^^^ lo.toUInt64) * prime
    let h := (h ^^^ hi.toUInt64) * prime
    (h ^^^ UInt64.ofNat next) * prime) 14695981039346656037
  h.toNat % slots

/-- The state for a list of transitions: the shared one if the table holds it, else a new one,
which the table then holds. -/
def sharedState (b : Builder) (ts : List (UInt8 × UInt8 × Nat)) : Builder × Nat :=
  let slot := hashTransitions ts 10000
  match b.shared[slot]? with
  | some (c, key, id) => if c = b.class_ && key == ts then (b, id) else
    let (b, id) := b.add (8 * ts.length)
    ({ b with shared := b.shared.set! slot (b.class_, ts, id) }, id)
  | none => b.add (8 * ts.length)

/-- A node of the trie of sequences still being added: its finished transitions and the range
of its last one, whose target is not known yet. -/
abbrev Node := List (UInt8 × UInt8 × Nat) × Option ByteRange

/-- A node with its last transition pointed at `next`. -/
def Node.freeze (n : Node) (next : Nat) : List (UInt8 × UInt8 × Nat) :=
  match n.2 with
  | some (lo, hi) => n.1 ++ [(lo, hi, next)]
  | none => n.1

/-- Builds the nodes below depth `keep`, deepest first, each leading to the one built before
it and the deepest to `target`; the node at depth `keep` then leads to the last one built. -/
def buildFrom (b : Builder) (target : Nat) (nodes : Array Node) (keep : Nat) : Builder × Array Node :=
  let rec go : Nat → Builder → Array Node → Nat → Builder × Array Node
    | 0, b, nodes, next => (b, nodes.modify (nodes.size - 1) fun n ↦ (n.freeze next, none))
    | fuel + 1, b, nodes, next =>
      if keep + 1 < nodes.size then
        let (b, id) := b.sharedState (nodes.back!.freeze next)
        go fuel b nodes.pop id
      else (b, nodes.modify (nodes.size - 1) fun n ↦ (n.freeze next, none))
  go nodes.size b nodes target

/-- Adds one sequence of byte ranges to the trie: the part it shares with the previous sequence
stays, the rest of the previous one is built. -/
def addSequence (b : Builder) (target : Nat) (nodes : Array Node) (seq : List ByteRange) :
    Builder × Array Node :=
  let shared := ((seq.zip nodes.toList).takeWhile fun (r, n) ↦ n.2 == some r).length
  let (b, nodes) := buildFrom b target nodes shared
  match seq.drop shared with
  | [] => (b, nodes)
  | r :: rest =>
    let nodes := nodes.modify (nodes.size - 1) fun n ↦ (n.1, some r)
    (b, rest.foldl (fun nodes r ↦ nodes.push ([], some r)) nodes)

/-- A class beyond ASCII, forwards: the sequences of its ranges added in order to a trie whose
equal nodes are shared. -/
def classForwards (b : Builder) (ranges : List (Nat × Nat)) : Builder × Piece :=
  let (b, target) := b.add 0
  let b := { b with class_ := b.class_ + 1 }
  let seqs := ranges.flatMap fun (lo, hi) ↦ utf8Sequences lo hi
  let (b, nodes) := seqs.foldl (fun (b, nodes) seq ↦
    if b.tooLarge then (b, nodes) else addSequence b target nodes seq) (b, #[([], none)])
  let (b, nodes) := buildFrom b target nodes 0
  let (b, start) := b.sharedState ((nodes[0]?.map (·.1)).getD [])
  (b, ⟨start, target, false⟩)

/-- The state reading `lo..hi` and then going to `next`: the one the table holds, else a new
one, which the table then holds. -/
def tailState (b : Builder) (next : Nat) (lo hi : UInt8) : Builder × Nat :=
  let prime : UInt64 := 1099511628211
  let h := ((((14695981039346656037 : UInt64) ^^^ UInt64.ofNat next) * prime ^^^ lo.toUInt64) * prime
    ^^^ hi.toUInt64) * prime
  let slot := h.toNat % 1000
  match b.tails[slot]? with
  | some (c, key, id) => if c = b.class_ && key == (next, lo, hi) then (b, id) else
    let (b, id) := b.add 0
    ({ b with tails := b.tails.set! slot (b.class_, (next, lo, hi), id) }, id)
  | none => b.add 0

/-- A class beyond ASCII, backwards: a fork into every sequence read from its last byte range
to its first, sharing the states that read the same ranges on to the same state. -/
def classBackwards (b : Builder) (ranges : List (Nat × Nat)) : Builder × Piece :=
  let (b, fork) := b.add 0
  let (b, stop) := b.add 0
  let b := { b with class_ := b.class_ + 1 }
  let seqs := ranges.flatMap fun (lo, hi) ↦ utf8Sequences lo hi
  let b := seqs.foldl (fun b seq ↦
    if b.tooLarge then b else
    let (b, _) := seq.foldl (fun (b, next) (lo, hi) ↦ b.tailState next lo hi) (b, stop)
    b.connect true) b
  (b, ⟨fork, stop, false⟩)

/-- Pieces one after the other: each exit connected to the next entry. -/
def chain (b : Builder) (p : Piece) (q : Piece) : Builder × Piece :=
  (b.connect p.forks, ⟨p.start, q.stop, q.forks⟩)

/-- `n` copies of a piece built by `step`, one after the other; nothing but an empty state
when `n` is zero. Stops early once the limit is exceeded. -/
def copies (step : Builder → Builder × Piece) (n : Nat) (b : Builder) : Builder × Piece :=
  match n with
  | 0 =>
    let (b, id) := b.add 0
    (b, ⟨id, id, false⟩)
  | n + 1 =>
    let (b, first) := step b
    let rec go : Nat → Builder → Piece → Builder × Piece
      | 0, b, p => (b, p)
      | k + 1, b, p =>
        if b.tooLarge then (b, p) else
        let (b, q) := step b
        let (b, p) := chain b p q
        go k b p
    go n b first

/-- A repetition of a piece built by `step`, whose shortest match is `minLen`. -/
def repeated (step : Builder → Builder × Piece) (minLen : Option Nat) (min : Nat)
    (max : Option Nat) (b : Builder) : Builder × Piece :=
  match min, max with
  | 0, some 1 =>
    let (b, fork) := b.add 0
    let (b, inner) := step b
    let (b, stop) := b.add 0
    let b := (b.connect true).connect true
    (b.connect inner.forks, ⟨fork, stop, false⟩)
  | 0, none =>
    if minLen.any fun n ↦ decide (n > 0) then
      let (b, fork) := b.add 0
      let (b, inner) := step b
      let b := (b.connect true).connect inner.forks
      (b, ⟨fork, fork, true⟩)
    else
      let (b, inner) := step b
      let (b, _) := b.add 0
      let b := (b.connect inner.forks).connect true
      let (b, question) := b.add 0
      let (b, stop) := b.add 0
      let b := ((b.connect true).connect true).connect true
      (b, ⟨question, stop, false⟩)
  | 1, none =>
    let (b, inner) := step b
    let (b, fork) := b.add 0
    let b := (b.connect inner.forks).connect true
    (b, ⟨inner.start, fork, true⟩)
  | n + 2, none =>
    let (b, init) := copies step (n + 1) b
    let (b, last) := step b
    let (b, fork) := b.add 0
    let b := ((b.connect init.forks).connect last.forks).connect true
    (b, ⟨init.start, fork, true⟩)
  | min, some max =>
    if min = max then copies step min b else
    let (b, init) := copies step min b
    let (b, stop) := b.add 0
    let rec go : Nat → Builder → Piece → Builder × Piece
      | 0, b, p => (b.connect p.forks, ⟨init.start, stop, false⟩)
      | k + 1, b, p =>
        if b.tooLarge then (b, ⟨init.start, stop, false⟩) else
        let (b, _) := b.add 0
        let (b, inner) := step b
        let b := ((b.connect p.forks).connect true).connect true
        go k b inner
    go (max - min) b init

/-- Builds state `i` of trie `t`, the states below it first, and gives the number of its
fork. Each chunk becomes one state, branching on its bytes or reading its single byte, and each
transition to a leaf leads straight to `stop`; between chunks the fork gains a way out to
`stop` too, since a literal ends there. -/
def trieState (t : Array TrieState) (stop : Nat) : Nat → Nat → Builder → Builder × Nat
  | 0, _, b => b.add 0
  | fuel + 1, i, b =>
    let (b, ways, _) := (t.getD i {}).chunks.foldl (fun (b, ways, first) chunk ↦
      let ways := if first then ways else ways + 1
      let b := chunk.foldl (fun b (_, next) ↦
        if (t.getD next {}).isLeaf then b else (trieState t stop fuel next b).1) b
      match chunk.length with
      | 0 => (b, ways, false)
      | 1 => ((b.add 0).1, ways + 1, false)
      | n => ((b.add (8 * n)).1, ways + 1, false)) (b, 0, true)
    b.add (4 * ways)

/-- Alternatives that are all literals, as a trie: first its common exit, then its states. -/
def literals (b : Builder) (backwards : Bool) (lits : List (List UInt8)) : Builder × Piece :=
  let trie := lits.foldl (fun t bytes ↦
    TrieState.addLiteral t (if backwards then bytes.reverse else bytes)) #[{}]
  let (b, stop) := b.add 0
  let (b, start) := trieState trie stop (trie.size + 1) 0 b
  (b, ⟨start, stop, false⟩)

mutual
/-- Builds a shape forwards, or backwards without groups. -/
def build (backwards : Bool) : Shape → Builder → Builder × Piece
  | .empty, b | .look _, b =>
    let (b, id) := b.add 0
    (b, ⟨id, id, false⟩)
  | .literal bytes, b =>
    let (b, first) := b.add 0
    let (b, last) := bytes.tail.foldl (fun (b, _) _ ↦ b.add 0) (b, first)
    (b, ⟨first, last, false⟩)
  | .asciiClass ranges _, b =>
    let (b, stop) := b.add 0
    let (b, start) := b.add (8 * ranges.length)
    (b, ⟨start, stop, false⟩)
  | .unicodeClass ranges, b => if backwards then classBackwards b ranges else classForwards b ranges
  | .repetition min max _ sub, b => repeated (build backwards sub) sub.minLength min max b
  | .capture _ sub, b =>
    if backwards then build backwards sub b else
    let (b, open_) := b.add 0
    let (b, inner) := build backwards sub b
    let (b, close) := b.add 0
    (b.connect inner.forks, ⟨open_, close, false⟩)
  | .concat subs, b => if backwards then buildSeqBackwards subs b else buildSeq backwards subs b
  | .alternation subs, b =>
    match subs.mapM Shape.literal? with
    | some lits => b.literals backwards lits
    | none => buildAlts backwards subs b

/-- Builds items one after the other. -/
def buildSeq (backwards : Bool) : List Shape → Builder → Builder × Piece
  | [], b =>
    let (b, id) := b.add 0
    (b, ⟨id, id, false⟩)
  | [s], b => build backwards s b
  | s :: rest, b =>
    let (b, p) := build backwards s b
    let (b, q) := buildSeq backwards rest b
    chain b p q

/-- Builds items backwards: the last one first, each then followed by the one before it. -/
def buildSeqBackwards : List Shape → Builder → Builder × Piece
  | [], b =>
    let (b, id) := b.add 0
    (b, ⟨id, id, false⟩)
  | [s], b => build true s b
  | s :: rest, b =>
    let (b, q) := buildSeqBackwards rest b
    let (b, p) := build true s b
    chain b q p

/-- Builds alternatives: the first two, then a fork and a common exit, then the others. -/
def buildAlts (backwards : Bool) : List Shape → Builder → Builder × Piece
  | [], b =>
    let (b, id) := b.add 0
    (b, ⟨id, id, false⟩)
  | [s], b => build backwards s b
  | s :: t :: rest, b =>
    let (b, p) := build backwards s b
    let (b, q) := build backwards t b
    let (b, fork) := b.add 0
    let (b, stop) := b.add 0
    let b := (((b.connect true).connect p.forks).connect true).connect q.forks
    let b := buildRest backwards rest b
    (b, ⟨fork, stop, false⟩)

/-- Builds the remaining alternatives, each joined to the fork and the common exit. -/
def buildRest (backwards : Bool) : List Shape → Builder → Builder
  | [], b => b
  | s :: rest, b =>
    let (b, p) := build backwards s b
    buildRest backwards rest ((b.connect true).connect p.forks)
end

end Builder

/-- The size of the forward automaton of a shape: an entry state, the whole match as group
zero, and the accepting state. -/
def forwardSize (s : Shape) : Nat :=
  let b : Builder := {}
  let (b, _) := b.add 0
  let (b, p) := Builder.build false (.capture 0 s) b
  let (b, _) := b.add 0
  (b.connect p.forks).size

/-- The size of the backward automaton of a shape: a lazy loop over any byte, since a match
may end anywhere, unless it must end at the end of the text; the shape without groups; and
the accepting state. -/
def backwardSize (s : Shape) : Nat :=
  let b : Builder := {}
  let anchored := s.endsAtEnd
  let b := if anchored then (b.add 0).1 else (((b.add 0).1.add 0).1.add 8).1.connect true
  let (b, p) := Builder.build true s b
  let (b, _) := b.add 0
  ((b.connect p.forks).connect !anchored).size

/-- Whether the automata of an expression stay within the limit. -/
def Expr.fits (h : Expr) : Bool :=
  let s := h.shape
  forwardSize s ≤ sizeLimit && backwardSize s ≤ sizeLimit

end Regex
end Backtrack
