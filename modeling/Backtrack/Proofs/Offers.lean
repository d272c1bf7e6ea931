import Backtrack.Proofs.Lookaround
import Backtrack.Proofs.DepthFirst

/-!
# What a pattern offers to a backtracking search

A step of a sequence offers the search a list of ends, in the order the search tries them:
where its match ends, then where each smaller match that giving back leaves ends. A step that
fails offers none. The search over the steps of a sequence then reaches the first end, in that
order, from which the later steps reach an end (`firstEnd`), and is stuck back where it
started when there is none: `search_ends`.

For the shapes that the stock grammars are built from, this module gives the ends they offer
from each position of a text, as functions of the characters after it: a literal, one
character of a class, a run, a boundary, a lookahead, a group, a sequence, a choice, a token,
a grammar, a repetition, and a rule reference below the depth limit, which offers what its
rule's pattern offers one level deeper. The ends of a pattern built from them follow from the
ends of its parts, and no further reasoning about the engine is left.

Main statements: `search_ends`, `offers_sequence`, `offers_repetition`.
-/

namespace Backtrack

namespace Cursor

/-- The characters after the cursor, as a suffix of its text. -/
theorem rest_eq_drop (c : Cursor) : c.rest = c.text.toList.drop c.pos := by
  simp only [rest, Array.toList_extract, List.extract]
  rw [List.take_of_length_le]
  simp [size]

theorem advance_eq {c : Cursor} {n : Nat} (hv : c.size < Word.size) (h : c.pos + n ≤ c.size) :
    c.advance n = { c with pos := c.pos + n } := by
  rw [← pos_advance hv h]
  rfl

end Cursor

/-- Whether a boundary holds does not depend on the marks. -/
theorem Boundary.holds_withMarks (k : Boundary) (c : Cursor) : k.holds c = k.holds ⟨c.text, c.pos, []⟩ := by
  cases k <;> rfl

/-- How many characters a run takes from the characters `l` after the cursor: as many as its
class (or the configured whitespace) accepts, up to its maximum. -/
def Run.count (r : Run) (cfg : Config) (l : List Char) : Nat :=
  let avail := (l.takeWhile fun ch ↦ if r.configured then cfg.isWhitespace ch else r.cls.accepts ch).length
  (r.max.map (Min.min avail)).getD avail

theorem Run.count_le (r : Run) (cfg : Config) (l : List Char) : r.count cfg l ≤ l.length := by
  have h := (List.takeWhile_prefix (l := l) fun ch ↦
    if r.configured then cfg.isWhitespace ch else r.cls.accepts ch).length_le
  unfold Run.count
  cases r.max with
  | none => exact h
  | some mx => exact (Nat.min_le_left _ _).trans h

namespace Engine

/-- The ends of the smaller matches, each as much earlier than the one before as it gave back. -/
def endsFrom (e : Nat) : List (Matched × Nat) → List Nat
  | [] => []
  | (_, g) :: more => (e - g) :: endsFrom (e - g) more

/-- From `s`, `q` offers the ends `l`: none when it fails, and then the cursor stays; otherwise
where its match ends, with the cursor there, and then where the smaller matches end. -/
def OffersAt (cx : Context) (q : Pattern) (s : MatchState) : List Nat → Prop
  | [] => ∃ f s', consume cx q s = .error (.failure f) s' ∧ s'.cursor = s.cursor
  | e :: more => ∃ m s', consume cx q s = .ok m s' ∧ s'.cursor = { s.cursor with pos := e } ∧
      more = endsFrom e (smaller cx q m)

/-- On the text `T`, `q` offers `o i` from every position `i`, whatever the marks and the
events, and each end lies between the position and the end of the text. -/
structure Offers (cx : Context) (T : Array Char) (q : Pattern) (o : Nat → List Nat) : Prop where
  run : ∀ s : MatchState, s.cursor.text = T → s.cursor.pos ≤ T.size → OffersAt cx q s (o s.cursor.pos)
  within : ∀ i ≤ T.size, ∀ e ∈ o i, i ≤ e ∧ e ≤ T.size

/-- The end that a depth-first search over steps reaches from `i`, given the ends each step
offers from each position: the first end of the first step from which the later steps reach an
end. -/
def firstEnd : List (Nat → List Nat) → Nat → Option Nat
  | [], i => some i
  | o :: os, i => (o i).findSome? (firstEnd os)

/-- How a search from the cursor `c` ends: done with the cursor at `e`, or stuck with the
cursor back at `c`. -/
def SearchEnds (r : EStateM.Result MatchError MatchState Search) (c : Cursor) : Option Nat → Prop
  | some e => ∃ steps s', r = .ok (.done steps) s' ∧ s'.cursor = { c with pos := e }
  | none => ∃ f k s', r = .ok (.stuck f k) s' ∧ s'.cursor = c

/-- The ends of a run as it gives back its characters one at a time. -/
def countDown : Nat → Nat → List Nat
  | _, 0 => []
  | e, n + 1 => (e - 1) :: countDown (e - 1) n

theorem mem_countDown {x : Nat} : ∀ {e n : Nat}, x ∈ countDown e n → e - n ≤ x ∧ x ≤ e
  | _, 0, h => by simp [countDown] at h
  | e, n + 1, h => by
    rw [countDown, List.mem_cons] at h
    rcases h with rfl | h
    · omega
    · have := mem_countDown h
      omega

/-- The ends of the rounds of a repetition, latest first: from `x`, after rounds that ended at
`done`, at most `left` more rounds, each ending at the first end its pattern offers from where
it starts; a round that ends where it started ends the loop once `lo` rounds are done. -/
def roundEnds (o : Nat → List Nat) (lo : Nat) : Nat → Nat → List Nat → List Nat
  | 0, x, done => x :: done
  | left + 1, x, done =>
    match (o x).head? with
    | none => x :: done
    | some e => if e = x ∧ lo ≤ done.length then x :: done else roundEnds o lo left e (x :: done)

/-- The lengths of the rounds between successive ends, latest first. -/
def gapsDown : List Nat → List Nat
  | e :: d :: rest => (e - d) :: gapsDown (d :: rest)
  | _ => []

/-- The ends a repetition offers from `i`: where its last round ends, then where each earlier
round ends, down to the round that completes the minimum; nothing when the rounds fall short
of it. -/
def repetitionEnds (o : Nat → List Nat) (lo : Nat) (hi : Option Nat) (i : Nat) : List Nat :=
  let ends := roundEnds o lo (hi.getD Word.size) i []
  if ends.length < lo + 1 then [] else ends.take (ends.length - lo)

/-- The first end that the first alternative offering any offers. -/
def firstHead (os : List (Nat → List Nat)) (i : Nat) : Option Nat := os.findSome? fun o ↦ (o i).head?

/-- The end a literal offers: where the text after the position starts with it. -/
def literalEnds (T : Array Char) (t : String) (i : Nat) : List Nat :=
  if t.toList <+: T.toList.drop i then [i + t.length] else []

/-- The end one character of a class offers. -/
def charEnds (T : Array Char) (cls : CharClass) (i : Nat) : List Nat :=
  match (T.toList.drop i).head? with
  | some ch => if cls.accepts ch then [i + 1] else []
  | none => []

/-- A boundary offers the position itself where it holds. -/
def boundaryEnds (T : Array Char) (k : Boundary) (i : Nat) : List Nat :=
  if k.holds ⟨T, i, []⟩ then [i] else []

/-- The ends a run offers: as many characters as it takes, then one fewer at a time down to its
minimum. -/
def runEnds (T : Array Char) (cfg : Config) (r : Run) (i : Nat) : List Nat :=
  if r.count cfg (T.toList.drop i) < r.min then []
  else (i + r.count cfg (T.toList.drop i)) ::
    countDown (i + r.count cfg (T.toList.drop i)) (r.count cfg (T.toList.drop i) - r.min)

/-- A lookahead offers the position where its pattern offers an end, or, negated, none. -/
def lookEnds (o : Nat → List Nat) (neg : Bool) (i : Nat) : List Nat :=
  if (o i).isEmpty = neg then [i] else []

/-- A group offers only the first end of its pattern. -/
def groupEnds (o : Nat → List Nat) (i : Nat) : List Nat := (o i).take 1

/-- A sequence offers the end its search reaches. -/
def sequenceEnds (os : List (Nat → List Nat)) (i : Nat) : List Nat := (firstEnd os i).toList

/-- A choice offers the first end of the first alternative that offers one. -/
def choiceEnds (os : List (Nat → List Nat)) (i : Nat) : List Nat := (firstHead os i).toList

/-- A grammar offers the first end of its body unless its check rejects the match up to there. -/
def grammarEnds (o : Nat → List Nat) (rejected : Nat → Nat → Bool) (i : Nat) : List Nat :=
  match (o i).head? with
  | none => []
  | some e => if rejected i e then [] else [e]

/-- Where the configured whitespace that starts at position `i` of `T` ends. -/
def blankEnd (T : Array Char) (cfg : Config) (i : Nat) : Nat :=
  i + ((T.toList.drop i).takeWhile cfg.isWhitespace).length

/-- A token offers the first end its pattern offers once the whitespace is skipped, moved past
the whitespace that follows it. -/
def tokenEnds (T : Array Char) (cfg : Config) (o : Nat → List Nat) (i : Nat) : List Nat :=
  ((o (blankEnd T cfg i)).head?.map (blankEnd T cfg)).toList

/-- How a match from the cursor `c` ends: at `e`, or failing with the cursor back at `c`. -/
def Lands (r : EStateM.Result MatchError MatchState Matched) (c : Cursor) : Option Nat → Prop
  | some e => ∃ a s', r = .ok a s' ∧ s'.cursor = { c with pos := e }
  | none => ∃ f s', r = .error (.failure f) s' ∧ s'.cursor = c

/-- What the check of a grammar's bad pattern answers, from `s`, on the text of a match: with no
bad pattern nothing is rejected; otherwise the check answers `r` and leaves the cursor. -/
def Checks (cx : Context) (bad : Option Pattern) (text : String) (s : MatchState) (r : Bool) : Prop :=
  match bad with
  | none => r = false
  | some badP => ∃ s', cx.rejects badP text s = .ok r s' ∧ s'.cursor = s.cursor

/-- A step that cannot give back offers the one end of its match. -/
theorem offersAt_single {cx : Context} {q : Pattern} {s s' : MatchState} {m : Matched} {e : Nat}
    (h : consume cx q s = .ok m s') (hc : s'.cursor = { s.cursor with pos := e })
    (hgb : cx.giveBack q m = none) : OffersAt cx q s [e] :=
  ⟨m, s', h, hc, by rw [smaller_of_none hgb]; rfl⟩

/-- Only the ends at the positions of the text matter. -/
theorem Offers.congr {cx : Context} {T : Array Char} {q : Pattern} {o o' : Nat → List Nat}
    (h : Offers cx T q o) (heq : ∀ i ≤ T.size, o i = o' i) : Offers cx T q o' :=
  ⟨fun s ht hi ↦ heq _ hi ▸ h.run s ht hi, fun i hi e he ↦ h.within i hi e (by rwa [heq i hi])⟩

/-- Two contexts that give back alike from two patterns list the same smaller matches. The
induction is on the pieces of the match. -/
theorem smaller_congr {cx cx' : Context} {q q' : Pattern} (h : ∀ m, cx.giveBack q m = cx'.giveBack q' m)
    (m : Matched) : smaller cx q m = smaller cx' q' m := by
  cases hg : cx.giveBack q m with
  | none => rw [smaller_of_none hg, smaller_of_none ((h m).symm.trans hg)]
  | some r =>
    obtain ⟨m', g⟩ := r
    rw [smaller_of_some hg, smaller_of_some ((h m).symm.trans hg), smaller_congr h m']
termination_by m.pieces.length
decreasing_by exact cx.giveBack_shrinks q m (m', g) hg

theorem le_blankEnd (T : Array Char) (cfg : Config) (i : Nat) : i ≤ blankEnd T cfg i := Nat.le_add_right _ _

theorem blankEnd_le {T : Array Char} (cfg : Config) {i : Nat} (hi : i ≤ T.size) : blankEnd T cfg i ≤ T.size := by
  have h := (List.takeWhile_prefix (l := T.toList.drop i) cfg.isWhitespace).length_le
  simp only [List.length_drop, Array.length_toList] at h
  unfold blankEnd
  omega

/-- Skipping the configured whitespace moves a cursor on `T` to where the whitespace ends. -/
theorem skip_eq {T : Array Char} {c : Cursor} (cfg : Config) (hT : T.size < Word.size) (ht : c.text = T)
    (hi : c.pos ≤ T.size) :
    c.advance ((c.rest.takeWhile cfg.isWhitespace).length) = { c with pos := blankEnd T cfg c.pos } := by
  have hsize : c.size = T.size := by rw [Cursor.size, ht]
  have hrest : c.rest = T.toList.drop c.pos := by rw [Cursor.rest_eq_drop, ht]
  rw [hrest]
  exact Cursor.advance_eq (by omega) (hsize ▸ blankEnd_le cfg hi)

section Search

variable {cx : Context} {T : Array Char} {p q : Pattern} {rest : List Pattern}

/-- Retrying a step tries the ends it offers in turn, each followed by the search of the later
steps, until one of those is done; the induction follows the pieces of the match. -/
theorem retry_ends {os : List (Nat → List Nat)} {h : ∀ q' ∈ q :: rest, sizeOf q' < sizeOf p}
    (hrest : ∀ j acc (s : MatchState), s.cursor.text = T → s.cursor.pos ≤ T.size →
      SearchEnds (search cx p rest (fun q' hq ↦ h q' (List.mem_cons_of_mem _ hq)) j acc s) s.cursor
        (firstEnd os s.cursor.pos))
    (j start : Nat) (acc : List (Pattern × Matched)) (m : Matched) (s : MatchState)
    (ht : s.cursor.text = T)
    (hwithin : ∀ e ∈ s.cursor.pos :: endsFrom s.cursor.pos (smaller cx q m), start ≤ e ∧ e ≤ T.size) :
    SearchEnds (retry cx p q rest h j start m acc s) { s.cursor with pos := start }
      ((s.cursor.pos :: endsFrom s.cursor.pos (smaller cx q m)).findSome? (firstEnd os)) := by
  have hpos := hwithin _ (List.mem_cons_self ..)
  have hs := hrest (j + 1) (acc ++ [(q, m)]) s ht hpos.2
  rw [List.findSome?_cons]
  cases hf : firstEnd os s.cursor.pos with
  | some e =>
    rw [hf] at hs
    obtain ⟨steps, s', hsearch, hc⟩ := hs
    exact ⟨steps, s', retry_of_done hsearch, hc⟩
  | none =>
    rw [hf] at hs
    obtain ⟨f, k, s', hsearch, hc⟩ := hs
    cases hg : cx.giveBack q m with
    | none =>
      -- nothing to give back: the cursor moves back to where the step started
      rw [smaller_of_none hg]
      refine ⟨f, k, _, retry_of_stuck hsearch hg, ?_⟩
      rw [hc]
      simp only [Cursor.retreat]
      congr 1
      omega
    | some r =>
      -- a piece is given back: the next end is as much earlier, and the retry goes on from there
      obtain ⟨m', g⟩ := r
      rw [smaller_of_some hg, retry_of_giveBack hsearch hg]
      dsimp only [endsFrom]
      have hpos' : (s'.cursor.retreat g).pos = s.cursor.pos - g := by rw [hc]; rfl
      have hcur : ({ s'.cursor.retreat g with pos := start } : Cursor) = { s.cursor with pos := start } := by
        rw [hc]; rfl
      have hr := retry_ends hrest j start acc m'
        ⟨s'.cursor.retreat g, s'.events.push (.gaveBack q g (s'.cursor.pos - g))⟩ (by rw [hc]; exact ht)
        fun e he ↦ hwithin e (by
          rw [hpos'] at he
          rw [smaller_of_some hg]
          exact List.mem_cons_of_mem _ he)
      rwa [hpos', hcur] at hr
termination_by m.pieces.length
decreasing_by exact cx.giveBack_shrinks q m (m', g) hg

/-- The search over the steps of a sequence reaches the first end that `firstEnd` gives from
the ends each step offers, and is stuck back where it started when there is none. The
induction is on the steps. -/
theorem search_ends : ∀ (steps : List Pattern) (os : List (Nat → List Nat)),
    List.Forall₂ (Offers cx T) steps os →
    ∀ (h : ∀ q ∈ steps, sizeOf q < sizeOf p) (j : Nat) (acc : List (Pattern × Matched))
      (s : MatchState), s.cursor.text = T → s.cursor.pos ≤ T.size →
      SearchEnds (search cx p steps h j acc s) s.cursor (firstEnd os s.cursor.pos)
  | [], [], .nil, h, j, acc, s, _, _ => by
    rw [search_nil]
    exact ⟨acc, s, rfl, rfl⟩
  | q :: rest, o :: os, .cons hq hrest, h, j, acc, s, ht, hi => by
    have hoff := hq.run s ht hi
    have hwithin := hq.within _ hi
    rw [firstEnd]
    generalize o s.cursor.pos = l at hoff hwithin
    cases l with
    | nil =>
      obtain ⟨f, s', hc, hcur⟩ := hoff
      exact ⟨f, j, s', search_cons_of_failure hc, hcur⟩
    | cons e more =>
      obtain ⟨m, s', hc, hcur, rfl⟩ := hoff
      rw [search_cons_of_ok hc]
      have hr := retry_ends (h := h) (fun j acc s ht hi ↦ search_ends rest os hrest _ j acc s ht hi) j
        s.cursor.pos acc m s' (by rw [hcur]; exact ht) (by rw [hcur]; exact hwithin)
      rwa [hcur] at hr

end Search

section Primitives

variable {cx : Context} {rules : RuleSet} {budget : Nat} {T : Array Char}

/-- A step that fails where it stands offers nothing. -/
theorem offersAt_nil_of_step {q : Pattern} {s s' : MatchState} {f : Failure}
    (h : step cx q s = .error (.failure f) s') (hc : s'.cursor = s.cursor) : OffersAt cx q s [] :=
  ⟨f, { s' with events := s'.events.push (.failed q f) }, by rw [consume, h], hc⟩

theorem offersAt_nil_of_fail {q : Pattern} {s : MatchState} {f : Failure}
    (h : step cx q s = .error (.failure f) s) : OffersAt cx q s [] :=
  offersAt_nil_of_step h rfl

theorem offersAt_single_of_step {q : Pattern} {s s' : MatchState} {m : Matched} {e : Nat}
    (h : step cx q s = .ok m s') (hc : s'.cursor = { s.cursor with pos := e })
    (hgb : cx.giveBack q m = none) : OffersAt cx q s [e] :=
  offersAt_single (consume_of_step h) hc hgb

theorem size_of_text {s : MatchState} (ht : s.cursor.text = T) : s.cursor.size = T.size := by
  rw [Cursor.size, ht]

variable (hcx : cx.Measures rules budget) (hT : T.size < Word.size)
include hcx hT

/-- A literal offers its end where the text after the position starts with it. -/
theorem offers_literal (t : String) (b : Bool) :
    Offers cx T (.mk (.literal t) b) (literalEnds T t) := by
  refine ⟨fun s ht hi ↦ ?_, fun i hi e he ↦ ?_⟩
  · unfold literalEnds
    have hsize := size_of_text ht
    have hrest : s.cursor.rest = T.toList.drop s.cursor.pos := by rw [Cursor.rest_eq_drop, ht]
    by_cases hpre : t.toList <+: T.toList.drop s.cursor.pos
    · have hlen : s.cursor.pos + t.length ≤ s.cursor.size := by
        have := hpre.length_le
        simp only [List.length_drop, Array.length_toList, String.length_toList] at this
        omega
      rw [if_pos hpre]
      have hstep : step cx (.mk (.literal t) b) s =
          .ok (.fixed (.text ((s.cursor.advance t.length).takenSince s.cursor.pos)))
            { s with cursor := s.cursor.advance t.length } := by
        rw [step]
        simp only [matchLiteral, cursor_bind, hrest, List.isPrefixOf_iff_prefix.mpr hpre, if_true,
          setCursor_bind, pure_apply]
      exact offersAt_single_of_step hstep (Cursor.advance_eq (by omega) hlen)
        (by rw [hcx.giveBack]; simp [Pattern.giveBack])
    · rw [if_neg hpre]
      refine offersAt_nil_of_fail (f := s.cursor.expected (.mk (.literal t) b)) ?_
      rw [step]
      have hb : t.toList.isPrefixOf s.cursor.rest = false := by
        rw [hrest, Bool.eq_false_iff]
        exact fun h ↦ hpre (List.isPrefixOf_iff_prefix.mp h)
      simp only [matchLiteral, cursor_bind, hb, Bool.false_eq_true, if_false, fail_apply]
  · unfold literalEnds at he
    split at he
    · rename_i hpre
      have := hpre.length_le
      simp only [List.length_drop, Array.length_toList, String.length_toList] at this
      simp only [List.mem_singleton] at he
      omega
    · cases he

/-- One character of a class is offered where the character after the position belongs to it. -/
theorem offers_char (cls : CharClass) (b : Bool) :
    Offers cx T (.mk (.char cls) b) (charEnds T cls) := by
  refine ⟨fun s ht hi ↦ ?_, fun i hi e he ↦ ?_⟩
  · unfold charEnds
    have hsize := size_of_text ht
    have hidx : s.cursor.text[Word.wrapAdd s.cursor.pos 0]? = (T.toList.drop s.cursor.pos).head? := by
      have hw : Word.wrapAdd s.cursor.pos 0 = s.cursor.pos := Nat.mod_eq_of_lt (by omega)
      rw [hw, List.head?_drop, Array.getElem?_toList, ht]
    rcases hch : (T.toList.drop s.cursor.pos).head? with _ | ch
    · -- at the end of the text
      refine offersAt_nil_of_fail (f := ⟨.message "Unexpected end of input", .within s.cursor.text s.cursor.pos⟩) ?_
      rw [step]
      simp only [matchChar, cursor_bind, Cursor.get, hidx, hch, throw_apply]
    · have hlt : s.cursor.pos < s.cursor.size := by
        have hlen : 0 < (T.toList.drop s.cursor.pos).length := by
          rw [(List.head?_eq_some_iff.mp hch).choose_spec]; simp
        simp only [List.length_drop, Array.length_toList] at hlen
        omega
      by_cases hacc : cls.accepts ch = true
      · simp only [hacc, if_true]
        have hstep : step cx (.mk (.char cls) b) s =
            .ok (.fixed (.text (String.singleton ch))) { s with cursor := s.cursor.advance 1 } := by
          rw [step]
          simp only [matchChar, cursor_bind, Cursor.get, hidx, hch, hacc, if_true, setCursor_bind, pure_apply]
        exact offersAt_single_of_step hstep (Cursor.advance_eq (by omega) (by omega))
          (by rw [hcx.giveBack]; simp [Pattern.giveBack])
      · simp only [hacc, Bool.false_eq_true, if_false]
        refine offersAt_nil_of_fail (f := s.cursor.expected (.mk (.char cls) b)) ?_
        rw [step]
        simp only [matchChar, cursor_bind, Cursor.get, hidx, hch, hacc, Bool.false_eq_true, if_false,
          fail_apply]
  · unfold charEnds at he
    rcases hch : (T.toList.drop i).head? with _ | ch
    · simp [hch] at he
    · have hlen : 0 < (T.toList.drop i).length := by
        rw [(List.head?_eq_some_iff.mp hch).choose_spec]; simp
      simp only [List.length_drop, Array.length_toList] at hlen
      simp only [hch] at he
      split at he
      · simp only [List.mem_singleton] at he
        omega
      · cases he

omit hT in
/-- A boundary is offered, as an empty match, where it holds. -/
theorem offers_boundary (k : Boundary) (b : Bool) :
    Offers cx T (.mk (.boundary k) b) (boundaryEnds T k) := by
  refine ⟨fun s ht hi ↦ ?_, fun i hi e he ↦ ?_⟩
  · unfold boundaryEnds
    have hk : k.holds s.cursor = k.holds ⟨T, s.cursor.pos, []⟩ := by
      rw [Boundary.holds_withMarks, ht]
    by_cases hh : k.holds ⟨T, s.cursor.pos, []⟩ = true
    · rw [if_pos hh]
      refine offersAt_single_of_step (m := .fixed .empty) ?_ rfl
        (by rw [hcx.giveBack]; simp [Pattern.giveBack])
      rw [step]
      simp only [matchBoundary, cursor_bind, hk, hh, if_true, pure_apply]
    · rw [if_neg hh]
      refine offersAt_nil_of_fail (f := s.cursor.expected (.mk (.boundary k) b)) ?_
      rw [step]
      simp only [matchBoundary, cursor_bind, hk, hh, Bool.false_eq_true, if_false, fail_apply]
  · unfold boundaryEnds at he
    split at he
    · simp only [List.mem_singleton] at he
      omega
    · cases he

omit hcx hT in
/-- A run gives back its characters one at a time down to its minimum. The induction is on
the characters taken. -/
theorem endsFrom_smaller_run {q : Pattern} {lo : Nat} (hgb : ∀ m, cx.giveBack q m = m.dropLastChar lo) :
    ∀ (n e : Nat) (t : String), t.length = n →
      endsFrom e (smaller cx q ⟨.text t, List.replicate n ⟨1, 1⟩⟩) = countDown e (n - lo)
  | n, e, t, hlen => by
    by_cases hn : n ≤ lo
    · rw [smaller_of_none (by rw [hgb, Matched.dropLastChar_run hlen, if_pos hn]), endsFrom,
        Nat.sub_eq_zero_of_le hn, countDown]
    · obtain ⟨n', rfl⟩ : ∃ n', n = n' + 1 := ⟨n - 1, by omega⟩
      have hlen' : (String.ofList t.toList.dropLast).length = n' := by
        simp [String.length_toList, hlen]
      rw [smaller_of_some (by rw [hgb, Matched.dropLastChar_run hlen, if_neg hn]), endsFrom,
        Nat.add_sub_cancel, endsFrom_smaller_run hgb n' (e - 1) _ hlen',
        show n' + 1 - lo = (n' - lo) + 1 by omega, countDown]

/-- A run offers the end of as many characters as it takes, then one fewer at a time down to
its minimum; it fails where it would take fewer than its minimum. -/
theorem offers_run (r : Run) (b : Bool) :
    Offers cx T (.mk (.run r) b) (runEnds T cx.config r) := by
  refine ⟨fun s ht hi ↦ ?_, fun i hi e he ↦ ?_⟩
  · unfold runEnds
    have hsize := size_of_text ht
    have hrest : s.cursor.rest = T.toList.drop s.cursor.pos := by rw [Cursor.rest_eq_drop, ht]
    obtain ⟨count, hcount⟩ : ∃ n, r.count cx.config s.cursor.rest = n := ⟨_, rfl⟩
    have hstep := matchRun_apply cx.config (.mk (.run r) b) r s rfl hcount
    rw [hrest] at hcount
    have hle : s.cursor.pos + count ≤ s.cursor.size := by
      have := Run.count_le r cx.config (T.toList.drop s.cursor.pos)
      simp only [List.length_drop, Array.length_toList, hcount] at this
      omega
    simp only [hcount]
    by_cases hlt : count < r.min
    · rw [if_pos hlt] at hstep ⊢
      exact offersAt_nil_of_fail (by rw [step]; exact hstep)
    · rw [if_neg hlt] at hstep ⊢
      have hv : s.cursor.Valid := ⟨by omega, by omega⟩
      refine ⟨_, _, consume_of_step (by rw [step]; exact hstep), Cursor.advance_eq (by omega) hle, ?_⟩
      rw [endsFrom_smaller_run (fun m ↦ by rw [hcx.giveBack, Pattern.giveBack]) count _ _
        (Cursor.length_takenSince_advance hv hle)]
  · unfold runEnds at he
    have := Run.count_le r cx.config (T.toList.drop i)
    simp only [List.length_drop, Array.length_toList] at this
    split at he
    · cases he
    · rw [List.mem_cons] at he
      rcases he with rfl | he
      · omega
      · have := mem_countDown he
        omega

omit hT in
/-- A step that cannot give back offers where it lands. -/
theorem offersAt_of_lands {q : Pattern} {s : MatchState} {x : Option Nat} (h : Lands (step cx q s) s.cursor x)
    (hgb : q.giveBack rules budget = fun _ ↦ none) : OffersAt cx q s x.toList := by
  cases x with
  | none =>
    obtain ⟨f, s', hs, hc⟩ := h
    exact offersAt_nil_of_step hs hc
  | some e =>
    obtain ⟨a, s', hs, hc⟩ := h
    exact offersAt_single_of_step hs hc (by rw [hcx.giveBack, hgb])

omit hT in
/-- A lookahead whose inner pattern only fails is offered, as an empty match, where the inner
pattern's offers are empty or not as the lookahead asks. -/
theorem offers_nextIs (hfr : cx.Frames) {q : Pattern} {o : Nat → List Nat} (hq : Offers cx T q o)
    (hqf : OnlyFails (consume cx q)) (hT : T.size < Word.size) (neg b : Bool) :
    Offers cx T (.mk (.nextIs neg q) b) (lookEnds o neg) := by
  refine ⟨fun s ht hi ↦ ?_, fun i hi e he ↦ ?_⟩
  · unfold lookEnds
    have hsize := size_of_text ht
    have hv : s.cursor.Valid := ⟨by omega, by omega⟩
    -- the inner pattern matches exactly where it offers an end
    have hmatch : (∃ a s', consume cx q s = .ok a s') ↔ (o s.cursor.pos).isEmpty = false := by
      have hoff := hq.run s ht hi
      generalize o s.cursor.pos = l at hoff
      cases l with
      | nil =>
        obtain ⟨f, s', hc, -⟩ := hoff
        simp [hc]
      | cons e more =>
        obtain ⟨m, s', hc, -⟩ := hoff
        simp [hc]
    have hgb : cx.giveBack (.mk (.nextIs neg q) b) (.fixed .empty) = none := by
      rw [hcx.giveBack]; simp [Pattern.giveBack]
    rcases step_nextIs_decides hfr hcx neg b hqf hv with ⟨hh, s', hs, hc⟩ | ⟨hh, f, s', hs, hc⟩
    · rw [hmatch] at hh
      have heq : (o s.cursor.pos).isEmpty = neg := by
        cases h1 : (o s.cursor.pos).isEmpty <;> cases neg <;> simp_all
      rw [if_pos heq]
      exact offersAt_single_of_step hs (by rw [hc]) hgb
    · rw [hmatch] at hh
      have hne : ¬(o s.cursor.pos).isEmpty = neg := by
        cases h1 : (o s.cursor.pos).isEmpty <;> cases neg <;> simp_all
      rw [if_neg hne]
      exact offersAt_nil_of_step hs hc
  · unfold lookEnds at he
    split at he
    · simp only [List.mem_singleton] at he
      omega
    · cases he

omit hT in
/-- A group offers the first end of its pattern only. -/
theorem offers_group {p : Pattern} {o : Nat → List Nat} (hp : Offers cx T p o) (b : Bool) :
    Offers cx T (.mk (.group p) b) (groupEnds o) := by
  refine ⟨fun s ht hi ↦ ?_, fun i hi e he ↦ hp.within i hi e (List.mem_of_mem_take he)⟩
  unfold groupEnds
  have hoff := hp.run s ht hi
  generalize o s.cursor.pos = l at hoff
  cases l with
  | nil =>
    obtain ⟨f, s', hc, hcur⟩ := hoff
    refine offersAt_nil_of_step (f := f) ?_ hcur
    rw [step]
    simp only [position_bind]
    rw [bind_of_error hc]
  | cons e more =>
    obtain ⟨m, s', hc, hcur, -⟩ := hoff
    obtain ⟨a, hstep⟩ : ∃ a, step cx (.mk (.group p) b) s = .ok a s' := ⟨_, by
      rw [step]
      simp only [position_bind]
      rw [bind_of_ok hc]
      rfl⟩
    exact offersAt_single_of_step hstep hcur (by rw [hcx.giveBack]; simp [Pattern.giveBack])

omit hcx hT in
theorem within_of_forall₂ {cs : List Pattern} {os : List (Nat → List Nat)} (hcs : List.Forall₂ (Offers cx T) cs os) :
    ∀ o ∈ os, ∀ i ≤ T.size, ∀ e ∈ o i, i ≤ e ∧ e ≤ T.size := by
  induction hcs with
  | nil => intro o ho; cases ho
  | cons hq _ ih =>
    intro o ho
    rcases List.mem_cons.mp ho with rfl | ho
    · exact hq.within
    · exact ih o ho

omit hcx hT in
/-- The first end of a search lies between where it starts and the end of the text. -/
theorem firstEnd_within {os : List (Nat → List Nat)}
    (hos : ∀ o ∈ os, ∀ i ≤ T.size, ∀ e ∈ o i, i ≤ e ∧ e ≤ T.size) :
    ∀ {i e : Nat}, i ≤ T.size → firstEnd os i = some e → i ≤ e ∧ e ≤ T.size := by
  induction os with
  | nil =>
    intro i e hi he
    cases he
    exact ⟨le_rfl, hi⟩
  | cons o os ih =>
    intro i e hi he
    obtain ⟨e1, he1, hfirst⟩ := List.exists_of_findSome?_eq_some he
    have h1 := hos o (List.mem_cons_self ..) i hi e1 he1
    have h2 := ih (fun o' ho' ↦ hos o' (List.mem_cons_of_mem _ ho')) h1.2 hfirst
    omega

omit hT in
/-- A sequence offers where the search over its steps, from its mark, ends: the end reached, or
nothing when the search is stuck, and then the cursor is back where the sequence started. -/
theorem offersAt_sequence {cs : List Pattern} {auto b : Bool} {s : MatchState} {x : Option Nat}
    (hs : SearchEnds (search cx (.mk (.sequence cs none auto) b) cs (fun _ h ↦ sizeOf_step_lt h) 0 []
      { s with cursor := s.cursor.mark }) s.cursor.mark x) :
    OffersAt cx (.mk (.sequence cs none auto) b) s x.toList := by
  have hgb : ∀ m, cx.giveBack (.mk (.sequence cs none auto) b) m = none := fun m ↦ by
    rw [hcx.giveBack]; simp [Pattern.giveBack]
  cases x with
  | some e =>
    obtain ⟨steps, s', hsearch, hc⟩ := hs
    have hmarks : s'.cursor.marks = s.cursor.pos :: s.cursor.marks := by rw [hc]; rfl
    obtain ⟨a, hstep⟩ : ∃ a, step cx (.mk (.sequence cs none auto) b) s =
        .ok a { s' with cursor := { s'.cursor with marks := s.cursor.marks } } := ⟨_, by
      rw [step]
      simp only [mark_bind, sequenceSteps]
      rw [bind_of_ok (outcome_of_ok hsearch)]
      exact forgetMark_bind _ hmarks _⟩
    exact offersAt_single_of_step hstep (by rw [hc]; rfl) (hgb a)
  | none =>
    obtain ⟨f, k, s', hsearch, hc⟩ := hs
    have hmarks : s'.cursor.marks = s.cursor.pos :: s.cursor.marks := by rw [hc]; rfl
    have hstep : step cx (.mk (.sequence cs none auto) b) s = .error (.failure f)
        ⟨{ s'.cursor with pos := s.cursor.pos, marks := s.cursor.marks },
          s'.events.push (.stepFailed (.mk (.sequence cs none auto) b) k f)⟩ := by
      rw [step]
      simp only [mark_bind, sequenceSteps]
      rw [bind_of_ok (outcome_of_ok hsearch)]
      simp only [record_bind]
      rw [restoreMark_bind_mk _ hmarks]
      rfl
    exact offersAt_nil_of_step hstep (by rw [hc]; rfl)

omit hT in
/-- A sequence offers the end its search reaches, and nothing more. -/
theorem offers_sequence {cs : List Pattern} {os : List (Nat → List Nat)}
    (hcs : List.Forall₂ (Offers cx T) cs os) (auto b : Bool) :
    Offers cx T (.mk (.sequence cs none auto) b) (sequenceEnds os) := by
  refine ⟨fun s ht hi ↦ offersAt_sequence hcx
    (search_ends cs os hcs _ 0 [] { s with cursor := s.cursor.mark } ht hi), fun i hi e he ↦ ?_⟩
  unfold sequenceEnds at he
  cases hf : firstEnd os i with
  | none => simp [hf] at he
  | some e' =>
    simp only [hf, Option.toList_some, List.mem_singleton] at he
    subst he
    exact firstEnd_within (within_of_forall₂ hcs) hi hf

omit hT in
/-- A sequence whose first step offers nothing anywhere offers nothing: the steps after it are
never tried. -/
theorem offers_sequence_of_head {c : Pattern} {cs : List Pattern} (hc : Offers cx T c fun _ ↦ [])
    (auto b : Bool) : Offers cx T (.mk (.sequence (c :: cs) none auto) b) fun _ ↦ [] := by
  refine ⟨fun s ht hi ↦ ?_, fun _ _ _ he ↦ by cases he⟩
  obtain ⟨f, s', hfail, hcur⟩ := hc.run { s with cursor := s.cursor.mark } ht hi
  exact offersAt_sequence hcx (x := none) ⟨f, 0, s', search_cons_of_failure hfail, hcur⟩

omit hcx hT in
/-- Trying the alternatives in turn from a marked cursor: the first that offers an end wins,
and the mark comes off. The induction is on the alternatives. -/
theorem choose_lands {p : Pattern} (cs : List Pattern) (os : List (Nat → List Nat))
    (hcs : List.Forall₂ (Offers cx T) cs os) : ∀ (h : ∀ q ∈ cs, sizeOf q < sizeOf p) (c : Cursor) (ev : Array Event),
    c.text = T → c.pos ≤ T.size → Lands (choose cx p cs h ⟨c.mark, ev⟩) c (firstHead os c.pos) := by
  induction hcs with
  | nil =>
    intro h c ev _ _
    rw [choose, restoreMark_bind_mk _ rfl]
    exact ⟨_, _, rfl, rfl⟩
  | @cons q o more os hq hmore ih =>
    intro h c ev ht hi
    have hoff : OffersAt cx q ⟨c.mark, ev⟩ (o c.pos) := hq.run ⟨c.mark, ev⟩ ht hi
    rw [choose, firstHead, List.findSome?_cons]
    generalize o c.pos = l at hoff
    cases l with
    | nil =>
      -- the alternative fails in place: back to the mark, marked again, and on to the next
      obtain ⟨f, s1, hc, hcur⟩ := hoff
      have hmarks : s1.cursor.marks = c.pos :: c.marks := by rw [hcur]; rfl
      simp only [bind_of_ok (outcome_of_error hc), List.head?_nil]
      rw [restoreMark_bind _ hmarks]
      simp only [mark_bind]
      have hback : ({ s1.cursor with pos := c.pos, marks := c.marks } : Cursor) = c := by rw [hcur]; rfl
      rw [hback]
      exact ih _ c s1.events ht hi
    | cons e rest =>
      obtain ⟨m, s1, hc, hcur, -⟩ := hoff
      have hmarks : s1.cursor.marks = c.pos :: c.marks := by rw [hcur]; rfl
      simp only [bind_of_ok (outcome_of_ok hc), List.head?_cons]
      rw [forgetMark_bind _ hmarks]
      exact ⟨_, _, rfl, by rw [hcur]; rfl⟩

omit hcx hT in
/-- The alternative a choice takes is the first that offers an end: the choice's match is that
alternative's match from the marked cursor. The induction is on the alternatives. -/
theorem choose_picks {p : Pattern} (cs : List Pattern) (os : List (Nat → List Nat))
    (hcs : List.Forall₂ (Offers cx T) cs os) : ∀ (h : ∀ q ∈ cs, sizeOf q < sizeOf p) (c : Cursor) (ev : Array Event),
    c.text = T → c.pos ≤ T.size → ∀ a s', choose cx p cs h ⟨c.mark, ev⟩ = .ok a s' →
      ∃ q o, (q, o) ∈ cs.zip os ∧ (o c.pos).head? = firstHead os c.pos ∧
        ∃ ev' m s1, consume cx q ⟨c.mark, ev'⟩ = .ok m s1 ∧ a = .fixed m.fragment := by
  induction hcs with
  | nil =>
    intro h c ev _ _ a s' hch
    rw [choose, restoreMark_bind_mk _ rfl] at hch
    cases hch
  | @cons q o more os hq hmore ih =>
    intro h c ev ht hi a s' hch
    have hoff : OffersAt cx q ⟨c.mark, ev⟩ (o c.pos) := hq.run ⟨c.mark, ev⟩ ht hi
    rw [choose] at hch
    rw [firstHead, List.findSome?_cons]
    generalize hl : o c.pos = l at hoff
    cases l with
    | nil =>
      obtain ⟨f, s1, hc, hcur⟩ := hoff
      have hmarks : s1.cursor.marks = c.pos :: c.marks := by rw [hcur]; rfl
      have hback : ({ s1.cursor with pos := c.pos, marks := c.marks } : Cursor) = c := by rw [hcur]; rfl
      simp only [bind_of_ok (outcome_of_error hc)] at hch
      rw [restoreMark_bind _ hmarks] at hch
      simp only [mark_bind] at hch
      rw [hback] at hch
      obtain ⟨q', o', hmem, hhead, rest⟩ := ih _ c s1.events ht hi a s' hch
      exact ⟨q', o', List.mem_cons_of_mem _ hmem, hhead, rest⟩
    | cons e rest =>
      obtain ⟨m, s1, hc, hcur, -⟩ := hoff
      have hmarks : s1.cursor.marks = c.pos :: c.marks := by rw [hcur]; rfl
      simp only [bind_of_ok (outcome_of_ok hc)] at hch
      rw [forgetMark_bind _ hmarks] at hch
      cases hch
      exact ⟨q, o, List.mem_cons_self .., by rw [hl]; rfl, ev, m, s1, hc, rfl⟩

omit hT in
/-- A choice offers the first end of the first alternative that offers any. -/
theorem offers_choice {cs : List Pattern} {os : List (Nat → List Nat)}
    (hcs : List.Forall₂ (Offers cx T) cs os) (auto b : Bool) :
    Offers cx T (.mk (.choice cs auto) b) (choiceEnds os) := by
  refine ⟨fun s ht hi ↦ offersAt_of_lands hcx ?_ (by funext m; simp [Pattern.giveBack]), fun i hi e he ↦ ?_⟩
  · rw [step]
    simp only [mark_bind]
    exact choose_lands cs os hcs _ s.cursor s.events ht hi
  · unfold choiceEnds at he
    cases hf : firstHead os i with
    | none => simp [hf] at he
    | some e' =>
      simp only [hf, Option.toList_some, List.mem_singleton] at he
      subst he
      obtain ⟨o, ho, he'⟩ := List.exists_of_findSome?_eq_some hf
      exact (within_of_forall₂ hcs) o ho i hi e (List.mem_of_head? he')

/-- A grammar offers the first end of its body, unless the check of its bad pattern rejects the
match up to there; a rejected match is taken back to where the grammar started. -/
theorem offers_grammar {tag : Nat} {name : String} {body : Pattern} {bad : Option Pattern}
    {o : Nat → List Nat} (hbody : Offers cx T body o) (rejected : Nat → Nat → Bool)
    (hcheck : ∀ (s : MatchState) m s', s.cursor.text = T → s.cursor.pos ≤ T.size →
      consume cx body s = .ok m s' → Checks cx bad m.fragment.toText s' (rejected s.cursor.pos s'.cursor.pos))
    (b : Bool) :
    Offers cx T (.mk (.embed tag (.grammar name body bad)) b) (grammarEnds o rejected) := by
  have hgb : ∀ m, cx.giveBack (.mk (.embed tag (.grammar name body bad)) b) m = none := fun m ↦ by
    rw [hcx.giveBack]; simp [Pattern.giveBack]
  refine ⟨fun s ht hi ↦ ?_, fun i hi e he ↦ ?_⟩
  · unfold grammarEnds
    have hoff := hbody.run s ht hi
    have hwithin := hbody.within _ hi
    generalize o s.cursor.pos = l at hoff hwithin
    cases l with
    | nil =>
      obtain ⟨f, s', hc, hcur⟩ := hoff
      refine offersAt_nil_of_step (f := f) ?_ hcur
      rw [step]
      simp only [position_bind]
      rw [bind_of_error hc]
    | cons e more =>
      obtain ⟨m, s1, hc, hcur, -⟩ := hoff
      have he := hwithin e (List.mem_cons_self ..)
      have hpos : s1.cursor.pos = e := by rw [hcur]
      have hchk := hcheck s m s1 ht hi hc
      rw [hpos] at hchk
      simp only [List.head?_cons]
      cases bad with
      | none =>
        simp only [Checks] at hchk
        rw [if_neg (by simp [hchk])]
        refine offersAt_single_of_step (m := .fixed (.named name m.fragment)) ?_ hcur (hgb _)
        rw [step]
        simp only [position_bind]
        rw [bind_of_ok hc]
        rfl
      | some badP =>
        obtain ⟨s2, hr, hc2⟩ := hchk
        cases hrej : rejected s.cursor.pos e with
        | true =>
          -- the match is rejected: the cursor moves back by the distance from the start
          rw [hrej] at hr
          have hback : s2.cursor.retreat (Word.wrapSub s2.cursor.pos s.cursor.pos) = s.cursor := by
            have hT' := size_of_text ht
            rw [hc2, hcur]
            simp only [Cursor.retreat]
            rw [Word.wrapSub_of_le he.1 (by omega), show e - (e - s.cursor.pos) = s.cursor.pos by omega]
          obtain ⟨f, st, hstep, hst⟩ : ∃ f st, step cx (.mk (.embed tag (.grammar name body (some badP))) b) s =
              .error (.failure f) st ∧ st.cursor = s.cursor := ⟨_, _, by
            rw [step]
            simp only [position_bind]
            rw [bind_of_ok hc]
            simp only [bind_of_ok hr, if_true, record_bind, cursor_bind, setCursor_bind, fail_apply]
            rfl, hback⟩
          exact offersAt_nil_of_step hstep hst
        | false =>
          rw [hrej] at hr
          refine offersAt_single_of_step (m := .fixed (.named name m.fragment)) ?_ (hc2.trans hcur) (hgb _)
          rw [step]
          simp only [position_bind]
          rw [bind_of_ok hc]
          simp only [bind_of_ok hr, Bool.false_eq_true, if_false]
          rfl
  · unfold grammarEnds at he
    cases hh : (o i).head? with
    | none => simp [hh] at he
    | some e' =>
      have hmem := hbody.within i hi e' (List.mem_of_head? hh)
      simp only [hh] at he
      split at he
      · cases he
      · simp only [List.mem_singleton] at he
        subst he
        exact hmem

/-- A token offers the first end its pattern offers after the whitespace, moved past the
whitespace that follows; where its pattern offers nothing, it fails back where it started. -/
theorem offers_token {inner : Pattern} {o : Nat → List Nat} (hin : Offers cx T inner o) (b : Bool) :
    Offers cx T (.mk (.token inner) b) (tokenEnds T cx.config o) := by
  refine ⟨fun s ht hi ↦ ?_, fun i hi e he ↦ ?_⟩
  · -- the whitespace before the pattern is skipped from the token's mark
    have hw : s.cursor.mark.advance ((s.cursor.mark.rest.takeWhile cx.config.isWhitespace).length) =
        { s.cursor.mark with pos := blankEnd T cx.config s.cursor.pos } := skip_eq cx.config hT ht hi
    have hoff := hin.run { s with cursor := { s.cursor.mark with pos := blankEnd T cx.config s.cursor.pos } } ht
      (blankEnd_le cx.config hi)
    have hwithin := hin.within _ (blankEnd_le cx.config hi)
    unfold tokenEnds
    generalize o (blankEnd T cx.config s.cursor.pos) = l at hoff hwithin
    cases l with
    | nil =>
      obtain ⟨f, s1, hc, hcur⟩ := hoff
      have hmarks : s1.cursor.marks = s.cursor.pos :: s.cursor.marks := by rw [hcur]; rfl
      obtain ⟨st, hstep, hst⟩ : ∃ st, step cx (.mk (.token inner) b) s = .error (.failure f) st ∧
          st.cursor = s.cursor := ⟨_, by
        rw [step]
        simp only [mark_bind, skipWhitespace_bind, hw]
        simp only [bind_of_ok (outcome_of_error hc)]
        rw [restoreMark_bind _ hmarks]
        rfl, by rw [hcur]; rfl⟩
      exact offersAt_nil_of_step hstep hst
    | cons e more =>
      obtain ⟨m, s1, hc, hcur, -⟩ := hoff
      have he := hwithin e (List.mem_cons_self ..)
      have hmarks : s1.cursor.marks = s.cursor.pos :: s.cursor.marks := by rw [hcur]; rfl
      -- the whitespace after the pattern is skipped from where its match ended
      have hw' : s1.cursor.advance ((s1.cursor.rest.takeWhile cx.config.isWhitespace).length) =
          { s1.cursor with pos := blankEnd T cx.config e } := by
        have h := skip_eq (c := s1.cursor) cx.config hT (by rw [hcur]; exact ht) (by rw [hcur]; exact he.2)
        rwa [hcur] at h ⊢
      obtain ⟨st, hstep, hst⟩ : ∃ st, step cx (.mk (.token inner) b) s = .ok (.fixed m.fragment) st ∧
          st.cursor = { s.cursor with pos := blankEnd T cx.config e } := ⟨_, by
        rw [step]
        simp only [mark_bind, skipWhitespace_bind, hw]
        simp only [bind_of_ok (outcome_of_ok hc), skipWhitespace_bind, hw']
        exact forgetMark_bind_mk (c := { s1.cursor with pos := blankEnd T cx.config e }) _ hmarks _,
        by rw [hcur]; rfl⟩
      exact offersAt_single_of_step hstep hst (by rw [hcx.giveBack]; simp [Pattern.giveBack])
  · unfold tokenEnds at he
    cases hh : (o (blankEnd T cx.config i)).head? with
    | none => simp [hh] at he
    | some e' =>
      simp only [hh, Option.map_some, Option.toList_some, List.mem_singleton] at he
      subst he
      have h1 := hin.within _ (blankEnd_le cx.config hi) e' (List.mem_of_head? hh)
      exact ⟨(le_blankEnd T cx.config i).trans (h1.1.trans (le_blankEnd T cx.config e')), blankEnd_le cx.config h1.2⟩

omit hcx hT in
/-- A reference below the depth limit offers what its rule's pattern offers one level deeper:
entering the rule runs that pattern there, and giving back follows the rule down. -/
theorem offers_rule {config : Config} {checks depth : Nat} {ref : RuleRef} {t : Pattern} {o : Nat → List Nat}
    (htarget : rules.target? ref = some t) (hd : depth < config.maxDepth)
    (h : Offers (contextAt rules config checks (depth + 1)) T t o) (b : Bool) :
    Offers (contextAt rules config checks depth) T (.mk (.rule ref) b) o := by
  have hstep : ∀ s, step (contextAt rules config checks depth) (.mk (.rule ref) b) s =
      consume (contextAt rules config checks (depth + 1)) t s := fun s ↦ by
    rw [step, contextAt]
    dsimp only
    rw [htarget]
    dsimp only
    rw [if_pos hd, consumeAt]
  have hgb : ∀ m, (contextAt rules config checks depth).giveBack (.mk (.rule ref) b) m =
      (contextAt rules config checks (depth + 1)).giveBack t m := fun m ↦ by
    rw [(contextAt_measures rules config checks depth).giveBack,
      (contextAt_measures rules config checks (depth + 1)).giveBack,
      show config.maxDepth - depth = (config.maxDepth - (depth + 1)) + 1 by omega,
      Pattern.giveBack_rule_succ rules _ htarget]
  refine ⟨fun s ht hi ↦ ?_, h.within⟩
  have hoff := h.run s ht hi
  generalize o s.cursor.pos = l at hoff
  cases l with
  | nil =>
    obtain ⟨f, s', hc, hcur⟩ := hoff
    exact offersAt_nil_of_step (by rw [hstep]; exact hc) hcur
  | cons e more =>
    obtain ⟨m, s', hc, hcur, rfl⟩ := hoff
    exact ⟨m, s', consume_of_step (by rw [hstep]; exact hc), hcur, by rw [smaller_congr hgb]⟩

section Rounds

omit hcx hT

/-- The rounds keep the ends they had, and each new end lies between the position the rounds
started from and the end of the text, no earlier than the end before it. The induction
follows the rounds. -/
theorem roundEnds_spec {o : Nat → List Nat} (hwithin : ∀ x ≤ T.size, ∀ e ∈ o x, x ≤ e ∧ e ≤ T.size)
    (lo : Nat) : ∀ (left x : Nat) (done : List Nat), x ≤ T.size →
      ∃ new, roundEnds o lo left x done = new ++ x :: done ∧ (new ++ [x]).IsChain (· ≥ ·) ∧
        ∀ e ∈ new, x ≤ e ∧ e ≤ T.size
  | 0, x, done, _ => ⟨[], rfl, List.isChain_singleton x, by simp⟩
  | left + 1, x, done, hx => by
    rw [roundEnds]
    cases he : (o x).head? with
    | none => exact ⟨[], rfl, List.isChain_singleton x, by simp⟩
    | some e =>
      have hxe := hwithin x hx e (List.mem_of_head? he)
      dsimp only
      split_ifs with hstop
      · exact ⟨[], rfl, List.isChain_singleton x, by simp⟩
      · obtain ⟨new, heq, hchain, hnew⟩ := roundEnds_spec hwithin lo left e (x :: done) hxe.2
        refine ⟨new ++ [e], by rw [heq]; simp, ?_, fun y hy ↦ ?_⟩
        · refine List.isChain_append.mpr ⟨hchain, List.isChain_singleton x, fun a ha b hb ↦ ?_⟩
          simp only [List.getLast?_append, List.getLast?_singleton, Option.some_or, Option.mem_def,
            Option.some.injEq, List.head?_cons] at ha hb
          omega
        · rcases List.mem_append.mp hy with hy | hy
          · have := hnew y hy
            omega
          · simp only [List.mem_singleton] at hy
            omega

theorem tail_take_of_le_one {α : Type} (l : List α) {n : Nat} (h : n ≤ 1) : (l.take n).tail = [] := by
  rcases Nat.le_one_iff_eq_zero_or_eq_one.mp h with rfl | rfl
  · rfl
  · cases l <;> rfl

/-- Giving back rounds one at a time, while more than `lo` are left, moves back over their
lengths: the ends of the smaller matches are the earlier ends, down to the minimum. The
induction is on the rounds, latest first. -/
theorem endsFrom_smaller_rounds {q : Pattern} {lo : Nat} (hgb : ∀ m, cx.giveBack q m = m.dropLastPiece lo) :
    ∀ (P : List Piece) (E : List Nat) (items : List Fragment), P.map Piece.len = gapsDown E →
      E.length = P.length + 1 → E.IsChain (· ≥ ·) →
      endsFrom (E.headD 0) (smaller cx q ⟨.list items, P.reverse⟩) = (E.take (E.length - lo)).tail
  | [], E, items, _, hlen, _ => by
    simp only [List.length_nil] at hlen
    rw [smaller_of_none (by rw [hgb, Matched.dropLastPiece_list]; simp), endsFrom,
      tail_take_of_le_one _ (by omega)]
  | pc :: P', E, items, hgaps, hlen, hchain => by
    obtain ⟨e, d, rest, rfl⟩ : ∃ e d rest, E = e :: d :: rest := by
      match E, hlen with
      | e :: d :: rest, _ => exact ⟨e, d, rest, rfl⟩
    simp only [List.map_cons, gapsDown, List.cons.injEq] at hgaps
    have hde : d ≤ e := (List.isChain_cons_cons.mp hchain).1
    simp only [List.length_cons] at hlen
    by_cases hfew : P'.length + 1 ≤ lo
    · rw [smaller_of_none (by rw [hgb, Matched.dropLastPiece_list]; simp; omega), endsFrom,
        tail_take_of_le_one _ (by simp only [List.length_cons]; omega)]
    · -- the last round goes, and the match ends where the round before it ended
      have hgive : cx.giveBack q ⟨.list items, (pc :: P').reverse⟩ =
          some (⟨.list (items.take (items.length - pc.items)), P'.reverse⟩, e - d) := by
        rw [hgb, Matched.dropLastPiece_list]
        simp [hfew, hgaps.1]
      have ih := endsFrom_smaller_rounds hgb P' (d :: rest) (items.take (items.length - pc.items)) hgaps.2
        (by simp only [List.length_cons]; omega) (List.isChain_cons_cons.mp hchain).2
      simp only [List.headD_cons] at ih
      obtain ⟨k, hk⟩ : ∃ k, rest.length + 1 - lo = k + 1 := ⟨rest.length - lo, by omega⟩
      rw [smaller_of_some hgive, endsFrom, List.headD_cons, show e - (e - d) = d by omega, ih]
      simp only [List.length_cons, hk, show rest.length + 1 + 1 - lo = k + 1 + 1 by omega,
        List.take_succ_cons, List.tail_cons]

/-- The rounds of a repetition from a cursor inside the text end at the latest end that
`roundEnds` gives, with one piece per round, as long as the round. The induction is on the
rounds left. -/
theorem rounds_ends {p inner : Pattern} {h : sizeOf inner < sizeOf p} {o : Nat → List Nat}
    (hin : Offers cx T inner o) (hT : T.size < Word.size) (lo : Nat) :
    ∀ (left : Nat) (done : List Nat) (items : Array Fragment) (pieces : Array Piece) (s : MatchState),
      s.cursor.text = T → s.cursor.pos ≤ T.size →
      pieces.toList.reverse.map Piece.len = gapsDown (s.cursor.pos :: done) → pieces.size = done.length →
      ∃ items' pieces' s', rounds cx p inner h lo left items pieces s = .ok (items', pieces') s' ∧
        s'.cursor = { s.cursor with pos := (roundEnds o lo left s.cursor.pos done).headD 0 } ∧
        pieces'.toList.reverse.map Piece.len = gapsDown (roundEnds o lo left s.cursor.pos done) ∧
        pieces'.size + 1 = (roundEnds o lo left s.cursor.pos done).length
  | 0, done, items, pieces, s, _, _, hgaps, hsize => by
    rw [rounds.eq_1]
    exact ⟨items, pieces, s, rfl, rfl, hgaps, by simp [roundEnds, hsize]⟩
  | left + 1, done, items, pieces, s, ht, hi, hgaps, hsize => by
    have hoff : OffersAt cx inner s (o s.cursor.pos) := hin.run s ht hi
    have hwithin := hin.within _ hi
    rw [rounds.eq_2]
    simp only [position_bind]
    rw [roundEnds]
    generalize o s.cursor.pos = l at hoff hwithin
    cases l with
    | nil =>
      -- the round fails: the loop ends where it is
      obtain ⟨f, s1, hc, hcur⟩ := hoff
      rw [bind_of_ok (outcome_of_error hc)]
      exact ⟨items, pieces, s1, rfl, by rw [hcur]; rfl, hgaps, by simp [hsize]⟩
    | cons e more =>
      obtain ⟨m, s1, hc, hcur, -⟩ := hoff
      have he := hwithin e (List.mem_cons_self ..)
      have hlen : Word.wrapSub s1.cursor.pos s.cursor.pos = e - s.cursor.pos := by
        rw [hcur]
        exact Word.wrapSub_of_le he.1 (by simp only; omega)
      rw [bind_of_ok (outcome_of_ok hc)]
      simp only [position_bind, hlen, List.head?_cons]
      by_cases hstop : e - s.cursor.pos = 0 ∧ pieces.size ≥ lo
      · -- a round that consumed nothing once the minimum is done ends the loop
        have hstop' : e = s.cursor.pos ∧ lo ≤ done.length := ⟨by omega, by omega⟩
        rw [if_pos hstop, if_pos hstop']
        exact ⟨items, pieces, s1, rfl, by rw [hcur, hstop'.1]; rfl, hgaps, by simp [hsize]⟩
      · have hstop' : ¬(e = s.cursor.pos ∧ lo ≤ done.length) := fun h' ↦ hstop ⟨by omega, by omega⟩
        rw [if_neg hstop, if_neg hstop']
        rcases hpush : pushItem items inner m.fragment with ⟨items1, n⟩
        have hpos1 : s1.cursor.pos = e := by rw [hcur]
        obtain ⟨items', pieces', s', hr, hcur', hgaps', hsize'⟩ :=
          rounds_ends hin hT lo left (s.cursor.pos :: done) items1 (pieces.push ⟨e - s.cursor.pos, n⟩) s1
            (by rw [hcur]; exact ht) (by rw [hpos1]; exact he.2)
            (by rw [hpos1, Array.toList_push, List.reverse_append]; simp [hgaps, gapsDown])
            (by simp [hsize])
        rw [hpos1] at hcur' hgaps' hsize'
        refine ⟨items', pieces', s', hr, by rw [hcur', hcur], hgaps', hsize'⟩

end Rounds

omit hT in
/-- A repetition offers the end of its last round, then of each earlier round down to the
minimum, and nothing when its rounds fall short of the minimum. -/
theorem offers_repetition {inner : Pattern} {o : Nat → List Nat} (hin : Offers cx T inner o)
    (hT : T.size < Word.size) (lo : Nat) (hi : Option Nat) (b : Bool) :
    Offers cx T (.mk (.repetition inner lo hi) b) (repetitionEnds o lo hi) := by
  refine ⟨fun s ht hpos ↦ ?_, fun i hpos e he ↦ ?_⟩
  · obtain ⟨items', pieces', s', hr, hcur, hgaps, hsize⟩ :=
      rounds_ends (p := .mk (.repetition inner lo hi) b)
        (h := by simp only [Pattern.mk.sizeOf_spec, Shape.repetition.sizeOf_spec]; omega)
        hin hT lo (hi.getD Word.size) [] #[] #[] { s with cursor := s.cursor.mark } ht hpos rfl rfl
    replace hcur : s'.cursor = { s.cursor.mark with
        pos := (roundEnds o lo (hi.getD Word.size) s.cursor.pos []).headD 0 } := hcur
    replace hgaps : pieces'.toList.reverse.map Piece.len = gapsDown (roundEnds o lo (hi.getD Word.size) s.cursor.pos []) :=
      hgaps
    replace hsize : pieces'.size + 1 = (roundEnds o lo (hi.getD Word.size) s.cursor.pos []).length := hsize
    obtain ⟨new, heq, hchain, -⟩ := roundEnds_spec hin.within lo (hi.getD Word.size) s.cursor.pos [] hpos
    have hmarks : s'.cursor.marks = s.cursor.pos :: s.cursor.marks := by rw [hcur]; rfl
    unfold repetitionEnds
    rw [heq] at hcur hgaps hsize ⊢
    dsimp only
    by_cases hshort : pieces'.size < lo
    · -- too few rounds: back to the mark, and the repetition fails there
      rw [if_pos (by omega)]
      obtain ⟨f, st, hstep, hst⟩ : ∃ f st, step cx (.mk (.repetition inner lo hi) b) s =
          .error (.failure f) st ∧ st.cursor = s.cursor := ⟨_, _, by
        rw [step]
        simp only [mark_bind]
        rw [bind_of_ok hr]
        simp only [if_pos hshort]
        rw [restoreMark_bind _ hmarks]
        rfl, by rw [hcur]; rfl⟩
      exact offersAt_nil_of_step hstep hst
    · rw [if_neg (by omega)]
      obtain ⟨k, hk⟩ : ∃ k, (new ++ [s.cursor.pos]).length - lo = k + 1 := ⟨pieces'.size - lo, by omega⟩
      obtain ⟨x, xs, hx⟩ : ∃ x xs, new ++ [s.cursor.pos] = x :: xs := by
        cases new with
        | nil => exact ⟨_, _, rfl⟩
        | cons y ys => exact ⟨_, _, rfl⟩
      rw [hx] at hcur hgaps hsize hchain hk ⊢
      rw [hk, List.take_succ_cons]
      refine ⟨⟨.list items'.toList, pieces'.toList⟩, { s' with cursor := { s'.cursor with marks := s.cursor.marks } },
        consume_of_step ?_, by rw [hcur]; rfl, ?_⟩
      · rw [step]
        simp only [mark_bind]
        rw [bind_of_ok hr]
        simp only [if_neg hshort]
        rw [forgetMark_bind _ hmarks]
        rfl
      · have hgb : ∀ m, cx.giveBack (.mk (.repetition inner lo hi) b) m = m.dropLastPiece lo := fun m ↦ by
          rw [hcx.giveBack, Pattern.giveBack]
        have := endsFrom_smaller_rounds hgb pieces'.toList.reverse (x :: xs) items'.toList
          hgaps (by simp only [List.length_reverse, Array.length_toList]; omega) hchain
        rw [List.reverse_reverse, List.headD_cons, hk, List.take_succ_cons, List.tail_cons] at this
        exact this.symm
  · obtain ⟨new, heq, -, hnew⟩ := roundEnds_spec hin.within lo (hi.getD Word.size) i [] hpos
    unfold repetitionEnds at he
    rw [heq] at he
    dsimp only at he
    split at he
    · cases he
    · rcases List.mem_append.mp (List.mem_of_mem_take he) with he | he
      · exact hnew e he
      · simp only [List.mem_singleton] at he
        omega

end Primitives

end Engine

end Backtrack
