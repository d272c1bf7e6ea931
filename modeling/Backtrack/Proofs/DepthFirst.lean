import Backtrack.Proofs.GiveBack

/-!
# The steps of a sequence are searched depth first

A sequence matches its steps in order. When a step fails, the latest step that can give back
a piece does so and the steps after it are matched again; when none can, the sequence fails.
This is a depth-first search (`Engine.explore`): match the first step, then try its match and
every smaller match that giving back leaves, each ending as many symbols earlier as were given
back, each followed by the search of the later steps from where it ends; the first that
succeeds wins.

The search of the engine (`Engine.search`) does not keep the ends of the smaller matches: it
moves the cursor back from wherever the later steps left it. The two agree when the steps
behave: a step that fails leaves the cursor where it found it, and a step that matches ends
no earlier than where it started plus the symbols its match can give back (`Retryable`). Then
a search that is stuck has moved the cursor back to where it started, so moving back from
there lands on the end of the next smaller match. A step that fails in place but, when it
matches, jumps back to an earlier mark breaks this, and the two searches differ.

Main statements: `search_eq_explore`, and `search_ne_explore_of_jump` for a step that jumps back.
-/

namespace Backtrack

namespace Engine

section Spec

variable (cx : Context)

/-- The matches that giving back leaves from `m`, again and again until nothing more can be
given back, each with the count given back to reach it. -/
def smaller (q : Pattern) (m : Matched) : List (Matched × Nat) :=
  match hg : cx.giveBack q m with
  | some (m', g) =>
    have := cx.giveBack_shrinks q m (m', g) hg
    (m', g) :: smaller q m'
  | none => []
termination_by m.pieces.length

/-- Tries the matches of step `q`, which started at `start`, in turn: `m`, ending at `e`, and
then each of `more`, ending as much earlier than the one before as it gave back. Each is
followed by `sub`, the search of the later steps from where it ends, and the first search that
succeeds wins. When none does, the cursor goes back to `start` and the search is stuck as the
last one was. -/
def firstDone (q : Pattern) (sub : Matched → Engine Search) (start : Nat) :
    Matched → Nat → List (Matched × Nat) → Engine Search
  | m, e, more => do
    match ← sub m with
    | .done steps => pure (.done steps)
    | .stuck f k =>
      match more with
      | [] => do
        moveCursor fun c ↦ { c with pos := start }
        pure (.stuck f k)
      | (m', g) :: more' => do
        moveCursor fun c ↦ { c with pos := e - g }
        record (.gaveBack q g (e - g))
        firstDone q sub start m' (e - g) more'

/-- Depth-first search over the steps of a sequence, the first of index `j`, after the earlier
steps `acc` with their matches: the first step matches at the cursor, then its match and every
smaller one are tried in turn, each followed by the search of the later steps. A step that
fails leaves the search stuck, and an error of a step stops it. -/
def explore : List Pattern → Nat → List (Pattern × Matched) → Engine Search
  | [], _, acc => pure (.done acc)
  | q :: rest, j, acc => do
    let start ← position
    match ← attempt (consume cx q) with
    | .error f => pure (.stuck f j)
    | .ok m =>
      let e ← position
      firstDone q (fun m ↦ explore rest (j + 1) (acc ++ [(q, m)])) start m e (smaller cx q m)

end Spec

section Equations

variable {cx : Context} {q : Pattern} {m m' : Matched} {g : Nat} {s s' : MatchState}

theorem smaller_of_some (hg : cx.giveBack q m = some (m', g)) :
    smaller cx q m = (m', g) :: smaller cx q m' := by
  rw [smaller]
  split
  · rename_i m'' g' hg'
    rw [hg] at hg'
    cases hg'
    rfl
  · rename_i hg'
    rw [hg] at hg'
    cases hg'

theorem smaller_of_none (hg : cx.giveBack q m = none) : smaller cx q m = [] := by
  rw [smaller]
  split
  · rename_i m'' g' hg'
    rw [hg] at hg'
    cases hg'
  · rfl

variable {sub : Matched → Engine Search} {start e : Nat} {more : List (Matched × Nat)}

theorem firstDone_of_done {steps : List (Pattern × Matched)} (hs : sub m s = .ok (.done steps) s') :
    firstDone q sub start m e more s = .ok (.done steps) s' := by
  rw [firstDone, bind_of_ok hs]
  rfl

theorem firstDone_of_error {err : MatchError} (hs : sub m s = .error err s') :
    firstDone q sub start m e more s = .error err s' := by
  rw [firstDone, bind_of_error hs]

/-- The last match is stuck too: the cursor goes back to where the step started. -/
theorem firstDone_of_stuck_nil {f : Failure} {k : Nat} (hs : sub m s = .ok (.stuck f k) s') :
    firstDone q sub start m e [] s =
      .ok (.stuck f k) { s' with cursor := { s'.cursor with pos := start } } := by
  rw [firstDone, bind_of_ok hs]
  rfl

/-- A match is stuck and a smaller one is left: the cursor moves to where that one ends. -/
theorem firstDone_of_stuck_cons {f : Failure} {k : Nat} (hs : sub m s = .ok (.stuck f k) s') :
    firstDone q sub start m e ((m', g) :: more) s =
      firstDone q sub start m' (e - g) more
        { cursor := { s'.cursor with pos := e - g },
          events := s'.events.push (.gaveBack q g (e - g)) } := by
  rw [firstDone, bind_of_ok hs]
  rfl

variable {rest : List Pattern} {j : Nat} {acc : List (Pattern × Matched)}

theorem explore_nil : explore cx [] j acc s = .ok (.done acc) s := rfl

theorem explore_cons_of_ok (hq : consume cx q s = .ok m s') :
    explore cx (q :: rest) j acc s =
      firstDone q (fun m ↦ explore cx rest (j + 1) (acc ++ [(q, m)])) s.cursor.pos m
        s'.cursor.pos (smaller cx q m) s' := by
  rw [explore]
  simp only [position_bind, bind_of_ok (attempt_of_ok hq)]

theorem explore_cons_of_failure {f : Failure} (hq : consume cx q s = .error (.failure f) s') :
    explore cx (q :: rest) j acc s = .ok (.stuck f j) s' := by
  rw [explore]
  simp only [position_bind, bind_of_ok (attempt_of_failure hq)]
  rfl

theorem explore_cons_of_error {err : MatchError} (hq : consume cx q s = .error err s')
    (he : err.recoverable = false) : explore cx (q :: rest) j acc s = .error err s' := by
  rw [explore]
  simp only [position_bind, bind_of_error (attempt_of_error hq he)]

end Equations

/-- What the search over the steps of a sequence needs of a step, from every cursor within the
text: a failure leaves the cursor at the position where it found it, and a match leaves the
cursor within the text, no earlier than where it started plus the symbols the match can give
back. -/
structure Retryable (m : Engine Matched) : Prop where
  failure : ∀ s f s', s.cursor.Valid → m s = .error (.failure f) s' →
    s'.cursor.pos = s.cursor.pos ∧ s'.cursor.Valid
  ok : ∀ s a s', s.cursor.Valid → m s = .ok a s' →
    s.cursor.pos + a.span ≤ s'.cursor.pos ∧ s'.cursor.Valid

theorem Contract.retryable {m : Engine Matched} (h : m.Contract) : m.Retryable where
  failure s f s' hv hm := by
    obtain ⟨hc, -⟩ := h.error hv hm
    rw [hc]
    exact ⟨rfl, hv⟩
  ok s a s' hv hm := by
    have hf := h.ok hv hm
    exact ⟨hf.reach, hv.of_forward hf⟩

section Rewind

variable {cx : Context} (hgb : ∀ q m r, cx.giveBack q m = some r → r.1.span + r.2 = m.span)
include hgb

/-- Trying the matches of a step that started at `start` and is followed by searches that move
the cursor back where they began when they are stuck: when every try is stuck, the cursor is
back at `start`. The induction is on the pieces of the match tried first. -/
theorem firstDone_rewinds {q : Pattern} {sub : Matched → Engine Search} {start : Nat}
    (hsub : ∀ m s f k s', s.cursor.Valid → sub m s = .ok (.stuck f k) s' →
      s'.cursor.pos = s.cursor.pos ∧ s'.cursor.Valid)
    (m : Matched) (s : MatchState) (hv : s.cursor.Valid) (hle : start + m.span ≤ s.cursor.pos)
    {f : Failure} {k : Nat} {s' : MatchState}
    (hr : firstDone q sub start m s.cursor.pos (smaller cx q m) s = .ok (.stuck f k) s') :
    s'.cursor.pos = start ∧ s'.cursor.Valid := by
  cases hs : sub m s with
  | error err s1 =>
    rw [firstDone_of_error hs] at hr
    cases hr
  | ok r s1 =>
    cases r with
    | done steps =>
      rw [firstDone_of_done hs] at hr
      cases hr
    | stuck f1 k1 =>
      obtain ⟨hpos, hv1⟩ := hsub m s f1 k1 s1 hv hs
      cases hg : cx.giveBack q m with
      | none =>
        rw [smaller_of_none hg, firstDone_of_stuck_nil hs] at hr
        cases hr
        exact ⟨rfl, hv1.withPos (by omega)⟩
      | some r =>
        obtain ⟨m', g⟩ := r
        have hspan : m'.span + g = m.span := hgb q m _ hg
        rw [smaller_of_some hg, firstDone_of_stuck_cons hs] at hr
        refine firstDone_rewinds hsub m' ⟨{ s1.cursor with pos := s.cursor.pos - g },
          s1.events.push (.gaveBack q g (s.cursor.pos - g))⟩ ?_ ?_ hr
        · exact hv1.withPos (by omega)
        · show start + m'.span ≤ s.cursor.pos - g
          omega
termination_by m.pieces.length
decreasing_by exact cx.giveBack_shrinks q m (m', g) hg

/-- A depth-first search over retryable steps that is stuck has moved the cursor back to where
it started. -/
theorem explore_rewinds (steps : List Pattern) (hsteps : ∀ q ∈ steps, (consume cx q).Retryable)
    (j : Nat) (acc : List (Pattern × Matched)) (s : MatchState) (hv : s.cursor.Valid)
    {f : Failure} {k : Nat} {s' : MatchState}
    (hr : explore cx steps j acc s = .ok (.stuck f k) s') :
    s'.cursor.pos = s.cursor.pos ∧ s'.cursor.Valid := by
  induction steps generalizing j acc s f k s' with
  | nil =>
    rw [explore_nil] at hr
    cases hr
  | cons q rest ih =>
    have hq := hsteps q (List.mem_cons_self ..)
    have hrest : ∀ q' ∈ rest, (consume cx q').Retryable :=
      fun q' hq' ↦ hsteps q' (List.mem_cons_of_mem _ hq')
    cases hc : consume cx q s with
    | ok m s1 =>
      obtain ⟨hle, hv1⟩ := hq.ok s m s1 hv hc
      rw [explore_cons_of_ok hc] at hr
      exact firstDone_rewinds hgb (fun m s f k s' hv hs ↦ ih hrest _ _ s hv hs) m s1 hv1 hle hr
    | error e s1 =>
      cases e with
      | failure f1 =>
        rw [explore_cons_of_failure hc] at hr
        cases hr
        exact hq.failure s _ _ hv hc
      | _ =>
        rw [explore_cons_of_error hc rfl] at hr
        cases hr

/-- Retrying a step is trying its matches in turn, as long as the searches of the later steps
are the depth-first ones and move the cursor back when they are stuck: the cursor that the
engine moves back from a stuck search is then at the end of the match just tried, and moving
back from there by what was given back lands on the end of the next. The induction is on the
pieces of the match. -/
theorem retry_eq_firstDone {p q : Pattern} {rest : List Pattern}
    (h : ∀ q' ∈ q :: rest, sizeOf q' < sizeOf p)
    (hrest : ∀ hr j acc (s : MatchState), s.cursor.Valid →
      search cx p rest hr j acc s = explore cx rest j acc s)
    (hrew : ∀ j acc (s : MatchState), s.cursor.Valid → ∀ f k s',
      explore cx rest j acc s = .ok (.stuck f k) s' → s'.cursor.pos = s.cursor.pos ∧ s'.cursor.Valid)
    (j start : Nat) (acc : List (Pattern × Matched)) (m : Matched) (s : MatchState)
    (hv : s.cursor.Valid) (hle : start + m.span ≤ s.cursor.pos) :
    retry cx p q rest h j start m acc s =
      firstDone q (fun m ↦ explore cx rest (j + 1) (acc ++ [(q, m)])) start m s.cursor.pos
        (smaller cx q m) s := by
  have heq := hrest (fun q' hq ↦ h q' (List.mem_cons_of_mem _ hq)) (j + 1) (acc ++ [(q, m)]) s hv
  cases hs : explore cx rest (j + 1) (acc ++ [(q, m)]) s with
  | error err s1 =>
    rw [retry_of_error (heq.trans hs), firstDone_of_error hs]
  | ok r s1 =>
    cases r with
    | done steps =>
      rw [retry_of_done (heq.trans hs), firstDone_of_done hs]
    | stuck f k =>
      -- the later steps moved the cursor back to the end of `m`
      obtain ⟨hpos, hv1⟩ := hrew (j + 1) (acc ++ [(q, m)]) s hv f k s1 hs
      cases hg : cx.giveBack q m with
      | none =>
        rw [retry_of_stuck (heq.trans hs) hg, smaller_of_none hg, firstDone_of_stuck_nil hs,
          Cursor.retreat_sub (by omega)]
      | some r =>
        obtain ⟨m', g⟩ := r
        have hspan : m'.span + g = m.span := hgb q m _ hg
        have hback : s1.cursor.retreat g = { s1.cursor with pos := s.cursor.pos - g } := by
          rw [← hpos]
          rfl
        rw [retry_of_giveBack (heq.trans hs) hg, smaller_of_some hg, firstDone_of_stuck_cons hs,
          hback, hpos]
        refine retry_eq_firstDone h hrest hrew j start acc m'
          ⟨{ s1.cursor with pos := s.cursor.pos - g }, s1.events.push (.gaveBack q g (s.cursor.pos - g))⟩
          ?_ ?_
        · exact hv1.withPos (by omega)
        · show start + m'.span ≤ s.cursor.pos - g
          omega
termination_by m.pieces.length
decreasing_by exact cx.giveBack_shrinks q m (m', g) hg

end Rewind

theorem contextAt_giveBack_span (rules : RuleSet) (config : Config) (checks depth : Nat)
    (q : Pattern) (m : Matched) (r : Matched × Nat)
    (h : (contextAt rules config checks depth).giveBack q m = some r) : r.1.span + r.2 = m.span := by
  rw [contextAt] at h
  exact Pattern.giveBack_span rules _ q h

end Engine

/-- A lookahead of a lookahead of the matcher that drops the latest mark. The inner lookahead
pops the outer one's mark in place of its own, so the outer one pops the mark below: the step
never fails, and when a mark is left it goes back there. -/
def Pattern.jumpBack (tag : Nat) : Pattern :=
  Pattern.nextIs (Pattern.nextIs (Pattern.embed tag .unbalanced))

namespace Engine

section JumpBack

variable {cx : Context}

theorem consume_unbalanced_of_cons {tag : Nat} {s : MatchState} {k : Nat} {ks : List Nat}
    (hk : s.cursor.marks = k :: ks) :
    consume cx (Pattern.embed tag .unbalanced) s =
      .ok (.fixed .empty) { s with cursor := { s.cursor.advance 1 with marks := ks } } := by
  apply consume_of_step
  show step cx (.mk (.embed tag .unbalanced) false) s = _
  rw [step]
  simp only [moveCursor_bind]
  rw [forgetMark_bind_mk _ (show (s.cursor.advance 1).marks = k :: ks from hk)]
  rfl

/-- A lookahead whose inner pattern matches goes back to the latest mark when there is one. -/
theorem consume_nextIs_of_ok {inner : Pattern} (s : MatchState) {s1 : MatchState} {m : Matched}
    {k : Nat} {ks : List Nat} (hin : consume cx inner { s with cursor := s.cursor.mark } = .ok m s1)
    (hk : s1.cursor.marks = k :: ks) :
    consume cx (Pattern.nextIs inner) s =
      .ok (.fixed .empty) { s1 with cursor := { s1.cursor with pos := k, marks := ks } } := by
  apply consume_of_step
  show step cx (.mk (.nextIs false inner) true) s = _
  rw [step]
  simp only [mark_bind, bind_of_ok (outcome_of_ok (attempt_of_ok hin))]
  rw [restoreMark_bind _ hk]
  rfl

/-- A lookahead whose inner pattern matches and leaves no mark runs out of marks. -/
theorem consume_nextIs_of_nil {inner : Pattern} (s : MatchState) {s1 : MatchState} {m : Matched}
    (hin : consume cx inner { s with cursor := s.cursor.mark } = .ok m s1)
    (hk : s1.cursor.marks = []) :
    consume cx (Pattern.nextIs inner) s = .error (.markUnderflow s1.cursor.pos) s1 := by
  refine consume_of_step_error ?_ rfl
  show step cx (.mk (.nextIs false inner) true) s = _
  rw [step]
  simp only [mark_bind, bind_of_ok (outcome_of_ok (attempt_of_ok hin))]
  rw [restoreMark_bind_of_nil _ hk]

/-- The inner lookahead of the jump, from the outer one's mark: the cursor is as it was before
the outer mark. -/
theorem consume_nextIs_unbalanced (tag : Nat) (s : MatchState) :
    consume cx (Pattern.nextIs (Pattern.embed tag .unbalanced)) { s with cursor := s.cursor.mark } =
      .ok (.fixed .empty) s := by
  have hu : consume cx (Pattern.embed tag .unbalanced) { s with cursor := s.cursor.mark.mark } =
      .ok (.fixed .empty) { s with cursor := { s.cursor.mark.mark.advance 1 with marks := s.cursor.mark.marks } } :=
    consume_unbalanced_of_cons rfl
  refine (consume_nextIs_of_ok { s with cursor := s.cursor.mark } hu rfl).trans ?_
  -- the mark popped in place of the inner one is the outer one, at the same position
  rfl

theorem consume_jumpBack_of_cons {tag : Nat} {s : MatchState} {t : Nat} {ts : List Nat}
    (ht : s.cursor.marks = t :: ts) :
    consume cx (Pattern.jumpBack tag) s =
      .ok (.fixed .empty) { s with cursor := { s.cursor with pos := t, marks := ts } } :=
  consume_nextIs_of_ok s (consume_nextIs_unbalanced tag s) ht

theorem consume_jumpBack_of_nil {tag : Nat} (s : MatchState) (ht : s.cursor.marks = []) :
    consume cx (Pattern.jumpBack tag) s = .error (.markUnderflow s.cursor.pos) s :=
  consume_nextIs_of_nil s (consume_nextIs_unbalanced tag s) ht

/-- The jump never fails: it matches when a mark is left and runs out of marks otherwise. -/
theorem consume_jumpBack_ne_failure (tag : Nat) (s : MatchState) (f : Failure) (s' : MatchState) :
    consume cx (Pattern.jumpBack tag) s ≠ .error (.failure f) s' := by
  intro hf
  cases hm : s.cursor.marks with
  | nil => rw [consume_jumpBack_of_nil s hm] at hf; cases hf
  | cons t ts => rw [consume_jumpBack_of_cons hm] at hf; cases hf

theorem consume_literal_of_not_startsWith {t : String} {s : MatchState}
    (h : t.toList.isPrefixOf s.cursor.rest = false) :
    consume cx (Pattern.literal t) s = .error (.failure (s.cursor.expected (Pattern.literal t)))
      { s with events := s.events.push (.failed (Pattern.literal t) (s.cursor.expected (Pattern.literal t))) } := by
  have hstep : step cx (Pattern.literal t) s =
      .error (.failure (s.cursor.expected (Pattern.literal t))) s := by
    show step cx (.mk (.literal t) false) s = _
    rw [step]
    simp only [matchLiteral, cursor_bind, h]
    rfl
  rw [consume, hstep]

theorem giveBack_jumpBack (rules : RuleSet) (config : Config) (checks depth tag : Nat) (m : Matched) :
    (contextAt rules config checks depth).giveBack (Pattern.jumpBack tag) m = none := by
  rw [contextAt]
  dsimp only
  unfold Pattern.giveBack
  rfl

end JumpBack

section JumpRun

/-! A sequence of three steps on the text `aa`, from the sequence's own mark: a run of `a`, the
jump, and the literal `b`. The run matches both symbols and gives back one; after it, the jump
goes back to the start of the text, popping the sequence's mark, and `b` fails there. -/

variable {cx : Context}

theorem consume_jumpBack_after_chars :
    consume cx (Pattern.jumpBack 0) ⟨⟨#['a', 'a'], 2, [0]⟩, #[]⟩ =
      .ok (.fixed .empty) ⟨⟨#['a', 'a'], 0, []⟩, #[]⟩ :=
  consume_jumpBack_of_cons rfl

variable
  (hA : consume cx (Pattern.chars "a") ⟨⟨#['a', 'a'], 0, [0]⟩, #[]⟩ =
    .ok ⟨.text "aa", [⟨1, 1⟩, ⟨1, 1⟩]⟩ ⟨⟨#['a', 'a'], 2, [0]⟩, #[]⟩)
  (hgA2 : cx.giveBack (Pattern.chars "a") ⟨.text "aa", [⟨1, 1⟩, ⟨1, 1⟩]⟩ =
    some (⟨.text "a", [⟨1, 1⟩]⟩, 1))
  (hgJ : cx.giveBack (Pattern.jumpBack 0) (.fixed .empty) = none)

include hA hgA2 hgJ

/-- The engine gives back the symbol from where the jump left the cursor, the start of the
text, so the jump runs out of marks there. -/
theorem search_chars_jumpBack {p : Pattern}
    (h : ∀ q ∈ [Pattern.chars "a", Pattern.jumpBack 0, Pattern.literal "b"], sizeOf q < sizeOf p) :
    ∃ s', search cx p [Pattern.chars "a", Pattern.jumpBack 0, Pattern.literal "b"] h 0 []
      ⟨⟨#['a', 'a'], 0, [0]⟩, #[]⟩ = .error (.markUnderflow 0) s' := by
  have hB : consume cx (Pattern.literal "b") ⟨⟨#['a', 'a'], 0, []⟩, #[]⟩ = .error (.failure _) _ :=
    consume_literal_of_not_startsWith (by decide)
  have hstuck : search cx p [Pattern.jumpBack 0, Pattern.literal "b"]
      (fun q hq ↦ h q (List.mem_cons_of_mem _ hq)) (0 + 1)
      ([] ++ [(Pattern.chars "a", ⟨.text "aa", [⟨1, 1⟩, ⟨1, 1⟩]⟩)]) ⟨⟨#['a', 'a'], 2, [0]⟩, #[]⟩ =
      .ok (.stuck _ 2) _ :=
    (search_cons_of_ok consume_jumpBack_after_chars).trans
      (retry_of_stuck (search_cons_of_failure hB) hgJ)
  apply Exists.intro
  rw [search_cons_of_ok hA, retry_of_giveBack hstuck hgA2]
  exact retry_of_error (search_cons_of_error (consume_jumpBack_of_nil _ (by rfl)) rfl)

/-- The depth-first search tries the smaller match of the run at its end, one symbol in, and
the jump runs out of marks there. -/
theorem explore_chars_jumpBack
    (hgA1 : cx.giveBack (Pattern.chars "a") ⟨.text "a", [⟨1, 1⟩]⟩ = none) :
    ∃ s', explore cx [Pattern.chars "a", Pattern.jumpBack 0, Pattern.literal "b"] 0 []
      ⟨⟨#['a', 'a'], 0, [0]⟩, #[]⟩ = .error (.markUnderflow 1) s' := by
  have hB : consume cx (Pattern.literal "b") ⟨⟨#['a', 'a'], 0, []⟩, #[]⟩ = .error (.failure _) _ :=
    consume_literal_of_not_startsWith (by decide)
  have hstuck : explore cx [Pattern.jumpBack 0, Pattern.literal "b"] (0 + 1)
      ([] ++ [(Pattern.chars "a", ⟨.text "aa", [⟨1, 1⟩, ⟨1, 1⟩]⟩)]) ⟨⟨#['a', 'a'], 2, [0]⟩, #[]⟩ =
      _ := explore_cons_of_ok consume_jumpBack_after_chars
  rw [smaller_of_none hgJ, firstDone_of_stuck_nil (explore_cons_of_failure hB)] at hstuck
  apply Exists.intro
  rw [explore_cons_of_ok hA, smaller_of_some hgA2, smaller_of_none hgA1,
    firstDone_of_stuck_cons hstuck]
  exact firstDone_of_error (explore_cons_of_error (consume_jumpBack_of_nil _ (by rfl)) rfl)

end JumpRun

end Engine

/-- The search over the steps of a sequence is the depth-first search over them, when each
step, from every cursor within the text, leaves the cursor where it found it when it fails
and, when it matches, ends within the text no earlier than its start plus the symbols its match
can give back: the two end alike, with the same outcome, the same cursor and the same events,
under every rule set and configuration, at every depth and from every cursor within the
text. The induction is on the steps. -/
theorem search_eq_explore {rules : RuleSet} {config : Config} {checks depth : Nat} {p : Pattern}
    (steps : List Pattern)
    (hsteps : ∀ q ∈ steps, (consumeAt rules config checks depth q).Retryable)
    (h : ∀ q ∈ steps, sizeOf q < sizeOf p) (j : Nat) (acc : List (Pattern × Matched))
    (s : MatchState) (hv : s.cursor.Valid) :
    Engine.search (contextAt rules config checks depth) p steps h j acc s =
      Engine.explore (contextAt rules config checks depth) steps j acc s := by
  have hgb := Engine.contextAt_giveBack_span rules config checks depth
  replace hsteps : ∀ q ∈ steps, (Engine.consume (contextAt rules config checks depth) q).Retryable := by
    intro q hq
    have hq := hsteps q hq
    rwa [consumeAt] at hq
  induction steps generalizing j acc s with
  | nil => rw [Engine.search_nil, Engine.explore_nil]
  | cons q rest ih =>
    have hq := hsteps q (List.mem_cons_self ..)
    have hrest : ∀ q' ∈ rest, (Engine.consume (contextAt rules config checks depth) q').Retryable :=
      fun q' hq' ↦ hsteps q' (List.mem_cons_of_mem _ hq')
    cases hc : Engine.consume (contextAt rules config checks depth) q s with
    | ok m s1 =>
      obtain ⟨hle, hv1⟩ := hq.ok s m s1 hv hc
      rw [Engine.search_cons_of_ok hc, Engine.explore_cons_of_ok hc]
      exact Engine.retry_eq_firstDone hgb h (fun hr j acc s hv ↦ ih hr j acc s hv hrest)
        (fun j acc s hv _ _ _ hs ↦ Engine.explore_rewinds hgb rest hrest j acc s hv hs)
        j s.cursor.pos acc m s1 hv1 hle
    | error e s1 =>
      cases e with
      | failure f => rw [Engine.search_cons_of_failure hc, Engine.explore_cons_of_failure hc]
      | _ => rw [Engine.search_cons_of_error hc rfl, Engine.explore_cons_of_error hc rfl]

/-- Two steps that keep the contract: the search is the depth-first one. -/
theorem search_eq_explore_chars_literal :
    Engine.search (contextAt (RuleSet.mk 0 []) {} checkAllowance 0)
        (Pattern.sequence [Pattern.chars "a", Pattern.literal "b"])
        (sequenceSteps [Pattern.chars "a", Pattern.literal "b"] none) (fun _ hq ↦ sizeOf_step_lt hq)
        0 [] ⟨(Cursor.ofString "ab").mark, #[]⟩ =
      Engine.explore (contextAt (RuleSet.mk 0 []) {} checkAllowance 0)
        [Pattern.chars "a", Pattern.literal "b"] 0 [] ⟨(Cursor.ofString "ab").mark, #[]⟩ := by
  have hstd : ∀ q ∈ [Pattern.chars "a", Pattern.literal "b"], q.standard := by decide
  refine search_eq_explore _ (fun q hq ↦ ?_) _ 0 [] _ (by unfold Cursor.Valid; decide)
  rw [consumeAt]
  exact (Engine.consume_contract (contextAt_sound (by decide) {} checkAllowance 0) q
    (hstd q hq)).retryable

section JumpRun

theorem giveBack_chars_aa :
    (contextAt (RuleSet.mk 0 []) {} checkAllowance 0).giveBack (Pattern.chars "a")
      ⟨.text "aa", [⟨1, 1⟩, ⟨1, 1⟩]⟩ = some (⟨.text "a", [⟨1, 1⟩]⟩, 1) := by
  rw [contextAt]
  dsimp only
  show Pattern.giveBack _ _ (.mk (.run ⟨.of "a", 1, none, false⟩) false) _ = _
  rw [Pattern.giveBack]
  rfl

theorem giveBack_chars_a :
    (contextAt (RuleSet.mk 0 []) {} checkAllowance 0).giveBack (Pattern.chars "a")
      ⟨.text "a", [⟨1, 1⟩]⟩ = none := by
  rw [contextAt]
  dsimp only
  show Pattern.giveBack _ _ (.mk (.run ⟨.of "a", 1, none, false⟩) false) _ = _
  rw [Pattern.giveBack]
  rfl

end JumpRun

/-- A step that never fails but jumps back when it matches breaks the depth-first search: in a
sequence of a run of `a`, the jump and `b` on the text `aa`, every step leaves the cursor where
it found it when it fails, yet the search of the engine runs out of marks at offset 0 and the
depth-first search at offset 1. -/
theorem search_ne_explore_of_jump :
    (∀ q ∈ [Pattern.chars "a", Pattern.jumpBack 0, Pattern.literal "b"], ∀ (s : MatchState) f s',
      s.cursor.Valid → consumeAt (RuleSet.mk 0 []) {} checkAllowance 0 q s = .error (.failure f) s' →
        s'.cursor = s.cursor) ∧
    Engine.search (contextAt (RuleSet.mk 0 []) {} checkAllowance 0)
        (Pattern.sequence [Pattern.chars "a", Pattern.jumpBack 0, Pattern.literal "b"])
        (sequenceSteps [Pattern.chars "a", Pattern.jumpBack 0, Pattern.literal "b"] none)
        (fun _ hq ↦ sizeOf_step_lt hq) 0 [] ⟨(Cursor.ofString "aa").mark, #[]⟩ ≠
      Engine.explore (contextAt (RuleSet.mk 0 []) {} checkAllowance 0)
        [Pattern.chars "a", Pattern.jumpBack 0, Pattern.literal "b"] 0 []
        ⟨(Cursor.ofString "aa").mark, #[]⟩ := by
  have hcx : (contextAt (RuleSet.mk 0 []) {} checkAllowance 0).Sound :=
    contextAt_sound (by decide) _ _ _
  have hgJ := Engine.giveBack_jumpBack (RuleSet.mk 0 []) {} checkAllowance 0 0 (.fixed .empty)
  obtain ⟨s1, h1⟩ := Engine.search_chars_jumpBack (consume_chars_aa [0] #[]) giveBack_chars_aa hgJ
    (fun q hq ↦ sizeOf_step_lt
      (show q ∈ sequenceSteps [Pattern.chars "a", Pattern.jumpBack 0, Pattern.literal "b"] none from hq))
  obtain ⟨s2, h2⟩ := Engine.explore_chars_jumpBack (consume_chars_aa [0] #[]) giveBack_chars_aa hgJ
    giveBack_chars_a
  refine ⟨?_, fun heq ↦ ?_⟩
  · rintro q hq s f s' hv hf
    rw [consumeAt] at hf
    simp only [List.mem_cons, List.not_mem_nil, or_false] at hq
    rcases hq with rfl | rfl | rfl
    · exact ((Engine.consume_contract hcx _ (by decide)).error hv hf).1
    · exact absurd hf (Engine.consume_jumpBack_ne_failure 0 s f s')
    · exact ((Engine.consume_contract hcx _ (by decide)).error hv hf).1
  · -- the two searches end with errors at different offsets
    have h := h1.symm.trans (heq.trans h2)
    cases h

end Backtrack
