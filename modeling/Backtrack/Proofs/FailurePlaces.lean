import Backtrack.Proofs.Measured

/-!
# Where failures are placed

A failure records the text it happened in and an offset into it, and every failure that
matching makes is made where the cursor stands, in the cursor's text. Matching moves the cursor
back only to places the same match passed: a mark it pushed, the start of a step that gives
back. It runs on other texts only in the windows of a lookbehind and in the check of a
grammar, and the failures made there never leave them: the lookbehind turns them into its
verdict.

So a standard pattern matched from a cursor inside its text stops, when it stops with a
failure, with one placed in that text, no earlier than the cursor and no later than the end
of the text (`Engine.Placed`). A sequence passes on the failure of the step it is stuck at, a
token the failure of its inner pattern after the whitespace it skipped, a rule the failure of
its pattern one level deeper; a lookaround, a choice, a repetition and a separated list make
their own failure back at the cursor they started from. The search over the steps of a
sequence and the loops of the others are proved on their own, from the contract of matching
(`Engine.Contract`), which says where each match leaves the cursor.

Main statements: `Engine.consume_placed` (in every sound context whose rules place their
failures so) and `failure_offset_in_input` (a failure of a match started at `start` lies
between `start` and the end of the input, and its line and column are those of its offset).
-/

namespace Backtrack

namespace Failure

/-- The failure happened in the text `T`, at an offset from `lo` up to the end of `T`. -/
def PlacedIn (T : Array Char) (lo : Nat) (f : Failure) : Prop :=
  ∃ o, f.place = .within T o ∧ lo ≤ o ∧ o ≤ T.size

/-- A failure made where a cursor inside its text stands is placed from the cursor on. -/
theorem placedIn_at {f : Failure} {c : Cursor} (hv : c.Valid) (h : f.place = .within c.text c.pos) :
    f.PlacedIn c.text c.pos :=
  ⟨c.pos, h, Nat.le_refl _, hv.1⟩

theorem PlacedIn.mono {T : Array Char} {lo lo' : Nat} {f : Failure} (h : f.PlacedIn T lo')
    (hle : lo ≤ lo') : f.PlacedIn T lo := by
  obtain ⟨o, hplace, hlo, ho⟩ := h
  exact ⟨o, hplace, Nat.le_trans hle hlo, ho⟩

end Failure

namespace MatchError

/-- A failure placed in `T` from `lo` on; the other errors carry no place in a text. -/
def PlacedIn (T : Array Char) (lo : Nat) : MatchError → Prop
  | failure f => f.PlacedIn T lo
  | _ => True

theorem placedIn_of_recoverable {T : Array Char} {lo : Nat} {e : MatchError}
    (h : e.recoverable = false) : e.PlacedIn T lo := by
  cases e with
  | failure f => simp [recoverable] at h
  | _ => trivial

theorem PlacedIn.mono {T : Array Char} {lo lo' : Nat} {e : MatchError} (h : e.PlacedIn T lo')
    (hle : lo ≤ lo') : e.PlacedIn T lo := by
  cases e with
  | failure f => exact Failure.PlacedIn.mono h hle
  | _ => trivial

end MatchError

/-- Reading past the end of the text fails where the cursor stands. -/
theorem Cursor.get_placedIn {c : Cursor} {i : Nat} {e : MatchError} (hv : c.Valid)
    (h : c.get i = .error e) : e.PlacedIn c.text c.pos := by
  unfold Cursor.get at h
  split at h
  · cases h
  · cases h
    exact Failure.placedIn_at hv rfl

/-- A search over the steps of a sequence is stuck only at a failure placed in `T` from `lo` on. -/
def Search.PlacedIn (T : Array Char) (lo : Nat) : Search → Prop
  | .done _ => True
  | .stuck f _ => f.PlacedIn T lo

namespace Engine

variable {α : Type}

/-- Every failure that `m` stops with, run from a cursor inside its text, is placed in that
text from the cursor's position on. -/
def Placed (m : Engine α) : Prop :=
  ∀ s : MatchState, s.cursor.Valid →
    Ends (m s) (fun _ _ ↦ True) (fun e _ ↦ e.PlacedIn s.cursor.text s.cursor.pos)

/-- Matching a pattern places its failures as the step by its shape does: reporting a failure
does not change it. -/
theorem Placed.of_step {cx : Context} {p : Pattern} (h : (step cx p).Placed) :
    (consume cx p).Placed := by
  intro s hv
  have hs := h s hv
  rw [consume]
  split
  · rename_i f s' hstep
    rw [hstep] at hs
    exact hs
  · assumption

/-- Taking the outcome of a computation as a value never stops, and an error it returns is
placed as the computation places it. -/
theorem Placed.outcome {m : Engine α} (h : m.Placed) {s : MatchState} (hv : s.cursor.Valid) :
    Ends (m.outcome s) (fun r _ ↦ ∀ e, r = .error e → e.PlacedIn s.cursor.text s.cursor.pos)
      fun _ _ ↦ False := by
  have hs := h s hv
  cases hm : m s with
  | ok a s' =>
    rw [outcome_of_ok hm]
    intro e he
    cases he
  | error e s' =>
    rw [hm] at hs
    rw [outcome_of_error hm]
    intro e' he'
    cases he'
    exact hs

/-! ### The primitive patterns

Each fails, if at all, where the cursor stands, after moving back to it. -/

theorem matchChar_placed (p : Pattern) (cls : CharClass) : (matchChar p cls).Placed := by
  intro s hv
  simp only [matchChar, cursor_bind]
  cases hget : s.cursor.get 0 with
  | error e => exact Cursor.get_placedIn hv hget
  | ok ch =>
    by_cases hacc : cls.accepts ch
    · simp only [hacc, if_true, setCursor_bind, pure_apply, ends_ok]
    · simp only [hacc, Bool.false_eq_true, if_false, fail_apply, ends_error]
      exact Failure.placedIn_at hv rfl

/-- The end of a run of `count` characters fails, if at all, back at its mark. -/
theorem runEnd_placed {s : MatchState} (hv : s.cursor.Valid) (count : Nat) (p : Pattern) (lo : Nat) :
    Ends ((if count < lo then (restoreMark >>= fun _ ↦ fail (·.expected p))
      else (forgetMark >>= fun _ ↦ cursor >>= fun c' ↦
        pure (⟨.text (c'.takenSince s.cursor.pos), List.replicate count ⟨1, 1⟩⟩ : Matched)))
        { cursor := s.cursor.mark.advance count, events := s.events })
      (fun _ _ ↦ True) (fun e _ ↦ e.PlacedIn s.cursor.text s.cursor.pos) := by
  by_cases hlo : count < lo
  · rw [if_pos hlo, restoreMark_bind _ rfl]
    exact Failure.placedIn_at hv rfl
  · rw [if_neg hlo]
    exact ends_forgetMark_bind (fun _ ↦ trivial) fun _ _ _ ↦ trivial

theorem matchRun_placed (cfg : Config) (p : Pattern) (r : Run) : (matchRun cfg p r).Placed := by
  intro s hv
  simp only [matchRun, mark_bind, cursor_bind, setCursor_bind]
  exact runEnd_placed hv _ p r.min

theorem matchLiteral_placed (p : Pattern) (t : String) : (matchLiteral p t).Placed := by
  intro s hv
  simp only [matchLiteral, cursor_bind]
  split
  · trivial
  · exact Failure.placedIn_at hv rfl

theorem matchRegex_placed (p : Pattern) (rx : RegexNode) : (matchRegex p rx).Placed := by
  intro s hv
  simp only [matchRegex, cursor_bind]
  cases rx.compiled.captures (String.ofList s.cursor.rest) with
  | none => exact Failure.placedIn_at hv rfl
  | some slots => trivial

theorem matchBoundary_placed (p : Pattern) (b : Boundary) : (matchBoundary p b).Placed := by
  intro s hv
  simp only [matchBoundary, cursor_bind]
  split
  · trivial
  · exact Failure.placedIn_at hv rfl

theorem lookVerdict_placed (p inner : Pattern) (negated found : Bool) :
    (lookVerdict p inner negated found).Placed := by
  intro s hv
  unfold lookVerdict
  split
  · trivial
  · split <;> exact Failure.placedIn_at hv rfl

/-! ### The loops

The windows of a lookbehind, the rounds of a repetition and of a separated list turn every
failure of the patterns they run into an answer, so they stop only with errors that no
combinator recovers from. The search over the steps of a sequence turns a failure into a
stuck search, placed no earlier than the step that made it started. -/

section Loops

variable {cx : Context} {p : Pattern}

/-- The scan over the windows of a lookbehind leaves the cursor in place and stops only with
errors that no combinator recovers from; the induction is on the widths left to try. -/
theorem scan_fatal {inner : Pattern} {h : sizeOf inner < sizeOf p} (c : Cursor) (width limit : Nat)
    (s : MatchState) :
    Ends (scan cx p inner h c width limit s) (fun _ c' ↦ c' = s.cursor)
      (fun e _ ↦ e.recoverable = false) := by
  rw [scan]
  by_cases hw : width ≤ limit
  · rw [if_pos hw]
    cases hwin : c.windowBefore width with
    | none => exact rfl
    | some w =>
      simp only
      cases hr : consume cx inner { s with cursor := w } with
      | ok a s1 =>
        simp only [bind_of_ok (within_of_ok (attempt_of_ok hr))]
        by_cases hend : s1.cursor.atEnd
        · simp only [hend, if_true, record_bind, pure_apply, ends_ok]
        · simp only [hend, Bool.false_eq_true, if_false]
          exact scan_fatal c (width + 1) limit _
      | error e s1 =>
        cases e with
        | failure f =>
          simp only [bind_of_ok (within_of_ok (attempt_of_failure hr))]
          exact scan_fatal c (width + 1) limit _
        | _ =>
          simp only [bind_of_ok (within_of_error (attempt_of_error hr rfl)), throw_apply,
            ends_error]
          rfl
  · rw [if_neg hw]
    exact rfl
termination_by limit + 1 - width
decreasing_by all_goals omega

/-- The rounds of a repetition stop only with errors that no combinator recovers from. -/
theorem rounds_fatal {inner : Pattern} {h : sizeOf inner < sizeOf p} {lo : Nat} (left : Nat) :
    ∀ (items : Array Fragment) (pieces : Array Piece) (s : MatchState),
      Ends (rounds cx p inner h lo left items pieces s) (fun _ _ ↦ True)
        (fun e _ ↦ e.recoverable = false) := by
  induction left with
  | zero =>
    intro items pieces s
    rw [rounds.eq_1]
    trivial
  | succ left ih =>
    intro items pieces s
    rw [rounds.eq_2]
    simp only [position_bind]
    cases hc : consume cx inner s with
    | ok m s1 =>
      simp only [bind_of_ok (outcome_of_ok hc), position_bind]
      split
      · trivial
      · exact ih _ _ _
    | error e s1 =>
      simp only [bind_of_ok (outcome_of_error hc)]
      cases e with
      | failure f => trivial
      | _ => exact ends_restoreMark_fatal rfl

/-- The rounds of a separated list stop only with errors that no combinator recovers from. -/
theorem listRounds_fatal {sep elem : Pattern} {hs : sizeOf sep < sizeOf p}
    {he : sizeOf elem < sizeOf p} {lo : Nat} (left : Nat) :
    ∀ (items : Array Fragment) (pieces : Array Piece) (s : MatchState),
      Ends (listRounds cx p sep elem hs he lo left items pieces s) (fun _ _ ↦ True)
        (fun e _ ↦ e.recoverable = false) := by
  induction left with
  | zero =>
    intro items pieces s
    rw [listRounds.eq_1]
    trivial
  | succ left ih =>
    intro items pieces s
    -- a round that found fragments goes on with the next round or stops with what it has
    have hsome : ∀ (s1 : MatchState) (items' : Array Fragment) (n : Nat),
        Ends ((position >>= fun pos ↦
            if Word.wrapSub pos s.cursor.pos = 0 ∧ pieces.size ≥ lo then pure (items, pieces)
            else listRounds cx p sep elem hs he lo left items'
              (pieces.push ⟨Word.wrapSub pos s.cursor.pos, n⟩)) s1)
          (fun _ _ ↦ True) (fun e _ ↦ e.recoverable = false) := by
      intro s1 items' n
      simp only [position_bind]
      split
      · trivial
      · exact ih _ _ _
    rw [listRounds.eq_2]
    simp only [position_bind, pure_bind]
    by_cases hemp : pieces.isEmpty
    · rw [if_pos hemp]
      cases hc : consume cx elem s with
      | ok me s1 =>
        simp only [bind_of_ok (outcome_of_ok hc)]
        exact hsome s1 _ _
      | error e s1 =>
        simp only [bind_of_ok (outcome_of_error hc)]
        cases e with
        | failure f => trivial
        | _ => exact ends_restoreMark_fatal rfl
    · rw [if_neg hemp]
      simp only [mark_bind]
      cases hc : consume cx sep { s with cursor := s.cursor.mark } with
      | ok ms s1 =>
        simp only [bind_of_ok (outcome_of_ok hc)]
        cases hd : consume cx elem s1 with
        | ok me s2 =>
          simp only [bind_of_ok (outcome_of_ok hd)]
          exact ends_forgetMark_bind (fun _ ↦ rfl) fun _ _ _ ↦ hsome _ _ _
        | error e s2 =>
          simp only [bind_of_ok (outcome_of_error hd)]
          cases e with
          | failure f =>
            simp only [record_bind]
            exact ends_restoreMark_bind (fun _ ↦ rfl) fun _ _ _ ↦ trivial
          | _ => exact ends_restoreMark_bind (fun _ ↦ rfl) fun _ _ _ ↦ ends_restoreMark_fatal rfl
      | error e s1 =>
        simp only [bind_of_ok (outcome_of_error hc)]
        cases e with
        | failure f => exact ends_restoreMark_bind (fun _ ↦ rfl) fun _ _ _ ↦ trivial
        | _ => exact ends_restoreMark_bind (fun _ ↦ rfl) fun _ _ _ ↦ ends_restoreMark_fatal rfl

/-- The invariant of the search over the steps of a sequence, from a valid cursor: it is stuck
only at a failure placed from the cursor on, and stops only with errors placed so. -/
def SearchPlaced (m : Engine Search) : Prop :=
  ∀ s : MatchState, s.cursor.Valid →
    Ends (m s) (fun r _ ↦ r.PlacedIn s.cursor.text s.cursor.pos)
      (fun e _ ↦ e.PlacedIn s.cursor.text s.cursor.pos)

/-- Giving back and matching again, when step `q` matched `m` from `start`: every later search
starts no earlier than `start`, since each retry gives back at most what `m` can. The
induction is on the number of pieces of `m`. -/
theorem retry_placed {q : Pattern} {rest : List Pattern} (hcx : cx.Sound)
    (h : ∀ q' ∈ q :: rest, sizeOf q' < sizeOf p)
    (hrest : ∀ hr j acc, SearchKeeps (search cx p rest hr j acc))
    (hplaced : ∀ hr j acc, SearchPlaced (search cx p rest hr j acc)) (j start : Nat)
    (acc : List (Pattern × Matched)) (m : Matched) (s : MatchState) (hv : s.cursor.Valid)
    (hstart : start + m.span ≤ s.cursor.pos) :
    Ends (retry cx p q rest h j start m acc s) (fun r _ ↦ r.PlacedIn s.cursor.text start)
      (fun e _ ↦ e.PlacedIn s.cursor.text start) := by
  have hle : start ≤ s.cursor.pos := by omega
  have hs := hrest (fun q' hq ↦ h q' (List.mem_cons_of_mem _ hq)) (j + 1) (acc ++ [(q, m)]) s hv
  have hp := hplaced (fun q' hq ↦ h q' (List.mem_cons_of_mem _ hq)) (j + 1) (acc ++ [(q, m)]) s hv
  cases hsr : search cx p rest (fun q' hq ↦ h q' (List.mem_cons_of_mem _ hq)) (j + 1)
      (acc ++ [(q, m)]) s with
  | error e s1 =>
    rw [hsr] at hp
    rw [retry_of_error hsr]
    exact MatchError.PlacedIn.mono hp hle
  | ok r s1 =>
    rw [hsr] at hs hp
    cases r with
    | done steps =>
      rw [retry_of_done hsr]
      trivial
    | stuck f k =>
      -- the later steps left the cursor where they found it
      have hs1 : s1.cursor = s.cursor := hs
      cases hg : cx.giveBack q m with
      | none =>
        rw [retry_of_stuck hsr hg]
        exact Failure.PlacedIn.mono hp hle
      | some r =>
        obtain ⟨m', g⟩ := r
        have hspan : m'.span + g = m.span := hcx.giveBack q m _ hg
        rw [retry_of_giveBack hsr hg, hs1]
        exact retry_placed hcx h hrest hplaced j start acc m' _ (hv.retreat g)
          (by simp only [Cursor.pos_retreat]; omega)
termination_by m.pieces.length
decreasing_by exact cx.giveBack_shrinks q m (m', g) hg

/-- The search over steps that keep the contract and place their failures keeps its
invariant. -/
theorem search_placed (hcx : cx.Sound) (steps : List Pattern)
    (hsteps : ∀ q ∈ steps, (consume cx q).Contract) (hplaced : ∀ q ∈ steps, (consume cx q).Placed) :
    ∀ h j acc, SearchPlaced (search cx p steps h j acc) := by
  induction steps with
  | nil =>
    intro h j acc s hv
    rw [search_nil]
    trivial
  | cons q rest ih =>
    intro h j acc s hv
    have hq := hsteps q (List.mem_cons_self ..)
    have hqp := hplaced q (List.mem_cons_self ..) s hv
    have hrest := ih (fun q' hq' ↦ hsteps q' (List.mem_cons_of_mem _ hq'))
      fun q' hq' ↦ hplaced q' (List.mem_cons_of_mem _ hq')
    cases hc : consume cx q s with
    | ok m s1 =>
      have hfw := hq.ok hv hc
      rw [search_cons_of_ok hc]
      have hr := retry_placed hcx h
        (search_searched hcx rest fun q' hq' ↦ hsteps q' (List.mem_cons_of_mem _ hq')) hrest j
        s.cursor.pos acc m s1 (hv.of_forward hfw) hfw.reach
      rwa [hfw.text] at hr
    | error e s1 =>
      rw [hc] at hqp
      cases e with
      | failure f =>
        rw [search_cons_of_failure hc]
        exact hqp
      | _ =>
        rw [search_cons_of_error hc rfl]
        exact hqp

/-- The alternatives of a choice, tried from `c` with its position marked, fail only back at
`c`: each failing alternative leaves the cursor where it found it. -/
theorem choose_placed {c : Cursor} (hv : c.Valid) (rest : List Pattern)
    (hcs : ∀ q ∈ rest, (consume cx q).Contract) (h : ∀ q ∈ rest, sizeOf q < sizeOf p)
    (s : MatchState) (hs : s.cursor = c.mark) :
    Ends (choose cx p rest h s) (fun _ _ ↦ True) (fun e _ ↦ e.PlacedIn c.text c.pos) := by
  induction rest generalizing s with
  | nil =>
    have hback : { s.cursor with pos := c.pos, marks := c.marks } = c := by rw [hs]; rfl
    rw [choose.eq_1, restoreMark_bind _ (by rw [hs]; rfl)]
    simp only [fail_apply, ends_error, hback]
    exact Failure.placedIn_at hv rfl
  | cons q more ih =>
    have hq := hcs q (List.mem_cons_self ..)
    have hvs : s.cursor.Valid := hs ▸ hv.mark
    rw [choose.eq_2]
    cases hc : consume cx q s with
    | ok m s1 =>
      simp only [bind_of_ok (outcome_of_ok hc)]
      exact ends_forgetMark_bind (fun _ ↦ trivial) fun _ _ _ ↦ trivial
    | error e s1 =>
      obtain ⟨hs1, -⟩ := hq.error hvs hc
      rw [hs] at hs1
      have hback : { s1.cursor with pos := c.pos, marks := c.marks } = c :=
        Cursor.restore_of_text (by rw [hs1]; rfl)
      simp only [bind_of_ok (outcome_of_error hc)]
      cases e with
      | failure f =>
        simp only [restoreMark_bind _ (by rw [hs1]; rfl), mark_bind, hback]
        exact ih (fun q' hq' ↦ hcs q' (List.mem_cons_of_mem _ hq')) _ _ rfl
      | _ => exact ends_restoreMark_bind (fun _ ↦ trivial) fun _ _ _ ↦ trivial

end Loops

/-! ### Each shape of pattern -/

section Shapes

variable {cx : Context} {inner : Pattern} {b : Bool}

theorem step_nextIs_placed (neg : Bool) (hin : (consume cx inner).Contract) :
    (step cx (.mk (.nextIs neg inner) b)).Placed := by
  intro s hv
  rw [step]
  simp only [mark_bind]
  have hvm : ({ s with cursor := s.cursor.mark } : MatchState).cursor.Valid := hv.mark
  cases hc : consume cx inner { s with cursor := s.cursor.mark } with
  | ok a s1 =>
    have hf : s.cursor.mark.Forward s1.cursor a.span := hin.ok hvm hc
    simp only [bind_of_ok (outcome_of_ok (attempt_of_ok hc)), restoreMark_bind _ hf.marks,
      hf.restore]
    exact lookVerdict_placed _ _ _ _ _ hv
  | error e s1 =>
    obtain ⟨hs1, -⟩ := hin.error hvm hc
    have hm1 : s1.cursor.marks = s.cursor.pos :: s.cursor.marks := by rw [hs1]; rfl
    cases e with
    | failure f =>
      have hback : { s1.cursor with pos := s.cursor.pos, marks := s.cursor.marks } = s.cursor :=
        Cursor.restore_of_text (by rw [hs1]; rfl)
      simp only [bind_of_ok (outcome_of_ok (attempt_of_failure hc)), restoreMark_bind _ hm1, hback]
      exact lookVerdict_placed _ _ _ _ _ hv
    | _ =>
      simp only [bind_of_ok (outcome_of_error (attempt_of_error hc rfl)), restoreMark_bind _ hm1,
        throw_apply, ends_error]
      trivial

/-- A lookbehind needs nothing of its inner pattern: the windows are fresh cursors and the scan
puts the cursor back. -/
theorem step_prevIs_placed (neg : Bool) : (step cx (.mk (.prevIs neg inner) b)).Placed := by
  intro s hv
  rw [step]
  simp only [cursor_bind]
  refine Ends.bind (scan_fatal s.cursor _ _ s) (fun e _ he ↦ MatchError.placedIn_of_recoverable he) ?_
  intro found s1 _ hs1
  have hverdict := lookVerdict_placed (.mk (.prevIs neg inner) b) inner neg found s1 (hs1 ▸ hv)
  rwa [hs1] at hverdict

theorem step_sequence_placed (hcx : cx.Sound) {cs : List Pattern} {sep : Option Pattern}
    {auto : Bool} (hsteps : ∀ q ∈ sequenceSteps cs sep, (consume cx q).Contract)
    (hplaced : ∀ q ∈ sequenceSteps cs sep, (consume cx q).Placed) :
    (step cx (.mk (.sequence cs sep auto) b)).Placed := by
  intro s hv
  rw [step]
  simp only [mark_bind]
  have hinv : SearchPlaced (search cx (.mk (.sequence cs sep auto) b) (sequenceSteps cs sep)
      (fun _ h ↦ sizeOf_step_lt h) 0 []) := search_placed hcx _ hsteps hplaced _ 0 []
  have hsearch := hinv { s with cursor := s.cursor.mark } hv.mark
  cases hr : search cx (.mk (.sequence cs sep auto) b) (sequenceSteps cs sep)
      (fun _ h ↦ sizeOf_step_lt h) 0 [] { s with cursor := s.cursor.mark } with
  | ok r s1 =>
    rw [hr] at hsearch
    simp only [bind_of_ok (outcome_of_ok hr)]
    cases r with
    | done steps => exact ends_forgetMark_bind (fun _ ↦ trivial) fun _ _ _ ↦ trivial
    | stuck f j =>
      -- the failure of the stuck step is passed on after moving back to the mark
      simp only [record_bind]
      exact ends_restoreMark_bind (fun _ ↦ trivial) fun _ _ _ ↦ hsearch
  | error e s1 =>
    rw [hr] at hsearch
    simp only [bind_of_ok (outcome_of_error hr)]
    exact ends_restoreMark_bind (fun _ ↦ trivial) fun _ _ _ ↦ hsearch

theorem step_choice_placed {cs : List Pattern} {auto : Bool}
    (hcs : ∀ q ∈ cs, (consume cx q).Contract) : (step cx (.mk (.choice cs auto) b)).Placed := by
  intro s hv
  rw [step]
  simp only [mark_bind]
  exact choose_placed hv cs hcs _ _ rfl

/-- The end of a repetition or a separated list started at `c`, after rounds that ended forward
of its mark: below `lo` pieces it moves back to the mark and fails there. -/
theorem ends_listEnd_placed {c : Cursor} (hv : c.Valid) {s1 : MatchState} {n : Nat}
    (hr : c.mark.Forward s1.cursor n) (lo : Nat) (p : Pattern) (items : Array Fragment)
    (pieces : Array Piece) :
    Ends ((if pieces.size < lo then (restoreMark >>= fun _ ↦ fail (·.expected p))
      else (forgetMark >>= fun _ ↦ pure (⟨.list items.toList, pieces.toList⟩ : Matched))) s1)
      (fun _ _ ↦ True) (fun e _ ↦ e.PlacedIn c.text c.pos) := by
  split
  · simp only [restoreMark_bind _ hr.marks, fail_apply, ends_error, hr.restore]
    exact Failure.placedIn_at hv rfl
  · exact ends_forgetMark_bind (fun _ ↦ trivial) fun _ _ _ ↦ trivial

theorem step_repetition_placed {lo : Nat} {hi : Option Nat} (hin : (consume cx inner).Contract) :
    (step cx (.mk (.repetition inner lo hi) b)).Placed := by
  intro s hv
  rw [step]
  simp only [mark_bind]
  refine Ends.bind ((rounds_contract hin hv _ #[] #[] _ (Rounds.start hv lo)).and
    (rounds_fatal _ #[] #[] _)) (fun _ _ he ↦ MatchError.placedIn_of_recoverable he.2) ?_
  rintro ⟨items, pieces⟩ s1 _ ⟨⟨⟨hr, -⟩, -⟩, -⟩
  exact ends_listEnd_placed hv hr lo _ items pieces

theorem step_separated_placed {sep elem : Pattern} {lo : Nat} {hi : Option Nat}
    (hsep : (consume cx sep).Contract) (helem : (consume cx elem).Contract) :
    (step cx (.mk (.separated sep elem lo hi) b)).Placed := by
  intro s hv
  rw [step]
  simp only [mark_bind]
  refine Ends.bind ((listRounds_contract hsep helem hv _ #[] #[] _ (Rounds.start hv lo)).and
    (listRounds_fatal _ #[] #[] _)) (fun _ _ he ↦ MatchError.placedIn_of_recoverable he.2) ?_
  rintro ⟨items, pieces⟩ s1 _ ⟨⟨⟨hr, -⟩, -⟩, -⟩
  exact ends_listEnd_placed hv hr lo _ items pieces

theorem step_group_placed (hin : (consume cx inner).Placed) :
    (step cx (.mk (.group inner) b)).Placed := by
  intro s hv
  rw [step]
  simp only [position_bind]
  exact Ends.bind (hin s hv) (fun _ _ h ↦ h) fun _ _ _ _ ↦ trivial

theorem step_flatten_placed (hin : (consume cx inner).Placed) :
    (step cx (.mk (.flatten inner) b)).Placed := by
  intro s hv
  rw [step]
  exact Ends.bind (hin s hv) (fun _ _ h ↦ h) fun _ _ _ _ ↦ trivial

theorem step_select_placed {sel : Selection} (hin : (consume cx inner).Placed) :
    (step cx (.mk (.select inner sel) b)).Placed := by
  intro s hv
  rw [step]
  exact Ends.bind (hin s hv) (fun _ _ h ↦ h) fun _ _ _ _ ↦ trivial

/-- A token passes on the failure of its inner pattern, which started past the whitespace the
token skipped, so no earlier than the token. -/
theorem step_token_placed (hin : (consume cx inner).Placed) :
    (step cx (.mk (.token inner) b)).Placed := by
  intro s hv
  rw [step]
  simp only [mark_bind, skipWhitespace_bind]
  have hw := forward_skipWhitespace cx.config hv.mark
  refine Ends.bind (Placed.outcome hin (hv.mark.of_forward hw)) (fun _ _ h ↦ h.elim) ?_
  intro r s1 _ hr
  cases r with
  | ok m =>
    simp only [skipWhitespace_bind]
    exact ends_forgetMark_bind (fun _ ↦ trivial) fun _ _ _ ↦ trivial
  | error e =>
    exact ends_restoreMark_bind (fun _ ↦ trivial) fun _ _ _ ↦
      MatchError.PlacedIn.mono (hr e rfl) hw.reach

end Shapes

/-! ### Standard patterns -/

/-- A standard pattern places its failures in every sound context whose rules place theirs: by
recursion on the size of the pattern, each shape from its own lemma. Only the shapes that pass
on the failures of the patterns they call need those patterns to place them; the others need
the contract of matching, to know where a failed attempt left the cursor. -/
theorem consume_placed {cx : Context} (hcx : cx.Sound) (henter : ∀ r, (cx.enter r).Placed) :
    ∀ p : Pattern, p.standard → (consume cx p).Placed
  | .mk (.char cls) _, _ => .of_step (by rw [step]; exact matchChar_placed _ _)
  | .mk (.run r) _, _ => .of_step (by rw [step]; exact matchRun_placed _ _ _)
  | .mk (.whitespace r) _, _ => .of_step (by rw [step]; exact matchRun_placed _ _ _)
  | .mk (.literal t) _, _ => .of_step (by rw [step]; exact matchLiteral_placed _ _)
  | .mk (.regex rx) _, _ => .of_step (by rw [step]; exact matchRegex_placed _ _)
  | .mk (.boundary k) _, _ => .of_step (by rw [step]; exact matchBoundary_placed _ _)
  | .mk (.nextIs neg inner) _, hp =>
    .of_step (step_nextIs_placed neg (consume_contract hcx inner hp))
  | .mk (.prevIs neg inner) _, _ => .of_step (step_prevIs_placed neg)
  | .mk (.sequence cs sep auto) _, hp =>
    .of_step (step_sequence_placed hcx
      (fun q hq ↦ consume_contract hcx q (Pattern.standard_of_mem_sequenceSteps hp hq))
      fun q hq ↦ consume_placed hcx henter q (Pattern.standard_of_mem_sequenceSteps hp hq))
  | .mk (.choice cs auto) _, hp =>
    .of_step (step_choice_placed fun q hq ↦
      consume_contract hcx q (Pattern.allStandard_iff.mp hp q hq))
  | .mk (.repetition inner lo hi) _, hp =>
    .of_step (step_repetition_placed (consume_contract hcx inner hp))
  | .mk (.separated sep elem lo hi) _, hp =>
    have hboth : sep.standard ∧ elem.standard := by
      simpa [Pattern.standard, Pattern.shapeStandard] using hp
    .of_step (step_separated_placed (consume_contract hcx sep hboth.1)
      (consume_contract hcx elem hboth.2))
  | .mk (.group inner) _, hp => .of_step (step_group_placed (consume_placed hcx henter inner hp))
  | .mk (.flatten inner) _, hp =>
    .of_step (step_flatten_placed (consume_placed hcx henter inner hp))
  | .mk (.select inner sel) _, hp =>
    .of_step (step_select_placed (consume_placed hcx henter inner hp))
  | .mk (.token inner) _, hp => .of_step (step_token_placed (consume_placed hcx henter inner hp))
  | .mk (.rule ref) _, _ => .of_step (by rw [step]; exact henter ref)
  | .mk (.embed tag (.shared inner)) _, hp =>
    .of_step (by rw [step]; exact consume_placed hcx henter inner hp)
  | .mk (.embed _ (.grammar ..)) _, hp | .mk (.embed _ .broken) _, hp
  | .mk (.embed _ .unbalanced) _, hp =>
    absurd hp (by simp [Pattern.standard, Pattern.shapeStandard, Pattern.embeddedStandard])
termination_by p => sizeOf p
decreasing_by
  all_goals first
    | (simp only [Pattern.mk.sizeOf_spec, Shape.group.sizeOf_spec, Shape.flatten.sizeOf_spec,
        Shape.select.sizeOf_spec, Shape.token.sizeOf_spec, Shape.embed.sizeOf_spec,
        Embedded.shared.sizeOf_spec]; omega)
    | exact sizeOf_step_lt ‹_›

end Engine

/-- Under a standard rule set, entering a rule places its failures at every depth: it stops
with an error that carries no place, or matches a standard pattern one level deeper from the
same cursor; the induction is on the levels left below the limit. -/
theorem contextAt_placed {rules : RuleSet} (hrs : rules.standard) (config : Config)
    (checks depth : Nat) : ∀ r, ((contextAt rules config checks depth).enter r).Placed := by
  intro ref s hv
  rw [contextAt]
  dsimp only
  cases ht : rules.target? ref with
  | none => trivial
  | some t =>
    by_cases hd : depth < config.maxDepth
    · simp only [if_pos hd]
      rw [consumeAt]
      exact Engine.consume_placed (contextAt_sound hrs config checks (depth + 1))
        (contextAt_placed hrs config checks (depth + 1)) t (rules.standard_of_target? hrs ht) s hv
    · simp only [if_neg hd]
      trivial
termination_by config.maxDepth - depth
decreasing_by all_goals omega

/-- A failure of a standard pattern under a standard rule set, matched from a cursor inside
its text, is placed in that text between the cursor and the end. -/
theorem consumeTracked_failure_placed {rules : RuleSet} (hrs : rules.standard) (config : Config)
    {p : Pattern} (hp : p.standard) {c : Cursor} (hv : c.Valid) {f : Failure}
    (h : (p.consumeTracked rules config c).result = .error (.failure f)) :
    f.PlacedIn c.text c.pos := by
  have hplaced := Engine.consume_placed (contextAt_sound hrs config checkAllowance 0)
    (contextAt_placed hrs config checkAllowance 0) p hp ⟨c, #[]⟩ hv
  rw [← consumeAt] at hplaced
  cases hm : consumeAt rules config checkAllowance 0 p ⟨c, #[]⟩ with
  | ok a s' => simp [Pattern.consumeTracked, Engine.runOn, hm] at h
  | error e s' =>
    simp only [Pattern.consumeTracked, Engine.runOn, hm, Except.error.injEq] at h
    rw [hm, h] at hplaced
    exact hplaced

namespace Cursor

variable {input : String} {start : Nat}

theorem size_ofString (input : String) : (ofString input).size = input.length := by
  simp [ofString, size, String.length_toList]

/-- A fresh cursor over `input` advanced by `start` symbols, no more than there are, stands at
`start`. -/
theorem pos_ofString_advance (hlen : input.length < Word.size) (hstart : start ≤ input.length) :
    ((ofString input).advance start).pos = start := by
  rw [pos_advance (by rw [size_ofString]; exact hlen)
    (by rw [size_ofString]; show 0 + start ≤ _; omega)]
  exact Nat.zero_add start

theorem valid_ofString_advance (hlen : input.length < Word.size) (hstart : start ≤ input.length) :
    ((ofString input).advance start).Valid := by
  refine ⟨?_, ?_⟩ <;>
    simp only [pos_ofString_advance hlen hstart, size_advance, size_ofString] <;> assumption

end Cursor

/-- A failure of a standard pattern under a standard rule set, matched in `input` from
`start`, lies between `start` and the end of the input, and its line and column are those of
its offset in the input. -/
theorem failure_offset_in_input {rules : RuleSet} (hrs : rules.standard) (config : Config)
    {p : Pattern} (hp : p.standard) {input : String} (hlen : input.length < Word.size)
    {start : Nat} (hstart : start ≤ input.length) {f : Failure}
    (h : (p.consumeTracked rules config ((Cursor.ofString input).advance start)).result =
      .error (.failure f)) :
    start ≤ f.offset ∧ f.offset ≤ input.length ∧
      f.position = Text.Position.locate input.toList f.offset := by
  obtain ⟨o, hplace, hlo, ho⟩ :=
    consumeTracked_failure_placed hrs config hp (Cursor.valid_ofString_advance hlen hstart) h
  have hoff : f.offset = o := by simp [Failure.offset, hplace]
  rw [Cursor.pos_ofString_advance hlen hstart] at hlo
  refine ⟨hoff ▸ hlo, ?_, ?_⟩
  · rw [hoff]
    simpa [Cursor.ofString, String.length_toList] using ho
  · simp [Failure.position, hplace, hoff, Cursor.ofString]

end Backtrack
