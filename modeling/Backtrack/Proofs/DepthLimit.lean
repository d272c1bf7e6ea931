import Backtrack.Proofs.Balance
import Backtrack.Proofs.DepthFirst

/-!
# Raising the nesting limit

The nesting limit is read in one place: entering a rule one level past it stops the match
with `depthExceeded`, an error that no combinator recovers from. Every combinator that
catches the outcome of a pattern moves back to its mark and passes such an error on, so a
run under a limit that never stops there is the run under any higher limit.

That argument needs the mark to be there. A matcher that pops a mark it never pushed turns
the stop at the limit into a pop from an empty mark stack further out, and the higher limit
then ends in another error: under a limit of zero the sequence of such a matcher and a rule
reference stops with `markUnderflow` at offset one, under a limit of one at offset two
(`depth_limit_changes_underflow`).

For balanced patterns under balanced rules the two runs agree (`Engine.Agrees`): wherever
the run under the lower limit does not stop at the limit, the run under the higher one has
the same result, cursor, marks and events. The relation is proved one function of the
engine at a time, as the contract of matching is; giving back follows rules with a budget of
the levels left, which a rule that matched never runs out of (`giveBack_stable`).

Main statement: `consumeTracked_raise_depth`.
-/

namespace Backtrack

namespace MatchError

/-- Whether the error is the stop at the nesting limit. -/
def atLimit : MatchError → Bool
  | depthExceeded .. => true
  | _ => false

theorem eq_of_atLimit {e : MatchError} (h : e.atLimit = true) :
    ∃ limit offset, e = depthExceeded limit offset := by
  cases e <;> simp_all [atLimit]

end MatchError

namespace Engine

variable {α β : Type}

/-- Whether a run stopped at the nesting limit. -/
def stopsAtLimit : EStateM.Result MatchError MatchState α → Bool
  | .ok .. => false
  | .error e _ => e.atLimit

/-- The run `r'` is the run `r`, unless `r` stopped at the nesting limit. -/
def Agree (r r' : EStateM.Result MatchError MatchState α) : Prop :=
  stopsAtLimit r = false → r' = r

/-- `m'` runs as `m` does from every state where `m` does not stop at the nesting limit. -/
def Agrees (m m' : Engine α) : Prop := ∀ s, Agree (m s) (m' s)

theorem Agree.refl (r : EStateM.Result MatchError MatchState α) : Agree r r := fun _ ↦ rfl

theorem stopsAtLimit_restoreMark_throw {s : MatchState} {k : Nat} {ks : List Nat}
    (h : s.cursor.marks = k :: ks) {e : MatchError} (he : e.atLimit = true) :
    stopsAtLimit ((restoreMark >>= fun _ ↦ throw e : Engine β) s) = true := by
  rw [restoreMark_bind _ h]
  exact he

/-! ### Composing runs that agree -/

section Compose

variable {m m' : Engine α} {s : MatchState}

theorem agree_bind {f f' : α → Engine β} (hm : Agree (m s) (m' s))
    (hf : ∀ a s1, m s = .ok a s1 → Agree (f a s1) (f' a s1)) :
    Agree ((m >>= f) s) ((m' >>= f') s) := by
  intro hl
  cases hr : m s with
  | ok a s1 =>
    rw [bind_of_ok hr] at hl ⊢
    rw [bind_of_ok ((hm (by rw [hr]; rfl)).trans hr)]
    exact hf a s1 hr hl
  | error e s1 =>
    rw [bind_of_error hr] at hl ⊢
    rw [bind_of_error ((hm (by rw [hr]; exact hl)).trans hr)]

/-- An error that an attempt stops with is the error of the run it attempted. -/
theorem of_attempt_error {e : MatchError} {s1 : MatchState} (h : attempt m s = .error e s1) :
    m s = .error e s1 := by
  cases hm : m s with
  | ok a s2 => rw [attempt_of_ok hm] at h; cases h
  | error e' s2 =>
    cases e' with
    | failure f => rw [attempt_of_failure hm] at h; cases h
    | _ =>
      rw [attempt_of_error hm rfl] at h
      cases h
      rfl

theorem agree_attempt (hm : Agree (m s) (m' s)) : Agree (attempt m s) (attempt m' s) := by
  intro hl
  cases hr : m s with
  | ok a s1 => rw [attempt_of_ok ((hm (by rw [hr]; rfl)).trans hr), attempt_of_ok hr]
  | error e s1 =>
    cases e with
    | failure f =>
      rw [attempt_of_failure ((hm (by rw [hr]; rfl)).trans hr), attempt_of_failure hr]
    | _ =>
      rw [attempt_of_error hr rfl] at hl
      rw [attempt_of_error ((hm (by rw [hr]; exact hl)).trans hr) rfl, attempt_of_error hr rfl]

/-- Catching the outcome of `m`: the continuations agree on every outcome that is not the
stop at the limit, and the one under the lower limit passes that stop on. -/
theorem agree_outcome_bind {K K' : Except MatchError α → Engine β} (hm : Agree (m s) (m' s))
    (hok : ∀ a s1, m s = .ok a s1 → Agree (K (.ok a) s1) (K' (.ok a) s1))
    (herr : ∀ e s1, m s = .error e s1 → e.atLimit = false → Agree (K (.error e) s1) (K' (.error e) s1))
    (hlim : ∀ e s1, m s = .error e s1 → e.atLimit = true → stopsAtLimit (K (.error e) s1) = true) :
    Agree ((outcome m >>= K) s) ((outcome m' >>= K') s) := by
  intro hl
  cases hr : m s with
  | ok a s1 =>
    rw [bind_of_ok (outcome_of_ok hr)] at hl ⊢
    rw [bind_of_ok (outcome_of_ok ((hm (by rw [hr]; rfl)).trans hr))]
    exact hok a s1 hr hl
  | error e s1 =>
    rw [bind_of_ok (outcome_of_error hr)] at hl ⊢
    cases he : e.atLimit
    · rw [bind_of_ok (outcome_of_error ((hm (by rw [hr]; exact he)).trans hr))]
      exact herr e s1 hr he hl
    · rw [hlim e s1 hr he] at hl
      cases hl

/-- Running `m` on a cursor of its own: as for `agree_outcome_bind`. -/
theorem agree_within_bind {K K' : Except MatchError α × Cursor → Engine β} {w : Cursor}
    (hm : Agree (m { s with cursor := w }) (m' { s with cursor := w }))
    (hok : ∀ a s1, m { s with cursor := w } = .ok a s1 →
      Agree (K (.ok a, s1.cursor) { s1 with cursor := s.cursor })
        (K' (.ok a, s1.cursor) { s1 with cursor := s.cursor }))
    (herr : ∀ e s1, m { s with cursor := w } = .error e s1 → e.atLimit = false →
      Agree (K (.error e, s1.cursor) { s1 with cursor := s.cursor })
        (K' (.error e, s1.cursor) { s1 with cursor := s.cursor }))
    (hlim : ∀ e s1, m { s with cursor := w } = .error e s1 → e.atLimit = true →
      stopsAtLimit (K (.error e, s1.cursor) { s1 with cursor := s.cursor }) = true) :
    Agree ((within w m >>= K) s) ((within w m' >>= K') s) := by
  intro hl
  cases hr : m { s with cursor := w } with
  | ok a s1 =>
    rw [bind_of_ok (within_of_ok hr)] at hl ⊢
    rw [bind_of_ok (within_of_ok ((hm (by rw [hr]; rfl)).trans hr))]
    exact hok a s1 hr hl
  | error e s1 =>
    rw [bind_of_ok (within_of_error hr)] at hl ⊢
    cases he : e.atLimit
    · rw [bind_of_ok (within_of_error ((hm (by rw [hr]; exact he)).trans hr))]
      exact herr e s1 hr he hl
    · rw [hlim e s1 hr he] at hl
      cases hl

end Compose

/-- A match agrees when its step does: reporting a failure is the same under both. -/
theorem Agrees.of_step {cx cx' : Context} {p : Pattern} (h : Agrees (step cx p) (step cx' p)) :
    Agrees (consume cx p) (consume cx' p) := by
  intro s
  have hs := h s
  rw [consume, consume]
  cases hstep : step cx p s with
  | ok a s1 =>
    rw [hstep] at hs
    rw [hs rfl]
    exact Agree.refl _
  | error e s1 =>
    rw [hstep] at hs
    cases e with
    | failure f =>
      rw [hs rfl]
      exact Agree.refl _
    | _ =>
      intro hl
      rw [hs hl]

end Engine

theorem isWhitespace_congr {cfg cfg' : Config} (h : cfg'.whitespace = cfg.whitespace) :
    cfg'.isWhitespace = cfg.isWhitespace := by
  funext ch
  rw [Config.isWhitespace, Config.isWhitespace, h]

theorem skipWhitespace_congr {cfg cfg' : Config} (h : cfg'.whitespace = cfg.whitespace) :
    skipWhitespace cfg' = skipWhitespace cfg := by
  rw [skipWhitespace, skipWhitespace, isWhitespace_congr h]

theorem matchRun_congr {cfg cfg' : Config} (h : cfg'.whitespace = cfg.whitespace) (p : Pattern)
    (r : Run) : Engine.matchRun cfg' p r = Engine.matchRun cfg p r := by
  rw [Engine.matchRun, Engine.matchRun, isWhitespace_congr h]

/-- What matching under `cx'` needs to run as matching under `cx`: the same whitespace and
lookbehind settings, rules and checks that agree, the same giving back for every pattern that
matched under `cx`, and the marks kept under `cx`. -/
structure Context.Raised (cx cx' : Context) : Prop where
  whitespace : cx'.config.whitespace = cx.config.whitespace
  lookbehind : cx'.config.maxLookbehind = cx.config.maxLookbehind
  keeps : cx.KeepsMarks
  enter : ∀ r, Engine.Agrees (cx.enter r) (cx'.enter r)
  rejects : ∀ bad text, bad.balanced → Engine.Agrees (cx.rejects bad text) (cx'.rejects bad text)
  giveBack : ∀ q s m s', Engine.consume cx q s = .ok m s' → cx'.giveBack q = cx.giveBack q

namespace Engine

/-! ### The loops -/

section Loops

variable {cx cx' : Context} {p : Pattern}

theorem scan_agrees {inner : Pattern} {h : sizeOf inner < sizeOf p}
    (hin : Agrees (consume cx inner) (consume cx' inner)) (c : Cursor) (width limit : Nat) :
    Agrees (scan cx p inner h c width limit) (scan cx' p inner h c width limit) := by
  intro s
  rw [scan.eq_1 cx p inner h c width limit, scan.eq_1 cx' p inner h c width limit]
  by_cases hw : width ≤ limit
  · rw [if_pos hw, if_pos hw]
    cases c.windowBefore width with
    | none => exact Agree.refl _
    | some w =>
      simp only
      refine agree_within_bind (agree_attempt (hin _)) (fun a s1 _ ↦ ?_) (fun _ _ _ _ ↦ Agree.refl _)
        fun _ _ _ he ↦ he
      cases a with
      | ok _ =>
        simp only
        split
        · exact Agree.refl _
        · exact scan_agrees hin c (width + 1) limit _
      | error f => exact scan_agrees hin c (width + 1) limit _
  · rw [if_neg hw, if_neg hw]
    exact Agree.refl _
termination_by limit + 1 - width
decreasing_by all_goals omega

theorem retry_agrees {q : Pattern} {rest : List Pattern} (h : ∀ q' ∈ q :: rest, sizeOf q' < sizeOf p)
    (hgive : cx'.giveBack q = cx.giveBack q)
    (hrest : ∀ hr j acc, Agrees (search cx p rest hr j acc) (search cx' p rest hr j acc))
    (j start : Nat) (acc : List (Pattern × Matched)) (m : Matched) :
    Agrees (retry cx p q rest h j start m acc) (retry cx' p q rest h j start m acc) := by
  intro s hl
  have hs := hrest (fun q' hq ↦ h q' (List.mem_cons_of_mem _ hq)) (j + 1) (acc ++ [(q, m)]) s
  cases hsr : search cx p rest (fun q' hq ↦ h q' (List.mem_cons_of_mem _ hq)) (j + 1)
      (acc ++ [(q, m)]) s with
  | error e s1 =>
    rw [retry_of_error hsr] at hl ⊢
    exact retry_of_error ((hs (by rw [hsr]; exact hl)).trans hsr)
  | ok r s1 =>
    have hs' := (hs (by rw [hsr]; rfl)).trans hsr
    cases r with
    | done steps => rw [retry_of_done hsr, retry_of_done hs']
    | stuck f k =>
      cases hg : cx.giveBack q m with
      | none => rw [retry_of_stuck hsr hg, retry_of_stuck hs' (hgive ▸ hg)]
      | some r =>
        obtain ⟨m', g⟩ := r
        rw [retry_of_giveBack hsr hg] at hl ⊢
        rw [retry_of_giveBack hs' (hgive ▸ hg)]
        exact retry_agrees h hgive hrest j start acc m' _ hl
termination_by m.pieces.length
decreasing_by exact cx.giveBack_shrinks q m (m', g) hg

theorem search_agrees (hcx : cx.Raised cx') (steps : List Pattern)
    (hsteps : ∀ q ∈ steps, Agrees (consume cx q) (consume cx' q)) :
    ∀ h j acc, Agrees (search cx p steps h j acc) (search cx' p steps h j acc) := by
  induction steps with
  | nil =>
    intro h j acc s
    rw [search_nil, search_nil]
    exact Agree.refl _
  | cons q rest ih =>
    intro h j acc s hl
    have hq := hsteps q (List.mem_cons_self ..) s
    have hrest := ih fun q' hq' ↦ hsteps q' (List.mem_cons_of_mem _ hq')
    cases hc : consume cx q s with
    | ok m s1 =>
      rw [search_cons_of_ok hc] at hl ⊢
      rw [search_cons_of_ok ((hq (by rw [hc]; rfl)).trans hc)]
      exact retry_agrees h (hcx.giveBack q s m s1 hc) hrest j s.cursor.pos acc m s1 hl
    | error e s1 =>
      cases e with
      | failure f =>
        rw [search_cons_of_failure hc, search_cons_of_failure ((hq (by rw [hc]; rfl)).trans hc)]
      | _ =>
        rw [search_cons_of_error hc rfl] at hl ⊢
        rw [search_cons_of_error ((hq (by rw [hc]; exact hl)).trans hc) rfl]

/-- The alternatives of a choice, tried under the choice's mark, agree: an alternative that
stops at the limit makes the choice pop its mark and stop there too. -/
theorem choose_agrees {k : Nat} {ks : List Nat} (rest : List Pattern)
    (hcs : ∀ q ∈ rest, Agrees (consume cx q) (consume cx' q))
    (hkeep : ∀ q ∈ rest, (consume cx q).KeepsMarks) (h : ∀ q ∈ rest, sizeOf q < sizeOf p)
    (s : MatchState) (hs : s.cursor.marks = k :: ks) :
    Agree (choose cx p rest h s) (choose cx' p rest h s) := by
  induction rest generalizing s with
  | nil =>
    rw [choose.eq_1, choose.eq_1]
    exact Agree.refl _
  | cons q more ih =>
    rw [choose.eq_2, choose.eq_2]
    refine agree_outcome_bind (hcs q (List.mem_cons_self ..) s) (fun _ _ _ ↦ Agree.refl _)
      (fun e s1 hc _ ↦ ?_) fun e s1 hc he ↦ ?_
    · have hs1 := ((hkeep q (List.mem_cons_self ..)).error hc).trans hs
      cases e with
      | failure f =>
        simp only [restoreMark_bind _ hs1, mark_bind]
        exact ih (fun q' hq' ↦ hcs q' (List.mem_cons_of_mem _ hq'))
          (fun q' hq' ↦ hkeep q' (List.mem_cons_of_mem _ hq'))
          (fun q' hq' ↦ h q' (List.mem_cons_of_mem _ hq')) _ rfl
      | _ => exact Agree.refl _
    · obtain ⟨limit, offset, rfl⟩ := MatchError.eq_of_atLimit he
      exact stopsAtLimit_restoreMark_throw (((hkeep q (List.mem_cons_self ..)).error hc).trans hs) he

/-- The rounds of a repetition, under the repetition's mark, agree. -/
theorem rounds_agrees {inner : Pattern} {h : sizeOf inner < sizeOf p} {lo : Nat}
    (hin : Agrees (consume cx inner) (consume cx' inner)) (hkeep : (consume cx inner).KeepsMarks)
    {k : Nat} {ks : List Nat} (left : Nat) :
    ∀ (items : Array Fragment) (pieces : Array Piece) (s : MatchState), s.cursor.marks = k :: ks →
      Agree (rounds cx p inner h lo left items pieces s) (rounds cx' p inner h lo left items pieces s) := by
  induction left with
  | zero =>
    intro items pieces s _
    rw [rounds.eq_1, rounds.eq_1]
    exact Agree.refl _
  | succ left ih =>
    intro items pieces s hs
    rw [rounds.eq_2, rounds.eq_2]
    simp only [position_bind]
    refine agree_outcome_bind (hin s) (fun m s1 hc ↦ ?_)
      (fun e _ _ _ ↦ by cases e <;> exact Agree.refl _) fun e s1 hc he ↦ ?_
    · simp only [position_bind]
      split
      · exact Agree.refl _
      · exact ih _ _ s1 ((hkeep.ok hc).trans hs)
    · obtain ⟨limit, offset, rfl⟩ := MatchError.eq_of_atLimit he
      exact stopsAtLimit_restoreMark_throw ((hkeep.error hc).trans hs) he

/-- The rounds of a separated list, under the list's mark, agree. A round catches the outcome
of its element, and of its separator under a mark of its own, and passes a stop at the limit
on once it has moved back. -/
theorem listRounds_agrees {sep elem : Pattern} {hs : sizeOf sep < sizeOf p}
    {he : sizeOf elem < sizeOf p} {lo : Nat} (hsep : Agrees (consume cx sep) (consume cx' sep))
    (helem : Agrees (consume cx elem) (consume cx' elem)) (ksep : (consume cx sep).KeepsMarks)
    (kelem : (consume cx elem).KeepsMarks) {k : Nat} {ks : List Nat} (left : Nat) :
    ∀ (items : Array Fragment) (pieces : Array Piece) (s : MatchState), s.cursor.marks = k :: ks →
      Agree (listRounds cx p sep elem hs he lo left items pieces s)
        (listRounds cx' p sep elem hs he lo left items pieces s) := by
  induction left with
  | zero =>
    intro items pieces s _
    rw [listRounds.eq_1, listRounds.eq_1]
    exact Agree.refl _
  | succ left ih =>
    intro items pieces s h0
    have hsome : ∀ (s1 : MatchState) (items' : Array Fragment) (n : Nat), s1.cursor.marks = k :: ks →
        Agree ((position >>= fun pos ↦
            if Word.wrapSub pos s.cursor.pos = 0 ∧ pieces.size ≥ lo then pure (items, pieces)
            else listRounds cx p sep elem hs he lo left items'
              (pieces.push ⟨Word.wrapSub pos s.cursor.pos, n⟩)) s1)
          ((position >>= fun pos ↦
            if Word.wrapSub pos s.cursor.pos = 0 ∧ pieces.size ≥ lo then pure (items, pieces)
            else listRounds cx' p sep elem hs he lo left items'
              (pieces.push ⟨Word.wrapSub pos s.cursor.pos, n⟩)) s1) := by
      intro s1 items' n h1
      simp only [position_bind]
      split
      · exact Agree.refl _
      · exact ih _ _ s1 h1
    rw [listRounds.eq_2, listRounds.eq_2]
    simp only [position_bind, pure_bind]
    intro hl
    by_cases hemp : pieces.isEmpty
    · rw [if_pos hemp] at hl ⊢
      rw [if_pos hemp]
      cases hc : consume cx elem s with
      | ok me s1 =>
        have hc' := (helem s (by rw [hc]; rfl)).trans hc
        simp only [bind_of_ok (outcome_of_ok hc), bind_of_ok (outcome_of_ok hc')] at hl ⊢
        exact hsome s1 _ _ ((kelem.ok hc).trans h0) hl
      | error e s1 =>
        cases hlim : e.atLimit
        · have hc' := (helem s (by rw [hc]; exact hlim)).trans hc
          simp only [bind_of_ok (outcome_of_error hc), bind_of_ok (outcome_of_error hc')]
          cases e <;> rfl
        · obtain ⟨limit, offset, rfl⟩ := MatchError.eq_of_atLimit hlim
          simp only [bind_of_ok (outcome_of_error hc),
            restoreMark_bind _ ((kelem.error hc).trans h0)] at hl
          cases hl
    · rw [if_neg hemp] at hl ⊢
      rw [if_neg hemp]
      simp only [mark_bind] at hl ⊢
      cases hc : consume cx sep { s with cursor := s.cursor.mark } with
      | ok msep s1 =>
        have hc' := (hsep _ (by rw [hc]; rfl)).trans hc
        have h1 : s1.cursor.marks = s.cursor.pos :: k :: ks := by rw [ksep.ok hc, Cursor.marks_mark, h0]
        simp only [bind_of_ok (outcome_of_ok hc), bind_of_ok (outcome_of_ok hc')] at hl ⊢
        cases hd : consume cx elem s1 with
        | ok me s2 =>
          have hd' := (helem s1 (by rw [hd]; rfl)).trans hd
          have h2 := (kelem.ok hd).trans h1
          simp only [bind_of_ok (outcome_of_ok hd), bind_of_ok (outcome_of_ok hd'),
            forgetMark_bind _ h2] at hl ⊢
          exact hsome _ _ _ rfl hl
        | error e s2 =>
          have h2 := (kelem.error hd).trans h1
          cases hlim : e.atLimit
          · have hd' := (helem s1 (by rw [hd]; exact hlim)).trans hd
            simp only [bind_of_ok (outcome_of_error hd), bind_of_ok (outcome_of_error hd')]
            cases e <;> rfl
          · obtain ⟨limit, offset, rfl⟩ := MatchError.eq_of_atLimit hlim
            simp only [bind_of_ok (outcome_of_error hd), restoreMark_bind _ h2] at hl
            rw [restoreMark_bind_mk _ rfl] at hl
            cases hl
      | error e s1 =>
        have h1 : s1.cursor.marks = s.cursor.pos :: k :: ks := by rw [ksep.error hc, Cursor.marks_mark, h0]
        cases hlim : e.atLimit
        · have hc' := (hsep _ (by rw [hc]; exact hlim)).trans hc
          simp only [bind_of_ok (outcome_of_error hc), bind_of_ok (outcome_of_error hc')]
          cases e <;> rfl
        · obtain ⟨limit, offset, rfl⟩ := MatchError.eq_of_atLimit hlim
          simp only [bind_of_ok (outcome_of_error hc), restoreMark_bind _ h1] at hl
          rw [restoreMark_bind_mk _ rfl] at hl
          cases hl

end Loops

/-! ### Each shape of pattern -/

section Shapes

variable {cx cx' : Context} {inner : Pattern} {b : Bool}

theorem step_nextIs_agrees (neg : Bool) (hin : Agrees (consume cx inner) (consume cx' inner))
    (hkeep : (consume cx inner).KeepsMarks) :
    Agrees (step cx (.mk (.nextIs neg inner) b)) (step cx' (.mk (.nextIs neg inner) b)) := by
  intro s
  rw [step, step]
  simp only [mark_bind]
  refine agree_outcome_bind (agree_attempt (hin _)) (fun _ _ _ ↦ Agree.refl _)
    (fun _ _ _ _ ↦ Agree.refl _) fun e s1 hr he ↦ ?_
  exact stopsAtLimit_restoreMark_throw (hkeep.error (of_attempt_error hr)) he

theorem step_prevIs_agrees (hcx : cx.Raised cx') (neg : Bool)
    (hin : Agrees (consume cx inner) (consume cx' inner)) :
    Agrees (step cx (.mk (.prevIs neg inner) b)) (step cx' (.mk (.prevIs neg inner) b)) := by
  intro s
  rw [step, step]
  simp only [cursor_bind]
  rw [hcx.lookbehind]
  exact agree_bind (scan_agrees hin _ _ _ s) fun _ _ _ ↦ Agree.refl _

theorem step_sequence_agrees (hcx : cx.Raised cx') {cs : List Pattern} {sep : Option Pattern}
    {auto : Bool} (hsteps : ∀ q ∈ sequenceSteps cs sep, Agrees (consume cx q) (consume cx' q))
    (hkeeps : ∀ q ∈ sequenceSteps cs sep, (consume cx q).KeepsMarks) :
    Agrees (step cx (.mk (.sequence cs sep auto) b)) (step cx' (.mk (.sequence cs sep auto) b)) := by
  intro s
  rw [step, step]
  simp only [mark_bind]
  refine agree_outcome_bind (search_agrees hcx _ hsteps _ 0 [] _) (fun _ _ _ ↦ Agree.refl _)
    (fun _ _ _ _ ↦ Agree.refl _) fun e s1 hr he ↦ ?_
  obtain ⟨limit, offset, rfl⟩ := MatchError.eq_of_atLimit he
  exact stopsAtLimit_restoreMark_throw ((search_keepsMarks _ hkeeps _ 0 []).error hr) he

theorem step_choice_agrees {cs : List Pattern} {auto : Bool}
    (hcs : ∀ q ∈ cs, Agrees (consume cx q) (consume cx' q))
    (hkeep : ∀ q ∈ cs, (consume cx q).KeepsMarks) :
    Agrees (step cx (.mk (.choice cs auto) b)) (step cx' (.mk (.choice cs auto) b)) := by
  intro s
  rw [step, step]
  simp only [mark_bind]
  exact choose_agrees cs hcs hkeep _ _ rfl

theorem step_repetition_agrees {lo : Nat} {hi : Option Nat}
    (hin : Agrees (consume cx inner) (consume cx' inner)) (hkeep : (consume cx inner).KeepsMarks) :
    Agrees (step cx (.mk (.repetition inner lo hi) b)) (step cx' (.mk (.repetition inner lo hi) b)) := by
  intro s
  rw [step, step]
  simp only [mark_bind]
  exact agree_bind (rounds_agrees hin hkeep _ #[] #[] _ rfl) fun _ _ _ ↦ Agree.refl _

theorem step_separated_agrees {sep elem : Pattern} {lo : Nat} {hi : Option Nat}
    (hsep : Agrees (consume cx sep) (consume cx' sep)) (helem : Agrees (consume cx elem) (consume cx' elem))
    (ksep : (consume cx sep).KeepsMarks) (kelem : (consume cx elem).KeepsMarks) :
    Agrees (step cx (.mk (.separated sep elem lo hi) b)) (step cx' (.mk (.separated sep elem lo hi) b)) := by
  intro s
  rw [step, step]
  simp only [mark_bind]
  exact agree_bind (listRounds_agrees hsep helem ksep kelem _ #[] #[] _ rfl) fun _ _ _ ↦ Agree.refl _

theorem step_token_agrees (hcx : cx.Raised cx') (hin : Agrees (consume cx inner) (consume cx' inner))
    (hkeep : (consume cx inner).KeepsMarks) :
    Agrees (step cx (.mk (.token inner) b)) (step cx' (.mk (.token inner) b)) := by
  intro s
  rw [step, step, skipWhitespace_congr hcx.whitespace]
  simp only [mark_bind, skipWhitespace_bind]
  refine agree_outcome_bind (hin _) (fun _ _ _ ↦ Agree.refl _) (fun _ _ _ _ ↦ Agree.refl _)
    fun e s1 hr he ↦ ?_
  obtain ⟨limit, offset, rfl⟩ := MatchError.eq_of_atLimit he
  exact stopsAtLimit_restoreMark_throw (hkeep.error hr) he

/-- A grammar agrees: its body and its check do, and what it does with their results reads
neither the limit nor the rules. -/
theorem step_grammar_agrees (hcx : cx.Raised cx') {tag : Nat} {name : String} {bad : Option Pattern}
    (hbad : ∀ x ∈ bad, x.balanced) (hin : Agrees (consume cx inner) (consume cx' inner)) :
    Agrees (step cx (.mk (.embed tag (.grammar name inner bad)) b))
      (step cx' (.mk (.embed tag (.grammar name inner bad)) b)) := by
  intro s
  rw [step, step]
  simp only [position_bind]
  refine agree_bind (hin s) fun m s1 _ ↦ ?_
  cases bad with
  | none => exact Agree.refl _
  | some bad => exact agree_bind (hcx.rejects bad _ (hbad bad rfl) s1) fun _ _ _ ↦ Agree.refl _

end Shapes

/-! ### Balanced patterns -/

/-- A balanced pattern agrees under two contexts of which the second raises the first: by
recursion on the size of the pattern, each shape from its own lemma. -/
theorem consume_agrees {cx cx' : Context} (hcx : cx.Raised cx') :
    ∀ p : Pattern, p.balanced → Agrees (consume cx p) (consume cx' p)
  | .mk (.char cls) _, _ => .of_step (by rw [step, step]; exact fun s ↦ Agree.refl _)
  | .mk (.run r) _, _ =>
    .of_step (by rw [step, step, matchRun_congr hcx.whitespace]; exact fun s ↦ Agree.refl _)
  | .mk (.whitespace r) _, _ =>
    .of_step (by rw [step, step, matchRun_congr hcx.whitespace]; exact fun s ↦ Agree.refl _)
  | .mk (.literal t) _, _ => .of_step (by rw [step, step]; exact fun s ↦ Agree.refl _)
  | .mk (.regex rx) _, _ => .of_step (by rw [step, step]; exact fun s ↦ Agree.refl _)
  | .mk (.boundary k) _, _ => .of_step (by rw [step, step]; exact fun s ↦ Agree.refl _)
  | .mk (.nextIs neg inner) _, hp =>
    .of_step (step_nextIs_agrees neg (consume_agrees hcx inner hp)
      (consume_keepsMarks hcx.keeps inner hp))
  | .mk (.prevIs neg inner) _, hp =>
    .of_step (step_prevIs_agrees hcx neg (consume_agrees hcx inner hp))
  | .mk (.sequence cs sep auto) _, hp =>
    .of_step (step_sequence_agrees hcx
      (fun q hq ↦ consume_agrees hcx q (Pattern.balanced_of_mem_sequenceSteps hp hq))
      fun q hq ↦ consume_keepsMarks hcx.keeps q (Pattern.balanced_of_mem_sequenceSteps hp hq))
  | .mk (.choice cs auto) _, hp =>
    .of_step (step_choice_agrees
      (fun q hq ↦ consume_agrees hcx q (Pattern.allBalanced_iff.mp hp q hq))
      fun q hq ↦ consume_keepsMarks hcx.keeps q (Pattern.allBalanced_iff.mp hp q hq))
  | .mk (.repetition inner lo hi) _, hp =>
    .of_step (step_repetition_agrees (consume_agrees hcx inner hp)
      (consume_keepsMarks hcx.keeps inner hp))
  | .mk (.separated sep elem lo hi) _, hp =>
    have hboth : sep.balanced ∧ elem.balanced := by
      simpa [Pattern.balanced, Pattern.shapeBalanced] using hp
    .of_step (step_separated_agrees (consume_agrees hcx sep hboth.1) (consume_agrees hcx elem hboth.2)
      (consume_keepsMarks hcx.keeps sep hboth.1) (consume_keepsMarks hcx.keeps elem hboth.2))
  | .mk (.group inner) _, hp =>
    .of_step (by
      rw [step, step]
      exact fun s ↦ agree_bind (by exact Agree.refl _) fun _ _ _ ↦
        agree_bind (consume_agrees hcx inner hp _) fun _ _ _ ↦ Agree.refl _)
  | .mk (.flatten inner) _, hp =>
    .of_step (by
      rw [step, step]
      exact fun s ↦ agree_bind (consume_agrees hcx inner hp s) fun _ _ _ ↦ Agree.refl _)
  | .mk (.select inner sel) _, hp =>
    .of_step (by
      rw [step, step]
      exact fun s ↦ agree_bind (consume_agrees hcx inner hp s) fun _ _ _ ↦ Agree.refl _)
  | .mk (.token inner) _, hp =>
    .of_step (step_token_agrees hcx (consume_agrees hcx inner hp) (consume_keepsMarks hcx.keeps inner hp))
  | .mk (.rule ref) _, _ => .of_step (by rw [step, step]; exact hcx.enter ref)
  | .mk (.embed tag (.grammar name body bad)) _, hp =>
    have hparts : body.balanced ∧ ∀ x ∈ bad, x.balanced := by
      cases bad <;> simp_all [Pattern.balanced, Pattern.shapeBalanced, Pattern.embeddedBalanced]
    .of_step (step_grammar_agrees hcx hparts.2 (consume_agrees hcx body hparts.1))
  | .mk (.embed tag (.shared inner)) _, hp =>
    .of_step (by rw [step, step]; exact consume_agrees hcx inner hp)
  | .mk (.embed _ .broken) _, _ => .of_step (by rw [step, step]; exact fun s ↦ Agree.refl _)
  | .mk (.embed _ .unbalanced) _, hp =>
    absurd hp (by simp [Pattern.balanced, Pattern.shapeBalanced, Pattern.embeddedBalanced])
termination_by p => sizeOf p
decreasing_by
  all_goals first
    | (simp only [Pattern.mk.sizeOf_spec, Shape.nextIs.sizeOf_spec, Shape.prevIs.sizeOf_spec,
        Shape.repetition.sizeOf_spec, Shape.separated.sizeOf_spec, Shape.group.sizeOf_spec,
        Shape.flatten.sizeOf_spec, Shape.select.sizeOf_spec, Shape.token.sizeOf_spec,
        Shape.embed.sizeOf_spec, Embedded.shared.sizeOf_spec, Embedded.grammar.sizeOf_spec]; omega)
    | exact sizeOf_step_lt ‹_›
    | exact sizeOf_choice_lt ‹_›

end Engine

/-! ### Matching under a rule set -/

theorem consumeAt_rule_of_none {rules : RuleSet} {config : Config} {checks depth : Nat}
    {ref : RuleRef} {b : Bool} (ht : rules.target? ref = none) (s : MatchState) :
    consumeAt rules config checks depth (.mk (.rule ref) b) s = .error (.unresolvedRule ref.name) s := by
  rw [consumeAt]
  refine Engine.consume_of_step_error ?_ rfl
  rw [Engine.step, contextAt]
  dsimp only
  simp only [ht]

/-- Giving back after a match at depth `depth` never runs out of the budget of the levels
left: a budget at least as large gives back the same. Giving back follows the rules the
match went through, and each of them matched one level further down, within the limit. -/
theorem giveBack_stable {rules : RuleSet} {config : Config} {checks : Nat} (m' : Matched)
    (budget : Nat) (q : Pattern) {depth : Nat} {s s' : MatchState} {m : Matched}
    (hq : consumeAt rules config checks depth q s = .ok m s') (hb : config.maxDepth - depth ≤ budget) :
    q.giveBack rules budget m' = q.giveBack rules (config.maxDepth - depth) m' := by
  induction budget, q using Pattern.giveBack.induct rules generalizing depth s s' m with
  | case1 | case2 | case3 | case4 => rw [Pattern.giveBack, Pattern.giveBack]
  | case5 => rw [show config.maxDepth - depth = 0 by omega]
  | case6 ref _ b t ht ih =>
    obtain ⟨hd, hq'⟩ := (Pattern.Reaches.rule ht (.refl t)).consumeAt hq
    have hlt : depth < config.maxDepth := by omega
    rw [(Pattern.Reaches.rule ht (.refl t)).giveBack (by omega),
      (Pattern.Reaches.rule ht (.refl t)).giveBack (by omega),
      show b.succ - (0 + 1) = b by omega,
      show config.maxDepth - depth - (0 + 1) = config.maxDepth - (depth + (0 + 1)) by omega]
    exact ih hq' (by omega)
  | case7 ref _ b ht =>
    rw [consumeAt_rule_of_none ht] at hq
    cases hq
  | case8 budget tag inner _ ih =>
    have hq' := (@Pattern.Reaches.shared rules tag _ inner inner 0 (.refl inner)).consumeAt hq
    rw [Pattern.giveBack, Pattern.giveBack]
    exact ih hq'.2 hb
  | case9 budget q hrun hws hrep hsep hrule hshared =>
    have hnone : ∀ k, q.giveBack rules k m' = none := fun k ↦ by
      unfold Pattern.giveBack
      split <;> first | rfl | (exfalso; solve_by_elim)
    rw [hnone, hnone]

/-- Raising the limit of a balanced rule set raises every context of it: at every depth and
allowance of checks, by induction on the allowance and the levels left. -/
theorem contextAt_raised {rules : RuleSet} (hrs : rules.balanced) (config : Config) {limit : Nat}
    (hlimit : config.maxDepth ≤ limit) (checks depth : Nat) :
    (contextAt rules config checks depth).Raised
      (contextAt rules { config with maxDepth := limit } checks depth) := by
  refine ⟨by rw [contextAt, contextAt], by rw [contextAt, contextAt],
    contextAt_keepsMarks hrs config checks depth, fun ref s ↦ ?_, fun bad text hbad s ↦ ?_,
    fun q s m s' hq ↦ ?_⟩
  · rw [contextAt, contextAt]
    dsimp only
    cases ht : rules.target? ref with
    | none => exact Engine.Agree.refl _
    | some t =>
      by_cases hd : depth < config.maxDepth
      · simp only [if_pos hd, if_pos (show depth < limit by omega)]
        rw [consumeAt, consumeAt]
        exact Engine.consume_agrees (contextAt_raised hrs config hlimit checks (depth + 1)) t
          (rules.balanced_of_target? hrs ht) s
      · -- the run under the lower limit stops here
        simp only [if_neg hd]
        intro hl
        cases hl
  · rw [contextAt, contextAt]
    dsimp only
    cases checks with
    | zero => exact Engine.Agree.refl _
    | succ c =>
      refine Engine.agree_within_bind ?_ (fun _ _ _ ↦ Engine.Agree.refl _)
        (fun _ _ _ _ ↦ Engine.Agree.refl _) fun e _ _ he ↦ by
          obtain ⟨limit, offset, rfl⟩ := MatchError.eq_of_atLimit he
          exact he
      rw [consumeAt, consumeAt]
      exact Engine.consume_agrees (contextAt_raised hrs config hlimit c 0) _ (balanced_anchored hbad) _
  · have hq' : consumeAt rules config checks depth q s = .ok m s' := by rw [consumeAt]; exact hq
    rw [contextAt, contextAt]
    funext m'
    exact giveBack_stable m' _ q hq' (by simp only; omega)
termination_by (checks, config.maxDepth - depth)
decreasing_by
  · exact Prod.Lex.right _ (by omega)
  · exact Prod.Lex.left _ _ (by omega)

/-- Matching a balanced pattern under a balanced rule set, at every depth and allowance of
checks, agrees with the same match under any higher limit. -/
theorem consumeAt_agrees {rules : RuleSet} (hrs : rules.balanced) {p : Pattern} (hp : p.balanced)
    (config : Config) {limit : Nat} (hlimit : config.maxDepth ≤ limit) (checks depth : Nat) :
    Engine.Agrees (consumeAt rules config checks depth p)
      (consumeAt rules { config with maxDepth := limit } checks depth p) := by
  rw [consumeAt, consumeAt]
  exact Engine.consume_agrees (contextAt_raised hrs config hlimit checks depth) p hp

/-- Raising the nesting limit changes nothing about a match of a balanced pattern under a
balanced rule set that did not stop at the lower limit: the result, the cursor with its mark
stack, and the events are the same. -/
theorem consumeTracked_raise_depth {rules : RuleSet} (hrs : rules.balanced) {p : Pattern}
    (hp : p.balanced) (config : Config) {limit : Nat} (hlimit : config.maxDepth ≤ limit) (c : Cursor)
    (hstop : ∀ lim off, (p.consumeTracked rules config c).result ≠ .error (.depthExceeded lim off)) :
    p.consumeTracked rules { config with maxDepth := limit } c = p.consumeTracked rules config c := by
  have hagree := consumeAt_agrees hrs hp config hlimit checkAllowance 0 ⟨c, #[]⟩
  have hclear : Engine.stopsAtLimit (consumeAt rules config checkAllowance 0 p ⟨c, #[]⟩) = false := by
    cases hr : consumeAt rules config checkAllowance 0 p ⟨c, #[]⟩ with
    | ok a s1 => rfl
    | error e s1 =>
      cases e with
      | depthExceeded lim off =>
        refine absurd ?_ (hstop lim off)
        simp only [Pattern.consumeTracked, Engine.runOn, hr]
      | _ => rfl
  simp only [Pattern.consumeTracked, Engine.runOn, hagree hclear]

/-! ### A matcher that pops a mark it never pushed -/

/-- The rules of the example: `r` is the letter `b`. -/
def letterRule : RuleSet := ⟨0, [("r", some (Pattern.literal "b"))]⟩

/-- A matcher that pops the mark of its sequence, then the rule `r`. -/
def popThenRule : Pattern := Pattern.embed 0 .unbalanced + letterRule.refTo "r"

namespace Engine

section PopThenRule

variable {config : Config} {checks : Nat}

theorem consume_letter_within_limit (hd : 0 < config.maxDepth) (events : Array Event) :
    consume (contextAt letterRule config checks 0) (letterRule.refTo "r")
        ⟨⟨"ab".toList.toArray, 1, []⟩, events⟩ =
      .ok (.fixed (.text "b")) ⟨⟨"ab".toList.toArray, 2, []⟩, events⟩ := by
  apply consume_of_step
  show step _ (.mk (.rule ⟨"r", 0⟩) false) _ = _
  rw [step, contextAt]
  dsimp only
  rw [show letterRule.target? ⟨"r", 0⟩ = some (Pattern.literal "b") from rfl]
  simp only [if_pos hd]
  rw [consumeAt]
  apply consume_of_step
  show step _ (.mk (.literal "b") false) _ = _
  rw [step]
  simp only [matchLiteral, cursor_bind,
    show "b".toList.isPrefixOf (⟨"ab".toList.toArray, 1, []⟩ : Cursor).rest = true from rfl, if_true]
  rfl

theorem consume_letter_at_limit (hd : config.maxDepth = 0) (events : Array Event) :
    consume (contextAt letterRule config checks 0) (letterRule.refTo "r")
        ⟨⟨"ab".toList.toArray, 1, []⟩, events⟩ =
      .error (.depthExceeded 0 1) ⟨⟨"ab".toList.toArray, 1, []⟩, events⟩ := by
  refine consume_of_step_error ?_ rfl
  show step _ (.mk (.rule ⟨"r", 0⟩) false) _ = _
  rw [step, contextAt]
  dsimp only
  rw [show letterRule.target? ⟨"r", 0⟩ = some (Pattern.literal "b") from rfl]
  simp only [hd, Nat.lt_irrefl, if_false]

/-- Under a limit of zero the rule stops at the limit, and the sequence, whose mark the
matcher took, has no mark left to move back to. -/
theorem consumeAt_popThenRule_zero :
    consumeAt letterRule { maxDepth := 0 } checks 0 popThenRule ⟨Cursor.ofString "ab", #[]⟩ =
      .error (.markUnderflow 1) ⟨⟨"ab".toList.toArray, 1, []⟩, #[]⟩ := by
  have hsearch : search (contextAt letterRule { maxDepth := 0 } checks 0)
      (.mk (.sequence [Pattern.embed 0 .unbalanced, letterRule.refTo "r"] none true) false)
      (sequenceSteps [Pattern.embed 0 .unbalanced, letterRule.refTo "r"] none)
      (fun _ h ↦ sizeOf_step_lt h) 0 [] ⟨(Cursor.ofString "ab").mark, #[]⟩ =
      .error (.depthExceeded 0 1) ⟨⟨"ab".toList.toArray, 1, []⟩, #[]⟩ :=
    (search_cons_of_ok (consume_unbalanced_of_cons rfl)).trans
      (retry_of_error (search_cons_of_error (consume_letter_at_limit rfl #[]) rfl))
  rw [consumeAt]
  refine consume_of_step_error ?_ rfl
  show step _ (.mk (.sequence [Pattern.embed 0 .unbalanced, letterRule.refTo "r"] none true) false) _ = _
  rw [step]
  simp only [mark_bind]
  rw [bind_of_ok (outcome_of_error hsearch)]
  exact restoreMark_bind_of_nil _ rfl _

/-- Under a limit of one the rule matches, and the sequence has no mark left to drop. -/
theorem consumeAt_popThenRule_one :
    consumeAt letterRule { maxDepth := 1 } checks 0 popThenRule ⟨Cursor.ofString "ab", #[]⟩ =
      .error (.markUnderflow 2) ⟨⟨"ab".toList.toArray, 2, []⟩, #[]⟩ := by
  have hsearch : ∃ steps, search (contextAt letterRule { maxDepth := 1 } checks 0)
      (.mk (.sequence [Pattern.embed 0 .unbalanced, letterRule.refTo "r"] none true) false)
      (sequenceSteps [Pattern.embed 0 .unbalanced, letterRule.refTo "r"] none)
      (fun _ h ↦ sizeOf_step_lt h) 0 [] ⟨(Cursor.ofString "ab").mark, #[]⟩ =
      .ok (.done steps) ⟨⟨"ab".toList.toArray, 2, []⟩, #[]⟩ :=
    ⟨_, (search_cons_of_ok (consume_unbalanced_of_cons rfl)).trans (retry_of_done
      ((search_cons_of_ok (consume_letter_within_limit (by decide) #[])).trans
        (retry_of_done search_nil)))⟩
  rw [consumeAt]
  refine consume_of_step_error ?_ rfl
  show step _ (.mk (.sequence [Pattern.embed 0 .unbalanced, letterRule.refTo "r"] none true) false) _ = _
  rw [step]
  simp only [mark_bind]
  obtain ⟨steps, hs⟩ := hsearch
  rw [bind_of_ok (outcome_of_ok hs)]
  exact forgetMark_bind_of_nil _ rfl _

end PopThenRule

end Engine

/-- Raising the limit can change an outcome that did not stop at the limit when a matcher pops
a mark it never pushed: the sequence of such a matcher and the rule `r` over `ab` pops from
an empty mark stack at offset one under a limit of zero, and at offset two under a limit of
one. -/
theorem depth_limit_changes_underflow :
    (popThenRule.consumeTracked letterRule { maxDepth := 0 } (Cursor.ofString "ab")).result =
        .error (.markUnderflow 1) ∧
      (popThenRule.consumeTracked letterRule { maxDepth := 1 } (Cursor.ofString "ab")).result =
        .error (.markUnderflow 2) := by
  constructor
  · simp only [Pattern.consumeTracked, Engine.runOn, Engine.consumeAt_popThenRule_zero]
  · simp only [Pattern.consumeTracked, Engine.runOn, Engine.consumeAt_popThenRule_one]

/-- The rule `r` at the letter `b`: a balanced match that does not stop under a limit of one
runs the same under a limit of two. -/
theorem consumeTracked_raise_depth_letter :
    letterRule.balanced ∧ (letterRule.refTo "r").balanced ∧ ({ maxDepth := 1 } : Config).maxDepth ≤ 2 ∧
      (∀ lim off, ((letterRule.refTo "r").consumeTracked letterRule { maxDepth := 1 }
        ⟨"ab".toList.toArray, 1, []⟩).result ≠ .error (.depthExceeded lim off)) ∧
      (letterRule.refTo "r").consumeTracked letterRule { ({ maxDepth := 1 } : Config) with maxDepth := 2 }
          ⟨"ab".toList.toArray, 1, []⟩ =
        (letterRule.refTo "r").consumeTracked letterRule { maxDepth := 1 } ⟨"ab".toList.toArray, 1, []⟩ := by
  have hstop : ∀ lim off, ((letterRule.refTo "r").consumeTracked letterRule { maxDepth := 1 }
      ⟨"ab".toList.toArray, 1, []⟩).result ≠ .error (.depthExceeded lim off) := by
    intro lim off
    simp only [Pattern.consumeTracked, Engine.runOn, consumeAt,
      Engine.consume_letter_within_limit (show 0 < ({ maxDepth := 1 } : Config).maxDepth by decide)]
    simp
  exact ⟨by decide, by decide, by decide, hstop,
    consumeTracked_raise_depth (by decide) (by decide) _ (by decide) _ hstop⟩

end Backtrack
