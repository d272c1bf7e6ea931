import Backtrack.Proofs.Frame
import Backtrack.Proofs.LengthBounds

/-!
# What a lookaround decides

A lookahead marks the cursor, matches its inner pattern and moves back to the mark. A
lookbehind tries the windows before the cursor, narrowest first, each on a fresh cursor over
its text, for one that the inner pattern matches to its end. Either way the verdict depends
only on whether the inner pattern was found, and the lookaround stays where it stood and
matches nothing.

When the inner pattern stops with nothing but failures, the verdict is the plain one: a
lookahead succeeds exactly when the inner pattern matches at the cursor, and a lookbehind
exactly when some window no wider than the position and the cap of the configuration is
matched in full. Two facts carry this. The lookahead runs the inner pattern above a mark of
its own, and a run that pops no mark it did not push does not see that mark
(`consume_frames`). The lookbehind scans only the widths between the least and the greatest
length of the inner pattern, and every window matched in full has a width between them
(`consume_measured`), so the shorter scan decides the same.

Main statement: `lookaround_decides`.
-/

namespace Backtrack

namespace Cursor

/-- The cursor `c` with its mark stack emptied. -/
def bare (c : Cursor) : Cursor := { c with marks := [] }

@[simp] theorem marks_bare (c : Cursor) : c.bare.marks = [] := rfl

theorem Valid.bare {c : Cursor} (hv : c.Valid) : c.bare.Valid := hv

theorem bare_frame_marks (c : Cursor) : c.bare.frame c.marks = c := rfl

theorem bare_frame_mark (c : Cursor) : c.bare.frame (c.pos :: c.marks) = c.mark := rfl

/-- A window of a cursor has as many characters as its bounds say. -/
theorem size_sub (c : Cursor) {start stop : Nat} (h1 : start ≤ stop) (h2 : stop ≤ c.size) :
    (c.sub start stop).size = stop - start := by
  simp only [sub, textBetween, ofString, size, String.toList_ofList, List.size_toArray,
    Array.length_toList, Array.size_extract]
  simp only [size] at h2
  omega

end Cursor

namespace MatchState

/-- A run from the state with no marks, framed by the marks of `s`, is a run from `s`. -/
theorem frame_bare (s : MatchState) (B : List Nat) :
    ({ s with cursor := s.cursor.bare } : MatchState).frame B #[] =
      { s with cursor := s.cursor.bare.frame B } := by
  simp [frame]

/-- A run on a fresh state, framed by the events of `s`, is a run from `s` on that cursor. -/
theorem frame_fresh (s : MatchState) (w : Cursor) :
    (⟨w, #[]⟩ : MatchState).frame [] s.events = { s with cursor := w } := by
  simp [frame]

end MatchState

namespace Engine

/-- `m` run from `s` decides `holds`: when `holds`, it matches nothing and stays where it stood,
and when not, it fails there. -/
def Decides (m : Engine Matched) (s : MatchState) (holds : Prop) : Prop :=
  (holds ∧ ∃ s', m s = .ok (.fixed .empty) s' ∧ s'.cursor = s.cursor) ∨
    (¬holds ∧ ∃ f s', m s = .error (.failure f) s' ∧ s'.cursor = s.cursor)

/-- Matching stops with no error but a failure, from every cursor inside its text. -/
def OnlyFails (m : Engine Matched) : Prop :=
  ∀ s : MatchState, s.cursor.Valid → ∀ e s', m s = .error e s' → e.recoverable = true

/-- `q` matches the `w` characters before the cursor `c` in full: on a fresh cursor over them,
it ends at their end. -/
def MatchesBefore (cx : Context) (q : Pattern) (c : Cursor) (w : Nat) : Prop :=
  ∃ m s', consume cx q ⟨c.sub (c.pos - w) c.pos, #[]⟩ = .ok m s' ∧ s'.cursor.atEnd = true

/-- Some window before `c`, no wider than the cap of the configuration, is matched by `q` in
full. -/
def LooksBehind (cx : Context) (q : Pattern) (c : Cursor) : Prop :=
  ∃ w, w ≤ c.pos ∧ w ≤ cx.config.maxLookbehind.getD c.pos ∧ MatchesBefore cx q c w

/-- Reporting a failure keeps a match that only fails one. -/
theorem OnlyFails.of_step {cx : Context} {p : Pattern} (h : (step cx p).OnlyFails) : (consume cx p).OnlyFails := by
  intro s hv e s' hs
  rw [consume] at hs
  split at hs
  · cases hs
    rfl
  · exact h s hv e s' hs

/-- A literal only fails. -/
theorem onlyFails_literal (cx : Context) (t : String) : (consume cx (.literal t)).OnlyFails := by
  refine .of_step fun s _ e s' hs ↦ ?_
  rw [Pattern.literal, Pattern.new, step] at hs
  simp only [matchLiteral, cursor_bind] at hs
  split at hs
  · cases hs
  · cases hs
    rfl

section Decides

variable {m m' : Engine Matched} {s : MatchState} {holds : Prop}

/-- A decision carries over to a computation that runs as another from a state at the same
cursor, for a proposition equivalent to the other's. -/
theorem Decides.of_eq {s1 : MatchState} {holds' : Prop} (h : Decides m' s1 holds') (heq : m s = m' s1)
    (hc : s1.cursor = s.cursor) (hiff : holds ↔ holds') : Decides m s holds := by
  rw [Decides, heq, ← hc, hiff]
  exact h

/-- Reporting a failure changes neither the decision nor the cursor. -/
theorem Decides.of_step {cx : Context} {p : Pattern} (h : Decides (step cx p) s holds) :
    Decides (consume cx p) s holds := by
  rcases h with ⟨hh, s', hs, hc⟩ | ⟨hh, f, s', hs, hc⟩
  · refine .inl ⟨hh, s', ?_, hc⟩
    rw [consume, hs]
  · refine .inr ⟨hh, f, { s' with events := s'.events.push (.failed p f) }, ?_, hc⟩
    rw [consume, hs]

/-- A computation that first reaches, at the same cursor, a value with a property, and then goes
on with a continuation that decides `holds` from there for every such value, decides `holds`. -/
theorem Decides.bind {α : Type} {m : Engine α} {f : α → Engine Matched} {Q : α → Prop}
    (hm : ∃ x s1, m s = .ok x s1 ∧ s1.cursor = s.cursor ∧ Q x)
    (hf : ∀ x s1, s1.cursor = s.cursor → Q x → Decides (f x) s1 holds) : Decides (m >>= f) s holds := by
  obtain ⟨x, s1, hm, hc, hx⟩ := hm
  exact (hf x s1 hc hx).of_eq (bind_of_ok hm f) hc Iff.rfl

/-- The verdict of a lookaround decides whether what was found is what was asked for. -/
theorem lookVerdict_decides (p inner : Pattern) (negated found : Bool) (s : MatchState) :
    Decides (lookVerdict p inner negated found) s (found ≠ negated) := by
  unfold lookVerdict Decides
  cases found <;> cases negated <;> simp

end Decides

section Lookaround

variable {cx : Context} {rules : RuleSet} {budget : Nat} {q : Pattern}

/-- A run of `q` that stops with nothing but failures, from a state with the marks of `s`
emptied, is the run from `s` and the run from `s` with its position marked, each framed by the
marks it has; it leaves no mark, and where it fails it leaves the cursor alone. -/
theorem bare_run (hfr : cx.Frames) (hms : cx.Measures rules budget) (hq : OnlyFails (consume cx q))
    {s : MatchState} (hv : s.cursor.Valid) :
    (∃ a s1, consume cx q { s with cursor := s.cursor.bare } = .ok a s1 ∧ s1.cursor.marks = [] ∧
      s1.cursor.text = s.cursor.text ∧ consume cx q s = .ok a (s1.frame s.cursor.marks #[]) ∧
      consume cx q { s with cursor := s.cursor.mark } = .ok a (s1.frame (s.cursor.pos :: s.cursor.marks) #[])) ∨
    (∃ f s1, consume cx q { s with cursor := s.cursor.bare } = .error (.failure f) s1 ∧
      s1.cursor = s.cursor.bare ∧ consume cx q s = .error (.failure f) (s1.frame s.cursor.marks #[]) ∧
      consume cx q { s with cursor := s.cursor.mark } =
        .error (.failure f) (s1.frame (s.cursor.pos :: s.cursor.marks) #[])) := by
  have hframes := consume_frames hfr q
  have hmeas := consume_measured hms q { s with cursor := s.cursor.bare }
  have htidy := consume_tidy hms.tidy q { s with cursor := s.cursor.bare }
  -- the runs from `s` and from its mark are the bare run with the marks put back below
  have hs := hframes { s with cursor := s.cursor.bare } s.cursor.marks #[]
  have hmk := hframes { s with cursor := s.cursor.bare } (s.cursor.pos :: s.cursor.marks) #[]
  rw [MatchState.frame_bare, Cursor.bare_frame_marks] at hs
  rw [MatchState.frame_bare, Cursor.bare_frame_mark] at hmk
  cases h0 : consume cx q { s with cursor := s.cursor.bare } with
  | ok a s1 =>
    rw [h0] at hmeas htidy
    have hmarks : s1.cursor.marks = [] := List.suffix_nil.mp htidy
    refine .inl ⟨a, s1, rfl, hmarks, ((hmeas ⟨hv.bare, hmarks⟩).1).text, hs.ok h0, hmk.ok h0⟩
  | error e s1 =>
    rw [h0] at hmeas htidy
    have hrec := hq { s with cursor := s.cursor.bare } hv.bare e s1 h0
    cases e with
    | failure f =>
      have hmarks : s1.cursor.marks = [] := List.suffix_nil.mp htidy
      exact .inr ⟨f, s1, rfl, hmeas ⟨hv.bare, hmarks⟩ rfl, hs.error h0 rfl, hmk.error h0 rfl⟩
    | _ => simp [MatchError.recoverable] at hrec

/-- A lookahead whose inner pattern stops with nothing but failures decides whether the inner
pattern matches at the cursor. -/
theorem step_nextIs_decides (hfr : cx.Frames) (hms : cx.Measures rules budget) (neg b : Bool)
    (hq : OnlyFails (consume cx q)) {s : MatchState} (hv : s.cursor.Valid) :
    Decides (step cx (.mk (.nextIs neg q) b)) s ((∃ a s', consume cx q s = .ok a s') ↔ neg = false) := by
  rcases bare_run hfr hms hq hv with ⟨a, s1, -, hmarks, htext, hs, hmk⟩ | ⟨f, s1, -, hback, hs, hmk⟩
  · -- found: the pop lands on the lookahead's own mark, back where it started
    have htop : (s1.frame (s.cursor.pos :: s.cursor.marks) #[]).cursor.marks = s.cursor.pos :: s.cursor.marks := by
      simp [hmarks]
    obtain ⟨st, hrun, hst⟩ : ∃ st, step cx (.mk (.nextIs neg q) b) s =
        lookVerdict (.mk (.nextIs neg q) b) q neg true st ∧ st.cursor = s.cursor :=
      ⟨_, by
        rw [step]
        simp only [mark_bind]
        rw [bind_of_ok (outcome_of_ok (attempt_of_ok hmk)), restoreMark_bind _ htop]
        rfl,
        by exact Cursor.restore_of_text htext⟩
    have hfound : ∃ a s', consume cx q s = .ok a s' := ⟨a, _, hs⟩
    refine (lookVerdict_decides _ q neg true st).of_eq hrun hst ?_
    cases neg <;> simp [hfound]
  · -- not found: the failure left the cursor alone, and the pop takes the mark off again
    have htop : (s1.frame (s.cursor.pos :: s.cursor.marks) #[]).cursor.marks = s.cursor.pos :: s.cursor.marks := by
      simp [hback]
    obtain ⟨st, hrun, hst⟩ : ∃ st, step cx (.mk (.nextIs neg q) b) s =
        lookVerdict (.mk (.nextIs neg q) b) q neg false st ∧ st.cursor = s.cursor :=
      ⟨_, by
        rw [step]
        simp only [mark_bind]
        rw [bind_of_ok (outcome_of_ok (attempt_of_failure hmk)), restoreMark_bind _ htop]
        rfl,
        by simp [hback]; rfl⟩
    have hnone : ¬∃ a s', consume cx q s = .ok a s' := by
      rintro ⟨a, s', h⟩
      rw [hs] at h
      cases h
    refine (lookVerdict_decides _ q neg false st).of_eq hrun hst ?_
    cases neg <;> simp [hnone]

/-- The windows of a lookbehind, each matched on a fresh cursor: the scan from `width` to
`limit` keeps the cursor and returns whether some width in that range, up to the position, is
matched in full. The induction follows the scan, one width more at each step. -/
theorem scan_finds (hfr : cx.Frames) (hq : OnlyFails (consume cx q)) {p : Pattern}
    {h : sizeOf q < sizeOf p} {c : Cursor} (hv : c.Valid) {limit : Nat} (width : Nat) (s : MatchState) :
    ∃ found st, scan cx p q h c width limit s = .ok found st ∧ st.cursor = s.cursor ∧
      (found = true ↔ ∃ w, width ≤ w ∧ w ≤ limit ∧ w ≤ c.pos ∧ MatchesBefore cx q c w) := by
  rw [scan]
  by_cases hw : width ≤ limit
  · simp only [if_pos hw]
    by_cases hpos : width ≤ c.pos
    · have hwin : c.windowBefore width = some (c.sub (c.pos - width) c.pos) := by
        rw [Cursor.windowBefore, if_pos hpos]
      simp only [hwin]
      -- the run on the window, with the events of `s` before it, is the fresh run
      have hfresh := consume_frames hfr q ⟨c.sub (c.pos - width) c.pos, #[]⟩ [] s.events
      rw [MatchState.frame_fresh] at hfresh
      -- a width that the scan passes over is one that is not matched in full
      have hnext : ¬MatchesBefore cx q c width → ∀ st, ∃ found st',
          scan cx p q h c (width + 1) limit st = .ok found st' ∧ st'.cursor = st.cursor ∧
            (found = true ↔ ∃ w, width ≤ w ∧ w ≤ limit ∧ w ≤ c.pos ∧ MatchesBefore cx q c w) := by
        intro hno st
        obtain ⟨found, st', hscan, hc, hfound⟩ := scan_finds hfr hq hv (width + 1) st
        refine ⟨found, st', hscan, hc, hfound.trans ⟨fun ⟨w, h1, h2⟩ ↦ ⟨w, by omega, h2⟩,
          fun ⟨w, h1, h2⟩ ↦ ⟨w, ?_, h2⟩⟩⟩
        rcases Nat.lt_or_eq_of_le h1 with h1 | rfl
        · exact h1
        · exact absurd h2.2.2 hno
      cases h0 : consume cx q ⟨c.sub (c.pos - width) c.pos, #[]⟩ with
      | ok a s1 =>
        rw [bind_of_ok (within_of_ok (attempt_of_ok (hfresh.ok h0)))]
        simp only [MatchState.cursor_frame, Cursor.frame_nil]
        by_cases hend : s1.cursor.atEnd = true
        · simp only [hend, if_true, record_bind, pure_apply]
          exact ⟨true, _, rfl, rfl, by simp only [true_iff]; exact ⟨width, le_rfl, hw, hpos, a, s1, h0, hend⟩⟩
        · simp only [hend]
          refine hnext (fun ⟨a', s', hrun, hend'⟩ ↦ ?_) _
          rw [h0] at hrun
          cases hrun
          exact hend hend'
      | error e s1 =>
        have hrec := hq ⟨c.sub (c.pos - width) c.pos, #[]⟩ (Cursor.valid_sub c hv _ _) e s1 h0
        cases e with
        | failure f =>
          rw [bind_of_ok (within_of_ok (attempt_of_failure (hfresh.error h0 rfl)))]
          refine hnext (fun ⟨a', s', hrun, _⟩ ↦ ?_) _
          rw [h0] at hrun
          cases hrun
        | _ => simp [MatchError.recoverable] at hrec
    · have hwin : c.windowBefore width = none := by
        rw [Cursor.windowBefore, if_neg hpos]
      simp only [hwin, pure_apply]
      refine ⟨false, s, rfl, rfl, ?_⟩
      simp only [Bool.false_eq_true, false_iff]
      rintro ⟨w, h1, -, h3, -⟩
      omega
  · simp only [if_neg hw, pure_apply]
    refine ⟨false, s, rfl, rfl, ?_⟩
    simp only [Bool.false_eq_true, false_iff]
    rintro ⟨w, h1, h2, -⟩
    omega
termination_by limit + 1 - width
decreasing_by all_goals omega

/-- A window matched in full has a width that fits the inner pattern's bounds. -/
theorem Pattern.fits_of_matchesBefore (hms : cx.Measures rules budget) {c : Cursor} (hv : c.Valid)
    {w : Nat} (hw : w ≤ c.pos) (h : MatchesBefore cx q c w) : q.Fits w := by
  obtain ⟨a, s1, hrun, hend⟩ := h
  have hmeas := consume_measured hms q ⟨c.sub (c.pos - w) c.pos, #[]⟩
  have htidy := (consume_tidy hms.tidy q).ok hrun
  rw [hrun] at hmeas
  obtain ⟨hfw, hsized⟩ := hmeas ⟨Cursor.valid_sub c hv _ _, List.suffix_nil.mp htidy⟩
  -- the run ends at the end of the window, whose size is the width
  have hsize : s1.cursor.size = w := by
    rw [Cursor.size_eq_of_text hfw.text, Cursor.size_sub c (by omega) hv.1]
    omega
  have hpos : s1.cursor.pos = w := by
    have := hfw.le_size
    simp only [Cursor.atEnd, decide_eq_true_eq] at hend
    omega
  have hfits := hsized.bound_of
  rwa [hpos] at hfits

/-- The widths that a lookbehind scans, from the least length of the inner pattern up to the
position, the cap and the greatest length, hold every window matched in full. -/
theorem scanned_iff_looksBehind (hms : cx.Measures rules budget) {c : Cursor} (hv : c.Valid) :
    (∃ w, q.minLength ≤ w ∧
        w ≤ min c.pos (min (cx.config.maxLookbehind.getD c.pos) (q.maxLength.toFinite?.getD c.pos)) ∧
        w ≤ c.pos ∧ MatchesBefore cx q c w) ↔ LooksBehind cx q c := by
  constructor
  · rintro ⟨w, -, hle, -, hm⟩
    exact ⟨w, by omega, by omega, hm⟩
  · rintro ⟨w, hpos, hcap, hm⟩
    have hfits := Pattern.fits_of_matchesBefore hms hv hpos hm
    have hmax : w ≤ q.maxLength.toFinite?.getD c.pos := by
      cases hq : q.maxLength with
      | finite n => exact hfits.le_of_maxLength hq
      | unbounded => exact hpos
    exact ⟨w, hfits.1, by omega, hpos, hm⟩

/-- A lookbehind whose inner pattern stops with nothing but failures decides whether some
window before the cursor, no wider than the cap, is matched in full. -/
theorem step_prevIs_decides (hfr : cx.Frames) (hms : cx.Measures rules budget) (neg b : Bool)
    (hq : OnlyFails (consume cx q)) {s : MatchState} (hv : s.cursor.Valid) :
    Decides (step cx (.mk (.prevIs neg q) b)) s (LooksBehind cx q s.cursor ↔ neg = false) := by
  rw [step]
  refine Decides.bind (Q := fun c ↦ c = s.cursor) ⟨s.cursor, s, rfl, rfl, rfl⟩ fun c s0 hs0 hc ↦ ?_
  subst hc
  refine Decides.bind (scan_finds hfr hq hv q.minLength s0) fun found st _ hfound ↦ ?_
  refine (lookVerdict_decides _ q neg found st).of_eq rfl rfl ?_
  rw [← scanned_iff_looksBehind hms hv, ← hfound]
  cases found <;> cases neg <;> simp

end Lookaround

end Engine

open Engine

/-- For every inner pattern that stops with nothing but failures, under every rule set and
configuration, at every depth and allowance of nested checks, from every cursor within a text
of fewer than `2 ^ 64` characters: `nextIs q` succeeds exactly when `q` matches at the cursor,
`nextIsNot q` exactly when it does not; `prevIs q` succeeds exactly when some width, up to the
position and the cap on looking behind, leaves a window that `q` matches on a fresh cursor to
its end, and `prevIsNot q` exactly when none does. Each matches nothing and stays where it
stood, marks included, and a lookaround that does not succeed fails there. -/
theorem lookaround_decides (rules : RuleSet) (config : Config) (checks depth : Nat) {q : Pattern}
    (hq : OnlyFails (consumeAt rules config checks depth q)) {s : MatchState} (hv : s.cursor.Valid) :
    Decides (consumeAt rules config checks depth (.nextIs q)) s
        (∃ a s', consumeAt rules config checks depth q s = .ok a s') ∧
      Decides (consumeAt rules config checks depth (.nextIsNot q)) s
        (¬∃ a s', consumeAt rules config checks depth q s = .ok a s') ∧
      Decides (consumeAt rules config checks depth (.prevIs q)) s
        (LooksBehind (contextAt rules config checks depth) q s.cursor) ∧
      Decides (consumeAt rules config checks depth (.prevIsNot q)) s
        (¬LooksBehind (contextAt rules config checks depth) q s.cursor) := by
  have hrun : ∀ p, consumeAt rules config checks depth p = consume (contextAt rules config checks depth) p :=
    fun p ↦ by rw [consumeAt]
  simp only [hrun] at hq ⊢
  have hfr := contextAt_frames rules config checks depth
  have hms := contextAt_measures rules config checks depth
  refine ⟨?_, ?_, ?_, ?_⟩
  · exact (step_nextIs_decides hfr hms false true hq hv).of_step.of_eq rfl rfl (by simp)
  · exact (step_nextIs_decides hfr hms true true hq hv).of_step.of_eq rfl rfl (by simp)
  · exact (step_prevIs_decides hfr hms false true hq hv).of_step.of_eq rfl rfl (by simp)
  · exact (step_prevIs_decides hfr hms true true hq hv).of_step.of_eq rfl rfl (by simp)

/-- The literal `a` looked for around the start of `a`: ahead it is found, behind there is no
window. -/
theorem lookaround_decides_literal :
    OnlyFails (consumeAt (RuleSet.mk 0 []) {} checkAllowance 0 (.literal "a")) ∧
    (Cursor.ofString "a").Valid ∧
    Decides (consumeAt (RuleSet.mk 0 []) {} checkAllowance 0 (.nextIs (.literal "a"))) ⟨Cursor.ofString "a", #[]⟩
        (∃ a s', consumeAt (RuleSet.mk 0 []) {} checkAllowance 0 (.literal "a") ⟨Cursor.ofString "a", #[]⟩ =
          .ok a s') ∧
      Decides (consumeAt (RuleSet.mk 0 []) {} checkAllowance 0 (.nextIsNot (.literal "a")))
        ⟨Cursor.ofString "a", #[]⟩
        (¬∃ a s', consumeAt (RuleSet.mk 0 []) {} checkAllowance 0 (.literal "a") ⟨Cursor.ofString "a", #[]⟩ =
          .ok a s') ∧
      Decides (consumeAt (RuleSet.mk 0 []) {} checkAllowance 0 (.prevIs (.literal "a"))) ⟨Cursor.ofString "a", #[]⟩
        (LooksBehind (contextAt (RuleSet.mk 0 []) {} checkAllowance 0) (.literal "a") (Cursor.ofString "a")) ∧
      Decides (consumeAt (RuleSet.mk 0 []) {} checkAllowance 0 (.prevIsNot (.literal "a")))
        ⟨Cursor.ofString "a", #[]⟩
        (¬LooksBehind (contextAt (RuleSet.mk 0 []) {} checkAllowance 0) (.literal "a") (Cursor.ofString "a")) := by
  have hq : OnlyFails (consumeAt (RuleSet.mk 0 []) {} checkAllowance 0 (.literal "a")) := by
    rw [consumeAt]
    exact onlyFails_literal _ "a"
  have hv : (Cursor.ofString "a").Valid := by
    unfold Cursor.Valid
    decide
  exact ⟨hq, hv, lookaround_decides (RuleSet.mk 0 []) {} checkAllowance 0 hq (s := ⟨Cursor.ofString "a", #[]⟩) hv⟩

end Backtrack
