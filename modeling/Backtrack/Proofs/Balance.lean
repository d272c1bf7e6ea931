import Backtrack.Proofs.Contract

/-!
# Balanced patterns keep the mark stack

Every combinator pushes one mark before it tries something and pops it, by moving back to
it or by dropping it, on every way out: success, failure and every error. Only an embedded
matcher that pops a mark it never pushed (`Embedded.unbalanced`) breaks this. A pattern
without one, whose rules lead only to patterns without one, is balanced: matching it leaves
the mark stack exactly as it found it, whatever the outcome, from every cursor. Unlike the
contract of matching, this needs no bound on the text, and it covers named grammars, with
any bad pattern, and matchers that stop at once.

Each loop of the engine keeps the stack, or pops exactly the mark its combinator pushed, when
the patterns it calls keep it; the patterns then keep it by recursion on their size, and
matching under a rule set by induction on the nesting levels left.

Main statement: `consumeAt_keepsMarks`.
-/

namespace Backtrack

namespace Pattern

mutual
/-- A pattern that pops no mark it did not push: it embeds no `unbalanced` matcher, in its
grammars' bodies and bad patterns included. -/
def balanced : Pattern → Bool
  | mk s _ => shapeBalanced s

/-- `balanced` by shape. -/
def shapeBalanced : Shape → Bool
  | .nextIs _ inner | .prevIs _ inner | .repetition inner _ _ | .group inner | .flatten inner
  | .select inner _ | .token inner => balanced inner
  | .sequence cs none _ => allBalanced cs
  | .sequence cs (some sep) _ => allBalanced cs && balanced sep
  | .choice cs _ => allBalanced cs
  | .separated sep elem _ _ => balanced sep && balanced elem
  | .embed _ m => embeddedBalanced m
  | .char _ | .run _ | .whitespace _ | .literal _ | .regex _ | .boundary _ | .rule _ => true

/-- `balanced` of an embedded matcher. -/
def embeddedBalanced : Embedded → Bool
  | .grammar _ body none => balanced body
  | .grammar _ body (some bad) => balanced body && balanced bad
  | .shared inner => balanced inner
  | .broken => true
  | .unbalanced => false

/-- Whether every pattern of the list is balanced. -/
def allBalanced : List Pattern → Bool
  | [] => true
  | p :: ps => balanced p && allBalanced ps
end

theorem allBalanced_iff {cs : List Pattern} : allBalanced cs ↔ ∀ q ∈ cs, q.balanced := by
  induction cs with
  | nil => simp [allBalanced]
  | cons p ps ih => simp [allBalanced, ih]

/-- Every step of a balanced sequence is balanced, separators included. -/
theorem balanced_of_mem_sequenceSteps {cs : List Pattern} {sep : Option Pattern} {auto b : Bool}
    (hp : (mk (.sequence cs sep auto) b).balanced) {q : Pattern} (hq : q ∈ sequenceSteps cs sep) :
    q.balanced := by
  rcases mem_sequenceSteps hq with hc | rfl
  · cases sep <;> simp only [balanced, shapeBalanced, Bool.and_eq_true] at hp
    · exact allBalanced_iff.mp hp q hc
    · exact allBalanced_iff.mp hp.1 q hc
  · simp only [balanced, shapeBalanced, Bool.and_eq_true] at hp
    exact hp.2

theorem allBalanced_sequenceParts (p : Pattern) : allBalanced p.sequenceParts = p.balanced := by
  unfold sequenceParts
  split
  · rfl
  · simp [allBalanced]

/-- A sum is balanced exactly when both its parts are. -/
theorem balanced_append (a b : Pattern) : (a + b).balanced ↔ a.balanced ∧ b.balanced := by
  show allBalanced (a.sequenceParts ++ b.sequenceParts) ↔ _
  rw [← allBalanced_sequenceParts a, ← allBalanced_sequenceParts b]
  simp only [allBalanced_iff, List.mem_append]
  exact ⟨fun h ↦ ⟨fun q hq ↦ h q (.inl hq), fun q hq ↦ h q (.inr hq)⟩,
    fun h q hq ↦ hq.elim (h.1 q) (h.2 q)⟩

end Pattern

/-- The check of a bad pattern is balanced when the bad pattern is: the anchors are
boundaries. -/
theorem balanced_anchored {bad : Pattern} (h : bad.balanced) : (anchored bad).balanced := by
  unfold anchored
  simp only [Pattern.balanced_append]
  exact ⟨⟨rfl, h⟩, rfl⟩

namespace RuleSet

/-- A rule set whose defined rules are all balanced. -/
def balanced (rs : RuleSet) : Bool := rs.entries.all fun e ↦ e.2.all Pattern.balanced

/-- A reference into a balanced rule set leads to a balanced pattern. -/
theorem balanced_of_target? {rs : RuleSet} (hrs : rs.balanced) {r : RuleRef} {t : Pattern}
    (ht : rs.target? r = some t) : t.balanced :=
  all_of_target? hrs ht

end RuleSet

namespace Engine

variable {α : Type}

/-- A computation that leaves the mark stack as it found it, whatever its outcome. -/
def KeepsMarks (m : Engine α) : Prop :=
  ∀ s : MatchState, Ends (m s) (fun _ c ↦ c.marks = s.cursor.marks) (fun _ c ↦ c.marks = s.cursor.marks)

/-- A computation that, started with the mark `k` on top of `ms`, pops it on every way out. -/
def PopsMark (m : Engine α) (k : Nat) (ms : List Nat) (s : MatchState) : Prop :=
  s.cursor.marks = k :: ms → Ends (m s) (fun _ c ↦ c.marks = ms) (fun _ c ↦ c.marks = ms)

theorem KeepsMarks.ok {m : Engine α} (h : m.KeepsMarks) {s s' : MatchState} {a : α}
    (hm : m s = .ok a s') : s'.cursor.marks = s.cursor.marks := by
  have hs := h s
  rwa [hm] at hs

theorem KeepsMarks.error {m : Engine α} (h : m.KeepsMarks) {s s' : MatchState} {e : MatchError}
    (hm : m s = .error e s') : s'.cursor.marks = s.cursor.marks := by
  have hs := h s
  rwa [hm] at hs

theorem KeepsMarks.outcome {m : Engine α} (h : m.KeepsMarks) : (outcome m).KeepsMarks := by
  intro s
  have hs := h s
  cases hm : m s with
  | ok a s' => rw [hm] at hs; rw [outcome_of_ok hm]; exact hs
  | error e s' => rw [hm] at hs; rw [outcome_of_error hm]; exact hs

theorem KeepsMarks.attempt {m : Engine α} (h : m.KeepsMarks) : (attempt m).KeepsMarks := by
  intro s
  have hs := h s
  cases hm : m s with
  | ok a s' => rw [hm] at hs; rw [attempt_of_ok hm]; exact hs
  | error e s' =>
    rw [hm] at hs
    cases e with
    | failure f => rw [attempt_of_failure hm]; exact hs
    | _ => rw [attempt_of_error hm rfl]; exact hs

/-- Running `m` and then `f`, each keeping the marks, keeps them. -/
theorem KeepsMarks.bind {β : Type} {m : Engine α} {f : α → Engine β} (hm : m.KeepsMarks)
    (hf : ∀ a, (f a).KeepsMarks) : (m >>= f).KeepsMarks := by
  intro s
  refine Ends.bind (hm s) (fun _ _ h ↦ h) fun a s' _ hs' ↦ ?_
  exact (hf a s').mono (fun _ _ h ↦ h.trans hs') fun _ _ h ↦ h.trans hs'

/-- A step that keeps the marks makes a match that keeps them: reporting a failure does not
touch the cursor. -/
theorem KeepsMarks.of_step {cx : Context} {p : Pattern} (h : (step cx p).KeepsMarks) :
    (consume cx p).KeepsMarks := by
  intro s
  have hs := h s
  rw [consume]
  split
  · rename_i f s' hstep
    rw [hstep] at hs
    exact hs
  · assumption

/-! ### The primitive patterns -/

theorem matchChar_keepsMarks (p : Pattern) (cls : CharClass) : (matchChar p cls).KeepsMarks := by
  intro s
  simp only [matchChar, cursor_bind]
  cases s.cursor.get 0 with
  | error e => rfl
  | ok ch =>
    by_cases hacc : cls.accepts ch
    · simp [hacc]
    · simp [hacc]

/-- The end of a run of `count` characters pops the mark the run pushed, whether it moves
back to it or drops it. -/
theorem runEnd_keepsMarks (s : MatchState) (count lo : Nat) (p : Pattern) :
    Ends ((if count < lo then (restoreMark >>= fun _ ↦ fail (·.expected p))
      else (forgetMark >>= fun _ ↦ cursor >>= fun c' ↦
        pure (⟨.text (c'.takenSince s.cursor.pos), List.replicate count ⟨1, 1⟩⟩ : Matched)))
        { cursor := s.cursor.mark.advance count, events := s.events })
      (fun _ c ↦ c.marks = s.cursor.marks) (fun _ c ↦ c.marks = s.cursor.marks) := by
  by_cases hlo : count < lo
  · rw [if_pos hlo, restoreMark_bind _ rfl]
    rfl
  · rw [if_neg hlo, forgetMark_bind _ rfl]
    rfl

theorem matchRun_keepsMarks (cfg : Config) (p : Pattern) (r : Run) : (matchRun cfg p r).KeepsMarks := by
  intro s
  simp only [matchRun, mark_bind, cursor_bind, setCursor_bind]
  exact runEnd_keepsMarks s _ r.min p

theorem matchLiteral_keepsMarks (p : Pattern) (t : String) : (matchLiteral p t).KeepsMarks := by
  intro s
  simp only [matchLiteral, cursor_bind]
  split <;> simp

theorem matchRegex_keepsMarks (p : Pattern) (rx : RegexNode) : (matchRegex p rx).KeepsMarks := by
  intro s
  simp only [matchRegex, cursor_bind]
  cases rx.compiled.captures (String.ofList s.cursor.rest) with
  | none => rfl
  | some caps => simp only [setCursor_bind, pure_apply, ends_ok, Cursor.marks_advance]

theorem matchBoundary_keepsMarks (p : Pattern) (b : Boundary) : (matchBoundary p b).KeepsMarks := by
  intro s
  simp only [matchBoundary, cursor_bind]
  split <;> simp

theorem lookVerdict_keepsMarks (p inner : Pattern) (negated found : Bool) :
    (lookVerdict p inner negated found).KeepsMarks := by
  intro s
  unfold lookVerdict
  split
  · rfl
  · split <;> rfl

/-! ### The loops -/

end Engine

/-- What a context needs for matching to keep the marks: entering a rule and checking a bad
pattern keep them. -/
structure Context.KeepsMarks (cx : Context) : Prop where
  enter : ∀ r, (cx.enter r).KeepsMarks
  rejects : ∀ bad text, (cx.rejects bad text).KeepsMarks

namespace Engine

variable {α : Type}

section Loops

variable {cx : Context} {p : Pattern}

/-- The windows of a lookbehind are matched on cursors of their own, and the cursor is put
back after each. -/
theorem scan_keepsMarks {inner : Pattern} {h : sizeOf inner < sizeOf p} (c : Cursor) (width limit : Nat) :
    (scan cx p inner h c width limit).KeepsMarks := by
  intro s
  rw [scan]
  by_cases hw : width ≤ limit
  · rw [if_pos hw]
    cases c.windowBefore width with
    | none => rfl
    | some w =>
      simp only
      cases hr : attempt (consume cx inner) { s with cursor := w } with
      | ok r s1 =>
        simp only [bind_of_ok (within_of_ok hr)]
        cases r with
        | ok a =>
          simp only
          split
          · rfl
          · exact scan_keepsMarks c (width + 1) limit _
        | error f => exact scan_keepsMarks c (width + 1) limit _
      | error e s1 =>
        simp only [bind_of_ok (within_of_error hr)]
        rfl
  · rw [if_neg hw]
    rfl
termination_by limit + 1 - width
decreasing_by all_goals omega

theorem retry_keepsMarks {q : Pattern} {rest : List Pattern} (h : ∀ q' ∈ q :: rest, sizeOf q' < sizeOf p)
    (hrest : ∀ hr j acc, (search cx p rest hr j acc).KeepsMarks) (j start : Nat)
    (acc : List (Pattern × Matched)) (m : Matched) : (retry cx p q rest h j start m acc).KeepsMarks := by
  intro s
  have hs := hrest (fun q' hq ↦ h q' (List.mem_cons_of_mem _ hq)) (j + 1) (acc ++ [(q, m)]) s
  cases hsr : search cx p rest (fun q' hq ↦ h q' (List.mem_cons_of_mem _ hq)) (j + 1)
      (acc ++ [(q, m)]) s with
  | error e s1 => rw [hsr] at hs; rw [retry_of_error hsr]; exact hs
  | ok r s1 =>
    rw [hsr] at hs
    cases r with
    | done steps => rw [retry_of_done hsr]; exact hs
    | stuck f k =>
      cases hg : cx.giveBack q m with
      | none => rw [retry_of_stuck hsr hg]; exact hs
      | some r =>
        obtain ⟨m', g⟩ := r
        rw [retry_of_giveBack hsr hg]
        exact (retry_keepsMarks h hrest j start acc m' _).mono (fun _ _ h' ↦ h'.trans hs)
          fun _ _ h' ↦ h'.trans hs
termination_by m.pieces.length
decreasing_by exact cx.giveBack_shrinks q m (m', g) hg

theorem search_keepsMarks (steps : List Pattern) (hsteps : ∀ q ∈ steps, (consume cx q).KeepsMarks) :
    ∀ h j acc, (search cx p steps h j acc).KeepsMarks := by
  induction steps with
  | nil =>
    intro h j acc s
    rw [search_nil]
    rfl
  | cons q rest ih =>
    intro h j acc s
    have hq := hsteps q (List.mem_cons_self ..) s
    have hrest := ih fun q' hq' ↦ hsteps q' (List.mem_cons_of_mem _ hq')
    cases hc : consume cx q s with
    | ok m s1 =>
      rw [hc] at hq
      rw [search_cons_of_ok hc]
      exact (retry_keepsMarks h hrest j s.cursor.pos acc m s1).mono (fun _ _ h' ↦ h'.trans hq)
        fun _ _ h' ↦ h'.trans hq
    | error e s1 =>
      rw [hc] at hq
      cases e with
      | failure f => rw [search_cons_of_failure hc]; exact hq
      | _ => rw [search_cons_of_error hc rfl]; exact hq

/-- The alternatives of a choice, tried under the choice's mark, pop that mark. -/
theorem choose_popsMark {k : Nat} {ms : List Nat} (rest : List Pattern)
    (hcs : ∀ q ∈ rest, (consume cx q).KeepsMarks) (h : ∀ q ∈ rest, sizeOf q < sizeOf p)
    (s : MatchState) : (choose cx p rest h).PopsMark k ms s := by
  intro hs
  induction rest generalizing s with
  | nil =>
    rw [choose.eq_1, restoreMark_bind _ hs]
    rfl
  | cons q more ih =>
    have hq := hcs q (List.mem_cons_self ..) s
    rw [choose.eq_2]
    cases hc : consume cx q s with
    | ok m s1 =>
      rw [hc] at hq
      simp only [bind_of_ok (outcome_of_ok hc), forgetMark_bind _ (hq.trans hs)]
      rfl
    | error e s1 =>
      rw [hc] at hq
      simp only [bind_of_ok (outcome_of_error hc)]
      cases e with
      | failure f =>
        simp only [restoreMark_bind _ (hq.trans hs), mark_bind]
        exact ih (fun q' hq' ↦ hcs q' (List.mem_cons_of_mem _ hq'))
          (fun q' hq' ↦ h q' (List.mem_cons_of_mem _ hq')) _ rfl
      | _ =>
        simp only [restoreMark_bind _ (hq.trans hs)]
        rfl

/-- The rounds of a repetition keep its mark while they go on and pop it when they stop with
an error. -/
theorem rounds_marks {inner : Pattern} {h : sizeOf inner < sizeOf p} {lo : Nat}
    (hin : (consume cx inner).KeepsMarks) {k : Nat} {ms : List Nat} (left : Nat) :
    ∀ (items : Array Fragment) (pieces : Array Piece) (s : MatchState), s.cursor.marks = k :: ms →
      Ends (rounds cx p inner h lo left items pieces s) (fun _ c ↦ c.marks = k :: ms)
        (fun _ c ↦ c.marks = ms) := by
  induction left with
  | zero =>
    intro items pieces s hs
    rw [rounds.eq_1]
    exact hs
  | succ left ih =>
    intro items pieces s hs
    have hq := hin s
    rw [rounds.eq_2]
    simp only [position_bind]
    cases hc : consume cx inner s with
    | ok m s1 =>
      rw [hc] at hq
      simp only [bind_of_ok (outcome_of_ok hc), position_bind]
      split
      · exact hq.trans hs
      · exact ih _ _ s1 (hq.trans hs)
    | error e s1 =>
      rw [hc] at hq
      simp only [bind_of_ok (outcome_of_error hc)]
      cases e with
      | failure f => exact hq.trans hs
      | _ =>
        simp only [restoreMark_bind _ (hq.trans hs)]
        rfl

/-- The rounds of a separated list: as for a repetition, where a round with a separator
brackets it with a mark of its own. -/
theorem listRounds_marks {sep elem : Pattern} {hs : sizeOf sep < sizeOf p} {he : sizeOf elem < sizeOf p}
    {lo : Nat} (hsep : (consume cx sep).KeepsMarks) (helem : (consume cx elem).KeepsMarks)
    {k : Nat} {ms : List Nat} (left : Nat) :
    ∀ (items : Array Fragment) (pieces : Array Piece) (s : MatchState), s.cursor.marks = k :: ms →
      Ends (listRounds cx p sep elem hs he lo left items pieces s) (fun _ c ↦ c.marks = k :: ms)
        (fun _ c ↦ c.marks = ms) := by
  induction left with
  | zero =>
    intro items pieces s h0
    rw [listRounds.eq_1]
    exact h0
  | succ left ih =>
    intro items pieces s h0
    -- whatever a round found, it ends with the mark of the list on top
    have hsome : ∀ (s1 : MatchState) (items' : Array Fragment) (n : Nat), s1.cursor.marks = k :: ms →
        Ends ((position >>= fun pos ↦
            if Word.wrapSub pos s.cursor.pos = 0 ∧ pieces.size ≥ lo then pure (items, pieces)
            else listRounds cx p sep elem hs he lo left items'
              (pieces.push ⟨Word.wrapSub pos s.cursor.pos, n⟩)) s1)
          (fun _ c ↦ c.marks = k :: ms) (fun _ c ↦ c.marks = ms) := by
      intro s1 items' n h1
      simp only [position_bind]
      split
      · exact h1
      · exact ih _ _ s1 h1
    have hnone : ∀ s1 : MatchState, s1.cursor.marks = k :: ms →
        Ends ((pure (items, pieces) : Engine _) s1) (fun _ c ↦ c.marks = k :: ms)
          (fun _ c ↦ c.marks = ms) := fun _ h1 ↦ h1
    have herror : ∀ (s1 : MatchState) (e : MatchError), s1.cursor.marks = k :: ms →
        Ends ((restoreMark >>= fun _ ↦ throw e : Engine (Array Fragment × Array Piece)) s1)
          (fun _ c ↦ c.marks = k :: ms) (fun _ c ↦ c.marks = ms) := by
      intro s1 e h1
      simp only [restoreMark_bind _ h1]
      rfl
    rw [listRounds.eq_2]
    simp only [position_bind, pure_bind]
    by_cases hemp : pieces.isEmpty
    · rw [if_pos hemp]
      have hq := helem s
      cases hc : consume cx elem s with
      | ok me s1 =>
        rw [hc] at hq
        simp only [bind_of_ok (outcome_of_ok hc)]
        exact hsome s1 _ _ (hq.trans h0)
      | error e s1 =>
        rw [hc] at hq
        simp only [bind_of_ok (outcome_of_error hc)]
        cases e with
        | failure f => exact hnone s1 (hq.trans h0)
        | _ => exact herror s1 _ (hq.trans h0)
    · rw [if_neg hemp]
      simp only [mark_bind]
      have hq := hsep { s with cursor := s.cursor.mark }
      cases hc : consume cx sep { s with cursor := s.cursor.mark } with
      | ok msep s1 =>
        rw [hc] at hq
        have hd := helem s1
        simp only [bind_of_ok (outcome_of_ok hc)]
        cases hc' : consume cx elem s1 with
        | ok me s2 =>
          rw [hc'] at hd
          have h2 : s2.cursor.marks = s.cursor.pos :: k :: ms := by rw [hd, hq, Cursor.marks_mark, h0]
          simp only [bind_of_ok (outcome_of_ok hc'), forgetMark_bind _ h2]
          exact hsome _ _ _ rfl
        | error e s2 =>
          rw [hc'] at hd
          have h2 : s2.cursor.marks = s.cursor.pos :: k :: ms := by rw [hd, hq, Cursor.marks_mark, h0]
          simp only [bind_of_ok (outcome_of_error hc')]
          cases e with
          | failure f =>
            simp only [record_bind]
            rw [restoreMark_bind_mk _ h2]
            exact hnone _ rfl
          | _ =>
            simp only [restoreMark_bind _ h2]
            exact herror _ _ rfl
      | error e s1 =>
        rw [hc] at hq
        have h1 : s1.cursor.marks = s.cursor.pos :: k :: ms := by rw [hq, Cursor.marks_mark, h0]
        simp only [bind_of_ok (outcome_of_error hc)]
        cases e with
        | failure f =>
          simp only [restoreMark_bind _ h1]
          exact hnone _ rfl
        | _ =>
          simp only [restoreMark_bind _ h1]
          exact herror _ _ rfl

end Loops

/-! ### Each shape of pattern -/

section Shapes

variable {cx : Context} {inner : Pattern} {b : Bool}

theorem step_nextIs_keepsMarks (neg : Bool) (hin : (consume cx inner).KeepsMarks) :
    (step cx (.mk (.nextIs neg inner) b)).KeepsMarks := by
  intro s
  rw [step]
  simp only [mark_bind]
  have hq := hin { s with cursor := s.cursor.mark }
  cases hc : consume cx inner { s with cursor := s.cursor.mark } with
  | ok a s1 =>
    rw [hc] at hq
    simp only [bind_of_ok (outcome_of_ok (attempt_of_ok hc)), restoreMark_bind _ hq]
    exact lookVerdict_keepsMarks _ _ _ _ _
  | error e s1 =>
    rw [hc] at hq
    cases e with
    | failure f =>
      simp only [bind_of_ok (outcome_of_ok (attempt_of_failure hc)), restoreMark_bind _ hq]
      exact lookVerdict_keepsMarks _ _ _ _ _
    | _ =>
      simp only [bind_of_ok (outcome_of_error (attempt_of_error hc rfl)), restoreMark_bind _ hq]
      rfl

theorem step_prevIs_keepsMarks (neg : Bool) : (step cx (.mk (.prevIs neg inner) b)).KeepsMarks := by
  intro s
  rw [step]
  simp only [cursor_bind]
  refine Ends.bind (scan_keepsMarks _ _ _ s) (fun _ _ h ↦ h) fun found s1 _ hs1 ↦ ?_
  exact (lookVerdict_keepsMarks _ _ _ _ s1).mono (fun _ _ h ↦ h.trans hs1) fun _ _ h ↦ h.trans hs1

theorem step_sequence_keepsMarks {cs : List Pattern} {sep : Option Pattern} {auto : Bool}
    (hsteps : ∀ q ∈ sequenceSteps cs sep, (consume cx q).KeepsMarks) :
    (step cx (.mk (.sequence cs sep auto) b)).KeepsMarks := by
  intro s
  rw [step]
  simp only [mark_bind]
  have hsearch := search_keepsMarks (p := .mk (.sequence cs sep auto) b) _ hsteps
    (fun _ h ↦ sizeOf_step_lt h) 0 [] { s with cursor := s.cursor.mark }
  cases hr : search cx (.mk (.sequence cs sep auto) b) (sequenceSteps cs sep)
      (fun _ h ↦ sizeOf_step_lt h) 0 [] { s with cursor := s.cursor.mark } with
  | ok r s1 =>
    rw [hr] at hsearch
    simp only [bind_of_ok (outcome_of_ok hr)]
    cases r with
    | done steps =>
      simp only [forgetMark_bind _ hsearch]
      rfl
    | stuck f j =>
      simp only [record_bind]
      rw [restoreMark_bind_mk _ hsearch]
      rfl
  | error e s1 =>
    rw [hr] at hsearch
    simp only [bind_of_ok (outcome_of_error hr), restoreMark_bind _ hsearch]
    rfl

theorem step_choice_keepsMarks {cs : List Pattern} {auto : Bool}
    (hcs : ∀ q ∈ cs, (consume cx q).KeepsMarks) : (step cx (.mk (.choice cs auto) b)).KeepsMarks := by
  intro s
  rw [step]
  simp only [mark_bind]
  exact choose_popsMark cs hcs _ _ rfl

theorem step_repetition_keepsMarks {lo : Nat} {hi : Option Nat} (hin : (consume cx inner).KeepsMarks) :
    (step cx (.mk (.repetition inner lo hi) b)).KeepsMarks := by
  intro s
  rw [step]
  simp only [mark_bind]
  refine Ends.bind (rounds_marks hin _ #[] #[] _ rfl) (fun _ _ h ↦ h) ?_
  rintro ⟨items, pieces⟩ s1 _ h1
  split
  · simp only [restoreMark_bind _ h1]
    rfl
  · simp only [forgetMark_bind _ h1]
    rfl

theorem step_separated_keepsMarks {sep elem : Pattern} {lo : Nat} {hi : Option Nat}
    (hsep : (consume cx sep).KeepsMarks) (helem : (consume cx elem).KeepsMarks) :
    (step cx (.mk (.separated sep elem lo hi) b)).KeepsMarks := by
  intro s
  rw [step]
  simp only [mark_bind]
  refine Ends.bind (listRounds_marks hsep helem _ #[] #[] _ rfl) (fun _ _ h ↦ h) ?_
  rintro ⟨items, pieces⟩ s1 _ h1
  split
  · simp only [restoreMark_bind _ h1]
    rfl
  · simp only [forgetMark_bind _ h1]
    rfl

theorem step_group_keepsMarks (hin : (consume cx inner).KeepsMarks) :
    (step cx (.mk (.group inner) b)).KeepsMarks := by
  rw [step]
  exact KeepsMarks.bind (fun s ↦ rfl) fun start ↦ hin.bind fun m ↦ KeepsMarks.bind (fun s ↦ rfl)
    fun c ↦ fun s ↦ rfl

theorem step_flatten_keepsMarks (hin : (consume cx inner).KeepsMarks) :
    (step cx (.mk (.flatten inner) b)).KeepsMarks := by
  rw [step]
  exact hin.bind fun m s ↦ rfl

theorem step_select_keepsMarks {sel : Selection} (hin : (consume cx inner).KeepsMarks) :
    (step cx (.mk (.select inner sel) b)).KeepsMarks := by
  rw [step]
  exact hin.bind fun m s ↦ rfl

theorem step_token_keepsMarks (hin : (consume cx inner).KeepsMarks) :
    (step cx (.mk (.token inner) b)).KeepsMarks := by
  intro s
  rw [step]
  simp only [mark_bind, skipWhitespace_bind]
  have hq := hin { s with cursor := s.cursor.mark.advance ((s.cursor.mark.rest.takeWhile cx.config.isWhitespace).length) }
  cases hc : consume cx inner { s with cursor := s.cursor.mark.advance ((s.cursor.mark.rest.takeWhile cx.config.isWhitespace).length) } with
  | ok m s1 =>
    rw [hc] at hq
    simp only [bind_of_ok (outcome_of_ok hc), skipWhitespace_bind]
    rw [forgetMark_bind_mk _ (show (s1.cursor.advance _).marks = s.cursor.pos :: s.cursor.marks from hq)]
    rfl
  | error e s1 =>
    rw [hc] at hq
    simp only [bind_of_ok (outcome_of_error hc), restoreMark_bind _ hq]
    rfl

/-- A grammar keeps the marks: its check runs on a cursor of its own, and a rejected match
only moves the cursor back. -/
theorem step_grammar_keepsMarks (hcx : cx.KeepsMarks) {tag : Nat} {name : String} {bad : Option Pattern}
    (hin : (consume cx inner).KeepsMarks) : (step cx (.mk (.embed tag (.grammar name inner bad)) b)).KeepsMarks := by
  intro s
  rw [step]
  simp only [position_bind]
  refine Ends.bind (hin s) (fun _ _ h ↦ h) fun m s1 _ h1 ↦ ?_
  cases bad with
  | none => exact h1
  | some bad =>
    refine Ends.bind (hcx.rejects bad _ s1) (fun _ _ h ↦ h.trans h1) fun rejected s2 _ h2 ↦ ?_
    cases rejected with
    | true => exact h2.trans h1
    | false => exact h2.trans h1

end Shapes

/-! ### Balanced patterns -/

/-- A balanced pattern keeps the marks in every context whose rules and checks keep them: by
recursion on the size of the pattern, each shape from its own lemma. -/
theorem consume_keepsMarks {cx : Context} (hcx : cx.KeepsMarks) :
    ∀ p : Pattern, p.balanced → (consume cx p).KeepsMarks
  | .mk (.char cls) _, _ => .of_step (by rw [step]; exact matchChar_keepsMarks _ _)
  | .mk (.run r) _, _ => .of_step (by rw [step]; exact matchRun_keepsMarks _ _ _)
  | .mk (.whitespace r) _, _ => .of_step (by rw [step]; exact matchRun_keepsMarks _ _ _)
  | .mk (.literal t) _, _ => .of_step (by rw [step]; exact matchLiteral_keepsMarks _ _)
  | .mk (.regex rx) _, _ => .of_step (by rw [step]; exact matchRegex_keepsMarks _ _)
  | .mk (.boundary k) _, _ => .of_step (by rw [step]; exact matchBoundary_keepsMarks _ _)
  | .mk (.nextIs neg inner) _, hp =>
    .of_step (step_nextIs_keepsMarks neg (consume_keepsMarks hcx inner hp))
  | .mk (.prevIs neg inner) _, _ => .of_step (step_prevIs_keepsMarks neg)
  | .mk (.sequence cs sep auto) _, hp =>
    .of_step (step_sequence_keepsMarks fun q hq ↦
      consume_keepsMarks hcx q (Pattern.balanced_of_mem_sequenceSteps hp hq))
  | .mk (.choice cs auto) _, hp =>
    .of_step (step_choice_keepsMarks fun q hq ↦
      consume_keepsMarks hcx q (Pattern.allBalanced_iff.mp hp q hq))
  | .mk (.repetition inner lo hi) _, hp =>
    .of_step (step_repetition_keepsMarks (consume_keepsMarks hcx inner hp))
  | .mk (.separated sep elem lo hi) _, hp =>
    have hboth : sep.balanced ∧ elem.balanced := by
      simpa [Pattern.balanced, Pattern.shapeBalanced] using hp
    .of_step (step_separated_keepsMarks (consume_keepsMarks hcx sep hboth.1)
      (consume_keepsMarks hcx elem hboth.2))
  | .mk (.group inner) _, hp => .of_step (step_group_keepsMarks (consume_keepsMarks hcx inner hp))
  | .mk (.flatten inner) _, hp => .of_step (step_flatten_keepsMarks (consume_keepsMarks hcx inner hp))
  | .mk (.select inner sel) _, hp => .of_step (step_select_keepsMarks (consume_keepsMarks hcx inner hp))
  | .mk (.token inner) _, hp => .of_step (step_token_keepsMarks (consume_keepsMarks hcx inner hp))
  | .mk (.rule ref) _, _ => .of_step (by rw [step]; exact hcx.enter ref)
  | .mk (.embed tag (.grammar name body bad)) _, hp =>
    have hbody : body.balanced := by
      cases bad <;> simp_all [Pattern.balanced, Pattern.shapeBalanced, Pattern.embeddedBalanced]
    .of_step (step_grammar_keepsMarks hcx (consume_keepsMarks hcx body hbody))
  | .mk (.embed tag (.shared inner)) _, hp =>
    .of_step (by rw [step]; exact consume_keepsMarks hcx inner hp)
  | .mk (.embed _ .broken) _, _ => .of_step (by rw [step]; exact fun s ↦ rfl)
  | .mk (.embed _ .unbalanced) _, hp =>
    absurd hp (by simp [Pattern.balanced, Pattern.shapeBalanced, Pattern.embeddedBalanced])
termination_by p => sizeOf p
decreasing_by
  all_goals first
    | (simp only [Pattern.mk.sizeOf_spec, Shape.nextIs.sizeOf_spec,
        Shape.repetition.sizeOf_spec, Shape.separated.sizeOf_spec, Shape.group.sizeOf_spec,
        Shape.flatten.sizeOf_spec, Shape.select.sizeOf_spec, Shape.token.sizeOf_spec,
        Shape.embed.sizeOf_spec, Embedded.shared.sizeOf_spec, Embedded.grammar.sizeOf_spec]; omega)
    | exact sizeOf_step_lt ‹_›
    | exact sizeOf_choice_lt ‹_›

end Engine

/-- The checks of a grammar run on a cursor of their own, so they keep the marks, whatever
the bad pattern. -/
theorem rejects_keepsMarks (rules : RuleSet) (config : Config) (checks depth : Nat) (bad : Pattern)
    (text : String) : ((contextAt rules config checks depth).rejects bad text).KeepsMarks := by
  intro s
  rw [contextAt]
  dsimp only
  cases checks with
  | zero => rfl
  | succ c =>
    simp only
    cases hr : consumeAt rules config c 0 (anchored bad) { s with cursor := Cursor.ofString text } with
    | ok a s1 =>
      simp only [Engine.bind_of_ok (Engine.within_of_ok hr)]
      rfl
    | error e s1 =>
      simp only [Engine.bind_of_ok (Engine.within_of_error hr)]
      cases e <;> rfl

/-- Matching under a balanced rule set keeps the marks at every depth: entering a rule either
stops at once or matches a balanced pattern one level deeper. -/
theorem contextAt_keepsMarks {rules : RuleSet} (hrs : rules.balanced) (config : Config) (checks depth : Nat) :
    (contextAt rules config checks depth).KeepsMarks := by
  refine ⟨fun ref s ↦ ?_, rejects_keepsMarks rules config checks depth⟩
  rw [contextAt]
  dsimp only
  cases ht : rules.target? ref with
  | none => rfl
  | some t =>
    by_cases hd : depth < config.maxDepth
    · simp only [if_pos hd]
      rw [consumeAt]
      exact Engine.consume_keepsMarks (contextAt_keepsMarks hrs config checks (depth + 1)) t
        (rules.balanced_of_target? hrs ht) s
    · simp only [if_neg hd]
      rfl
termination_by config.maxDepth - depth
decreasing_by all_goals omega

/-- Matching a balanced pattern under a balanced rule set, at any depth and with any allowance
of grammar checks, from any cursor, leaves the mark stack as it found it, whatever the
outcome. -/
theorem consumeAt_keepsMarks {rules : RuleSet} (hrs : rules.balanced) (config : Config)
    (checks depth : Nat) {p : Pattern} (hp : p.balanced) :
    (consumeAt rules config checks depth p).KeepsMarks := by
  rw [consumeAt]
  exact Engine.consume_keepsMarks (contextAt_keepsMarks hrs config checks depth) p hp

end Backtrack
