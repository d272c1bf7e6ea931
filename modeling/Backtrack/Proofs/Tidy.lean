import Backtrack.Proofs.Balance

/-!
# Matching never leaves a mark behind

Every combinator pops the mark it pushed on every way out, and an embedded matcher that pops
a mark it did not push only takes one more away. So whatever pattern is matched, from
whatever cursor and with whatever outcome, the mark stack it leaves is a suffix of the one it
found (`Engine.Tidy`): marks are only ever taken away. A run that leaves the stack exactly as
it found it is then one in which no step took a mark away, which later modules use to read
off what each step did.

The proof follows the engine function by function, as for balanced patterns; a loop that
runs under its combinator's mark leaves a suffix of the stack with that mark on top while it
goes on, and a suffix of the stack below it once it has popped.

Main statement: `consumeAt_tidy`.
-/

namespace Backtrack

/-- Popping from a suffix of a stack leaves a suffix of the stack popped. -/
theorem tail_suffix_tail {l L : List Nat} (h : l <:+ L) : l.tail <:+ L.tail := by
  obtain ⟨t, rfl⟩ := h
  cases t with
  | nil => exact List.suffix_refl _
  | cons x t => exact (List.tail_suffix l).trans (List.suffix_append t l)

/-- Popping the latest mark from a suffix of `k :: ms` leaves a suffix of `ms`. -/
theorem tail_suffix_of_suffix_cons {l ms : List Nat} {k : Nat} (h : l <:+ k :: ms) : l.tail <:+ ms :=
  tail_suffix_tail h

namespace Engine

variable {α β : Type}

/-- A computation that leaves a suffix of the mark stack it found, whatever its outcome. -/
def Tidy (m : Engine α) : Prop :=
  ∀ s : MatchState, Ends (m s) (fun _ c ↦ c.marks <:+ s.cursor.marks) (fun _ c ↦ c.marks <:+ s.cursor.marks)

theorem KeepsMarks.tidy {m : Engine α} (h : m.KeepsMarks) : m.Tidy := fun s ↦
  (h s).mono (fun _ _ hc ↦ hc ▸ List.suffix_refl _) fun _ _ hc ↦ hc ▸ List.suffix_refl _

theorem Tidy.ok {m : Engine α} (h : m.Tidy) {s s' : MatchState} {a : α} (hm : m s = .ok a s') :
    s'.cursor.marks <:+ s.cursor.marks := by
  have hs := h s
  rwa [hm] at hs

theorem Tidy.error {m : Engine α} (h : m.Tidy) {s s' : MatchState} {e : MatchError}
    (hm : m s = .error e s') : s'.cursor.marks <:+ s.cursor.marks := by
  have hs := h s
  rwa [hm] at hs

theorem Tidy.bind {m : Engine α} {f : α → Engine β} (hm : m.Tidy) (hf : ∀ a, (f a).Tidy) :
    (m >>= f).Tidy := by
  intro s
  refine Ends.bind (hm s) (fun _ _ h ↦ h) fun a s' _ hs' ↦ ?_
  exact (hf a s').mono (fun _ _ h ↦ h.trans hs') fun _ _ h ↦ h.trans hs'

theorem Tidy.attempt {m : Engine α} (h : m.Tidy) : (attempt m).Tidy := by
  intro s
  cases hm : m s with
  | ok a s' => rw [attempt_of_ok hm]; exact h.ok hm
  | error e s' =>
    cases e with
    | failure f => rw [attempt_of_failure hm]; exact h.error hm
    | _ => rw [attempt_of_error hm rfl]; exact h.error hm

/-- A step that leaves a suffix of the marks makes a match that does. -/
theorem Tidy.of_step {cx : Context} {p : Pattern} (h : (step cx p).Tidy) : (consume cx p).Tidy := by
  intro s
  have hs := h s
  rw [consume]
  split
  · rename_i f s' hstep
    rw [hstep] at hs
    exact hs
  · assumption

/-- Moving back to the latest mark: an empty stack stops with an underflow where the cursor
stands, otherwise the run goes on with the mark taken off. -/
theorem ends_restoreMark_bind {f : Unit → Engine β} {s : MatchState} {P : β → Cursor → Prop}
    {E : MatchError → Cursor → Prop} (hnil : s.cursor.marks = [] → E (.markUnderflow s.cursor.pos) s.cursor)
    (hcons : ∀ k ks, s.cursor.marks = k :: ks →
      Ends (f () { s with cursor := { s.cursor with pos := k, marks := ks } }) P E) :
    Ends ((restoreMark >>= f) s) P E := by
  cases h : s.cursor.marks with
  | nil => rw [restoreMark_bind_of_nil _ h]; exact hnil h
  | cons k ks => rw [restoreMark_bind _ h]; exact hcons k ks h

/-- Dropping the latest mark, as `ends_restoreMark_bind`. -/
theorem ends_forgetMark_bind {f : Unit → Engine β} {s : MatchState} {P : β → Cursor → Prop}
    {E : MatchError → Cursor → Prop} (hnil : s.cursor.marks = [] → E (.markUnderflow s.cursor.pos) s.cursor)
    (hcons : ∀ k ks, s.cursor.marks = k :: ks → Ends (f () { s with cursor := { s.cursor with marks := ks } }) P E) :
    Ends ((forgetMark >>= f) s) P E := by
  cases h : s.cursor.marks with
  | nil => rw [forgetMark_bind_of_nil _ h]; exact hnil h
  | cons k ks => rw [forgetMark_bind _ h]; exact hcons k ks h

/-- Moving back to the latest mark and going on without touching the marks leaves a suffix
of `ms`, when the stack was a suffix of `k :: ms`. -/
theorem ends_restoreMark_keeps {s : MatchState} {k : Nat} {ms : List Nat} (h : s.cursor.marks <:+ k :: ms)
    {m : Engine β} (hm : m.KeepsMarks) :
    Ends ((restoreMark >>= fun _ ↦ m) s) (fun _ c ↦ c.marks <:+ ms) fun _ c ↦ c.marks <:+ ms := by
  refine ends_restoreMark_bind (fun hn ↦ hn ▸ List.nil_suffix) fun k' ks hks ↦ ?_
  have hks' := tail_suffix_of_suffix_cons h
  rw [hks] at hks'
  exact (hm _).mono (fun _ _ hc ↦ hc ▸ hks') fun _ _ hc ↦ hc ▸ hks'

theorem ends_restoreMark_throw {s : MatchState} {L : List Nat} (h : s.cursor.marks <:+ L)
    (e : MatchError) {P : β → Cursor → Prop} :
    Ends ((restoreMark >>= fun _ ↦ throw e : Engine β) s) P fun _ c ↦ c.marks <:+ L.tail := by
  refine ends_restoreMark_bind (fun hn ↦ hn ▸ List.nil_suffix) fun k' ks hks ↦ ?_
  have hks' := tail_suffix_tail h
  rw [hks] at hks'
  exact hks'

end Engine

/-- What a context needs for matching to leave a suffix of the marks: entering a rule and
checking a bad pattern do. -/
structure Context.Tidy (cx : Context) : Prop where
  enter : ∀ r, (cx.enter r).Tidy
  rejects : ∀ bad text, (cx.rejects bad text).Tidy

namespace Engine

/-! ### The loops -/

section Loops

variable {cx : Context} {p : Pattern}

theorem retry_tidy {q : Pattern} {rest : List Pattern} (h : ∀ q' ∈ q :: rest, sizeOf q' < sizeOf p)
    (hrest : ∀ hr j acc, (search cx p rest hr j acc).Tidy) (j start : Nat)
    (acc : List (Pattern × Matched)) (m : Matched) : (retry cx p q rest h j start m acc).Tidy := by
  intro s
  have hs := hrest (fun q' hq ↦ h q' (List.mem_cons_of_mem _ hq)) (j + 1) (acc ++ [(q, m)]) s
  cases hsr : search cx p rest (fun q' hq ↦ h q' (List.mem_cons_of_mem _ hq)) (j + 1)
      (acc ++ [(q, m)]) s with
  | error e s1 => rw [hsr] at hs; rw [retry_of_error hsr]; exact hs
  | ok r s1 =>
    rw [hsr] at hs
    cases r with
    | done steps => rw [retry_of_done hsr]; exact hs
    | stuck f k =>
      cases hg : cx.giveBack q m with
      | none => rw [retry_of_stuck hsr hg]; exact hs
      | some r =>
        obtain ⟨m', g⟩ := r
        rw [retry_of_giveBack hsr hg]
        exact (retry_tidy h hrest j start acc m' _).mono (fun _ _ h' ↦ h'.trans hs)
          fun _ _ h' ↦ h'.trans hs
termination_by m.pieces.length
decreasing_by exact cx.giveBack_shrinks q m (m', g) hg

theorem search_tidy (steps : List Pattern) (hsteps : ∀ q ∈ steps, (consume cx q).Tidy) :
    ∀ h j acc, (search cx p steps h j acc).Tidy := by
  induction steps with
  | nil =>
    intro h j acc s
    rw [search_nil]
    exact List.suffix_refl _
  | cons q rest ih =>
    intro h j acc s
    have hq := hsteps q (List.mem_cons_self ..)
    have hrest := ih fun q' hq' ↦ hsteps q' (List.mem_cons_of_mem _ hq')
    cases hc : consume cx q s with
    | ok m s1 =>
      rw [search_cons_of_ok hc]
      exact (retry_tidy h hrest j s.cursor.pos acc m s1).mono (fun _ _ h' ↦ h'.trans (hq.ok hc))
        fun _ _ h' ↦ h'.trans (hq.ok hc)
    | error e s1 =>
      cases e with
      | failure f => rw [search_cons_of_failure hc]; exact hq.error hc
      | _ => rw [search_cons_of_error hc rfl]; exact hq.error hc

/-- The alternatives of a choice, tried with a suffix of `k :: ms` as the stack, leave a
suffix of `ms`: every way out pops. -/
theorem choose_tidy {k : Nat} {ms : List Nat} (rest : List Pattern)
    (hcs : ∀ q ∈ rest, (consume cx q).Tidy) (h : ∀ q ∈ rest, sizeOf q < sizeOf p) (s : MatchState)
    (hs : s.cursor.marks <:+ k :: ms) :
    Ends (choose cx p rest h s) (fun _ c ↦ c.marks <:+ ms) (fun _ c ↦ c.marks <:+ ms) := by
  induction rest generalizing s k ms with
  | nil =>
    rw [choose.eq_1]
    exact ends_restoreMark_keeps hs fun _ ↦ rfl
  | cons q more ih =>
    rw [choose.eq_2]
    have hq := hcs q (List.mem_cons_self ..)
    cases hc : consume cx q s with
    | ok m s1 =>
      have h1 := (hq.ok hc).trans hs
      simp only [bind_of_ok (outcome_of_ok hc)]
      refine ends_forgetMark_bind (fun hn ↦ hn ▸ List.nil_suffix) fun k' ks hks ↦ ?_
      have := tail_suffix_of_suffix_cons h1
      rw [hks] at this
      exact this
    | error e s1 =>
      have h1 := (hq.error hc).trans hs
      simp only [bind_of_ok (outcome_of_error hc)]
      cases e with
      | failure f =>
        refine ends_restoreMark_bind (fun hn ↦ hn ▸ List.nil_suffix) fun k' ks hks ↦ ?_
        simp only [mark_bind]
        -- the next alternative runs under a new mark on what is left of the stack
        have hks' : ks <:+ ms := by
          have := tail_suffix_of_suffix_cons h1
          rwa [hks] at this
        exact ih (fun q' hq' ↦ hcs q' (List.mem_cons_of_mem _ hq'))
          (fun q' hq' ↦ h q' (List.mem_cons_of_mem _ hq')) _ (List.suffix_refl _) |>.mono
          (fun _ _ hc ↦ hc.trans hks') fun _ _ hc ↦ hc.trans hks'
      | _ => exact ends_restoreMark_throw h1 _

/-- The rounds of a repetition, run with a suffix of `L` as the stack, leave a suffix of it
while they go on, and a suffix of `L` popped when they stop with an error. -/
theorem rounds_tidy {inner : Pattern} {h : sizeOf inner < sizeOf p} {lo : Nat}
    (hin : (consume cx inner).Tidy) {L : List Nat} (left : Nat) :
    ∀ (items : Array Fragment) (pieces : Array Piece) (s : MatchState), s.cursor.marks <:+ L →
      Ends (rounds cx p inner h lo left items pieces s) (fun _ c ↦ c.marks <:+ L)
        (fun _ c ↦ c.marks <:+ L.tail) := by
  induction left with
  | zero =>
    intro items pieces s hs
    rw [rounds.eq_1]
    exact hs
  | succ left ih =>
    intro items pieces s hs
    rw [rounds.eq_2]
    simp only [position_bind]
    cases hc : consume cx inner s with
    | ok m s1 =>
      have h1 := (hin.ok hc).trans hs
      simp only [bind_of_ok (outcome_of_ok hc), position_bind]
      split
      · exact h1
      · exact ih _ _ s1 h1
    | error e s1 =>
      have h1 := (hin.error hc).trans hs
      simp only [bind_of_ok (outcome_of_error hc)]
      cases e with
      | failure f => exact h1
      | _ => exact ends_restoreMark_throw h1 _

/-- The rounds of a separated list: as for a repetition, where a round with a separator
brackets it with a mark of its own. -/
theorem listRounds_tidy {sep elem : Pattern} {hs : sizeOf sep < sizeOf p} {he : sizeOf elem < sizeOf p}
    {lo : Nat} (hsep : (consume cx sep).Tidy) (helem : (consume cx elem).Tidy) {L : List Nat}
    (left : Nat) :
    ∀ (items : Array Fragment) (pieces : Array Piece) (s : MatchState), s.cursor.marks <:+ L →
      Ends (listRounds cx p sep elem hs he lo left items pieces s) (fun _ c ↦ c.marks <:+ L)
        (fun _ c ↦ c.marks <:+ L.tail) := by
  induction left with
  | zero =>
    intro items pieces s h0
    rw [listRounds.eq_1]
    exact h0
  | succ left ih =>
    intro items pieces s h0
    -- whatever a round found, it ends with a suffix of the list's stack
    have hsome : ∀ (s1 : MatchState) (items' : Array Fragment) (n : Nat), s1.cursor.marks <:+ L →
        Ends ((position >>= fun pos ↦
            if Word.wrapSub pos s.cursor.pos = 0 ∧ pieces.size ≥ lo then pure (items, pieces)
            else listRounds cx p sep elem hs he lo left items'
              (pieces.push ⟨Word.wrapSub pos s.cursor.pos, n⟩)) s1)
          (fun _ c ↦ c.marks <:+ L) (fun _ c ↦ c.marks <:+ L.tail) := by
      intro s1 items' n h1
      simp only [position_bind]
      split
      · exact h1
      · exact ih _ _ s1 h1
    have hnone : ∀ s1 : MatchState, s1.cursor.marks <:+ L →
        Ends ((pure (items, pieces) : Engine _) s1) (fun _ c ↦ c.marks <:+ L)
          (fun _ c ↦ c.marks <:+ L.tail) := fun _ h1 ↦ h1
    -- a round that brackets its separator with a mark pops it on every way out
    have hpop : ∀ {s1 : MatchState}, s1.cursor.marks <:+ s.cursor.pos :: s.cursor.marks →
        ∀ ks k', s1.cursor.marks = k' :: ks → ks <:+ L := by
      intro s1 h1 ks k' hks
      have := tail_suffix_of_suffix_cons h1
      rw [hks] at this
      exact this.trans h0
    rw [listRounds.eq_2]
    simp only [position_bind, pure_bind]
    by_cases hemp : pieces.isEmpty
    · rw [if_pos hemp]
      cases hc : consume cx elem s with
      | ok me s1 =>
        simp only [bind_of_ok (outcome_of_ok hc)]
        exact hsome s1 _ _ ((helem.ok hc).trans h0)
      | error e s1 =>
        have h1 := (helem.error hc).trans h0
        simp only [bind_of_ok (outcome_of_error hc)]
        cases e with
        | failure f => exact hnone s1 h1
        | _ => exact ends_restoreMark_throw h1 _
    · rw [if_neg hemp]
      simp only [mark_bind]
      cases hc : consume cx sep { s with cursor := s.cursor.mark } with
      | ok msep s1 =>
        have h1 : s1.cursor.marks <:+ s.cursor.pos :: s.cursor.marks := hsep.ok hc
        simp only [bind_of_ok (outcome_of_ok hc)]
        cases hd : consume cx elem s1 with
        | ok me s2 =>
          have h2 := (helem.ok hd).trans h1
          simp only [bind_of_ok (outcome_of_ok hd)]
          exact ends_forgetMark_bind (fun hn ↦ hn ▸ List.nil_suffix) fun k' ks hks ↦
            hsome _ _ _ (hpop h2 ks k' hks)
        | error e s2 =>
          have h2 := (helem.error hd).trans h1
          simp only [bind_of_ok (outcome_of_error hd)]
          cases e with
          | failure f =>
            simp only [record_bind]
            exact ends_restoreMark_bind (fun hn ↦ hn ▸ List.nil_suffix) fun k' ks hks ↦
              hnone _ (hpop h2 ks k' hks)
          | _ =>
            refine ends_restoreMark_bind (fun hn ↦ hn ▸ List.nil_suffix) fun k' ks hks ↦ ?_
            exact ends_restoreMark_throw (hpop h2 ks k' hks) _
      | error e s1 =>
        have h1 : s1.cursor.marks <:+ s.cursor.pos :: s.cursor.marks := hsep.error hc
        simp only [bind_of_ok (outcome_of_error hc)]
        cases e with
        | failure f =>
          exact ends_restoreMark_bind (fun hn ↦ hn ▸ List.nil_suffix) fun k' ks hks ↦
            hnone _ (hpop h1 ks k' hks)
        | _ =>
          refine ends_restoreMark_bind (fun hn ↦ hn ▸ List.nil_suffix) fun k' ks hks ↦ ?_
          exact ends_restoreMark_throw (hpop h1 ks k' hks) _

end Loops

/-! ### Each shape of pattern -/

section Shapes

variable {cx : Context} {inner : Pattern} {b : Bool}

theorem step_nextIs_tidy (neg : Bool) (hin : (consume cx inner).Tidy) :
    (step cx (.mk (.nextIs neg inner) b)).Tidy := by
  intro s
  rw [step]
  simp only [mark_bind]
  have hattempt := hin.attempt { s with cursor := s.cursor.mark }
  cases hc : attempt (consume cx inner) { s with cursor := s.cursor.mark } with
  | ok r s1 =>
    rw [hc] at hattempt
    simp only [bind_of_ok (outcome_of_ok hc)]
    refine ends_restoreMark_bind (fun hn ↦ hn ▸ List.nil_suffix) fun k ks hks ↦ ?_
    have hks' : ks <:+ s.cursor.marks := by
      have := tail_suffix_of_suffix_cons hattempt
      rwa [hks] at this
    exact (lookVerdict_keepsMarks _ _ _ _ _).mono (fun _ _ h ↦ h ▸ hks') fun _ _ h ↦ h ▸ hks'
  | error e s1 =>
    rw [hc] at hattempt
    simp only [bind_of_ok (outcome_of_error hc)]
    exact ends_restoreMark_throw hattempt _

theorem step_prevIs_tidy (neg : Bool) : (step cx (.mk (.prevIs neg inner) b)).Tidy :=
  (step_prevIs_keepsMarks neg).tidy

theorem step_sequence_tidy {cs : List Pattern} {sep : Option Pattern} {auto : Bool}
    (hsteps : ∀ q ∈ sequenceSteps cs sep, (consume cx q).Tidy) :
    (step cx (.mk (.sequence cs sep auto) b)).Tidy := by
  intro s
  rw [step]
  simp only [mark_bind]
  have hsearch := search_tidy (p := .mk (.sequence cs sep auto) b) _ hsteps
    (fun _ h ↦ sizeOf_step_lt h) 0 [] { s with cursor := s.cursor.mark }
  cases hr : search cx (.mk (.sequence cs sep auto) b) (sequenceSteps cs sep)
      (fun _ h ↦ sizeOf_step_lt h) 0 [] { s with cursor := s.cursor.mark } with
  | ok r s1 =>
    rw [hr] at hsearch
    have h1 : s1.cursor.marks <:+ s.cursor.pos :: s.cursor.marks := hsearch
    simp only [bind_of_ok (outcome_of_ok hr)]
    cases r with
    | done steps =>
      refine ends_forgetMark_bind (fun hn ↦ hn ▸ List.nil_suffix) fun k ks hks ↦ ?_
      have := tail_suffix_of_suffix_cons h1
      rw [hks] at this
      exact this
    | stuck f j =>
      simp only [record_bind]
      -- the failure record only extends the events, so the marks are still those of the search
      refine ends_restoreMark_throw (L := s.cursor.pos :: s.cursor.marks) ?_ _
      exact h1
  | error e s1 =>
    rw [hr] at hsearch
    simp only [bind_of_ok (outcome_of_error hr)]
    exact ends_restoreMark_throw hsearch _

theorem step_choice_tidy {cs : List Pattern} {auto : Bool} (hcs : ∀ q ∈ cs, (consume cx q).Tidy) :
    (step cx (.mk (.choice cs auto) b)).Tidy := by
  intro s
  rw [step]
  simp only [mark_bind]
  exact choose_tidy cs hcs _ _ (List.suffix_refl _)

/-- The end of a repetition or a separated list pops the list's mark, moving back to it or
not. -/
theorem ends_listEnd {s : MatchState} {ms : List Nat} {k : Nat} (h : s.cursor.marks <:+ k :: ms)
    (lo : Nat) (p : Pattern) (items : Array Fragment) (pieces : Array Piece) :
    Ends ((if pieces.size < lo then (restoreMark >>= fun _ ↦ fail (·.expected p))
      else (forgetMark >>= fun _ ↦ pure (⟨.list items.toList, pieces.toList⟩ : Matched))) s)
      (fun _ c ↦ c.marks <:+ ms) (fun _ c ↦ c.marks <:+ ms) := by
  have hpop : ∀ k' ks, s.cursor.marks = k' :: ks → ks <:+ ms := by
    intro k' ks hks
    have := tail_suffix_of_suffix_cons h
    rwa [hks] at this
  split
  · exact ends_restoreMark_bind (fun hn ↦ hn ▸ List.nil_suffix) fun k' ks hks ↦ hpop k' ks hks
  · exact ends_forgetMark_bind (fun hn ↦ hn ▸ List.nil_suffix) fun k' ks hks ↦ hpop k' ks hks

theorem step_repetition_tidy {lo : Nat} {hi : Option Nat} (hin : (consume cx inner).Tidy) :
    (step cx (.mk (.repetition inner lo hi) b)).Tidy := by
  intro s
  rw [step]
  simp only [mark_bind]
  refine Ends.bind (rounds_tidy hin _ #[] #[] _ (List.suffix_refl _)) (fun _ _ h ↦ h) ?_
  rintro ⟨items, pieces⟩ s1 _ h1
  exact ends_listEnd h1 lo _ items pieces

theorem step_separated_tidy {sep elem : Pattern} {lo : Nat} {hi : Option Nat}
    (hsep : (consume cx sep).Tidy) (helem : (consume cx elem).Tidy) :
    (step cx (.mk (.separated sep elem lo hi) b)).Tidy := by
  intro s
  rw [step]
  simp only [mark_bind]
  refine Ends.bind (listRounds_tidy hsep helem _ #[] #[] _ (List.suffix_refl _)) (fun _ _ h ↦ h) ?_
  rintro ⟨items, pieces⟩ s1 _ h1
  exact ends_listEnd h1 lo _ items pieces

theorem step_group_tidy (hin : (consume cx inner).Tidy) : (step cx (.mk (.group inner) b)).Tidy := by
  rw [step]
  exact Tidy.bind (fun s ↦ List.suffix_refl _) fun start ↦ hin.bind fun m ↦
    Tidy.bind (fun s ↦ List.suffix_refl _) fun c s ↦ List.suffix_refl _

theorem step_flatten_tidy (hin : (consume cx inner).Tidy) : (step cx (.mk (.flatten inner) b)).Tidy := by
  rw [step]
  exact hin.bind fun m s ↦ List.suffix_refl _

theorem step_select_tidy {sel : Selection} (hin : (consume cx inner).Tidy) :
    (step cx (.mk (.select inner sel) b)).Tidy := by
  rw [step]
  exact hin.bind fun m s ↦ List.suffix_refl _

theorem step_token_tidy (hin : (consume cx inner).Tidy) : (step cx (.mk (.token inner) b)).Tidy := by
  intro s
  rw [step]
  simp only [mark_bind, skipWhitespace_bind]
  cases hc : consume cx inner
      { s with cursor := s.cursor.mark.advance ((s.cursor.mark.rest.takeWhile cx.config.isWhitespace).length) } with
  | ok m s1 =>
    have h1 : s1.cursor.marks <:+ s.cursor.pos :: s.cursor.marks := hin.ok hc
    simp only [bind_of_ok (outcome_of_ok hc), skipWhitespace_bind]
    refine ends_forgetMark_bind (fun hn ↦ hn ▸ List.nil_suffix) fun k ks hks ↦ ?_
    have := tail_suffix_of_suffix_cons h1
    rw [show s1.cursor.marks = k :: ks from hks] at this
    exact this
  | error e s1 =>
    have h1 : s1.cursor.marks <:+ s.cursor.pos :: s.cursor.marks := hin.error hc
    simp only [bind_of_ok (outcome_of_error hc)]
    exact ends_restoreMark_throw h1 _

/-- A grammar: the check of its bad pattern leaves a suffix of the marks, and a rejected match
only moves the cursor. -/
theorem step_grammar_tidy (hcx : cx.Tidy) {tag : Nat} {name : String} {bad : Option Pattern}
    (hin : (consume cx inner).Tidy) : (step cx (.mk (.embed tag (.grammar name inner bad)) b)).Tidy := by
  intro s
  rw [step]
  simp only [position_bind]
  refine Ends.bind (hin s) (fun _ _ h ↦ h) fun m s1 _ h1 ↦ ?_
  cases bad with
  | none => exact h1
  | some bad =>
    refine Ends.bind (hcx.rejects bad _ s1) (fun _ _ h ↦ h.trans h1) fun rejected s2 _ h2 ↦ ?_
    cases rejected with
    | true => exact h2.trans h1
    | false => exact h2.trans h1

/-- The matcher that pops a mark it did not push leaves the rest of the stack. -/
theorem step_unbalanced_tidy {tag : Nat} : (step cx (.mk (.embed tag .unbalanced) b)).Tidy := by
  intro s
  rw [step]
  simp only [moveCursor_bind]
  refine ends_forgetMark_bind (fun hn ↦ hn ▸ List.nil_suffix) fun k ks hks ↦ ?_
  show ks <:+ s.cursor.marks
  rw [show s.cursor.marks = k :: ks from hks]
  exact List.suffix_cons k ks

end Shapes

/-! ### Every pattern -/

/-- Every pattern leaves a suffix of the marks in every context whose rules and checks do: by
recursion on the size of the pattern, each shape from its own lemma. -/
theorem consume_tidy {cx : Context} (hcx : cx.Tidy) : ∀ p : Pattern, (consume cx p).Tidy
  | .mk (.char cls) _ => .of_step (by rw [step]; exact (matchChar_keepsMarks _ _).tidy)
  | .mk (.run r) _ => .of_step (by rw [step]; exact (matchRun_keepsMarks _ _ _).tidy)
  | .mk (.whitespace r) _ => .of_step (by rw [step]; exact (matchRun_keepsMarks _ _ _).tidy)
  | .mk (.literal t) _ => .of_step (by rw [step]; exact (matchLiteral_keepsMarks _ _).tidy)
  | .mk (.regex rx) _ => .of_step (by rw [step]; exact (matchRegex_keepsMarks _ _).tidy)
  | .mk (.boundary k) _ => .of_step (by rw [step]; exact (matchBoundary_keepsMarks _ _).tidy)
  | .mk (.nextIs neg inner) _ => .of_step (step_nextIs_tidy neg (consume_tidy hcx inner))
  | .mk (.prevIs neg inner) _ => .of_step (step_prevIs_tidy neg)
  | .mk (.sequence cs sep auto) _ =>
    .of_step (step_sequence_tidy fun q _ ↦ consume_tidy hcx q)
  | .mk (.choice cs auto) _ => .of_step (step_choice_tidy fun q _ ↦ consume_tidy hcx q)
  | .mk (.repetition inner lo hi) _ => .of_step (step_repetition_tidy (consume_tidy hcx inner))
  | .mk (.separated sep elem lo hi) _ =>
    .of_step (step_separated_tidy (consume_tidy hcx sep) (consume_tidy hcx elem))
  | .mk (.group inner) _ => .of_step (step_group_tidy (consume_tidy hcx inner))
  | .mk (.flatten inner) _ => .of_step (step_flatten_tidy (consume_tidy hcx inner))
  | .mk (.select inner sel) _ => .of_step (step_select_tidy (consume_tidy hcx inner))
  | .mk (.token inner) _ => .of_step (step_token_tidy (consume_tidy hcx inner))
  | .mk (.rule ref) _ => .of_step (by rw [step]; exact hcx.enter ref)
  | .mk (.embed tag (.grammar name body bad)) _ =>
    .of_step (step_grammar_tidy hcx (consume_tidy hcx body))
  | .mk (.embed tag (.shared inner)) _ => .of_step (by rw [step]; exact consume_tidy hcx inner)
  | .mk (.embed _ .broken) _ => .of_step (by rw [step]; exact fun s ↦ List.suffix_refl _)
  | .mk (.embed _ .unbalanced) _ => .of_step step_unbalanced_tidy
termination_by p => sizeOf p
decreasing_by
  all_goals first
    | (simp only [Pattern.mk.sizeOf_spec, Shape.nextIs.sizeOf_spec,
        Shape.repetition.sizeOf_spec, Shape.separated.sizeOf_spec, Shape.group.sizeOf_spec,
        Shape.flatten.sizeOf_spec, Shape.select.sizeOf_spec, Shape.token.sizeOf_spec,
        Shape.embed.sizeOf_spec, Embedded.shared.sizeOf_spec, Embedded.grammar.sizeOf_spec]; omega)
    | exact sizeOf_step_lt ‹_›
    | exact sizeOf_choice_lt ‹_›

end Engine

/-- Matching under any rule set leaves a suffix of the marks at every depth: entering a rule
either stops at once or matches one level deeper, and checks run on cursors of their own. -/
theorem contextAt_tidy (rules : RuleSet) (config : Config) (checks depth : Nat) :
    (contextAt rules config checks depth).Tidy := by
  refine ⟨fun ref s ↦ ?_, fun bad text ↦ (rejects_keepsMarks rules config checks depth bad text).tidy⟩
  rw [contextAt]
  dsimp only
  cases rules.target? ref with
  | none => exact List.suffix_refl _
  | some t =>
    by_cases hd : depth < config.maxDepth
    · simp only [if_pos hd]
      rw [consumeAt]
      exact Engine.consume_tidy (contextAt_tidy rules config checks (depth + 1)) t s
    · simp only [if_neg hd]
      exact List.suffix_refl _
termination_by config.maxDepth - depth
decreasing_by all_goals omega

/-- Matching any pattern under any rule set, at any depth and with any allowance of checks,
from any cursor, leaves a suffix of the mark stack it found, whatever the outcome. -/
theorem consumeAt_tidy (rules : RuleSet) (config : Config) (checks depth : Nat) (p : Pattern) :
    (consumeAt rules config checks depth p).Tidy := by
  rw [consumeAt]
  exact Engine.consume_tidy (contextAt_tidy rules config checks depth) p

end Backtrack
