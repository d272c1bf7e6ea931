import Backtrack.Proofs.Tidy

/-!
# Matching reads neither older marks nor older events

A match reads its cursor through the text and the position, and it reads the mark stack only
by popping from it. So it cannot tell the marks below the ones it pops, nor the events
reported before it began. Put more marks under the stack and more events before the log, and
the run is the same run, with the same marks under its stack and the same events before its
log (`Engine.Frames`). The one exception is a run that pops a mark from an empty stack: the
run with more marks pops one of them instead and goes on, and no statement is made about it.

The property is proved one function of the engine at a time, as the contract of matching is,
and it needs nothing of the patterns: every pattern frames in every context whose rules and
checks do, and every context of matching does, at every depth and allowance of checks.

Main statement: `consumeAt_frames`.
-/

namespace Backtrack

namespace Cursor

/-- The cursor with the marks `B` below its own. -/
def frame (c : Cursor) (B : List Nat) : Cursor := { c with marks := c.marks ++ B }

variable (c : Cursor) (B : List Nat)

@[simp] theorem text_frame : (c.frame B).text = c.text := rfl
@[simp] theorem pos_frame : (c.frame B).pos = c.pos := rfl
@[simp] theorem marks_frame : (c.frame B).marks = c.marks ++ B := rfl
@[simp] theorem size_frame : (c.frame B).size = c.size := rfl
@[simp] theorem rest_frame : (c.frame B).rest = c.rest := rfl
@[simp] theorem atEnd_frame : (c.frame B).atEnd = c.atEnd := rfl
@[simp] theorem get_frame (i : Nat) : (c.frame B).get i = c.get i := rfl
@[simp] theorem takenSince_frame (start : Nat) : (c.frame B).takenSince start = c.takenSince start := rfl
@[simp] theorem textBetween_frame (start stop : Nat) :
    (c.frame B).textBetween start stop = c.textBetween start stop := rfl
@[simp] theorem windowBefore_frame (width : Nat) : (c.frame B).windowBefore width = c.windowBefore width := rfl
@[simp] theorem failure_frame (msg : String) : (c.frame B).failure msg = c.failure msg := rfl
@[simp] theorem expected_frame (p : Pattern) : (c.frame B).expected p = c.expected p := rfl
@[simp] theorem unexpected_frame (p : Pattern) : (c.frame B).unexpected p = c.unexpected p := rfl
@[simp] theorem advance_frame (n : Nat) : (c.frame B).advance n = (c.advance n).frame B := rfl
@[simp] theorem retreat_frame (n : Nat) : (c.frame B).retreat n = (c.retreat n).frame B := rfl
@[simp] theorem mark_frame : (c.frame B).mark = c.mark.frame B := rfl

@[simp] theorem frame_nil : c.frame [] = c := by
  simp [frame]

end Cursor

namespace MatchState

/-- The state with the marks `B` below its stack and the events `E` before its log. -/
def frame (s : MatchState) (B : List Nat) (E : Array Event) : MatchState :=
  ⟨s.cursor.frame B, E ++ s.events⟩

variable (s : MatchState) (B : List Nat) (E : Array Event)

@[simp] theorem cursor_frame : (s.frame B E).cursor = s.cursor.frame B := rfl
@[simp] theorem events_frame : (s.frame B E).events = E ++ s.events := rfl

/-- A state on a cursor of its own, framed by events alone. -/
theorem frame_withCursor (c : Cursor) :
    ({ s with cursor := c } : MatchState).frame [] E = ⟨c, E ++ s.events⟩ := by
  simp [frame]

end MatchState

/-- Whether an error is a pop from an empty mark stack. -/
def MatchError.underflow : MatchError → Bool
  | .markUnderflow _ => true
  | _ => false

namespace Engine

variable {α β : Type}

/-- Whether a run stopped by popping a mark from an empty stack. -/
def underflows : EStateM.Result MatchError MatchState α → Bool
  | .error e _ => e.underflow
  | .ok .. => false

/-- A run with the marks `B` put below its final stack and the events `E` before its log. -/
def frameResult (B : List Nat) (E : Array Event) :
    EStateM.Result MatchError MatchState α → EStateM.Result MatchError MatchState α
  | .ok a s => .ok a (s.frame B E)
  | .error e s => .error e (s.frame B E)

/-- The run `r'` is the run `r` framed by `B` and `E`, unless `r` popped a mark from an empty
stack. -/
def Framed (B : List Nat) (E : Array Event) (r r' : EStateM.Result MatchError MatchState α) : Prop :=
  underflows r = false → r' = frameResult B E r

/-- `m` reads neither the marks below those it pops nor the events reported before it. -/
def Frames (m : Engine α) : Prop := ∀ s B E, Framed B E (m s) (m (s.frame B E))

variable {B : List Nat} {E : Array Event}

theorem Framed.of_eq {r r' : EStateM.Result MatchError MatchState α} (h : r' = frameResult B E r) :
    Framed B E r r' := fun _ ↦ h

theorem Framed.of_underflows {r r' : EStateM.Result MatchError MatchState α} (h : underflows r = true) :
    Framed B E r r' := fun h' ↦ absurd h (by rw [h']; decide)

theorem Framed.ok {r r' : EStateM.Result MatchError MatchState α} {a : α} {s1 : MatchState}
    (h : Framed B E r r') (hr : r = .ok a s1) : r' = .ok a (s1.frame B E) := by
  subst hr
  exact h rfl

theorem Framed.error {r r' : EStateM.Result MatchError MatchState α} {e : MatchError} {s1 : MatchState}
    (h : Framed B E r r') (hr : r = .error e s1) (he : e.underflow = false) :
    r' = .error e (s1.frame B E) := by
  subst hr
  exact h he

/-- A run that ends with a pop from the empty stack of the continuation after `restoreMark`
or after `throw` of an underflow. -/
theorem underflows_restoreMark_throw {s : MatchState} {offset : Nat} :
    underflows ((restoreMark >>= fun _ ↦ throw (.markUnderflow offset) : Engine β) s) = true := by
  cases h : s.cursor.marks with
  | nil => rw [restoreMark_bind_of_nil _ h]; rfl
  | cons k ks => rw [restoreMark_bind _ h]; rfl

/-! ### Composing runs that frame -/

section Compose

variable {m : Engine α} {s : MatchState}

theorem framed_bind {f : α → Engine β} (hm : Framed B E (m s) (m (s.frame B E)))
    (hf : ∀ a s1, m s = .ok a s1 → Framed B E (f a s1) (f a (s1.frame B E))) :
    Framed B E ((m >>= f) s) ((m >>= f) (s.frame B E)) := by
  intro hu
  cases hr : m s with
  | ok a s1 =>
    rw [bind_of_ok hr] at hu ⊢
    rw [bind_of_ok (hm.ok hr)]
    exact hf a s1 hr hu
  | error e s1 =>
    rw [bind_of_error hr] at hu ⊢
    rw [bind_of_error (hm.error hr hu)]
    rfl

theorem Frames.bind {f : α → Engine β} (hm : m.Frames) (hf : ∀ a, (f a).Frames) : (m >>= f).Frames :=
  fun s _ _ ↦ framed_bind (hm s _ _) fun a s1 _ ↦ hf a s1 _ _

theorem framed_attempt (hm : Framed B E (m s) (m (s.frame B E))) :
    Framed B E (attempt m s) (attempt m (s.frame B E)) := by
  intro hu
  cases hr : m s with
  | ok a s1 => rw [attempt_of_ok (hm.ok hr), attempt_of_ok hr]; rfl
  | error e s1 =>
    cases e with
    | failure f => rw [attempt_of_failure (hm.error hr rfl), attempt_of_failure hr]; rfl
    | _ =>
      rw [attempt_of_error hr rfl] at hu
      rw [attempt_of_error (hm.error hr hu) rfl, attempt_of_error hr rfl]
      rfl

/-- Catching the outcome of `m`: the continuation frames on every outcome, and passes a pop
from an empty stack on. -/
theorem framed_outcome_bind {K : Except MatchError α → Engine β}
    (hm : Framed B E (m s) (m (s.frame B E)))
    (hK : ∀ x s1, Framed B E (K x s1) (K x (s1.frame B E)))
    (hpass : ∀ offset s1, m s = .error (.markUnderflow offset) s1 →
      underflows (K (.error (.markUnderflow offset)) s1) = true) :
    Framed B E ((outcome m >>= K) s) ((outcome m >>= K) (s.frame B E)) := by
  intro hu
  cases hr : m s with
  | ok a s1 =>
    rw [bind_of_ok (outcome_of_ok hr)] at hu ⊢
    rw [bind_of_ok (outcome_of_ok (hm.ok hr))]
    exact hK _ s1 hu
  | error e s1 =>
    rw [bind_of_ok (outcome_of_error hr)] at hu ⊢
    cases e with
    | markUnderflow offset => rw [hpass offset s1 hr] at hu; cases hu
    | _ =>
      rw [bind_of_ok (outcome_of_error (hm.error hr rfl))]
      exact hK _ s1 hu

/-- Running `m` on a cursor of its own, which has no marks below it: as for
`framed_outcome_bind`. -/
theorem framed_within_bind {K : Except MatchError α × Cursor → Engine β} {w : Cursor}
    (hm : Framed [] E (m { s with cursor := w }) (m ⟨w, E ++ s.events⟩))
    (hK : ∀ x s1, Framed B E (K x s1) (K x (s1.frame B E)))
    (hpass : ∀ offset s1, m { s with cursor := w } = .error (.markUnderflow offset) s1 →
      underflows (K (.error (.markUnderflow offset), s1.cursor) { s1 with cursor := s.cursor }) = true) :
    Framed B E ((within w m >>= K) s) ((within w m >>= K) (s.frame B E)) := by
  intro hu
  have hc : ∀ s1 : MatchState, (s1.frame [] E).cursor = s1.cursor := fun s1 ↦ by simp
  cases hr : m { s with cursor := w } with
  | ok a s1 =>
    rw [bind_of_ok (within_of_ok hr)] at hu ⊢
    rw [bind_of_ok (within_of_ok (s := s.frame B E) (hm.ok hr)), hc]
    exact hK _ _ hu
  | error e s1 =>
    rw [bind_of_ok (within_of_error hr)] at hu ⊢
    cases e with
    | markUnderflow offset => rw [hpass offset s1 hr] at hu; cases hu
    | _ =>
      rw [bind_of_ok (within_of_error (s := s.frame B E) (hm.error hr rfl)), hc]
      exact hK _ _ hu

theorem Frames.attempt (h : m.Frames) : (attempt m).Frames := fun s _ _ ↦ framed_attempt (h s _ _)

/-- Reporting an event frames. -/
theorem framed_record_bind {f : Unit → Engine β} {x : Event}
    (hf : Framed B E (f () { s with events := s.events.push x })
      (f () (({ s with events := s.events.push x } : MatchState).frame B E))) :
    Framed B E ((record x >>= f) s) ((record x >>= f) (s.frame B E)) := by
  have heq : ({ s.frame B E with events := (s.frame B E).events.push x } : MatchState) =
      ({ s with events := s.events.push x } : MatchState).frame B E := by
    simp [MatchState.frame, Array.push_append]
  simp only [record_bind]
  rw [heq]
  exact hf

/-- Reading the position frames: the framed cursor stands at the same place. -/
theorem framed_position_bind {k : Nat → Engine β} (hk : ∀ n, Framed B E (k n s) (k n (s.frame B E))) :
    Framed B E ((position >>= k) s) ((position >>= k) (s.frame B E)) :=
  hk s.cursor.pos

/-- Pushing a mark frames: the framed stack gets the same top. -/
theorem framed_mark_bind {f : Unit → Engine β}
    (hf : Framed B E (f () { s with cursor := s.cursor.mark })
      (f () (({ s with cursor := s.cursor.mark } : MatchState).frame B E))) :
    Framed B E ((mark >>= f) s) ((mark >>= f) (s.frame B E)) :=
  hf

/-- A run that pops a mark and goes on as `f` does pops from an empty stack when every way `f`
can go on does. -/
theorem underflows_restoreMark_bind {f : Unit → Engine β} (hf : ∀ s', underflows (f () s') = true) :
    underflows ((restoreMark >>= f) s) = true := by
  cases h : s.cursor.marks with
  | nil => rw [restoreMark_bind_of_nil _ h]; rfl
  | cons k ks => rw [restoreMark_bind _ h]; exact hf _

/-- Skipping whitespace frames: it moves the cursor by what follows it. -/
theorem framed_skipWhitespace_bind {cfg : Config} {f : Unit → Engine β}
    (hf : Framed B E (f () { s with cursor := s.cursor.advance ((s.cursor.rest.takeWhile cfg.isWhitespace).length) })
      (f () (({ s with cursor := s.cursor.advance ((s.cursor.rest.takeWhile cfg.isWhitespace).length) } :
        MatchState).frame B E))) :
    Framed B E ((skipWhitespace cfg >>= f) s) ((skipWhitespace cfg >>= f) (s.frame B E)) :=
  hf

/-- The framed stack has the same top as the stack it frames. -/
theorem marks_frame_cons {k : Nat} {ks : List Nat} (hm : s.cursor.marks = k :: ks) :
    (s.frame B E).cursor.marks = k :: (ks ++ B) := by
  simp [hm]

/-- Popping a mark and moving back to it frames: the framed stack has the same top. -/
theorem framed_restoreMark_bind {f : Unit → Engine β}
    (hf : ∀ k ks, s.cursor.marks = k :: ks →
      Framed B E (f () { s with cursor := { s.cursor with pos := k, marks := ks } })
        (f () (({ s with cursor := { s.cursor with pos := k, marks := ks } } : MatchState).frame B E))) :
    Framed B E ((restoreMark >>= f) s) ((restoreMark >>= f) (s.frame B E)) := by
  cases hm : s.cursor.marks with
  | nil => exact Framed.of_underflows (by rw [restoreMark_bind_of_nil _ hm]; rfl)
  | cons k ks =>
    rw [restoreMark_bind _ hm, restoreMark_bind _ (marks_frame_cons hm)]
    exact hf k ks hm

/-- Popping a mark and staying frames. -/
theorem framed_forgetMark_bind {f : Unit → Engine β}
    (hf : ∀ k ks, s.cursor.marks = k :: ks →
      Framed B E (f () { s with cursor := { s.cursor with marks := ks } })
        (f () (({ s with cursor := { s.cursor with marks := ks } } : MatchState).frame B E))) :
    Framed B E ((forgetMark >>= f) s) ((forgetMark >>= f) (s.frame B E)) := by
  cases hm : s.cursor.marks with
  | nil => exact Framed.of_underflows (by rw [forgetMark_bind_of_nil _ hm]; rfl)
  | cons k ks =>
    rw [forgetMark_bind _ hm, forgetMark_bind _ (marks_frame_cons hm)]
    exact hf k ks hm

/-- Moving back to a mark and passing an error on frames. -/
theorem framed_restoreMark_throw {e : MatchError} :
    Framed B E ((restoreMark >>= fun _ ↦ throw e : Engine β) s)
      ((restoreMark >>= fun _ ↦ throw e : Engine β) (s.frame B E)) :=
  framed_restoreMark_bind fun _ _ _ ↦ Framed.of_eq rfl

/-- A run on a cursor of its own, with no marks below it, framed by events alone. -/
theorem Frames.fresh (h : m.Frames) (s : MatchState) (w : Cursor) (E : Array Event) :
    Framed [] E (m { s with cursor := w }) (m ⟨w, E ++ s.events⟩) := by
  have := h { s with cursor := w } [] E
  rwa [MatchState.frame_withCursor] at this

end Compose

/-- A match frames when its step does: reporting a failure frames. -/
theorem Frames.of_step {cx : Context} {p : Pattern} (h : (step cx p).Frames) : (consume cx p).Frames := by
  intro s B E hu
  rw [consume, consume] at *
  cases hstep : step cx p s with
  | ok a s1 =>
    rw [(h s B E).ok hstep]
    rfl
  | error e s1 =>
    rw [hstep] at hu
    cases e with
    | failure f =>
      rw [(h s B E).error hstep rfl]
      simp only [frameResult, MatchState.frame, Array.push_append]
    | markUnderflow offset => cases hu
    | _ =>
      rw [(h s B E).error hstep rfl]
      rfl

/-! ### The primitive patterns -/

section Primitives

theorem matchChar_frames (p : Pattern) (cls : CharClass) : (matchChar p cls).Frames := by
  intro s B E _
  simp only [matchChar, cursor_bind, MatchState.cursor_frame, Cursor.get_frame]
  cases s.cursor.get 0 with
  | error e => rfl
  | ok ch =>
    by_cases hacc : cls.accepts ch
    · simp only [hacc, if_true, setCursor_bind, pure_apply, Cursor.advance_frame]
      rfl
    · simp only [hacc, Bool.false_eq_true, if_false, fail_apply, MatchState.cursor_frame,
        Cursor.expected_frame]
      rfl

/-- The end of a run of `count` characters pops the mark the run pushed, in both runs. -/
theorem runEnd_frames (s : MatchState) (count lo : Nat) (p : Pattern) :
    Framed B E ((if count < lo then (restoreMark >>= fun _ ↦ fail (·.expected p))
      else (forgetMark >>= fun _ ↦ cursor >>= fun c' ↦
        pure (⟨.text (c'.takenSince s.cursor.pos), List.replicate count ⟨1, 1⟩⟩ : Matched)))
        { cursor := s.cursor.mark.advance count, events := s.events })
      ((if count < lo then (restoreMark >>= fun _ ↦ fail (·.expected p))
      else (forgetMark >>= fun _ ↦ cursor >>= fun c' ↦
        pure (⟨.text (c'.takenSince s.cursor.pos), List.replicate count ⟨1, 1⟩⟩ : Matched)))
        { cursor := (s.cursor.mark.advance count).frame B, events := (s.frame B E).events }) := by
  intro _
  by_cases hlo : count < lo
  · rw [if_pos hlo, restoreMark_bind _ rfl, restoreMark_bind _ rfl]
    rfl
  · rw [if_neg hlo, forgetMark_bind _ rfl, forgetMark_bind _ rfl]
    rfl

theorem matchRun_frames (cfg : Config) (p : Pattern) (r : Run) : (matchRun cfg p r).Frames := by
  intro s B E
  simp only [matchRun, mark_bind, cursor_bind, setCursor_bind, MatchState.cursor_frame,
    Cursor.mark_frame, Cursor.rest_frame, Cursor.advance_frame]
  exact runEnd_frames s _ r.min p

theorem matchLiteral_frames (p : Pattern) (t : String) : (matchLiteral p t).Frames := by
  intro s B E _
  simp only [matchLiteral, cursor_bind]
  by_cases h : t.toList.isPrefixOf s.cursor.rest = true
  · have h' : t.toList.isPrefixOf (s.frame B E).cursor.rest = true := h
    simp only [h, h', if_true, setCursor_bind, pure_apply]
    rfl
  · have h' : ¬t.toList.isPrefixOf (s.frame B E).cursor.rest = true := h
    simp only [h, h', Bool.false_eq_true, if_false, fail_apply]
    rfl

theorem matchRegex_frames (p : Pattern) (rx : RegexNode) : (matchRegex p rx).Frames := by
  intro s B E _
  simp only [matchRegex, cursor_bind]
  have hx : (s.frame B E).cursor.rest = s.cursor.rest := rfl
  rw [hx]
  cases rx.compiled.captures (String.ofList s.cursor.rest) with
  | none => rfl
  | some caps =>
    simp only [setCursor_bind, pure_apply]
    rfl

theorem matchBoundary_frames (p : Pattern) (b : Boundary) : (matchBoundary p b).Frames := by
  intro s B E _
  simp only [matchBoundary, cursor_bind]
  by_cases h : b.holds s.cursor = true
  · have h' : b.holds (s.frame B E).cursor = true := h
    simp only [h, h', if_true, pure_apply]
    rfl
  · have h' : ¬b.holds (s.frame B E).cursor = true := h
    simp only [h, h', Bool.false_eq_true, if_false, fail_apply]
    rfl

theorem lookVerdict_frames (p inner : Pattern) (negated found : Bool) :
    (lookVerdict p inner negated found).Frames := by
  intro s B E _
  unfold lookVerdict
  split
  · rfl
  · split <;> rfl

end Primitives

end Engine

/-- What a context needs for matching to frame: entering a rule and checking a bad pattern
frame. -/
structure Context.Frames (cx : Context) : Prop where
  enter : ∀ r, (cx.enter r).Frames
  rejects : ∀ bad text, (cx.rejects bad text).Frames

namespace Engine

/-! ### The loops -/

section Loops

variable {cx : Context} {p : Pattern} {B : List Nat} {E : Array Event}

/-- The windows of a lookbehind are cut from the text before the cursor, whatever marks it
carries. -/
theorem scan_frame_cursor {inner : Pattern} {h : sizeOf inner < sizeOf p} (c : Cursor) (B : List Nat)
    (width limit : Nat) : scan cx p inner h (c.frame B) width limit = scan cx p inner h c width limit := by
  rw [scan.eq_1 cx p inner h (c.frame B) width limit, scan.eq_1 cx p inner h c width limit]
  by_cases hw : width ≤ limit
  · rw [if_pos hw, if_pos hw, Cursor.windowBefore_frame, Cursor.pos_frame,
      scan_frame_cursor c B (width + 1) limit]
  · rw [if_neg hw, if_neg hw]
termination_by limit + 1 - width
decreasing_by all_goals omega

/-- Each window of a lookbehind is matched on a cursor of its own, which has no marks below
it, so the windows frame as the inner pattern does. -/
theorem scan_frames {inner : Pattern} {h : sizeOf inner < sizeOf p} (hin : (consume cx inner).Frames)
    (c : Cursor) (width limit : Nat) : (scan cx p inner h c width limit).Frames := by
  intro s B E
  rw [scan.eq_1]
  by_cases hw : width ≤ limit
  · rw [if_pos hw]
    cases c.windowBefore width with
    | none => exact Framed.of_eq rfl
    | some w =>
      simp only
      refine framed_within_bind (hin.attempt.fresh s w E) (fun x s1 ↦ ?_) fun _ _ _ ↦ rfl
      obtain ⟨r, w'⟩ := x
      cases r with
      | error e => exact Framed.of_eq rfl
      | ok r =>
        cases r with
        | ok _ =>
          simp only
          split
          · exact framed_record_bind (Framed.of_eq rfl)
          · exact scan_frames hin c (width + 1) limit s1 B E
        | error _ => exact scan_frames hin c (width + 1) limit s1 B E
  · rw [if_neg hw]
    exact Framed.of_eq rfl
termination_by limit + 1 - width
decreasing_by all_goals omega

theorem retry_frames {q : Pattern} {rest : List Pattern} (h : ∀ q' ∈ q :: rest, sizeOf q' < sizeOf p)
    (hrest : ∀ hr j acc, (search cx p rest hr j acc).Frames) (j start : Nat)
    (acc : List (Pattern × Matched)) (m : Matched) : (retry cx p q rest h j start m acc).Frames := by
  intro s B E hu
  have hs := hrest (fun q' hq ↦ h q' (List.mem_cons_of_mem _ hq)) (j + 1) (acc ++ [(q, m)]) s B E
  cases hsr : search cx p rest (fun q' hq ↦ h q' (List.mem_cons_of_mem _ hq)) (j + 1)
      (acc ++ [(q, m)]) s with
  | error e s1 =>
    rw [retry_of_error hsr] at hu ⊢
    rw [retry_of_error (hs.error hsr hu)]
    rfl
  | ok r s1 =>
    have hs' := hs.ok hsr
    cases r with
    | done steps => rw [retry_of_done hsr, retry_of_done hs']; rfl
    | stuck f k =>
      cases hg : cx.giveBack q m with
      | none => rw [retry_of_stuck hsr hg, retry_of_stuck hs' hg]; rfl
      | some r =>
        obtain ⟨m', g⟩ := r
        rw [retry_of_giveBack hsr hg] at hu ⊢
        rw [retry_of_giveBack hs' hg]
        have heq : MatchState.mk ((s1.frame B E).cursor.retreat g)
              ((s1.frame B E).events.push (.gaveBack q g ((s1.frame B E).cursor.pos - g))) =
            (MatchState.mk (s1.cursor.retreat g) (s1.events.push (.gaveBack q g (s1.cursor.pos - g)))).frame
              B E := by
          simp [MatchState.frame, Array.push_append]
        rw [heq]
        exact retry_frames h hrest j start acc m' _ B E hu
termination_by m.pieces.length
decreasing_by exact cx.giveBack_shrinks q m (m', g) hg

theorem search_frames (steps : List Pattern) (hsteps : ∀ q ∈ steps, (consume cx q).Frames) :
    ∀ h j acc, (search cx p steps h j acc).Frames := by
  induction steps with
  | nil =>
    intro h j acc s B E _
    rw [search_nil, search_nil]
    rfl
  | cons q rest ih =>
    intro h j acc s B E hu
    have hq := hsteps q (List.mem_cons_self ..) s B E
    have hrest := ih fun q' hq' ↦ hsteps q' (List.mem_cons_of_mem _ hq')
    cases hc : consume cx q s with
    | ok m s1 =>
      rw [search_cons_of_ok hc] at hu ⊢
      rw [search_cons_of_ok (hq.ok hc)]
      exact retry_frames h hrest j s.cursor.pos acc m s1 B E hu
    | error e s1 =>
      cases e with
      | failure f =>
        rw [search_cons_of_failure hc, search_cons_of_failure (hq.error hc rfl)]
        rfl
      | _ =>
        rw [search_cons_of_error hc rfl] at hu ⊢
        rw [search_cons_of_error (hq.error hc hu) rfl]
        rfl

/-- The alternatives of a choice frame: each is tried under the choice's mark, and an error
other than a failure is passed on after moving back to it. -/
theorem choose_frames (rest : List Pattern) (hcs : ∀ q ∈ rest, (consume cx q).Frames)
    (h : ∀ q ∈ rest, sizeOf q < sizeOf p) : (choose cx p rest h).Frames := by
  induction rest with
  | nil =>
    intro s B E
    rw [choose.eq_1]
    exact framed_restoreMark_bind fun _ _ _ ↦ Framed.of_eq rfl
  | cons q more ih =>
    intro s B E
    rw [choose.eq_2]
    refine framed_outcome_bind (hcs q (List.mem_cons_self ..) s B E) (fun x s1 ↦ ?_)
      fun _ _ _ ↦ underflows_restoreMark_throw
    rcases x with (_ | _ | _ | _ | _) | m
    · exact framed_restoreMark_bind fun _ _ _ ↦ framed_bind (Framed.of_eq rfl) fun _ s2 h2 ↦ by
        cases h2
        exact ih (fun q' hq' ↦ hcs q' (List.mem_cons_of_mem _ hq'))
          (fun q' hq' ↦ h q' (List.mem_cons_of_mem _ hq')) _ B E
    all_goals first
      | exact framed_restoreMark_throw
      | exact framed_forgetMark_bind fun _ _ _ ↦ Framed.of_eq rfl

/-- The rounds of a repetition frame. -/
theorem rounds_frames {inner : Pattern} {h : sizeOf inner < sizeOf p} {lo : Nat}
    (hin : (consume cx inner).Frames) (left : Nat) :
    ∀ (items : Array Fragment) (pieces : Array Piece), (rounds cx p inner h lo left items pieces).Frames := by
  induction left with
  | zero =>
    intro items pieces s B E
    rw [rounds.eq_1]
    exact Framed.of_eq rfl
  | succ left ih =>
    intro items pieces s B E
    rw [rounds.eq_2]
    refine framed_position_bind fun start ↦ ?_
    refine framed_outcome_bind (hin s B E) (fun x s1 ↦ ?_) fun _ _ _ ↦ underflows_restoreMark_throw
    rcases x with (_ | _ | _ | _ | _) | m
    · exact Framed.of_eq rfl
    all_goals first
      | exact framed_restoreMark_throw
      | skip
    refine framed_position_bind fun pos ↦ ?_
    split_ifs
    · exact Framed.of_eq rfl
    · exact ih _ _ s1 B E

/-- The rounds of a separated list frame. A round catches the outcome of its element, and of
its separator under a mark of its own, and passes a pop from an empty stack on once it has
moved back. -/
theorem listRounds_frames {sep elem : Pattern} {hs : sizeOf sep < sizeOf p} {he : sizeOf elem < sizeOf p}
    {lo : Nat} (hsep : (consume cx sep).Frames) (helem : (consume cx elem).Frames) (left : Nat) :
    ∀ (items : Array Fragment) (pieces : Array Piece),
      (listRounds cx p sep elem hs he lo left items pieces).Frames := by
  induction left with
  | zero =>
    intro items pieces s B E
    rw [listRounds.eq_1]
    exact Framed.of_eq rfl
  | succ left ih =>
    intro items pieces s B E
    have hpass : ∀ (s' : MatchState) offset, underflows ((restoreMark >>= fun _ ↦
        throw (.markUnderflow offset) : Engine (Array Fragment × Array Piece)) s') = true :=
      fun _ _ ↦ underflows_restoreMark_throw
    rw [listRounds.eq_2]
    refine framed_position_bind fun start ↦ ?_
    by_cases hemp : pieces.isEmpty
    · rw [if_pos hemp]
      refine framed_outcome_bind (helem s B E) (fun x s1 ↦ ?_) fun _ s1 _ ↦ by
        simp only [pure_bind]
        exact hpass s1 _
      rcases x with (_ | _ | _ | _ | _) | m <;> simp only [pure_bind]
      · exact Framed.of_eq rfl
      all_goals first
        | exact framed_restoreMark_throw
        | skip
      refine framed_position_bind fun pos ↦ ?_
      split_ifs
      · exact Framed.of_eq rfl
      · exact ih _ _ s1 B E
    · rw [if_neg hemp]
      refine framed_mark_bind ?_
      refine framed_outcome_bind (hsep _ B E) (fun x s1 ↦ ?_) fun _ s1 _ ↦ by
        simp only [pure_bind]
        exact underflows_restoreMark_bind fun s' ↦ hpass s' _
      rcases x with (_ | _ | _ | _ | _) | ms <;> simp only [pure_bind]
      · exact framed_restoreMark_bind fun _ _ _ ↦ Framed.of_eq rfl
      all_goals first
        | exact framed_restoreMark_bind fun _ _ _ ↦ framed_restoreMark_throw
        | skip
      refine framed_outcome_bind (helem s1 B E) (fun y s2 ↦ ?_) fun _ s2 _ ↦ by
        simp only
        exact underflows_restoreMark_bind fun s' ↦ hpass s' _
      rcases y with (_ | _ | _ | _ | _) | me <;> simp only
      · exact framed_record_bind (framed_restoreMark_bind fun _ _ _ ↦ Framed.of_eq rfl)
      all_goals first
        | exact framed_restoreMark_bind fun _ _ _ ↦ framed_restoreMark_throw
        | skip
      refine framed_forgetMark_bind fun _ _ _ ↦ framed_position_bind fun pos ↦ ?_
      split_ifs
      · exact Framed.of_eq rfl
      · exact ih _ _ _ B E

end Loops

/-! ### Each shape of pattern -/

section Shapes

variable {cx : Context} {inner : Pattern} {b : Bool}

theorem step_nextIs_frames (neg : Bool) (hin : (consume cx inner).Frames) :
    (step cx (.mk (.nextIs neg inner) b)).Frames := by
  intro s B E
  rw [step]
  refine framed_mark_bind (framed_outcome_bind (framed_attempt (hin _ B E))
    (fun x s1 ↦ framed_restoreMark_bind fun _ _ _ ↦ ?_)
    fun _ _ _ ↦ underflows_restoreMark_bind fun _ ↦ rfl)
  cases x with
  | error e => exact Framed.of_eq rfl
  | ok found => exact lookVerdict_frames _ _ _ _ _ B E

theorem step_prevIs_frames (neg : Bool) (hin : (consume cx inner).Frames) :
    (step cx (.mk (.prevIs neg inner) b)).Frames := by
  intro s B E
  rw [step]
  simp only [cursor_bind, MatchState.cursor_frame, Cursor.pos_frame, scan_frame_cursor]
  exact framed_bind (scan_frames hin _ _ _ s B E) fun _ _ _ ↦ lookVerdict_frames _ _ _ _ _ B E

theorem step_sequence_frames {cs : List Pattern} {sep : Option Pattern} {auto : Bool}
    (hsteps : ∀ q ∈ sequenceSteps cs sep, (consume cx q).Frames) :
    (step cx (.mk (.sequence cs sep auto) b)).Frames := by
  intro s B E
  rw [step]
  refine framed_mark_bind (framed_outcome_bind (search_frames _ hsteps _ 0 [] _ B E) (fun x s1 ↦ ?_)
    fun _ _ _ ↦ underflows_restoreMark_throw)
  rcases x with e | steps | ⟨f, j⟩
  · exact framed_restoreMark_throw
  · exact framed_forgetMark_bind fun _ _ _ ↦ Framed.of_eq rfl
  · exact framed_record_bind framed_restoreMark_throw

theorem step_choice_frames {cs : List Pattern} {auto : Bool} (hcs : ∀ q ∈ cs, (consume cx q).Frames) :
    (step cx (.mk (.choice cs auto) b)).Frames := by
  intro s B E
  rw [step]
  exact framed_mark_bind (choose_frames cs hcs _ _ B E)

/-- The end of a repetition or separated list: too few rounds move back to the mark, enough
pop it and stay. -/
theorem framed_listEnd {p : Pattern} {lo : Nat} {x : Array Fragment × Array Piece} {s : MatchState} :
    Framed B E ((if x.2.size < lo then (restoreMark >>= fun _ ↦ fail (·.expected p))
        else (forgetMark >>= fun _ ↦ pure (⟨.list x.1.toList, x.2.toList⟩ : Matched))) s)
      ((if x.2.size < lo then (restoreMark >>= fun _ ↦ fail (·.expected p))
        else (forgetMark >>= fun _ ↦ pure (⟨.list x.1.toList, x.2.toList⟩ : Matched))) (s.frame B E)) := by
  split_ifs
  · exact framed_restoreMark_bind fun _ _ _ ↦ Framed.of_eq rfl
  · exact framed_forgetMark_bind fun _ _ _ ↦ Framed.of_eq rfl

theorem step_repetition_frames {lo : Nat} {hi : Option Nat} (hin : (consume cx inner).Frames) :
    (step cx (.mk (.repetition inner lo hi) b)).Frames := by
  intro s B E
  rw [step]
  exact framed_mark_bind (framed_bind (rounds_frames hin _ #[] #[] _ B E) fun _ _ _ ↦ framed_listEnd)

theorem step_separated_frames {sep elem : Pattern} {lo : Nat} {hi : Option Nat}
    (hsep : (consume cx sep).Frames) (helem : (consume cx elem).Frames) :
    (step cx (.mk (.separated sep elem lo hi) b)).Frames := by
  intro s B E
  rw [step]
  exact framed_mark_bind (framed_bind (listRounds_frames hsep helem _ #[] #[] _ B E) fun _ _ _ ↦
    framed_listEnd)

theorem step_token_frames (hin : (consume cx inner).Frames) : (step cx (.mk (.token inner) b)).Frames := by
  intro s B E
  rw [step]
  refine framed_mark_bind (framed_skipWhitespace_bind (framed_outcome_bind (hin _ B E) (fun x s1 ↦ ?_)
    fun _ _ _ ↦ underflows_restoreMark_throw))
  cases x with
  | error e => exact framed_restoreMark_throw
  | ok m => exact framed_skipWhitespace_bind (framed_forgetMark_bind fun _ _ _ ↦ Framed.of_eq rfl)

/-- A grammar frames: its body and its check do, and it moves back by the distance from the
position where it started. -/
theorem step_grammar_frames (hcx : cx.Frames) {tag : Nat} {name : String} {bad : Option Pattern}
    (hin : (consume cx inner).Frames) : (step cx (.mk (.embed tag (.grammar name inner bad)) b)).Frames := by
  intro s B E
  rw [step]
  refine framed_position_bind fun start ↦ framed_bind (hin s B E) fun m s1 _ ↦ ?_
  cases bad with
  | none => exact Framed.of_eq rfl
  | some bad =>
    refine framed_bind (hcx.rejects bad _ s1 B E) fun rejected s2 _ ↦ ?_
    cases rejected with
    | true => exact framed_record_bind (Framed.of_eq rfl)
    | false => exact Framed.of_eq rfl

theorem step_unbalanced_frames {tag : Nat} : (step cx (.mk (.embed tag .unbalanced) b)).Frames := by
  intro s B E
  rw [step]
  simp only [moveCursor_bind]
  exact framed_forgetMark_bind fun _ _ _ ↦ Framed.of_eq rfl

end Shapes

/-- Every pattern frames in every context that does: by recursion on the size of the pattern,
each shape from its own lemma. -/
theorem consume_frames {cx : Context} (hcx : cx.Frames) : ∀ p : Pattern, (consume cx p).Frames
  | .mk (.char cls) _ => .of_step (by rw [step]; exact matchChar_frames _ _)
  | .mk (.run r) _ => .of_step (by rw [step]; exact matchRun_frames _ _ _)
  | .mk (.whitespace r) _ => .of_step (by rw [step]; exact matchRun_frames _ _ _)
  | .mk (.literal t) _ => .of_step (by rw [step]; exact matchLiteral_frames _ _)
  | .mk (.regex rx) _ => .of_step (by rw [step]; exact matchRegex_frames _ _)
  | .mk (.boundary k) _ => .of_step (by rw [step]; exact matchBoundary_frames _ _)
  | .mk (.nextIs neg inner) _ => .of_step (step_nextIs_frames neg (consume_frames hcx inner))
  | .mk (.prevIs neg inner) _ => .of_step (step_prevIs_frames neg (consume_frames hcx inner))
  | .mk (.sequence cs sep auto) _ =>
    .of_step (step_sequence_frames fun q _ ↦ consume_frames hcx q)
  | .mk (.choice cs auto) _ => .of_step (step_choice_frames fun q _ ↦ consume_frames hcx q)
  | .mk (.repetition inner lo hi) _ => .of_step (step_repetition_frames (consume_frames hcx inner))
  | .mk (.separated sep elem lo hi) _ =>
    .of_step (step_separated_frames (consume_frames hcx sep) (consume_frames hcx elem))
  | .mk (.group inner) _ =>
    .of_step fun s B E ↦ by
      rw [step]
      exact framed_position_bind fun _ ↦ framed_bind (consume_frames hcx inner s B E) fun _ _ _ ↦
        Framed.of_eq rfl
  | .mk (.flatten inner) _ =>
    .of_step fun s B E ↦ by
      rw [step]
      exact framed_bind (consume_frames hcx inner s B E) fun _ _ _ ↦ Framed.of_eq rfl
  | .mk (.select inner sel) _ =>
    .of_step fun s B E ↦ by
      rw [step]
      exact framed_bind (consume_frames hcx inner s B E) fun _ _ _ ↦ Framed.of_eq rfl
  | .mk (.token inner) _ => .of_step (step_token_frames (consume_frames hcx inner))
  | .mk (.rule ref) _ => .of_step (by rw [step]; exact hcx.enter ref)
  | .mk (.embed tag (.grammar name body bad)) _ =>
    .of_step (step_grammar_frames hcx (consume_frames hcx body))
  | .mk (.embed tag (.shared inner)) _ => .of_step (by rw [step]; exact consume_frames hcx inner)
  | .mk (.embed _ .broken) _ =>
    .of_step fun s B E ↦ by
      rw [step]
      exact Framed.of_underflows rfl
  | .mk (.embed _ .unbalanced) _ => .of_step step_unbalanced_frames
termination_by p => sizeOf p
decreasing_by
  all_goals first
    | (simp only [Pattern.mk.sizeOf_spec, Shape.nextIs.sizeOf_spec, Shape.prevIs.sizeOf_spec,
        Shape.repetition.sizeOf_spec, Shape.separated.sizeOf_spec, Shape.group.sizeOf_spec,
        Shape.flatten.sizeOf_spec, Shape.select.sizeOf_spec, Shape.token.sizeOf_spec,
        Shape.embed.sizeOf_spec, Embedded.shared.sizeOf_spec, Embedded.grammar.sizeOf_spec]; omega)
    | exact sizeOf_step_lt ‹_›
    | exact sizeOf_choice_lt ‹_›

end Engine

/-- Every context of matching frames, at every depth and allowance of checks: entering a rule
stops at once or matches one level deeper, and a check runs on a cursor of its own, one
allowance lower. -/
theorem contextAt_frames (rules : RuleSet) (config : Config) (checks depth : Nat) :
    (contextAt rules config checks depth).Frames := by
  refine ⟨fun ref s B E ↦ ?_, fun bad text s B E ↦ ?_⟩
  · rw [contextAt]
    dsimp only
    cases ht : rules.target? ref with
    | none => exact Engine.Framed.of_eq rfl
    | some t =>
      by_cases hd : depth < config.maxDepth
      · simp only [if_pos hd]
        rw [consumeAt]
        exact Engine.consume_frames (contextAt_frames rules config checks (depth + 1)) t s B E
      · simp only [if_neg hd]
        exact Engine.Framed.of_eq rfl
  · rw [contextAt]
    dsimp only
    cases checks with
    | zero => exact Engine.Framed.of_eq rfl
    | succ c =>
      have hcheck := Engine.consume_frames (contextAt_frames rules config c 0) (anchored bad)
      rw [← consumeAt] at hcheck
      refine Engine.framed_within_bind (hcheck.fresh s _ E) (fun x s1 ↦ ?_) fun _ _ _ ↦ rfl
      rcases x with ⟨(_ | _ | _ | _ | _) | _, _⟩ <;> exact Engine.Framed.of_eq rfl
termination_by (checks, config.maxDepth - depth)
decreasing_by
  · exact Prod.Lex.right _ (by omega)
  · exact Prod.Lex.left _ _ (by omega)

/-- Matching any pattern under any rule set, at any depth and allowance of checks, reads
neither the marks below those it pops nor the events reported before it: from a state with
more marks under its stack and more events before its log, the run is the same, with the same
marks under its stack and the same events before its log, unless it popped a mark from an
empty stack. -/
theorem consumeAt_frames (rules : RuleSet) (config : Config) (checks depth : Nat) (p : Pattern) :
    (consumeAt rules config checks depth p).Frames := by
  rw [consumeAt]
  exact Engine.consume_frames (contextAt_frames rules config checks depth) p

end Backtrack
