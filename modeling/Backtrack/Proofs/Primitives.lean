import Mathlib
import Backtrack.Match.Run

/-!
# What the primitive steps of matching do

The engine reads and changes its cursor through a handful of operations: reading the cursor
or its position, replacing or moving it, pushing and popping marks, reporting an event and
failing. This module states what each of them does to the state, as equations that `simp`
uses to run a matching computation one operation at a time, so that later proofs never
unfold the operations themselves.

Positions are words, so moving forward wraps around past `2 ^ 64`. A text that a cursor can
walk has fewer characters than that (`Cursor.Valid`), and then moving forward over
characters that follow the cursor adds exactly their number to the position.

Main statements: `Cursor.pos_advance` (an advance over characters that are there lands
exactly that far on) and `Pattern.giveBack_span` (giving back a piece shortens the reach of
a match by the count it reports).
-/

namespace Backtrack

namespace Cursor

/-- A cursor that matching can start from: its position lies within its text, and the text
has fewer than `2 ^ 64` characters, so that its offsets are words. -/
def Valid (c : Cursor) : Prop := c.pos ≤ c.size ∧ c.size < Word.size

/-- `c'` is the cursor `c` moved forward over at least `n` characters, still within the
text, with the text and the marks kept. -/
structure Forward (c c' : Cursor) (n : Nat) : Prop where
  text : c'.text = c.text
  marks : c'.marks = c.marks
  reach : c.pos + n ≤ c'.pos
  le_size : c'.pos ≤ c'.size

@[simp] theorem size_mark (c : Cursor) : c.mark.size = c.size := rfl

@[simp] theorem text_mark (c : Cursor) : c.mark.text = c.text := rfl

@[simp] theorem pos_mark (c : Cursor) : c.mark.pos = c.pos := rfl

@[simp] theorem marks_mark (c : Cursor) : c.mark.marks = c.pos :: c.marks := rfl

@[simp] theorem rest_mark (c : Cursor) : c.mark.rest = c.rest := rfl

/-- Pushing a mark does not change where an advance lands. -/
@[simp] theorem pos_advance_mark (c : Cursor) (n : Nat) : (c.mark.advance n).pos = (c.advance n).pos := rfl

@[simp] theorem text_advance (c : Cursor) (n : Nat) : (c.advance n).text = c.text := rfl

@[simp] theorem marks_advance (c : Cursor) (n : Nat) : (c.advance n).marks = c.marks := rfl

@[simp] theorem size_advance (c : Cursor) (n : Nat) : (c.advance n).size = c.size := rfl

@[simp] theorem text_retreat (c : Cursor) (n : Nat) : (c.retreat n).text = c.text := rfl

@[simp] theorem marks_retreat (c : Cursor) (n : Nat) : (c.retreat n).marks = c.marks := rfl

@[simp] theorem pos_retreat (c : Cursor) (n : Nat) : (c.retreat n).pos = c.pos - n := rfl

@[simp] theorem size_retreat (c : Cursor) (n : Nat) : (c.retreat n).size = c.size := rfl

theorem size_eq_of_text {c c' : Cursor} (h : c'.text = c.text) : c'.size = c.size := by
  simp only [size, h]

/-- The characters after the cursor are as many as the text has past its position. -/
theorem length_rest (c : Cursor) : c.rest.length = c.size - c.pos := by
  simp [rest, size]

/-- The characters that some bytes after the cursor hold lie within the text. -/
theorem pos_add_bytePrefix_le (c : Cursor) (hv : c.pos ≤ c.size) (b : Nat) :
    c.pos + (bytePrefix c.rest b).length ≤ c.size := by
  have := length_bytePrefix_le c.rest b
  rw [length_rest] at this
  omega

/-- Moving forward over characters that follow the cursor adds their number to the position. -/
theorem pos_advance {c : Cursor} {n : Nat} (hv : c.size < Word.size) (h : c.pos + n ≤ c.size) :
    (c.advance n).pos = c.pos + n := by
  have hw : Word.wrapAdd c.pos n = c.pos + n := Nat.mod_eq_of_lt (by omega)
  simp only [advance, hw]
  exact Nat.min_eq_left h

/-- Moving forward over at most the characters after the cursor keeps a valid cursor valid
and moves it exactly that far. -/
theorem forward_advance {c : Cursor} {n : Nat} (hv : c.Valid) (h : n ≤ c.rest.length) :
    c.Forward (c.advance n) n := by
  rw [length_rest] at h
  have hle := hv.1
  have hpos := pos_advance (n := n) hv.2 (by omega)
  exact ⟨rfl, rfl, by omega, by simp only [size_advance]; omega⟩

theorem Valid.of_forward {c c' : Cursor} {n : Nat} (hv : c.Valid) (h : c.Forward c' n) :
    c'.Valid := by
  have hs := size_eq_of_text h.text
  exact ⟨h.le_size, hs ▸ hv.2⟩

theorem Forward.refl (c : Cursor) (hv : c.Valid) : c.Forward c 0 :=
  ⟨rfl, rfl, Nat.le_refl _, hv.1⟩

theorem Forward.trans {c c' c'' : Cursor} {m n : Nat} (h : c.Forward c' m) (h' : c'.Forward c'' n) :
    c.Forward c'' (m + n) :=
  ⟨h'.text.trans h.text, h'.marks.trans h.marks, by have := h.reach; have := h'.reach; omega,
    h'.le_size⟩

theorem Forward.mono {c c' : Cursor} {m n : Nat} (h : c.Forward c' m) (hnm : n ≤ m) :
    c.Forward c' n :=
  ⟨h.text, h.marks, by have := h.reach; omega, h.le_size⟩

/-- A cursor forward of `c` is forward of `c` placed earlier, by as much more. -/
theorem Forward.rewind {c c' : Cursor} {n : Nat} (h : c.Forward c' n) {k m : Nat}
    (hk : k + m ≤ c.pos + n) : ({ c with pos := k } : Cursor).Forward c' m :=
  ⟨h.text, h.marks, by have := h.reach; simp only; omega, h.le_size⟩

/-- Popping the mark a match started from, without moving back, leaves the cursor forward of
where the match started. -/
theorem Forward.forget {c c' : Cursor} {n : Nat} (h : c.mark.Forward c' n) :
    c.Forward { c' with marks := c.marks } n :=
  ⟨h.text, rfl, h.reach, h.le_size⟩

/-- Moving back to a mark pushed at `c`, over the same text, gives `c` back. -/
theorem restore_of_text {c c' : Cursor} (h : c'.text = c.text) :
    ({ c' with pos := c.pos, marks := c.marks } : Cursor) = c := by
  cases c
  cases c'
  simp only at h
  rw [h]

/-- A cursor forward of `c` placed back at the position of `c` is `c`. -/
theorem Forward.eq_of_pos {c c' : Cursor} {n : Nat} (h : c.Forward c' n) :
    ({ c' with pos := c.pos } : Cursor) = c := by
  have := restore_of_text (c := c) h.text
  rwa [← h.marks] at this

/-- Moving back to the mark a match started from gives back the cursor it started at. -/
theorem Forward.restore {c c' : Cursor} {n : Nat} (h : c.mark.Forward c' n) :
    ({ c' with pos := c.pos, marks := c.marks } : Cursor) = c :=
  restore_of_text h.text

/-- Moving back to where a step started. -/
theorem retreat_sub {c : Cursor} {k : Nat} (h : k ≤ c.pos) : c.retreat (c.pos - k) = { c with pos := k } := by
  unfold retreat
  rw [Nat.sub_sub_self h]

theorem Valid.mark {c : Cursor} (hv : c.Valid) : c.mark.Valid := hv

theorem Valid.retreat {c : Cursor} (hv : c.Valid) (n : Nat) : (c.retreat n).Valid :=
  ⟨Nat.le_trans (Nat.sub_le _ _) hv.1, hv.2⟩

/-- The cursor moved back to an earlier position is still within the text. -/
theorem Valid.withPos {c : Cursor} (hv : c.Valid) {k : Nat} (hk : k ≤ c.pos) :
    ({ c with pos := k } : Cursor).Valid :=
  ⟨Nat.le_trans hk hv.1, hv.2⟩

/-- A window or a slice of a valid cursor is a valid cursor at its start. -/
theorem valid_sub (c : Cursor) (hv : c.Valid) (start stop : Nat) : (c.sub start stop).Valid := by
  have hle : (c.sub start stop).size ≤ c.size := by
    simp only [sub, textBetween, ofString, size, String.toList_ofList, List.size_toArray,
      Array.length_toList, Array.size_extract]
    omega
  exact ⟨Nat.zero_le _, by have := hv.2; omega⟩

theorem valid_windowBefore {c w : Cursor} {width : Nat} (hv : c.Valid)
    (h : c.windowBefore width = some w) : w.Valid := by
  unfold windowBefore at h
  split at h
  · cases h
    exact valid_sub c hv _ _
  · cases h

end Cursor

namespace Matched

/-- How far giving back every piece of the match would move the cursor back. -/
def span (m : Matched) : Nat := (m.pieces.map Piece.len).sum

@[simp] theorem span_fixed (f : Fragment) : (fixed f).span = 0 := rfl

theorem span_dropLast {m : Matched} {last : Piece} (h : m.pieces.getLast? = some last) :
    (m.pieces.dropLast.map Piece.len).sum + last.len = m.span := by
  obtain ⟨init, hinit⟩ := List.getLast?_eq_some_iff.mp h
  simp [span, hinit]

theorem span_of_dropLastChar {min : Nat} {m r : Matched} {g : Nat}
    (h : m.dropLastChar min = some (r, g)) : r.span + g = m.span := by
  unfold dropLastChar at h
  split at h
  · contradiction
  · split at h
    · rename_i last _ hlast _
      split at h
      · contradiction
      · cases h
        exact span_dropLast hlast
    · contradiction

theorem span_of_dropLastPiece {min : Nat} {m r : Matched} {g : Nat}
    (h : m.dropLastPiece min = some (r, g)) : r.span + g = m.span := by
  unfold dropLastPiece at h
  split at h
  · contradiction
  · split at h
    · rename_i last _ hlast _
      cases h
      exact span_dropLast hlast
    · contradiction

end Matched

namespace Pattern

/-- Giving back a piece shortens the reach of a match by exactly the count given back. -/
theorem giveBack_span (rules : RuleSet) (budget : Nat) (p : Pattern) {m r : Matched} {g : Nat}
    (h : p.giveBack rules budget m = some (r, g)) : r.span + g = m.span := by
  induction budget, p using giveBack.induct rules generalizing r g with
  | case1 => unfold giveBack at h; exact Matched.span_of_dropLastChar h
  | case2 => unfold giveBack at h; exact Matched.span_of_dropLastChar h
  | case3 => unfold giveBack at h; exact Matched.span_of_dropLastPiece h
  | case4 => unfold giveBack at h; exact Matched.span_of_dropLastPiece h
  | case5 => simp [giveBack] at h
  | case6 ref _ b t ht ih => simp only [giveBack, ht] at h; exact ih h
  | case7 ref _ b ht => simp [giveBack, ht] at h
  | case8 _ _ _ _ ih => simp only [giveBack] at h; exact ih h
  | case9 =>
    unfold giveBack at h
    split at h <;> first | contradiction | (exfalso; solve_by_elim)

end Pattern

namespace Engine

variable {α β : Type} (s : MatchState)

@[simp] theorem cursor_bind (f : Cursor → Engine β) : (cursor >>= f) s = f s.cursor s := rfl

@[simp] theorem position_bind (f : Nat → Engine β) : (position >>= f) s = f s.cursor.pos s := rfl

@[simp] theorem setCursor_bind (c : Cursor) (f : Unit → Engine β) :
    (setCursor c >>= f) s = f () { s with cursor := c } := rfl

@[simp] theorem moveCursor_bind (g : Cursor → Cursor) (f : Unit → Engine β) :
    (moveCursor g >>= f) s = f () { s with cursor := g s.cursor } := rfl

@[simp] theorem record_bind (e : Event) (f : Unit → Engine β) :
    (record e >>= f) s = f () { s with events := s.events.push e } := rfl

@[simp] theorem mark_bind (f : Unit → Engine β) :
    (mark >>= f) s = f () { s with cursor := s.cursor.mark } := rfl

@[simp] theorem pure_apply (a : α) : (pure a : Engine α) s = .ok a s := rfl

@[simp] theorem throw_apply (e : MatchError) : (throw e : Engine α) s = .error e s := rfl

@[simp] theorem fail_apply (f : Cursor → Failure) : (fail f : Engine α) s = .error (.failure (f s.cursor)) s :=
  rfl

theorem restoreMark_bind {m : Nat} {ms : List Nat} (h : s.cursor.marks = m :: ms) (f : Unit → Engine β) :
    (restoreMark >>= f) s = f () { s with cursor := { s.cursor with pos := m, marks := ms } } := by
  show EStateM.bind (cursorStep Cursor.restoreMark) f s = _
  simp only [EStateM.bind, cursorStep, Cursor.restoreMark, h]

/-- Popping a mark from an empty stack stops with an underflow where the cursor stands. -/
theorem restoreMark_bind_of_nil (h : s.cursor.marks = []) (f : Unit → Engine β) :
    (restoreMark >>= f) s = .error (.markUnderflow s.cursor.pos) s := by
  show EStateM.bind (cursorStep Cursor.restoreMark) f s = _
  simp only [EStateM.bind, cursorStep, Cursor.restoreMark, h]

/-- Dropping a mark from an empty stack stops with an underflow where the cursor stands. -/
theorem forgetMark_bind_of_nil (h : s.cursor.marks = []) (f : Unit → Engine β) :
    (forgetMark >>= f) s = .error (.markUnderflow s.cursor.pos) s := by
  show EStateM.bind (cursorStep Cursor.forgetMark) f s = _
  simp only [EStateM.bind, cursorStep, Cursor.forgetMark, h]

theorem forgetMark_bind {m : Nat} {ms : List Nat} (h : s.cursor.marks = m :: ms) (f : Unit → Engine β) :
    (forgetMark >>= f) s = f () { s with cursor := { s.cursor with marks := ms } } := by
  show EStateM.bind (cursorStep Cursor.forgetMark) f s = _
  simp only [EStateM.bind, cursorStep, Cursor.forgetMark, h]

/-- `restoreMark_bind` for a state written out, such as one that just recorded an event. -/
theorem restoreMark_bind_mk {c : Cursor} {m : Nat} {ms : List Nat} (events : Array Event)
    (h : c.marks = m :: ms) (f : Unit → Engine β) :
    (restoreMark >>= f) ⟨c, events⟩ = f () ⟨{ c with pos := m, marks := ms }, events⟩ :=
  restoreMark_bind ⟨c, events⟩ h f

/-- `forgetMark_bind` for a state written out. -/
theorem forgetMark_bind_mk {c : Cursor} {m : Nat} {ms : List Nat} (events : Array Event)
    (h : c.marks = m :: ms) (f : Unit → Engine β) :
    (forgetMark >>= f) ⟨c, events⟩ = f () ⟨{ c with marks := ms }, events⟩ :=
  forgetMark_bind ⟨c, events⟩ h f

variable {s}

theorem bind_of_ok {m : Engine α} {a : α} {s' : MatchState} (h : m s = .ok a s') (f : α → Engine β) :
    (m >>= f) s = f a s' := by
  show EStateM.bind m f s = _
  simp only [EStateM.bind, h]

theorem bind_of_error {m : Engine α} {e : MatchError} {s' : MatchState} (h : m s = .error e s')
    (f : α → Engine β) : (m >>= f) s = .error e s' := by
  show EStateM.bind m f s = _
  simp only [EStateM.bind, h]

/-- A bound program that succeeds ran its first part to a success. -/
theorem ok_of_bind {m : Engine α} {f : α → Engine β} {b : β} {s' : MatchState}
    (h : (m >>= f) s = .ok b s') : ∃ a s1, m s = .ok a s1 ∧ f a s1 = .ok b s' := by
  cases hm : m s with
  | ok a s1 => exact ⟨a, s1, rfl, by rwa [bind_of_ok hm] at h⟩
  | error e s1 =>
    rw [bind_of_error hm] at h
    cases h

theorem outcome_of_ok {m : Engine α} {a : α} {s' : MatchState} (h : m s = .ok a s') :
    m.outcome s = .ok (.ok a) s' := by
  simp only [outcome, h]

theorem outcome_of_error {m : Engine α} {e : MatchError} {s' : MatchState} (h : m s = .error e s') :
    m.outcome s = .ok (.error e) s' := by
  simp only [outcome, h]

theorem attempt_of_ok {m : Engine α} {a : α} {s' : MatchState} (h : m s = .ok a s') :
    m.attempt s = .ok (.ok a) s' := by
  simp only [attempt, h]

theorem attempt_of_failure {m : Engine α} {f : Failure} {s' : MatchState}
    (h : m s = .error (.failure f) s') : m.attempt s = .ok (.error f) s' := by
  simp only [attempt, h]

theorem attempt_of_error {m : Engine α} {e : MatchError} {s' : MatchState} (h : m s = .error e s')
    (he : e.recoverable = false) : m.attempt s = .error e s' := by
  cases e with
  | failure f => simp [MatchError.recoverable] at he
  | _ => simp only [attempt, h]

theorem within_of_ok {m : Engine α} {w : Cursor} {a : α} {s' : MatchState}
    (h : m { s with cursor := w } = .ok a s') :
    within w m s = .ok (.ok a, s'.cursor) { s' with cursor := s.cursor } := by
  simp only [within, h]

theorem within_of_error {m : Engine α} {w : Cursor} {e : MatchError} {s' : MatchState}
    (h : m { s with cursor := w } = .error e s') :
    within w m s = .ok (.error e, s'.cursor) { s' with cursor := s.cursor } := by
  simp only [within, h]

end Engine
end Backtrack
