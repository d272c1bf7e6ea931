import Backtrack.Proofs.FailurePlaces

/-!
# Where match errors are reported

A failure of a standard pattern lies in the input, between the start of the match and the end
of the input (`failure_offset_in_input`). The depth limit is reported otherwise. A rule
reference entered at the limit stops the match with `DepthExceeded`, at the position of the
cursor in the text that cursor runs over (`consumeAt_rule_past_limit`). In the input that is a
position of the input.

A lookbehind matches its inner pattern on fresh cursors over windows of the input before the
position, whose positions count from the window's own start, and passes on every error other
than a failure that the inner pattern stops with in its first window (`step_prevIs_of_error`).
For a rule reference the first window is the empty one, so the reference is entered at position
0 of it (`consumeAt_prevIs_rule_past_limit`): the offset says 0 wherever the lookbehind stands in
the input.

Main statement: `match_error_offsets`.
-/

namespace Backtrack

open Engine

namespace Engine

variable {cx : Context} {inner : Pattern}

/-- The first window of a lookbehind is the one of the inner pattern's least length. When the
inner pattern stops there with an error other than a failure, the lookbehind passes it on. -/
theorem step_prevIs_of_error {neg b : Bool} {s : MatchState} {w : Cursor} {e : MatchError} {s' : MatchState}
    (hw : s.cursor.windowBefore inner.minLength = some w)
    (hlim : inner.minLength ≤ min s.cursor.pos (min (cx.config.maxLookbehind.getD s.cursor.pos)
      ((inner.maxLength.toFinite?).getD s.cursor.pos)))
    (he : consume cx inner { s with cursor := w } = .error e s') (hr : e.recoverable = false) :
    step cx (.mk (.prevIs neg inner) b) s = .error e { s' with cursor := s.cursor } := by
  rw [step]
  simp only [cursor_bind]
  refine bind_of_error ?_ _
  rw [scan, if_pos hlim, hw]
  simp only [bind_of_ok (within_of_error (attempt_of_error he hr))]
  rfl

end Engine

section PastLimit

variable {rules : RuleSet} {ref : RuleRef} {t : Pattern} {config : Config} {checks depth : Nat}

/-- A resolving reference entered at the depth limit stops where the cursor stands. -/
theorem consumeAt_rule_past_limit (ht : rules.target? ref = some t) (hd : config.maxDepth ≤ depth)
    (b : Bool) (s : MatchState) :
    consumeAt rules config checks depth (.mk (.rule ref) b) s =
      .error (.depthExceeded config.maxDepth s.cursor.pos) s := by
  rw [consumeAt]
  refine consume_of_step_error ?_ rfl
  rw [step, contextAt]
  dsimp only
  simp only [ht, if_neg (Nat.not_lt.mpr hd)]

/-- A lookbehind of such a reference enters it first in the empty window before the cursor, a
fresh cursor at position 0, and passes on the error it stops with there. -/
theorem consumeAt_prevIs_rule_past_limit (ht : rules.target? ref = some t) (hd : config.maxDepth ≤ depth)
    (neg b b' : Bool) (s : MatchState) :
    ∃ s', consumeAt rules config checks depth (.mk (.prevIs neg (.mk (.rule ref) b)) b') s =
      .error (.depthExceeded config.maxDepth 0) s' := by
  -- the window of width zero is always there, and it is where the scan starts
  have hw : s.cursor.windowBefore (Pattern.mk (.rule ref) b).minLength =
      some (s.cursor.sub s.cursor.pos s.cursor.pos) := by
    simp [Pattern.minLength, Pattern.shapeMin, Cursor.windowBefore]
  have hrule := @consumeAt_rule_past_limit rules ref t config checks depth ht hd b
    { s with cursor := s.cursor.sub s.cursor.pos s.cursor.pos }
  rw [consumeAt] at hrule
  rw [consumeAt]
  exact ⟨_, consume_of_step_error (step_prevIs_of_error hw (Nat.zero_le _) hrule rfl) rfl⟩

end PastLimit

/-- With a depth limit of zero, a reference that resolves stops a match at any cursor with
`DepthExceeded` at the cursor's position, while a lookbehind of the same reference stops with
`DepthExceeded` at offset 0, the position in its window, wherever the cursor stands. -/
theorem depth_limit_offsets {rules : RuleSet} {ref : RuleRef} {t : Pattern} (ht : rules.target? ref = some t)
    {config : Config} (hd : config.maxDepth = 0) (neg b b' : Bool) (c : Cursor) :
    ((Pattern.mk (.rule ref) b).consumeTracked rules config c).result = .error (.depthExceeded 0 c.pos) ∧
      ((Pattern.mk (.prevIs neg (.mk (.rule ref) b)) b').consumeTracked rules config c).result =
        .error (.depthExceeded 0 0) := by
  have hle : config.maxDepth ≤ 0 := Nat.le_of_eq hd
  obtain ⟨s', hs'⟩ := @consumeAt_prevIs_rule_past_limit rules ref t config checkAllowance 0 ht hle neg b b'
    ⟨c, #[]⟩
  constructor
  · simp [Pattern.consumeTracked, Engine.runOn, consumeAt_rule_past_limit ht hle, hd]
  · simp [Pattern.consumeTracked, Engine.runOn, hs', hd]

/-- Where the errors of a match from `start` in `input` are reported. A failure of a standard
pattern under a standard rule set lies in the input between `start` and its end, at the line
and column of its offset. With a depth limit of zero, a reference that resolves stops with
`DepthExceeded` at `start`, and a lookbehind of it with `DepthExceeded` at 0, the position in
its first window, whatever `start` is. -/
theorem match_error_offsets {rules : RuleSet} (hrs : rules.standard) (config : Config)
    {input : String} (hlen : input.length < Word.size) {start : Nat} (hstart : start ≤ input.length) :
    (∀ p : Pattern, p.standard → ∀ f : Failure,
      (p.consumeTracked rules config ((Cursor.ofString input).advance start)).result =
          .error (.failure f) →
        start ≤ f.offset ∧ f.offset ≤ input.length ∧
          f.position = Text.Position.locate input.toList f.offset) ∧
      (config.maxDepth = 0 → ∀ (ref : RuleRef) (t : Pattern), rules.target? ref = some t →
        ∀ neg b b' : Bool,
          ((Pattern.mk (.rule ref) b).consumeTracked rules config
              ((Cursor.ofString input).advance start)).result = .error (.depthExceeded 0 start) ∧
            ((Pattern.mk (.prevIs neg (.mk (.rule ref) b)) b').consumeTracked rules config
              ((Cursor.ofString input).advance start)).result = .error (.depthExceeded 0 0)) := by
  refine ⟨fun p hp f h ↦ failure_offset_in_input hrs config hp hlen hstart h, ?_⟩
  intro hd ref t ht neg b b'
  have hoffsets := depth_limit_offsets ht hd neg b b' ((Cursor.ofString input).advance start)
  rwa [Cursor.pos_ofString_advance hlen hstart] at hoffsets

/-- Matching in `xa` from 2, under the rule `r` whose pattern is `"a"`, with a depth limit of
zero: the literal `"b"` fails at the end of the input, and a lookbehind of `r` stops with
`DepthExceeded` at offset 0. -/
theorem depth_limit_offset_before_start :
    (⟨0, [("r", some (Pattern.literal "a"))]⟩ : RuleSet).standard ∧ "xa".length < Word.size ∧
      2 ≤ "xa".length ∧
      (⟨0, [("r", some (Pattern.literal "a"))]⟩ : RuleSet).target? ⟨"r", 0⟩ = some (Pattern.literal "a") ∧
      (∀ f : Failure, ((Pattern.literal "b").consumeTracked ⟨0, [("r", some (Pattern.literal "a"))]⟩
          { maxDepth := 0 } ((Cursor.ofString "xa").advance 2)).result = .error (.failure f) →
        2 ≤ f.offset ∧ f.offset ≤ "xa".length ∧ f.position = Text.Position.locate "xa".toList f.offset) ∧
      ((Pattern.prevIs (Pattern.new (.rule ⟨"r", 0⟩))).consumeTracked ⟨0, [("r", some (Pattern.literal "a"))]⟩
        { maxDepth := 0 } ((Cursor.ofString "xa").advance 2)).result = .error (.depthExceeded 0 0) := by
  have hrs : (⟨0, [("r", some (Pattern.literal "a"))]⟩ : RuleSet).standard := by decide
  have hlen : "xa".length < Word.size := by decide
  have hstart : 2 ≤ "xa".length := by decide
  have ht : (⟨0, [("r", some (Pattern.literal "a"))]⟩ : RuleSet).target? ⟨"r", 0⟩ = some (Pattern.literal "a") := by
    simp [RuleSet.target?, RuleSet.get?, RuleSet.find?]
  have hoffsets := match_error_offsets hrs { maxDepth := 0 } hlen hstart
  exact ⟨hrs, hlen, hstart, ht, hoffsets.1 _ (by decide), (hoffsets.2 rfl _ _ ht false false true).2⟩

end Backtrack
