import Backtrack.Proofs.NestedChecks
import Backtrack.Proofs.DepthLimit

/-!
# What a grammar leaves behind when it fails

A grammar matches its body and, when it has a bad pattern, checks the text of the match: the
bad pattern, anchored at both ends, runs on a fresh cursor over that text. A match that the
check accepts is rejected: the cursor moves back to where the grammar started, and the
failure there reads `Invalid match "text" in Name`.

Every other way a grammar can fail passes on an error from inside it. An error of the body
leaves the cursor where the grammar started, when the body keeps the contract of matching.
An error of the check does not. The check stops only with errors that no combinator recovers
from (a rule that leads nowhere, the nesting limit, an empty mark stack, the allowance of
nested checks), and the grammar passes such an error on before it moves back, so the cursor
stays where the body's match ended.

Main statement: `grammar_error_cursor`.
-/

namespace Backtrack

namespace Engine

section Grammar

variable {cx : Context} {tag : Nat} {name : String} {body : Pattern} {bad : Option Pattern} {b : Bool}
  {s : MatchState}

/-- The three ways a grammar stops with an error: its body stopped, its check stopped, or its
check accepted the text of the match, which is then rejected after moving back by the
distance from the start. -/
theorem step_grammar_error {e : MatchError} {s' : MatchState}
    (h : step cx (.mk (.embed tag (.grammar name body bad)) b) s = .error e s') :
    consume cx body s = .error e s' ∨
      ∃ m s1 badP, bad = some badP ∧ consume cx body s = .ok m s1 ∧
        (cx.rejects badP m.fragment.toText s1 = .error e s' ∨
          ∃ s2, cx.rejects badP m.fragment.toText s1 = .ok true s2 ∧
            s'.cursor = s2.cursor.retreat (Word.wrapSub s2.cursor.pos s.cursor.pos) ∧
            e = .failure (s'.cursor.failure
              ("Invalid match " ++ Text.quote m.fragment.toText ++ " in " ++ name))) := by
  rw [step] at h
  simp only [position_bind] at h
  cases hb : consume cx body s with
  | error e1 s1 =>
    rw [bind_of_error hb] at h
    cases h
    exact .inl rfl
  | ok m s1 =>
    rw [bind_of_ok hb] at h
    cases bad with
    | none => cases h
    | some badP =>
      refine .inr ⟨m, s1, badP, rfl, rfl, ?_⟩
      cases hr : cx.rejects badP m.fragment.toText s1 with
      | error e2 s2 =>
        simp only [bind_of_error hr] at h
        cases h
        exact .inl rfl
      | ok rejected s2 =>
        simp only [bind_of_ok hr] at h
        cases rejected with
        | false => cases h
        | true =>
          simp only [if_true, record_bind, cursor_bind, setCursor_bind, fail_apply] at h
          cases h
          exact .inr ⟨s2, rfl, rfl, rfl⟩

end Grammar

end Engine

open Engine

/-- The check of a bad pattern runs on a cursor of its own and puts the grammar's cursor back,
whatever its outcome; it stops only with errors that no combinator recovers from. -/
theorem rejects_cursor (rules : RuleSet) (config : Config) (checks depth : Nat) (bad : Pattern)
    (text : String) (s : MatchState) :
    Ends ((contextAt rules config checks depth).rejects bad text s) (fun _ c ↦ c = s.cursor)
      (fun e c ↦ c = s.cursor ∧ e.recoverable = false) := by
  rw [contextAt]
  dsimp only
  cases checks with
  | zero => exact ⟨rfl, rfl⟩
  | succ c =>
    simp only
    cases hr : consumeAt rules config c 0 (anchored bad) { s with cursor := Cursor.ofString text } with
    | ok a s1 =>
      simp only [bind_of_ok (within_of_ok hr)]
      rfl
    | error e s1 =>
      simp only [bind_of_ok (within_of_error hr)]
      cases e with
      | failure f => rfl
      | _ => exact ⟨rfl, rfl⟩

/-- Moving back from a cursor forward of `c` by the distance travelled lands on `c`. -/
theorem Cursor.Forward.retreat_wrapSub {c c' : Cursor} {n : Nat} (hv : c.Valid) (h : c.Forward c' n) :
    c'.retreat (Word.wrapSub c'.pos c.pos) = c := by
  have hsize := Cursor.size_eq_of_text h.text
  have hreach := h.reach
  rw [Word.wrapSub_of_le (by omega) (by have := h.le_size; have := hv.2; omega),
    Cursor.retreat_sub (by omega)]
  exact h.eq_of_pos

/-- For every grammar whose body is a standard pattern, under a standard rule set, at every
depth and allowance of nested checks, from every cursor within a text of fewer than `2 ^ 64`
characters: an error of the grammar leaves the cursor exactly where it was, marks included,
unless the error is one that no combinator recovers from and the cursor stands where the
body's match ended, which is forward of the start by at least what the match can give back.
That happens when the check of the bad pattern stops with such an error. When the anchored
bad pattern matches the whole text of the body's match, the grammar fails with
`Invalid match "text" in Name` at the start, and the cursor is back where it was. -/
theorem grammar_error_cursor {rules : RuleSet} (hrs : rules.standard) (config : Config)
    (checks depth tag : Nat) {g : Grammar} (hbody : g.body.standard) {s : MatchState}
    (hv : s.cursor.Valid) :
    (∀ e s', consume (contextAt rules config checks depth) (g.toPattern tag) s = .error e s' →
      s'.cursor = s.cursor ∨
        (e.recoverable = false ∧ ∃ m s1, consume (contextAt rules config checks depth) g.body s = .ok m s1 ∧
          s.cursor.Forward s1.cursor m.span ∧ s'.cursor = s1.cursor)) ∧
    (∀ badP m s1 c m' s2, g.bad = some badP → checks = c + 1 →
      consume (contextAt rules config checks depth) g.body s = .ok m s1 →
      consumeAt rules config c 0 (anchored badP) { s1 with cursor := Cursor.ofString m.fragment.toText } =
        .ok m' s2 →
      ∃ s', consume (contextAt rules config checks depth) (g.toPattern tag) s =
          .error (.failure (s.cursor.failure ("Invalid match " ++ Text.quote m.fragment.toText ++ " in " ++
            g.name))) s' ∧
        s'.cursor = s.cursor) := by
  have hcontract := consume_contract (contextAt_sound hrs config checks depth) g.body hbody
  refine ⟨fun e s' h ↦ ?_, fun badP m s1 c m' s2 hbad hc hm hcheck ↦ ?_⟩
  · -- the step's cursor is the one `consume` ends with: a failure only adds an event
    obtain ⟨e0, s0, hstep, he, hs'⟩ : ∃ e0 s0, step (contextAt rules config checks depth) (g.toPattern tag) s =
        .error e0 s0 ∧ e0.recoverable = e.recoverable ∧ s'.cursor = s0.cursor := by
      unfold consume at h
      split at h
      · rename_i f s0 hstep
        cases h
        exact ⟨_, s0, hstep, rfl, rfl⟩
      · exact ⟨e, s', h, rfl, rfl⟩
    rw [hs', ← he]
    rcases step_grammar_error hstep with hbody | ⟨m, s1, badP, -, hm, hcheck | ⟨s2, hr, hpos, rfl⟩⟩
    · exact .inl (hcontract.error hv hbody).1
    · have hfw := hcontract.ok hv hm
      have hrc := rejects_cursor rules config checks depth badP m.fragment.toText s1
      rw [hcheck] at hrc
      exact .inr ⟨hrc.2, m, s1, hm, hfw, hrc.1⟩
    · have hfw := hcontract.ok hv hm
      have hrc := rejects_cursor rules config checks depth badP m.fragment.toText s1
      rw [hr] at hrc
      simp only [ends_ok] at hrc
      rw [hrc] at hpos
      exact .inl (hpos.trans (hfw.retreat_wrapSub hv))
  · have hfw := hcontract.ok hv hm
    subst hc
    have hr : (contextAt rules config (c + 1) depth).rejects badP m.fragment.toText s1 =
        .ok true { s2 with cursor := s1.cursor } := by
      rw [contextAt]
      simp only [bind_of_ok (within_of_ok hcheck)]
      rfl
    have hback := hfw.retreat_wrapSub hv
    rw [consume, Grammar.toPattern, Pattern.embed, Pattern.new, step]
    simp only [position_bind, bind_of_ok hm, hbad, bind_of_ok hr, if_true, record_bind, cursor_bind,
      setCursor_bind, fail_apply, hback]
    exact ⟨_, rfl, rfl⟩

/-- The grammar `G` of the literal `a` whose bad pattern refers to a rule that no set defines,
matched at the start of `a`. -/
theorem grammar_error_cursor_unresolved :
    (RuleSet.mk 0 []).standard ∧ (Pattern.literal "a").standard ∧ (Cursor.ofString "a").Valid ∧
    (∀ e s', consume (contextAt (RuleSet.mk 0 []) {} checkAllowance 0)
        (Grammar.toPattern ⟨"G", .literal "a", some (.new (.rule ⟨"r", 0⟩))⟩ 0) ⟨Cursor.ofString "a", #[]⟩ =
          .error e s' →
      s'.cursor = Cursor.ofString "a" ∨
        (e.recoverable = false ∧ ∃ m s1, consume (contextAt (RuleSet.mk 0 []) {} checkAllowance 0)
            (.literal "a") ⟨Cursor.ofString "a", #[]⟩ = .ok m s1 ∧
          (Cursor.ofString "a").Forward s1.cursor m.span ∧ s'.cursor = s1.cursor)) ∧
    (∀ badP m s1 c m' s2, some (.new (.rule ⟨"r", 0⟩)) = some badP → checkAllowance = c + 1 →
      consume (contextAt (RuleSet.mk 0 []) {} checkAllowance 0) (.literal "a") ⟨Cursor.ofString "a", #[]⟩ =
        .ok m s1 →
      consumeAt (RuleSet.mk 0 []) {} c 0 (anchored badP) { s1 with cursor := Cursor.ofString m.fragment.toText } =
        .ok m' s2 →
      ∃ s', consume (contextAt (RuleSet.mk 0 []) {} checkAllowance 0)
          (Grammar.toPattern ⟨"G", .literal "a", some (.new (.rule ⟨"r", 0⟩))⟩ 0) ⟨Cursor.ofString "a", #[]⟩ =
          .error (.failure ((Cursor.ofString "a").failure
            ("Invalid match " ++ Text.quote m.fragment.toText ++ " in " ++ "G"))) s' ∧
        s'.cursor = Cursor.ofString "a") := by
  have hv : (Cursor.ofString "a").Valid := by
    unfold Cursor.Valid
    decide
  exact ⟨by decide, by decide, hv, grammar_error_cursor (by decide) {} checkAllowance 0 0 (by decide)
    (s := ⟨Cursor.ofString "a", #[]⟩) hv⟩

/-- The literal `a` matches the text `a` from its start. -/
theorem consume_literal_a {cx : Context} (events : Array Event) :
    consume cx (Pattern.literal "a") ⟨Cursor.ofString "a", events⟩ =
      .ok (.fixed (.text "a")) ⟨⟨#['a'], 1, []⟩, events⟩ := by
  apply consume_of_step
  rw [Pattern.literal, Pattern.new, step]
  simp only [matchLiteral, cursor_bind]
  rfl

/-- The grammar `G` of the literal `a` whose bad pattern refers to the rule `r`, which no set
defines, matched at the start of `a`: the body matches `a`, the check of `a` stops at the
reference with `UnresolvedRule`, and the grammar passes that error on with the cursor at 1,
where the body's match ended. -/
theorem grammar_unresolved_check_keeps_end :
    consume (contextAt (RuleSet.mk 0 []) {} checkAllowance 0)
        (Grammar.toPattern ⟨"G", .literal "a", some (.new (.rule ⟨"r", 0⟩))⟩ 0) ⟨Cursor.ofString "a", #[]⟩ =
      .error (.unresolvedRule "r") ⟨⟨#['a'], 1, []⟩, #[]⟩ := by
  have ht : (RuleSet.mk 0 []).target? ⟨"r", 0⟩ = none := by
    simp [RuleSet.target?, RuleSet.get?, RuleSet.find?]
  -- the top-level match allows nested checks, so the check runs
  have hallow : checkAllowance = (checkAllowance - 1) + 1 := (Nat.sub_add_cancel (by decide)).symm
  rw [hallow]
  -- the check runs the anchored reference on a fresh cursor over `a`, where it leads nowhere;
  -- the grammar passes that error on
  have hrule := @consumeAt_rule_of_none (RuleSet.mk 0 []) {} (checkAllowance - 1) 0 _
    (Shape.rule ⟨"r", 0⟩).quietByDefault ht ⟨⟨#['a'], 0, [0]⟩, #[]⟩
  have hcheck := consumeAt_anchored_of_error hrule rfl rfl
  have hr := @rejects_of_error (RuleSet.mk 0 []) {} 0 _ _ "a" ⟨⟨#['a'], 1, []⟩, #[]⟩ _ _ hcheck rfl
  exact consume_grammar_of_rejects (consume_literal_a #[]) rfl hr rfl

end Backtrack
