import Backtrack.Proofs.GiveBack

/-!
# A grammar's check starts again at depth zero

A grammar with a bad pattern checks each of its matches: the bad pattern, anchored at both
ends, is matched on a fresh cursor over the text of the match, and the match is rejected when
it covers the whole text. The check runs at depth zero, whatever the depth of the grammar: it
does not count the rules it sits in. Rule references are the only way to build a recursive
pattern, yet the depth limit does not bound the recursion that goes through a check.

A grammar whose bad pattern leads back to the grammar through a rule checks its own match
inside its own check, and again inside that one. Each check enters the rule once, at depth
one, so the depth limit is never reached: only the allowance of nested checks stops the
recursion, and every allowance runs out (`nested_checks_exhaust`). The top-level match allows
as many nested checks as a word can count, so on such a grammar it runs until that allowance,
which stands for the stack of the machine, is exhausted.
-/

namespace Backtrack

namespace Engine

variable {cx : Context}

theorem consume_stringStart {s : MatchState} (h : s.cursor.pos = 0) :
    consume cx Pattern.stringStart s = .ok (.fixed .empty) s := by
  apply consume_of_step
  show step cx (.mk (.boundary .stringStart) true) s = _
  rw [step]
  have hholds : Boundary.stringStart.holds s.cursor = true := by
    simp only [Boundary.holds, h, decide_true]
  simp only [matchBoundary, cursor_bind]
  rw [if_pos hholds]
  rfl

/-- A grammar whose body matches, and whose check of the text of the match stops with an error
that is not a failure, stops with that error. -/
theorem consume_grammar_of_rejects {tag : Nat} {name : String} {body bad : Pattern}
    {s s1 s2 : MatchState} {m : Matched} {text : String} {e : MatchError}
    (hb : consume cx body s = .ok m s1) (htext : m.fragment.toText = text)
    (hr : cx.rejects bad text s1 = .error e s2) (he : e.recoverable = false) :
    consume cx (Pattern.embed tag (.grammar name body (some bad))) s = .error e s2 := by
  refine consume_of_step_error ?_ he
  show step cx (.mk (.embed tag (.grammar name body (some bad))) false) s = _
  rw [step]
  simp only [position_bind, bind_of_ok hb, htext, bind_of_error hr]

end Engine

section Checks

open Engine

variable {rules : RuleSet} {config : Config}

theorem rejects_zero (depth : Nat) (bad : Pattern) (text : String) (s : MatchState) :
    (contextAt rules config 0 depth).rejects bad text s = .error .exhausted s := by
  rw [contextAt]
  rfl

/-- A check matches the anchored bad pattern on a fresh cursor over the text, at depth zero
whatever the depth it is made at, with one nested check fewer; an error there that is not a
failure stops the match, with the cursor where the check found it. -/
theorem rejects_of_error (depth : Nat) {c : Nat} {bad : Pattern} {text : String} {s s' : MatchState}
    {e : MatchError}
    (h : consumeAt rules config c 0 (anchored bad) { s with cursor := Cursor.ofString text } =
      .error e s')
    (he : e.recoverable = false) :
    (contextAt rules config (c + 1) depth).rejects bad text s =
      .error e { s' with cursor := s.cursor } := by
  rw [contextAt]
  dsimp only
  rw [bind_of_ok (within_of_error h)]
  cases e with
  | failure f => cases he
  | _ => rfl

/-- Entering a rule below the depth limit matches its pattern one level deeper; an error there
that is not a failure stops the match. -/
theorem consumeAt_rule_of_error {c depth : Nat} {ref : RuleRef} {q : Pattern} {s s' : MatchState}
    {e : MatchError} (ht : rules.target? ref = some q) (hd : depth < config.maxDepth)
    (h : consume (contextAt rules config c (depth + 1)) q s = .error e s')
    (he : e.recoverable = false) :
    consumeAt rules config c depth (Pattern.new (.rule ref)) s = .error e s' := by
  have henter : (contextAt rules config c depth).enter ref s = .error e s' := by
    rw [contextAt]
    dsimp only
    rw [ht]
    dsimp only
    rw [if_pos hd, consumeAt]
    exact h
  rw [consumeAt]
  refine consume_of_step_error ?_ he
  show step _ (.mk (.rule ref) false) s = _
  rw [step, henter]

/-- The anchored rule on a fresh cursor: the start of the text holds, so an error of the rule
that is not a failure, from the sequence's mark, stops the match. -/
theorem consumeAt_anchored_of_error {c : Nat} {ref : RuleRef} {chars : Array Char}
    {events : Array Event} {s1 : MatchState} {e : MatchError}
    (h : consumeAt rules config c 0 (Pattern.new (.rule ref)) ⟨⟨chars, 0, [0]⟩, events⟩ = .error e s1)
    (hm : s1.cursor.marks = [0]) (he : e.recoverable = false) :
    consumeAt rules config c 0 (anchored (Pattern.new (.rule ref))) ⟨⟨chars, 0, []⟩, events⟩ =
      .error e { s1 with cursor := { s1.cursor with pos := 0, marks := [] } } := by
  rw [consumeAt] at h ⊢
  have hsearch : search (contextAt rules config c 0)
      (.mk (.sequence [Pattern.stringStart, Pattern.new (.rule ref), Pattern.stringEnd] none true) false)
      (sequenceSteps [Pattern.stringStart, Pattern.new (.rule ref), Pattern.stringEnd] none)
      (fun _ h ↦ sizeOf_step_lt h) 0 [] ⟨(⟨chars, 0, []⟩ : Cursor).mark, events⟩ = .error e s1 :=
    (search_cons_of_ok (consume_stringStart rfl)).trans
      (retry_of_error (search_cons_of_error h he))
  refine consume_of_step_error ?_ he
  show step _ (.mk (.sequence [Pattern.stringStart, Pattern.new (.rule ref), Pattern.stringEnd]
      none true) false) _ = _
  rw [step]
  simp only [mark_bind]
  rw [bind_of_ok (outcome_of_error hsearch)]
  dsimp only
  rw [restoreMark_bind _ hm]
  rfl

/-- One round of the recursion: the rule is entered, the grammar's body matches the text, and
the check of that text stops with an error that is not a failure, which stops the match. -/
theorem consumeAt_rule_of_rejects {c : Nat} {ref : RuleRef} {tag : Nat} {name : String}
    {body : Pattern} {t : String} {s s1 s2 : MatchState} {m : Matched} {e : MatchError}
    (ht : rules.target? ref =
      some (Pattern.embed tag (.grammar name body (some (Pattern.new (.rule ref))))))
    (hd : 0 < config.maxDepth) (hb : consumeAt rules config c 1 body s = .ok m s1)
    (htext : m.fragment.toText = t)
    (hr : (contextAt rules config c 1).rejects (Pattern.new (.rule ref)) t s1 = .error e s2)
    (he : e.recoverable = false) :
    consumeAt rules config c 0 (Pattern.new (.rule ref)) s = .error e s2 := by
  rw [consumeAt] at hb
  exact consumeAt_rule_of_error ht hd (consume_grammar_of_rejects hb htext hr he) he

/-- A grammar reached through a rule whose bad pattern is that rule, with a body that matches the
text it is checked on, nests its checks without end: under every depth limit above zero and
from every allowance of nested checks, matching the rule at the start of the text ends by
exhausting the allowance, never at the depth limit, with the marks as they were. The
induction is on the allowance. -/
theorem nested_checks_exhaust {ref : RuleRef} {tag : Nat} {name : String} {body : Pattern}
    {t : String}
    (ht : rules.target? ref =
      some (Pattern.embed tag (.grammar name body (some (Pattern.new (.rule ref))))))
    (hd : 0 < config.maxDepth)
    (hbody : ∀ c marks events, ∃ m s', consumeAt rules config c 1 body
      ⟨⟨t.toList.toArray, 0, marks⟩, events⟩ = .ok m s' ∧ m.fragment.toText = t ∧
        s'.cursor.marks = marks) :
    ∀ checks marks events, ∃ s', consumeAt rules config checks 0 (Pattern.new (.rule ref))
      ⟨⟨t.toList.toArray, 0, marks⟩, events⟩ = .error .exhausted s' ∧ s'.cursor.marks = marks := by
  intro checks
  induction checks with
  | zero =>
    intro marks events
    obtain ⟨m, s1, hb, htext, hm⟩ := hbody 0 marks events
    exact ⟨s1, consumeAt_rule_of_rejects ht hd hb htext (rejects_zero _ _ _ _) rfl, hm⟩
  | succ c ih =>
    intro marks events
    obtain ⟨m, s1, hb, htext, hm⟩ := hbody (c + 1) marks events
    -- the check of the match runs the rule again, on a fresh cursor at depth zero
    obtain ⟨s2, hs2, hm2⟩ := ih [0] s1.events
    have hcheck := rejects_of_error 1 (s := s1) (consumeAt_anchored_of_error hs2 hm2 rfl) rfl
    exact ⟨_, consumeAt_rule_of_rejects ht hd hb htext hcheck rfl, hm⟩

end Checks

/-- A rule set whose rule `r` is the grammar `G` of the literal `a`, with a reference to `r` as
its bad pattern. -/
def selfCheckRules : RuleSet :=
  ⟨0, [("r", some (Pattern.embed 0
    (.grammar "G" (Pattern.literal "a") (some (Pattern.new (.rule ⟨"r", 0⟩))))))]⟩

/-- The top-level match of `r` on `a` under a depth limit of two exhausts the allowance. -/
theorem nested_checks_exhaust_literal :
    ((Pattern.new (.rule ⟨"r", 0⟩)).consumeTracked selfCheckRules { maxDepth := 2 }
      (Cursor.ofString "a")).result = .error .exhausted := by
  have ht : selfCheckRules.target? ⟨"r", 0⟩ = some (Pattern.embed 0
      (.grammar "G" (Pattern.literal "a") (some (Pattern.new (.rule ⟨"r", 0⟩))))) := rfl
  have hbody : ∀ c marks events, ∃ m s', consumeAt selfCheckRules { maxDepth := 2 } c 1
      (Pattern.literal "a") ⟨⟨"a".toList.toArray, 0, marks⟩, events⟩ = .ok m s' ∧
        m.fragment.toText = "a" ∧ s'.cursor.marks = marks := by
    intro c marks events
    have hpre : "a".toList.isPrefixOf (⟨"a".toList.toArray, 0, marks⟩ : Cursor).rest = true := rfl
    refine ⟨.fixed (.text "a"), ⟨⟨"a".toList.toArray, 1, marks⟩, events⟩, ?_, rfl, rfl⟩
    rw [consumeAt]
    apply Engine.consume_of_step
    show Engine.step _ (.mk (.literal "a") false) _ = _
    rw [Engine.step]
    simp only [Engine.matchLiteral, Engine.cursor_bind, hpre, if_true]
    rfl
  obtain ⟨s', h, -⟩ := nested_checks_exhaust ht (by decide) hbody checkAllowance [] #[]
  simp only [Pattern.consumeTracked, Engine.runOn]
  rw [show Cursor.ofString "a" = ⟨"a".toList.toArray, 0, []⟩ from rfl, h]

end Backtrack
