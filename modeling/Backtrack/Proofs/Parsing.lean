import Backtrack.Proofs.Offers
import Backtrack.Proofs.FragmentText
import Backtrack.Proofs.Rejection
import Backtrack.Grammar.Basic

/-!
# Complete parses, read off the ends a grammar offers

A complete parse runs a grammar on a fresh text and asks that it stop at the end of the text.
In terms of what the grammar offers from the start (`Engine.Offers`), it succeeds exactly when
the first end offered is the end of the input (`parseComplete_iff_offers`).

What a grammar offers is that of its body, unless its check rejects the match. The check runs
the anchored bad pattern on the text of the match, and for a body built from plain shapes
(`Pattern.Plain`: no rule references) that text is the input the body moved over, whatever the
rules; so the check answers what the anchored pattern offers on that stretch of input
(`offers_checked`). A grammar whose body is a group of a plain pattern then yields the input as
one piece of text (`parseComplete_group_fragment`).

A parse that may stop before the end of the input succeeds exactly when the grammar offers an
end at all, and consumes up to the first one (`parse_ok_iff_offers`, `parse_ok_of_offers`).

An ordered choice of grammars parses a whole input exactly when one of its grammars does, and
labels the fragment with that grammar's name, as long as no grammar offers anything where a
later one parses the input in full (`choosesAmong_of_pairwise`).
-/

namespace Backtrack

namespace Pattern

/-- Patterns built from literals, character classes, runs, lookaheads, repetitions, sequences,
choices, groups and grammars, whose parts are all kept in their parents' fragments except for
lookaheads, and with no rule reference in what they match. -/
inductive Plain : Pattern → Prop
  | literal (t : String) : Plain (.mk (.literal t) false)
  | char (cls : CharClass) : Plain (.mk (.char cls) false)
  | run (r : Run) : Plain (.mk (.run r) false)
  | nextIs (neg : Bool) (q : Pattern) (b : Bool) : Plain (.mk (.nextIs neg q) b)
  | repetition {q : Pattern} (lo : Nat) (hi : Option Nat) : Plain q → Plain (.mk (.repetition q lo hi) false)
  | sequence {cs : List Pattern} (auto : Bool) : (∀ q ∈ cs, Plain q) → Plain (.mk (.sequence cs none auto) false)
  | choice {cs : List Pattern} (auto : Bool) : (∀ q ∈ cs, Plain q) → Plain (.mk (.choice cs auto) false)
  | group {q : Pattern} : Plain q → Plain (.mk (.group q) false)
  | grammar {body : Pattern} (tag : Nat) (name : String) (bad : Option Pattern) :
      Plain body → Plain (.mk (.embed tag (.grammar name body bad)) false)

/-- Only the lookaheads of a plain pattern are left out, and they consume nothing. -/
theorem Plain.quiet {q : Pattern} (h : q.Plain) (hs : q.suppressed) : q.maxLength ≤ .finite 0 := by
  cases h with
  | nextIs neg q b => exact Limit.le_refl _
  | _ => cases hs

end Pattern

open Engine

/-- A plain pattern keeps the text contract in every measured context, whatever its rules: each
shape by its own lemma, by induction on plainness. -/
theorem Pattern.Plain.transcribes {rules : RuleSet} {budget : Nat} {cx : Context}
    (hcx : cx.Measures rules budget) {p : Pattern} (hp : p.Plain) :
    (consume cx p).Transcribes (p.giveBack rules budget) := by
  induction hp with
  | literal t => exact .of_step (step_literal_transcribes t)
  | char cls => exact .of_step (step_char_transcribes cls)
  | run r => exact .of_step (step_run_transcribes r)
  | nextIs neg q b =>
    exact .of_step (step_nextIs_transcribes neg (consume_measured hcx q) (consume_tidy hcx.tidy q))
  | repetition lo hi hq ih => exact .of_step (step_repetition_transcribes hcx ih hq.quiet)
  | sequence auto hcs ih => exact .of_step (step_sequence_transcribes hcx ih fun q hq ↦ (hcs q hq).quiet)
  | choice auto hcs ih => exact .of_step (step_choice_transcribes hcx ih)
  | group hq ih => exact .of_step (step_group_transcribes ih)
  | grammar tag name bad hq ih => exact .of_step (step_grammar_transcribes hcx ih)

/-- The text of a plain pattern's match that keeps the marks is the input it moved over. -/
theorem Pattern.Plain.spells {rules : RuleSet} {budget : Nat} {cx : Context}
    (hcx : cx.Measures rules budget) {p : Pattern} (hp : p.Plain) {s s' : MatchState} {m : Matched}
    (hv : s.cursor.Valid) (h : consume cx p s = .ok m s') (hmarks : s'.cursor.marks = s.cursor.marks) :
    m.fragment.toText = s.cursor.textBetween s.cursor.pos s'.cursor.pos := by
  have htext := (hp.transcribes hcx s).of_ok h ⟨hv, hmarks⟩ m 0 (.refl m)
  rwa [Nat.sub_zero] at htext

namespace Cursor

/-- The stretch of a text between two positions, as the text of a fresh cursor. -/
theorem text_ofString_textBetween (c : Cursor) {i e : Nat} (hie : i ≤ e) (he : e ≤ c.size) :
    (Cursor.ofString (c.textBetween i e)).text = c.text.extract i e := by
  simp only [ofString, textBetween, size] at he ⊢
  rw [Nat.min_eq_left he, Nat.min_eq_left hie]
  apply Array.toList_inj.mp
  simp [Array.toList_extract, List.extract]

/-- The whole of a fresh text. -/
theorem textBetween_ofString (s : String) : (Cursor.ofString s).textBetween 0 s.length = s := by
  simp only [textBetween, ofString, size, List.size_toArray, String.length_toList, Nat.min_self,
    Nat.zero_le, Nat.min_eq_left, List.extract_toArray, List.extract_eq_take_drop, List.drop_zero,
    Nat.sub_zero, List.toList_toArray]
  rw [← String.length_toList, List.take_length, String.ofList_toList]

end Cursor

namespace Engine

variable {cx : Context} {p : Pattern} {s s' : MatchState}

/-- A match that fails fails in its step, with the same cursor: reporting adds only an event. -/
theorem step_of_consume_failure {f : Failure} (h : consume cx p s = .error (.failure f) s') :
    ∃ s'', step cx p s = .error (.failure f) s'' ∧ s''.cursor = s'.cursor := by
  rw [consume] at h
  split at h
  · rename_i f' s1 hstep
    cases h
    exact ⟨s1, hstep, rfl⟩
  · exact ⟨s', h, rfl⟩

/-- A match that succeeds from a state where `q` offers ends keeps the text and the marks, and
ends at the first end offered. -/
theorem OffersAt.ok_cursor {q : Pattern} {l : List Nat} {m : Matched} (ho : OffersAt cx q s l)
    (h : consume cx q s = .ok m s') :
    s'.cursor = { s.cursor with pos := s'.cursor.pos } ∧ l.head? = some s'.cursor.pos := by
  cases l with
  | nil =>
    obtain ⟨f, s1, hc, -⟩ := ho
    rw [hc] at h
    cases h
  | cons e more =>
    obtain ⟨m1, s1, hc, hcur, -⟩ := ho
    rw [hc] at h
    cases h
    rw [hcur]
    exact ⟨rfl, rfl⟩

/-- A grammar that matches labels its body's match with its name, and ends where the body did:
the check, if any, answered no and kept the cursor. -/
theorem consume_grammar_ok {rules : RuleSet} {config : Config} {checks depth tag : Nat} {name : String}
    {body : Pattern} {bad : Option Pattern} {b : Bool} {m : Matched}
    (h : consume (contextAt rules config checks depth) (.mk (.embed tag (.grammar name body bad)) b) s =
      .ok m s') :
    ∃ mb s1, consume (contextAt rules config checks depth) body s = .ok mb s1 ∧
      m = .fixed (.named name mb.fragment) ∧ s'.cursor = s1.cursor := by
  have hstep := step_of_consume h
  rw [step] at hstep
  simp only [position_bind] at hstep
  cases hb : consume (contextAt rules config checks depth) body s with
  | error e s1 =>
    rw [bind_of_error hb] at hstep
    cases hstep
  | ok mb s1 =>
    rw [bind_of_ok hb] at hstep
    refine ⟨mb, s1, rfl, ?_⟩
    cases bad with
    | none =>
      cases hstep
      exact ⟨rfl, rfl⟩
    | some badP =>
      have hkeep := rejects_cursor rules config checks depth badP mb.fragment.toText s1
      cases hr : (contextAt rules config checks depth).rejects badP mb.fragment.toText s1 with
      | error e s2 =>
        simp only [bind_of_error hr] at hstep
        cases hstep
      | ok rejected s2 =>
        rw [hr] at hkeep
        simp only [bind_of_ok hr] at hstep
        cases rejected with
        | true =>
          simp only [if_true, record_bind, cursor_bind, setCursor_bind, fail_apply] at hstep
          cases hstep
        | false =>
          simp only [Bool.false_eq_true, if_false] at hstep
          cases hstep
          exact ⟨rfl, hkeep⟩

/-- A group that matches yields the text of its pattern's match, and ends where that match did. -/
theorem consume_group_ok {inner : Pattern} {b : Bool} {m : Matched}
    (h : consume cx (.mk (.group inner) b) s = .ok m s') :
    ∃ mi, consume cx inner s = .ok mi s' ∧ m = .fixed (.text mi.fragment.toText) := by
  cases hi : consume cx inner s with
  | ok mi s1 =>
    rw [consume_group_of_ok hi] at h
    cases h
    exact ⟨mi, rfl, rfl⟩
  | error e s1 =>
    have hstep := step_of_consume h
    rw [step] at hstep
    simp only [position_bind] at hstep
    rw [bind_of_error hi] at hstep
    cases hstep

end Engine

section Checks

variable {rules : RuleSet} {config : Config} {c depth : Nat}

/-- The check of a bad pattern answers whether the anchored pattern offers an end on the fresh
text, and keeps the cursor. -/
theorem rejects_of_offers {badP : Pattern} {text : String} {ob : Nat → List Nat}
    (hb : Offers (contextAt rules config c 0) (Cursor.ofString text).text (anchored badP) ob) (s : MatchState) :
    ∃ s', (contextAt rules config (c + 1) depth).rejects badP text s = .ok (!(ob 0).isEmpty) s' ∧
      s'.cursor = s.cursor := by
  have hoff : OffersAt (contextAt rules config c 0) (anchored badP) { s with cursor := Cursor.ofString text } (ob 0) :=
    hb.run { s with cursor := Cursor.ofString text } rfl (Nat.zero_le _)
  rw [contextAt]
  dsimp only
  cases hl : ob 0 with
  | nil =>
    rw [hl] at hoff
    obtain ⟨f, s1, hc, -⟩ := hoff
    rw [← consumeAt] at hc
    simp only [bind_of_ok (within_of_error hc)]
    exact ⟨_, rfl, rfl⟩
  | cons e more =>
    rw [hl] at hoff
    obtain ⟨m, s1, hc, -⟩ := hoff
    rw [← consumeAt] at hc
    simp only [bind_of_ok (within_of_ok hc)]
    exact ⟨_, rfl, rfl⟩

variable {T : Array Char} {tag : Nat} {name : String} {body : Pattern} {o : Nat → List Nat}

/-- A grammar whose body is plain and whose bad pattern, anchored, offers `ob T'` on every text
`T'`: the match from `i` to `e` is rejected when the anchored pattern offers an end on the
stretch of input between them. -/
theorem offers_checked (hT : T.size < Word.size) {badP : Pattern} {ob : Array Char → Nat → List Nat}
    (hbody : Offers (contextAt rules config (c + 1) depth) T body o) (hplain : body.Plain)
    (hbad : ∀ T' : Array Char, T'.size < Word.size → Offers (contextAt rules config c 0) T' (anchored badP) (ob T'))
    (b : Bool) :
    Offers (contextAt rules config (c + 1) depth) T (.mk (.embed tag (.grammar name body (some badP))) b)
      (grammarEnds o fun i e ↦ !(ob (T.extract i e) 0).isEmpty) := by
  have hcx := contextAt_measures rules config (c + 1) depth
  refine offers_grammar hcx hT hbody _ (fun s m s' ht hi hm ↦ ?_) b
  obtain ⟨hcur, hfirst⟩ := (hbody.run s ht hi).ok_cursor hm
  have hbounds := hbody.within _ hi _ (List.mem_of_head? hfirst)
  have hsize : s.cursor.size = T.size := size_of_text ht
  have htext := hplain.spells hcx ⟨by omega, by omega⟩ hm (by rw [hcur])
  have hfresh : (Cursor.ofString m.fragment.toText).text = T.extract s.cursor.pos s'.cursor.pos := by
    rw [htext, Cursor.text_ofString_textBetween _ hbounds.1 (by omega), ht]
  have hb : Offers (contextAt rules config c 0) (Cursor.ofString m.fragment.toText).text (anchored badP)
      (ob (T.extract s.cursor.pos s'.cursor.pos)) := by
    rw [hfresh]
    exact hbad _ (by simp only [Array.size_extract]; omega)
  exact rejects_of_offers hb s'

/-- A grammar without a bad pattern offers the first end of its body. -/
theorem offers_unchecked {cx : Context} {budget : Nat} (hcx : cx.Measures rules budget) (hT : T.size < Word.size)
    (hbody : Offers cx T body o) (b : Bool) :
    Offers cx T (.mk (.embed tag (.grammar name body none)) b) (grammarEnds o fun _ _ ↦ false) := by
  refine offers_grammar hcx hT hbody _ ?_ b
  intro _ _ _ _ _ _
  rfl

end Checks

theorem grammarEnds_unchecked (o : Nat → List Nat) (i : Nat) :
    grammarEnds o (fun _ _ ↦ false) i = (o i).head?.toList := by
  unfold grammarEnds
  cases (o i).head? <;> rfl

/-- A grammar offers `e` first exactly when its body does and the check does not reject the
match up to there. -/
theorem grammarEnds_head? (o : Nat → List Nat) (rejected : Nat → Nat → Bool) (i e : Nat) :
    (grammarEnds o rejected i).head? = some e ↔ (o i).head? = some e ∧ rejected i e = false := by
  unfold grammarEnds
  cases (o i).head? with
  | none => simp
  | some e' =>
    by_cases h : rejected i e' = true
    · simp only [h, if_true, List.head?_nil, reduceCtorEq, false_iff, not_and]
      rintro ⟨⟩
      simp [h]
    · simp only [h, Bool.false_eq_true, if_false, List.head?_cons, Option.some.injEq]
      constructor
      · rintro rfl
        simpa using h
      · rintro ⟨rfl, -⟩
        rfl

section Complete

variable {rules : RuleSet} {s : String}

/-- The outcome of a complete parse, read off the grammar's step from the start of the input. -/
theorem parseComplete_result (g : Grammar) :
    (g.parseComplete rules s).1 =
      match step (contextAt rules {} checkAllowance 0) (g.toPattern 0) ⟨Cursor.ofString s, #[]⟩ with
      | .ok m s' =>
        if s'.cursor.atEnd then .ok ⟨g.name, s, m.fragment.unlabel, s'.cursor.pos⟩
        else .error (.failure (s'.cursor.failure ("Expected end of input after " ++ g.name)))
      | .error e _ => .error e := by
  unfold Grammar.parseComplete Grammar.run Grammar.consumeAt Engine.runOn
  cases step (contextAt rules {} checkAllowance 0) (g.toPattern 0) ⟨Cursor.ofString s, #[]⟩ with
  | ok m s' =>
    dsimp only [Except.map]
    split <;> rfl
  | error e s' => rfl

theorem size_ofString (s : String) : (Cursor.ofString s).text.size = s.length := by
  simp [Cursor.ofString, String.length_toList]

/-- A complete parse succeeds exactly when the first end that the grammar offers from the start
of the input is the end of the input. -/
theorem parseComplete_iff_offers {g : Grammar} {o : Nat → List Nat}
    (ho : Offers (contextAt rules {} checkAllowance 0) (Cursor.ofString s).text (g.toPattern 0) o) :
    (∃ p, (g.parseComplete rules s).1 = .ok p) ↔ (o 0).head? = some s.length := by
  have hoff : OffersAt (contextAt rules {} checkAllowance 0) (g.toPattern 0) ⟨Cursor.ofString s, #[]⟩ (o 0) :=
    ho.run _ rfl (Nat.zero_le _)
  have hwithin := ho.within 0 (Nat.zero_le _)
  rw [size_ofString] at hwithin
  simp only [parseComplete_result]
  generalize o 0 = l at hoff hwithin
  cases l with
  | nil =>
    obtain ⟨f, s1, hc, -⟩ := hoff
    obtain ⟨s2, hstep, -⟩ := step_of_consume_failure hc
    simp [hstep]
  | cons e more =>
    obtain ⟨m, s1, hc, hcur, -⟩ := hoff
    have he := hwithin e (List.mem_cons_self ..)
    have hend : s1.cursor.atEnd = true ↔ e = s.length := by
      rw [hcur]
      simp only [Cursor.atEnd, Cursor.size, size_ofString, decide_eq_true_eq]
      omega
    rw [step_of_consume hc]
    by_cases he' : e = s.length
    · simp [hend.mpr he', he']
    · have hnot : ¬s1.cursor.atEnd = true := fun h ↦ he' (hend.mp h)
      simp [hnot, he']

/-- A complete parse that succeeds is the grammar's match from the start of the input, ending at
the end of its text, with the grammar's label taken off. -/
theorem parseComplete_ok {g : Grammar} {p : Parsed} (h : (g.parseComplete rules s).1 = .ok p) :
    ∃ m s', consume (contextAt rules {} checkAllowance 0) (g.toPattern 0) ⟨Cursor.ofString s, #[]⟩ = .ok m s' ∧
      p.fragment = m.fragment.unlabel ∧ s'.cursor.atEnd = true := by
  rw [parseComplete_result] at h
  cases hstep : step (contextAt rules {} checkAllowance 0) (g.toPattern 0) ⟨Cursor.ofString s, #[]⟩ with
  | error e s' =>
    simp [hstep] at h
  | ok m s' =>
    simp only [hstep] at h
    split at h
    · rename_i hend
      cases h
      exact ⟨m, s', consume_of_step hstep, rfl, hend⟩
    · cases h

/-- A complete parse reports the grammar's name. -/
theorem parseComplete_name {g : Grammar} {p : Parsed} (h : (g.parseComplete rules s).1 = .ok p) :
    p.name = g.name := by
  rw [parseComplete_result] at h
  split at h
  · split at h
    · cases h
      rfl
    · cases h
  · cases h

/-- A grammar whose body is a group of a plain pattern yields, from a complete parse, the whole
input as one piece of text, whatever its bad pattern. -/
theorem parseComplete_group_fragment {name : String} {X : Pattern} {bad : Option Pattern} (hX : X.Plain)
    (hs : s.length < Word.size) {p : Parsed}
    (h : ((⟨name, .mk (.group X) false, bad⟩ : Grammar).parseComplete rules s).1 = .ok p) :
    p.fragment = .text s := by
  have hcx := contextAt_measures rules {} checkAllowance 0
  obtain ⟨m, s', hc, hfrag, hend⟩ := parseComplete_ok h
  obtain ⟨mb, s1, hb, rfl, hcur⟩ := consume_grammar_ok hc
  obtain ⟨mi, hi, rfl⟩ := consume_group_ok hb
  have hv : (Cursor.ofString s).Valid := ⟨Nat.zero_le _, by rw [Cursor.size, size_ofString]; exact hs⟩
  -- the stack after the run is a suffix of the empty one, so the run was clean
  have hmarks : s1.cursor.marks = [] := List.suffix_nil.mp ((consume_tidy hcx.tidy X _).of_ok hi)
  have hfw := ((consume_measured hcx X _).of_ok hi ⟨hv, hmarks⟩).1
  have hpos : s1.cursor.pos = s.length := by
    have hle := hfw.le_size
    rw [hcur] at hend
    simp only [Cursor.atEnd, Cursor.size, hfw.text, size_ofString, decide_eq_true_eq] at hend hle
    omega
  -- stated without its type first: checking against the start position 0 unfolds the encoding
  have htext := hX.spells hcx hv hi hmarks
  rw [hpos] at htext
  change mi.fragment.toText = (Cursor.ofString s).textBetween 0 s.length at htext
  rw [Cursor.textBetween_ofString] at htext
  rw [hfrag, ← htext]
  rfl

end Complete

section Prefix

variable {rules : RuleSet} {s : String}

theorem parse_of_step_ok {g : Grammar} {m : Matched} {s' : MatchState}
    (h : step (contextAt rules {} checkAllowance 0) (g.toPattern 0) ⟨Cursor.ofString s, #[]⟩ = .ok m s') :
    (g.parse rules s).1 = .ok ⟨g.name, s, m.fragment.unlabel, s'.cursor.pos⟩ := by
  simp only [Grammar.parse, Grammar.parseWith, Grammar.run, Grammar.consumeAt, Engine.runOn, h]
  rfl

theorem parse_of_step_error {g : Grammar} {e : MatchError} {s' : MatchState}
    (h : step (contextAt rules {} checkAllowance 0) (g.toPattern 0) ⟨Cursor.ofString s, #[]⟩ = .error e s') :
    (g.parse rules s).1 = .error e := by
  simp only [Grammar.parse, Grammar.parseWith, Grammar.run, Grammar.consumeAt, Engine.runOn, h]
  rfl

/-- A parse succeeds exactly when the grammar offers an end from the start of the input. -/
theorem parse_ok_iff_offers {g : Grammar} {o : Nat → List Nat}
    (ho : Offers (contextAt rules {} checkAllowance 0) (Cursor.ofString s).text (g.toPattern 0) o) :
    (∃ p, (g.parse rules s).1 = .ok p) ↔ o 0 ≠ [] := by
  have hoff : OffersAt (contextAt rules {} checkAllowance 0) (g.toPattern 0) ⟨Cursor.ofString s, #[]⟩ (o 0) :=
    ho.run _ rfl (Nat.zero_le _)
  generalize o 0 = l at hoff
  cases l with
  | nil =>
    obtain ⟨f, s1, hc, -⟩ := hoff
    obtain ⟨s2, hstep, -⟩ := step_of_consume_failure hc
    simp [parse_of_step_error hstep]
  | cons e more =>
    obtain ⟨m, s1, hc, -, -⟩ := hoff
    simp [parse_of_step_ok (step_of_consume hc)]

/-- A parse that succeeds is the grammar's match from the start of the input, with the label
taken off, and consumes up to the first end the grammar offers. -/
theorem parse_ok_of_offers {g : Grammar} {o : Nat → List Nat}
    (ho : Offers (contextAt rules {} checkAllowance 0) (Cursor.ofString s).text (g.toPattern 0) o) {p : Parsed}
    (h : (g.parse rules s).1 = .ok p) :
    ∃ m s', consume (contextAt rules {} checkAllowance 0) (g.toPattern 0) ⟨Cursor.ofString s, #[]⟩ = .ok m s' ∧
      p = ⟨g.name, s, m.fragment.unlabel, s'.cursor.pos⟩ ∧ (o 0).head? = some s'.cursor.pos := by
  cases hstep : step (contextAt rules {} checkAllowance 0) (g.toPattern 0) ⟨Cursor.ofString s, #[]⟩ with
  | error e s' =>
    rw [parse_of_step_error hstep] at h
    cases h
  | ok m s' =>
    rw [parse_of_step_ok hstep] at h
    cases h
    have hc := consume_of_step hstep
    exact ⟨m, s', hc, rfl, ((ho.run _ rfl (Nat.zero_le _)).ok_cursor hc).2⟩

/-- A grammar whose body is a group of a pattern that keeps the text contract yields, from a
parse, the input it consumed as one piece of text, whatever its bad pattern. -/
theorem parse_group_fragment {name : String} {X : Pattern} {bad : Option Pattern}
    {give : Matched → Option (Matched × Nat)}
    (hX : (consume (contextAt rules {} checkAllowance 0) X).Transcribes give) (hs : s.length < Word.size)
    {p : Parsed} (h : ((⟨name, .mk (.group X) false, bad⟩ : Grammar).parse rules s).1 = .ok p) :
    p.fragment = .text ((Cursor.ofString s).textBetween 0 p.consumed) := by
  have hcx := contextAt_measures rules {} checkAllowance 0
  cases hstep : step (contextAt rules {} checkAllowance 0) ((⟨name, .mk (.group X) false, bad⟩ : Grammar).toPattern 0)
      ⟨Cursor.ofString s, #[]⟩ with
  | error e s' =>
    rw [parse_of_step_error hstep] at h
    cases h
  | ok m s' =>
    rw [parse_of_step_ok hstep] at h
    cases h
    obtain ⟨mb, s1, hb, rfl, hcur⟩ := consume_grammar_ok (consume_of_step hstep)
    obtain ⟨mi, hi, rfl⟩ := consume_group_ok hb
    have hv : (Cursor.ofString s).Valid := ⟨Nat.zero_le _, by rw [Cursor.size, size_ofString]; exact hs⟩
    -- the stack after the run is a suffix of the empty one, so the run was clean
    have hmarks : s1.cursor.marks = [] := List.suffix_nil.mp ((consume_tidy hcx.tidy X _).of_ok hi)
    have htext := (hX ⟨Cursor.ofString s, #[]⟩).of_ok hi ⟨hv, hmarks⟩ mi 0 (.refl mi)
    rw [Nat.sub_zero] at htext
    show Fragment.text mi.fragment.toText = _
    rw [htext, hcur]
    rfl

end Prefix

section Choice

/-- The first alternative that offers an end offers the end `n` exactly when some alternative
does, as long as none offers anything where a later one offers `n` first. The induction is on
the alternatives. -/
theorem firstHead_eq_some_iff {α : Type} {n : Nat} : ∀ {alts : List (α × (Nat → List Nat))},
    alts.Pairwise (fun a b ↦ (b.2 0).head? = some n → a.2 0 = []) →
    (firstHead (alts.map Prod.snd) 0 = some n ↔ ∃ a ∈ alts, (a.2 0).head? = some n)
  | [], _ => by simp [firstHead]
  | a :: rest, hp => by
    rw [List.pairwise_cons] at hp
    have ih := firstHead_eq_some_iff (n := n) hp.2
    simp only [firstHead] at ih
    simp only [firstHead, List.map_cons, List.findSome?_cons, List.mem_cons, exists_eq_or_imp]
    cases ha : (a.2 0).head? with
    | none => simpa using ih
    | some e =>
      -- an alternative after `a` that offers `n` first would leave `a` offering nothing
      have hlater : ¬∃ b ∈ rest, (b.2 0).head? = some n := by
        rintro ⟨b, hb, hbn⟩
        simp [hp.1 b hb hbn] at ha
      simp [hlater]

/-- At most one alternative offers `n` first, under the same condition. -/
theorem eq_of_pairwise {α : Type} {n : Nat} : ∀ {alts : List (α × (Nat → List Nat))},
    alts.Pairwise (fun a b ↦ (b.2 0).head? = some n → a.2 0 = []) →
    ∀ {a b}, a ∈ alts → b ∈ alts → (a.2 0).head? = some n → (b.2 0).head? = some n → a = b
  | [], _, _, _, ha, _, _, _ => by cases ha
  | x :: rest, hp, a, b, ha, hb, han, hbn => by
    rw [List.pairwise_cons] at hp
    rcases List.mem_cons.mp ha with rfl | ha' <;> rcases List.mem_cons.mp hb with rfl | hb'
    · rfl
    · simp [hp.1 b hb' hbn] at han
    · simp [hp.1 a ha' han] at hbn
    · exact eq_of_pairwise hp.2 ha' hb' han hbn

end Choice

/-- `G` parses a whole input `s` exactly when one of the grammars `gs` does; then only one of them
does, and `G` labels its fragment with that one's name. -/
def Grammar.ChoosesAmong (G : Grammar) (rules : RuleSet) (gs : List Grammar) (s : String) : Prop :=
  ((∃ p, (G.parseComplete rules s).1 = .ok p) ↔ ∃ g ∈ gs, ∃ p, (g.parseComplete rules s).1 = .ok p) ∧
  (∀ g ∈ gs, ∀ g' ∈ gs, (∃ p, (g.parseComplete rules s).1 = .ok p) →
    (∃ p, (g'.parseComplete rules s).1 = .ok p) → g = g') ∧
  ∀ p, (G.parseComplete rules s).1 = .ok p →
    ∃ g ∈ gs, (∃ q, (g.parseComplete rules s).1 = .ok q) ∧ ∃ f, p.fragment = .named g.name f

/-- An ordered choice of grammars, each offering `a.2` from the start of `s`, chooses among them
when no grammar offers anything where a later one offers the end of the input first. -/
theorem choosesAmong_of_pairwise {rules : RuleSet} {s : String} {name : String}
    {alts : List (Grammar × (Nat → List Nat))} (hs : s.length < Word.size)
    (hoffers : ∀ a ∈ alts,
      Offers (contextAt rules {} checkAllowance 0) (Cursor.ofString s).text (a.1.toPattern 0) a.2)
    (hfirst : alts.Pairwise fun a b ↦ (b.2 0).head? = some s.length → a.2 0 = []) :
    (⟨name, Pattern.anyOf (alts.map fun a ↦ a.1.toPattern 0), none⟩ : Grammar).ChoosesAmong rules
      (alts.map Prod.fst) s := by
  have hcx := contextAt_measures rules {} checkAllowance 0
  have hT : (Cursor.ofString s).text.size < Word.size := by rw [size_ofString]; exact hs
  have hcs : List.Forall₂ (Offers (contextAt rules {} checkAllowance 0) (Cursor.ofString s).text)
      (alts.map fun a ↦ a.1.toPattern 0) (alts.map Prod.snd) := by
    rw [List.forall₂_map_left_iff, List.forall₂_map_right_iff]
    exact List.forall₂_same.mpr hoffers
  have hG : Offers (contextAt rules {} checkAllowance 0) (Cursor.ofString s).text
      ((⟨name, Pattern.anyOf (alts.map fun a ↦ a.1.toPattern 0), none⟩ : Grammar).toPattern 0)
      (grammarEnds (choiceEnds (alts.map Prod.snd)) fun _ _ ↦ false) :=
    offers_unchecked hcx hT (offers_choice hcx hcs false false) false
  have halt : ∀ a ∈ alts, (∃ p, (a.1.parseComplete rules s).1 = .ok p) ↔ (a.2 0).head? = some s.length :=
    fun a ha ↦ parseComplete_iff_offers (hoffers a ha)
  have hchoice : (∃ p, ((⟨name, Pattern.anyOf (alts.map fun a ↦ a.1.toPattern 0), none⟩ : Grammar).parseComplete
      rules s).1 = .ok p) ↔ firstHead (alts.map Prod.snd) 0 = some s.length := by
    rw [parseComplete_iff_offers hG, grammarEnds_unchecked, choiceEnds]
    cases firstHead (alts.map Prod.snd) 0 <;> simp
  refine ⟨?_, ?_, ?_⟩
  · rw [hchoice, firstHead_eq_some_iff hfirst]
    constructor
    · rintro ⟨a, ha, hh⟩
      exact ⟨a.1, List.mem_map_of_mem ha, (halt a ha).mpr hh⟩
    · rintro ⟨g, hg, hp⟩
      obtain ⟨a, ha, rfl⟩ := List.mem_map.mp hg
      exact ⟨a, ha, (halt a ha).mp hp⟩
  · rintro g hg g' hg' hp hp'
    obtain ⟨a, ha, rfl⟩ := List.mem_map.mp hg
    obtain ⟨b, hb, rfl⟩ := List.mem_map.mp hg'
    rw [eq_of_pairwise hfirst ha hb ((halt a ha).mp hp) ((halt b hb).mp hp')]
  · intro p hp
    obtain ⟨m, s', hc, hfrag, -⟩ := parseComplete_ok hp
    obtain ⟨mb, s1, hb, rfl, -⟩ := consume_grammar_ok hc
    have hstep := step_of_consume hb
    unfold Pattern.anyOf Pattern.new at hstep
    rw [step] at hstep
    simp only [mark_bind] at hstep
    -- the choice's match is that of the first alternative offering an end, which is the end
    obtain ⟨q, o, hmem, hhead, ev', m', s2, hq, rfl⟩ :=
      choose_picks _ _ hcs _ (Cursor.ofString s) #[] rfl (Nat.zero_le _) _ _ hstep
    rw [List.zip_map', List.mem_map] at hmem
    obtain ⟨a, ha, hqa⟩ := hmem
    cases hqa
    obtain ⟨mg, s3, -, rfl, -⟩ := consume_grammar_ok hq
    refine ⟨a.1, List.mem_map_of_mem ha, (halt a ha).mpr (hhead.trans (hchoice.mp ⟨p, hp⟩)), mg.fragment, ?_⟩
    rw [hfrag]
    rfl

end Backtrack
