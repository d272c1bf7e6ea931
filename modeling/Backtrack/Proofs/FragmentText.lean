import Backtrack.Proofs.Transcribe
import Backtrack.Proofs.ExactBounds

/-!
# The fragment of a match spells the input it matched

A pattern transcribes (`Pattern.transcribing`) when nothing inside it that can consume input is
left out of its parent's fragment, it holds no selection and no token, each of its regular
expressions reports group zero and moves to the end of it, and its only embedded matchers are
shared wrappers and named grammars of such patterns. Boundaries and lookarounds consume nothing,
so they may stay suppressed, and the pattern a lookaround tries never reaches the fragment.

A regular expression's group zero may start past the cursor: the library searches the text after
it, and `\A` anchors only the branch of the source it stands before, so a source such as
`a)|(b` escapes it. The cursor then moves over text the fragment leaves out. So the regular
expressions must also be anchored (`Pattern.RegexesAnchored`): every match of each starts where
the text after the cursor does.

Each shape of such a pattern keeps the text contract of `Engine.Transcribes` when the patterns
inside it keep theirs, so every such pattern keeps it in every context whose rules do
(`Engine.consume_transcribes`); the contexts of matching do at every depth when the rules
transcribe (`contextAt_transcribes`). A group of such a pattern yields one piece of text, the
input it matched.

Main statement: `consumeTracked_spells_input`.
-/

namespace Backtrack

namespace Pattern

mutual
/-- A pattern whose fragment spells the input it matched, when its regular expressions are
anchored: what can consume is never suppressed, there is no selection and no token, regular
expressions report group zero and move to its end, and embedded matchers are shared wrappers
and grammars of such patterns. -/
def transcribing : Pattern → Bool
  | mk s b => (!b || decide ((mk s b).maxLength ≤ .finite 0)) && shapeTranscribing s

/-- `transcribing` by shape, apart from the node's own suppression. -/
def shapeTranscribing : Shape → Bool
  | .regex rx => rx.options.groups == .one 0 && rx.options.advance == 0
  | .sequence cs none _ | .choice cs _ => allTranscribing cs
  | .sequence cs (some sep) _ => allTranscribing cs && transcribing sep
  | .repetition inner _ _ | .group inner | .flatten inner => transcribing inner
  | .separated sep elem _ _ => transcribing sep && transcribing elem
  | .select .. | .token _ => false
  | .embed _ m => embeddedTranscribing m
  | _ => true

/-- `transcribing` of an embedded matcher: a grammar of such a body or a shared wrapper. -/
def embeddedTranscribing : Embedded → Bool
  | .grammar _ body _ => transcribing body
  | .shared inner => transcribing inner
  | _ => false

/-- Whether every pattern of the list transcribes. -/
def allTranscribing : List Pattern → Bool
  | [] => true
  | p :: ps => transcribing p && allTranscribing ps
end

theorem allTranscribing_iff {cs : List Pattern} : allTranscribing cs ↔ ∀ q ∈ cs, q.transcribing := by
  induction cs with
  | nil => simp [allTranscribing]
  | cons p ps ih => simp [allTranscribing, ih]

theorem transcribing_mk {s : Shape} {b : Bool} :
    (mk s b).transcribing ↔ (b → (mk s b).maxLength ≤ .finite 0) ∧ shapeTranscribing s := by
  cases b <;> simp [transcribing]

/-- A suppressed pattern that transcribes consumes nothing. -/
theorem quiet_of_transcribing {p : Pattern} (hp : p.transcribing) :
    p.suppressed → p.maxLength ≤ .finite 0 := by
  cases p with
  | mk s b => exact (transcribing_mk.mp hp).1

theorem shapeTranscribing_of_mk {s : Shape} {b : Bool} (hp : (mk s b).transcribing) :
    shapeTranscribing s :=
  (transcribing_mk.mp hp).2

/-- Every step of a sequence that transcribes transcribes, separators included. -/
theorem transcribing_of_mem_sequenceSteps {cs : List Pattern} {sep : Option Pattern} {auto b : Bool}
    (hp : (mk (.sequence cs sep auto) b).transcribing) {q : Pattern} (hq : q ∈ sequenceSteps cs sep) :
    q.transcribing := by
  have hs := shapeTranscribing_of_mk hp
  rcases mem_sequenceSteps hq with hc | rfl
  · cases sep <;> simp only [shapeTranscribing, Bool.and_eq_true] at hs
    · exact allTranscribing_iff.mp hs q hc
    · exact allTranscribing_iff.mp hs.1 q hc
  · simp only [shapeTranscribing, Bool.and_eq_true] at hs
    exact hs.2

/-- The regular expressions that a pattern holds, at any depth. -/
inductive HoldsRegex : Pattern → RegexNode → Prop
  | self (rx : RegexNode) (b : Bool) : HoldsRegex (mk (.regex rx) b) rx
  | sub {s : Shape} {q : Pattern} {rx : RegexNode} (b : Bool) :
      q ∈ s.subpatterns → HoldsRegex q rx → HoldsRegex (mk s b) rx

/-- Every regular expression the pattern holds is anchored: each of its matches starts at the
start of the haystack. -/
def RegexesAnchored (p : Pattern) : Prop := ∀ rx, p.HoldsRegex rx → rx.compiled.Anchored

theorem RegexesAnchored.self {rx : RegexNode} {b : Bool} (h : (mk (.regex rx) b).RegexesAnchored) :
    rx.compiled.Anchored :=
  h rx (.self rx b)

theorem RegexesAnchored.sub {s : Shape} {b : Bool} (h : (mk s b).RegexesAnchored) {q : Pattern}
    (hq : q ∈ s.subpatterns) : q.RegexesAnchored :=
  fun rx hrx ↦ h rx (.sub b hq hrx)

/-- The fragment a group builds is one piece of text, that of the inner fragment. -/
theorem group_fragment (taken : String) (f : Fragment) :
    (if taken == f.toText then Fragment.text taken else f.grouped) = .text f.toText := by
  split
  · rename_i h
    rw [beq_iff_eq.mp h]
  · cases f <;> rfl

end Pattern

namespace RuleSet

/-- A rule set whose defined rules all transcribe. -/
def transcribing (rs : RuleSet) : Bool := rs.entries.all fun e ↦ e.2.all Pattern.transcribing

theorem transcribing_of_target? {rs : RuleSet} (hrs : rs.transcribing) {r : RuleRef} {t : Pattern}
    (ht : rs.target? r = some t) : t.transcribing :=
  all_of_target? hrs ht

/-- Every regular expression of every rule is anchored. -/
def RegexesAnchored (rs : RuleSet) : Prop := ∀ r t, rs.target? r = some t → t.RegexesAnchored

end RuleSet

/-- What the text contract needs of a context: entering a rule transcribes, giving back as the
reference does. -/
def Context.Transcribes (cx : Context) (rules : RuleSet) (budget : Nat) : Prop :=
  ∀ ref b, (cx.enter ref).Transcribes ((Pattern.mk (.rule ref) b).giveBack rules budget)

namespace Engine

variable {rules : RuleSet} {budget : Nat} {cx : Context} {b : Bool} {inner : Pattern}

/-! ### Each shape of pattern -/

section Shapes

theorem step_sequence_transcribes (hcx : cx.Measures rules budget) {cs : List Pattern}
    {sep : Option Pattern} {auto : Bool}
    (hsteps : ∀ q ∈ sequenceSteps cs sep, (consume cx q).Transcribes (q.giveBack rules budget))
    (hquiet : ∀ q ∈ sequenceSteps cs sep, q.suppressed → q.maxLength ≤ .finite 0) :
    (step cx (.mk (.sequence cs sep auto) b)).Transcribes
      ((Pattern.mk (.sequence cs sep auto) b).giveBack rules budget) := by
  refine .of_fixed (fun _ ↦ Pattern.giveBack_of_pieces_nil rules budget _) fun s hv ↦ ?_
  rw [step]
  simp only [mark_bind]
  have hs := search_transcribes hcx (p := .mk (.sequence cs sep auto) b) _ hsteps hquiet
    (fun _ h ↦ sizeOf_step_lt h) 0 [] { s with cursor := s.cursor.mark }
  have ht := search_tidy (p := .mk (.sequence cs sep auto) b) _ (fun q _ ↦ consume_tidy hcx.tidy q)
    (fun _ h ↦ sizeOf_step_lt h) 0 [] { s with cursor := s.cursor.mark }
  cases hr : search cx (.mk (.sequence cs sep auto) b) (sequenceSteps cs sep)
      (fun _ h ↦ sizeOf_step_lt h) 0 [] { s with cursor := s.cursor.mark } with
  | ok r s1 =>
    rw [hr] at hs ht
    have hsuf : s1.cursor.marks <:+ s.cursor.pos :: s.cursor.marks := ht
    simp only [bind_of_ok (outcome_of_ok hr)]
    cases r with
    | done steps =>
      refine ends_forgetMark_bind (fun _ ↦ trivial) fun k ks hks ↦ ?_
      simp only [pure_apply, ends_ok]
      intro hclean
      have hks' : ks = s.cursor.marks := hclean
      subst hks'
      -- the pop landed on the sequence's stack, so the search ran clean
      obtain ⟨new, hnew, htext⟩ := hs ⟨hv.mark, eq_of_pop hks hsuf⟩
      rw [List.nil_append] at hnew
      subst hnew
      exact ⟨rfl, htext⟩
    | stuck f j =>
      simp only [record_bind]
      exact ends_restoreMark_bind (fun _ ↦ trivial) fun _ _ _ ↦ trivial
  | error e s1 =>
    simp only [bind_of_ok (outcome_of_error hr)]
    exact ends_restoreMark_bind (fun _ ↦ trivial) fun _ _ _ ↦ trivial

theorem step_choice_transcribes (hcx : cx.Measures rules budget) {cs : List Pattern} {auto : Bool}
    (hcs : ∀ q ∈ cs, (consume cx q).Transcribes (q.giveBack rules budget)) :
    (step cx (.mk (.choice cs auto) b)).Transcribes ((Pattern.mk (.choice cs auto) b).giveBack rules budget) := by
  refine .of_fixed (fun _ ↦ Pattern.giveBack_of_pieces_nil rules budget _) fun s hv ↦ ?_
  rw [step]
  simp only [mark_bind]
  exact (choose_transcribes hcx hv cs hcs (fun _ h ↦ sizeOf_choice_lt h) _).mono
    (fun _ _ h hmarks ↦ h rfl hmarks) fun _ _ _ ↦ trivial

theorem step_repetition_transcribes (hcx : cx.Measures rules budget) {lo : Nat} {hi : Option Nat}
    (hin : (consume cx inner).Transcribes (inner.giveBack rules budget))
    (hquiet : inner.suppressed → inner.maxLength ≤ .finite 0) :
    (step cx (.mk (.repetition inner lo hi) b)).Transcribes
      ((Pattern.mk (.repetition inner lo hi) b).giveBack rules budget) := by
  rw [Pattern.giveBack_repetition]
  refine .of_valid fun s hv ↦ ?_
  rw [step]
  simp only [mark_bind]
  refine Ends.bind ((rounds_transcribes hcx hin hquiet hv (hi.getD Word.size) #[] #[] _).and
      (rounds_tidy (L := s.cursor.mark.marks) (consume_tidy hcx.tidy inner) _ #[] #[] _
        (List.suffix_refl _)))
    (fun _ _ _ ↦ trivial) ?_
  rintro ⟨items, pieces⟩ s1 - ⟨hround, hsuf⟩
  exact ends_listEnd_transcribes items pieces s1 hsuf fun h1 ↦ hround h1 (.start hv trivial) .nil

theorem step_separated_transcribes (hcx : cx.Measures rules budget) {sep elem : Pattern} {lo : Nat}
    {hi : Option Nat} (hsep : (consume cx sep).Transcribes (sep.giveBack rules budget))
    (helem : (consume cx elem).Transcribes (elem.giveBack rules budget))
    (hsep_quiet : sep.suppressed → sep.maxLength ≤ .finite 0)
    (helem_quiet : elem.suppressed → elem.maxLength ≤ .finite 0) :
    (step cx (.mk (.separated sep elem lo hi) b)).Transcribes
      ((Pattern.mk (.separated sep elem lo hi) b).giveBack rules budget) := by
  rw [Pattern.giveBack_separated]
  refine .of_valid fun s hv ↦ ?_
  rw [step]
  simp only [mark_bind]
  refine Ends.bind ((listRounds_transcribes hcx hsep helem hsep_quiet helem_quiet hv
      (hi.getD Word.size) #[] #[] _).and
      (listRounds_tidy (L := s.cursor.mark.marks) (consume_tidy hcx.tidy sep)
        (consume_tidy hcx.tidy elem) _ #[] #[] _ (List.suffix_refl _)))
    (fun _ _ _ ↦ trivial) ?_
  rintro ⟨items, pieces⟩ s1 - ⟨hround, hsuf⟩
  exact ends_listEnd_transcribes items pieces s1 hsuf fun h1 ↦ hround h1 (.start hv trivial) .nil

/-- A group matched once spells the inner text as one piece of text; the inner match spells
the input it moved over. -/
theorem consume_group_of_ok {s s' : MatchState} {m : Matched} (h : consume cx inner s = .ok m s') :
    consume cx (.mk (.group inner) b) s = .ok (.fixed (.text m.fragment.toText)) s' := by
  rw [consume, step]
  simp only [position_bind, bind_of_ok h, cursor_bind, pure_apply, Pattern.group_fragment]

theorem step_group_transcribes (hin : (consume cx inner).Transcribes (inner.giveBack rules budget)) :
    (step cx (.mk (.group inner) b)).Transcribes ((Pattern.mk (.group inner) b).giveBack rules budget) := by
  refine .of_fixed (fun _ ↦ Pattern.giveBack_of_pieces_nil rules budget _) fun s hv ↦ ?_
  rw [step]
  simp only [position_bind]
  refine Ends.bind (hin s) (fun _ _ _ ↦ trivial) fun m s1 _ h1 ↦ ?_
  simp only [cursor_bind, pure_apply, ends_ok, Pattern.group_fragment]
  intro hmarks
  have htext := h1 ⟨hv, hmarks⟩ m 0 (.refl m)
  rw [Nat.sub_zero] at htext
  exact ⟨rfl, htext⟩

theorem step_flatten_transcribes (hin : (consume cx inner).Transcribes (inner.giveBack rules budget)) :
    (step cx (.mk (.flatten inner) b)).Transcribes ((Pattern.mk (.flatten inner) b).giveBack rules budget) := by
  refine .of_fixed (fun _ ↦ Pattern.giveBack_of_pieces_nil rules budget _) fun s hv ↦ ?_
  rw [step]
  refine Ends.bind (hin s) (fun _ _ _ ↦ trivial) fun m s1 _ h1 ↦ ?_
  simp only [pure_apply, ends_ok]
  intro hmarks
  have htext := h1 ⟨hv, hmarks⟩ m 0 (.refl m)
  rw [Nat.sub_zero] at htext
  exact ⟨rfl, (Fragment.text_flatten m.fragment).trans htext⟩

/-- A grammar labels its body's fragment, which keeps its text, or takes the match back when
the bad pattern matches that text; the check leaves the cursor where the body ended. -/
theorem step_grammar_transcribes (hcx : cx.Measures rules budget) {tag : Nat} {name : String}
    {bad : Option Pattern} (hin : (consume cx inner).Transcribes (inner.giveBack rules budget)) :
    (step cx (.mk (.embed tag (.grammar name inner bad)) b)).Transcribes
      ((Pattern.mk (.embed tag (.grammar name inner bad)) b).giveBack rules budget) := by
  refine .of_fixed (fun _ ↦ Pattern.giveBack_of_pieces_nil rules budget _) fun s hv ↦ ?_
  rw [step]
  simp only [position_bind]
  refine Ends.bind (hin s) (fun _ _ _ ↦ trivial) fun m s1 _ h1 ↦ ?_
  have htext : s1.cursor.marks = s.cursor.marks →
      (Matched.fixed (.named name m.fragment)).fragment.toText =
        s.cursor.textBetween s.cursor.pos s1.cursor.pos := by
    intro hmarks
    have h := h1 ⟨hv, hmarks⟩ m 0 (.refl m)
    rw [Nat.sub_zero] at h
    exact h
  cases bad with
  | none => exact fun hmarks ↦ ⟨rfl, htext hmarks⟩
  | some bad =>
    refine Ends.bind (hcx.rejects bad _ s1) (fun _ _ _ ↦ trivial) fun rejected s2 _ h2 ↦ ?_
    have h2' : s2.cursor = s1.cursor := h2
    cases rejected with
    | true =>
      simp only [↓reduceIte, record_bind, cursor_bind, setCursor_bind]
      trivial
    | false =>
      simp only [Bool.false_eq_true, ↓reduceIte, pure_apply, ends_ok]
      rw [h2']
      exact fun hmarks ↦ ⟨rfl, htext hmarks⟩

end Shapes

/-! ### Every pattern that transcribes -/

/-- Every pattern that transcribes, with anchored regular expressions, keeps the text contract
with its own way of giving back, in every context that is measured and whose rules transcribe: by
recursion on the size of the pattern, each shape from its own lemma, and the suppressed parts of
sequences and lists consuming nothing. -/
theorem consume_transcribes (hcx : cx.Measures rules budget) (hct : cx.Transcribes rules budget) :
    ∀ p : Pattern, p.transcribing → p.RegexesAnchored → (consume cx p).Transcribes (p.giveBack rules budget)
  | .mk (.char cls) _, _, _ => .of_step (step_char_transcribes cls)
  | .mk (.run r) _, _, _ => .of_step (step_run_transcribes r)
  | .mk (.whitespace r) _, _, _ => .of_step (step_whitespace_transcribes r)
  | .mk (.literal t) _, _, _ => .of_step (step_literal_transcribes t)
  | .mk (.regex rx) _, hp, ha => by
    have hs := Pattern.shapeTranscribing_of_mk hp
    simp only [Pattern.shapeTranscribing, Bool.and_eq_true, beq_iff_eq] at hs
    exact .of_step (step_regex_transcribes hs.1 hs.2 ha.self)
  | .mk (.boundary k) _, _, _ => .of_step (step_boundary_transcribes k)
  | .mk (.nextIs neg inner) _, _, _ =>
    .of_step (step_nextIs_transcribes neg (consume_measured hcx inner) (consume_tidy hcx.tidy inner))
  | .mk (.prevIs neg inner) _, _, _ => .of_step (step_prevIs_transcribes neg)
  | .mk (.sequence cs sep auto) _, hp, ha =>
    .of_step (step_sequence_transcribes hcx
      (fun q hq ↦ consume_transcribes hcx hct q (Pattern.transcribing_of_mem_sequenceSteps hp hq)
        (ha.sub (Shape.mem_subpatterns_of_mem_sequenceSteps hq)))
      fun q hq ↦ Pattern.quiet_of_transcribing (Pattern.transcribing_of_mem_sequenceSteps hp hq))
  | .mk (.choice cs auto) _, hp, ha => by
    have hs := Pattern.shapeTranscribing_of_mk hp
    simp only [Pattern.shapeTranscribing] at hs
    exact .of_step (step_choice_transcribes hcx fun q hq ↦
      consume_transcribes hcx hct q (Pattern.allTranscribing_iff.mp hs q hq) (ha.sub hq))
  | .mk (.repetition inner lo hi) _, hp, ha => by
    have hs : inner.transcribing := Pattern.shapeTranscribing_of_mk hp
    exact .of_step (step_repetition_transcribes hcx
      (consume_transcribes hcx hct inner hs (ha.sub (List.mem_singleton_self inner)))
      (Pattern.quiet_of_transcribing hs))
  | .mk (.separated sep elem lo hi) _, hp, ha => by
    have hs := Pattern.shapeTranscribing_of_mk hp
    simp only [Pattern.shapeTranscribing, Bool.and_eq_true] at hs
    exact .of_step (step_separated_transcribes hcx
      (consume_transcribes hcx hct sep hs.1 (ha.sub List.mem_cons_self))
      (consume_transcribes hcx hct elem hs.2 (ha.sub (List.mem_cons_of_mem _ List.mem_cons_self)))
      (Pattern.quiet_of_transcribing hs.1) (Pattern.quiet_of_transcribing hs.2))
  | .mk (.group inner) _, hp, ha =>
    .of_step (step_group_transcribes (consume_transcribes hcx hct inner (Pattern.shapeTranscribing_of_mk hp)
      (ha.sub (List.mem_singleton_self inner))))
  | .mk (.flatten inner) _, hp, ha =>
    .of_step (step_flatten_transcribes (consume_transcribes hcx hct inner (Pattern.shapeTranscribing_of_mk hp)
      (ha.sub (List.mem_singleton_self inner))))
  | .mk (.select inner sel) _, hp, _ => absurd (Pattern.shapeTranscribing_of_mk hp) Bool.false_ne_true
  | .mk (.token inner) _, hp, _ => absurd (Pattern.shapeTranscribing_of_mk hp) Bool.false_ne_true
  | .mk (.rule ref) b, _, _ => .of_step (by rw [step]; exact hct ref b)
  | .mk (.embed tag (.grammar name body bad)) _, hp, ha =>
    .of_step (step_grammar_transcribes hcx
      (consume_transcribes hcx hct body (Pattern.shapeTranscribing_of_mk hp) (ha.sub List.mem_cons_self)))
  | .mk (.embed tag (.shared inner)) _, hp, ha => .of_step (by
    rw [step, Pattern.giveBack_shared]
    exact consume_transcribes hcx hct inner (Pattern.shapeTranscribing_of_mk hp)
      (ha.sub (List.mem_singleton_self inner)))
  | .mk (.embed _ .broken) _, hp, _ => absurd (Pattern.shapeTranscribing_of_mk hp) Bool.false_ne_true
  | .mk (.embed _ .unbalanced) _, hp, _ => absurd (Pattern.shapeTranscribing_of_mk hp) Bool.false_ne_true
termination_by p => sizeOf p
decreasing_by
  all_goals first
    | (simp only [Pattern.mk.sizeOf_spec, Shape.repetition.sizeOf_spec, Shape.separated.sizeOf_spec,
        Shape.group.sizeOf_spec, Shape.flatten.sizeOf_spec, Shape.embed.sizeOf_spec,
        Embedded.shared.sizeOf_spec, Embedded.grammar.sizeOf_spec]; omega)
    | exact sizeOf_step_lt ‹_›
    | exact sizeOf_choice_lt ‹_›

end Engine

/-- When the rules transcribe and their regular expressions are anchored, the contexts of
matching meet the text contract at every depth, giving back with the levels left below the
limit. The induction is on those levels, as in `contextAt_measures`. -/
theorem contextAt_transcribes {rules : RuleSet} (hrules : rules.transcribing)
    (hanchored : rules.RegexesAnchored) (config : Config) (checks depth : Nat) :
    (contextAt rules config checks depth).Transcribes rules (config.maxDepth - depth) := by
  intro ref b s
  rw [contextAt]
  dsimp only
  cases ht : rules.target? ref with
  | none => trivial
  | some t =>
    by_cases hd : depth < config.maxDepth
    · simp only [if_pos hd]
      rw [consumeAt]
      have ih := Engine.consume_transcribes (contextAt_measures rules config checks (depth + 1))
        (contextAt_transcribes hrules hanchored config checks (depth + 1)) t
        (RuleSet.transcribing_of_target? hrules ht) (hanchored ref t ht) s
      have hlevels : config.maxDepth - depth = config.maxDepth - (depth + 1) + 1 := by omega
      rw [hlevels, Pattern.giveBack_rule_succ _ _ ht]
      exact ih
    · simp only [if_neg hd]
      trivial
termination_by config.maxDepth - depth
decreasing_by all_goals omega

/-- Matching a pattern that transcribes, under rules that transcribe, all regular expressions
anchored, from a fresh cursor within its text: when the match succeeds, its fragment spells the input from where it started to where
it ended, and every shorter match that rolling back reaches spells the input to where it ends,
the characters given back earlier. A group of the pattern ends at the same place and yields
that input as one piece of text. -/
theorem consumeTracked_spells_input (p : Pattern) (rules : RuleSet) (config : Config)
    (hp : p.transcribing) (hrules : rules.transcribing) (hpa : p.RegexesAnchored)
    (hra : rules.RegexesAnchored) {c : Cursor} (hv : c.Valid)
    (hfresh : c.marks = []) {m : Matched} (hm : (p.consumeTracked rules config c).result = .ok m) :
    m.fragment.toText = c.textBetween c.pos (p.consumeTracked rules config c).cursor.pos ∧
      (∀ m' g, GivenBack (p.rollback rules config) m m' g →
        m'.fragment.toText = c.textBetween c.pos ((p.consumeTracked rules config c).cursor.pos - g)) ∧
      ((Pattern.group p).consumeTracked rules config c).result =
        .ok (.fixed (.text (c.textBetween c.pos (p.consumeTracked rules config c).cursor.pos))) ∧
      ((Pattern.group p).consumeTracked rules config c).cursor = (p.consumeTracked rules config c).cursor := by
  have htext := Engine.consume_transcribes (contextAt_measures rules config checkAllowance 0)
    (contextAt_transcribes hrules hra config checkAllowance 0) p hp hpa ⟨c, #[]⟩
  have htidy := consumeAt_tidy rules config checkAllowance 0 p ⟨c, #[]⟩
  rw [consumeAt] at htidy
  unfold Pattern.consumeTracked Engine.runOn at hm ⊢
  rw [consumeAt] at hm ⊢
  cases hr : Engine.consume (contextAt rules config checkAllowance 0) p ⟨c, #[]⟩ with
  | error e s' => simp [hr] at hm
  | ok a s' =>
    rw [hr] at htext htidy hm
    simp only [Except.ok.injEq] at hm
    subst hm
    rw [consumeAt, Pattern.group, Pattern.new, Engine.consume_group_of_ok hr]
    simp only
    -- the stack after the run is a suffix of the empty one, so the run was clean
    have hmarks : s'.cursor.marks = c.marks :=
      (List.suffix_nil.mp (hfresh ▸ htidy)).trans hfresh.symm
    have hall := htext ⟨hv, hmarks⟩
    rw [Nat.sub_zero] at hall
    have hself := hall a 0 (.refl a)
    rw [Nat.sub_zero] at hself
    exact ⟨hself, hall, by rw [hself], trivial⟩

/-- A run of `a` over `aa` from the start spells both symbols, and so does its group. -/
theorem consumeTracked_spells_input_chars :
    (Pattern.chars "a").transcribing ∧ (RuleSet.mk 0 []).transcribing ∧ (Pattern.chars "a").RegexesAnchored ∧
      (RuleSet.mk 0 []).RegexesAnchored ∧ (Cursor.ofString "aa").Valid ∧
      (Cursor.ofString "aa").marks = [] ∧
      ((Pattern.chars "a").consumeTracked (RuleSet.mk 0 []) {} (Cursor.ofString "aa")).result =
        .ok ⟨.text "aa", [⟨1, 1⟩, ⟨1, 1⟩]⟩ ∧
      (⟨.text "aa", [⟨1, 1⟩, ⟨1, 1⟩]⟩ : Matched).fragment.toText =
          (Cursor.ofString "aa").textBetween (Cursor.ofString "aa").pos
            ((Pattern.chars "a").consumeTracked (RuleSet.mk 0 []) {} (Cursor.ofString "aa")).cursor.pos ∧
        (∀ m' g, GivenBack ((Pattern.chars "a").rollback (RuleSet.mk 0 []) {})
            ⟨.text "aa", [⟨1, 1⟩, ⟨1, 1⟩]⟩ m' g →
          m'.fragment.toText = (Cursor.ofString "aa").textBetween (Cursor.ofString "aa").pos
            (((Pattern.chars "a").consumeTracked (RuleSet.mk 0 []) {} (Cursor.ofString "aa")).cursor.pos - g)) ∧
        ((Pattern.group (Pattern.chars "a")).consumeTracked (RuleSet.mk 0 []) {} (Cursor.ofString "aa")).result =
          .ok (.fixed (.text ((Cursor.ofString "aa").textBetween (Cursor.ofString "aa").pos
            ((Pattern.chars "a").consumeTracked (RuleSet.mk 0 []) {} (Cursor.ofString "aa")).cursor.pos))) ∧
        ((Pattern.group (Pattern.chars "a")).consumeTracked (RuleSet.mk 0 []) {} (Cursor.ofString "aa")).cursor =
          ((Pattern.chars "a").consumeTracked (RuleSet.mk 0 []) {} (Cursor.ofString "aa")).cursor := by
  have hp : (Pattern.chars "a").transcribing := by decide
  have hrules : (RuleSet.mk 0 []).transcribing := rfl
  -- a run of characters holds no regular expression, and there are no rules
  have hpa : (Pattern.chars "a").RegexesAnchored := by
    intro rx h
    cases h with
    | sub _ hq _ => simp [Shape.subpatterns] at hq
  have hra : (RuleSet.mk 0 []).RegexesAnchored := by
    intro r t h
    simp [RuleSet.target?, RuleSet.get?, RuleSet.find?] at h
  have hv : (Cursor.ofString "aa").Valid := by
    unfold Cursor.Valid
    decide
  have hm : ((Pattern.chars "a").consumeTracked (RuleSet.mk 0 []) {} (Cursor.ofString "aa")).result =
      .ok ⟨.text "aa", [⟨1, 1⟩, ⟨1, 1⟩]⟩ := by
    have hrun : Engine.consume (contextAt (RuleSet.mk 0 []) {} checkAllowance 0) (Pattern.chars "a")
        ⟨Cursor.ofString "aa", #[]⟩ = .ok ⟨.text "aa", [⟨1, 1⟩, ⟨1, 1⟩]⟩ ⟨⟨#['a', 'a'], 2, []⟩, #[]⟩ :=
      consume_chars_aa [] #[]
    unfold Pattern.consumeTracked Engine.runOn
    rw [consumeAt, hrun]
  exact ⟨hp, hrules, hpa, hra, hv, rfl, hm, consumeTracked_spells_input _ _ _ hp hrules hpa hra hv rfl hm⟩

end Backtrack
