import Backtrack.Proofs.Measured

/-!
# Matches stay within the length bounds

Each shape of pattern keeps the measured contract of `Engine.Measured` when the patterns
inside it keep theirs, so every pattern keeps it in every context that does
(`Engine.consume_measured`). The contexts of matching do at every depth
(`contextAt_measures`): entering a rule below the limit matches its target one level deeper,
and giving back through the reference spends that level of the budget.

From a fresh cursor the contract applies to the whole run, since the mark stack after it is a
suffix of the empty one.

Main statement: `consumeTracked_within_bounds`.
-/

namespace Backtrack

namespace Pattern

variable {p q : Pattern} {d : Nat} {b : Bool}

/-- Patterns with the same bounds fit the same lengths. -/
theorem Fits.of_lengths (h : q.Fits d) (hmin : p.minLength = q.minLength)
    (hmax : p.maxLength = q.maxLength) : p.Fits d := by
  unfold Fits
  rw [hmin, hmax]
  exact h

theorem Fits.le_of_maxLength (h : p.Fits d) {n : Nat} (hn : p.maxLength = .finite n) : d ≤ n := by
  have := h.2
  rwa [hn, Limit.finite_le_finite] at this

theorem fits_rule (ref : RuleRef) (d : Nat) : (mk (.rule ref) b).Fits d :=
  ⟨Nat.zero_le d, Limit.le_unbounded _⟩

theorem fits_token {inner : Pattern} (h : inner.minLength ≤ d) : (mk (.token inner) b).Fits d :=
  ⟨h, Limit.le_unbounded _⟩

theorem giveBack_repetition (rules : RuleSet) (budget : Nat) (inner : Pattern) (lo : Nat)
    (hi : Option Nat) :
    (mk (.repetition inner lo hi) b).giveBack rules budget = Matched.dropLastPiece lo := by
  funext m
  rw [giveBack]

theorem giveBack_separated (rules : RuleSet) (budget : Nat) (sep elem : Pattern) (lo : Nat)
    (hi : Option Nat) :
    (mk (.separated sep elem lo hi) b).giveBack rules budget = Matched.dropLastPiece lo := by
  funext m
  rw [giveBack]

theorem giveBack_shared (rules : RuleSet) (budget tag : Nat) (inner : Pattern) :
    (mk (.embed tag (.shared inner)) b).giveBack rules budget = inner.giveBack rules budget := by
  funext m
  rw [giveBack]

/-- Giving back through a rule reference is giving back through its target, one level down. -/
theorem giveBack_rule_succ (rules : RuleSet) (budget : Nat) {ref : RuleRef} {t : Pattern}
    (ht : rules.target? ref = some t) :
    (mk (.rule ref) b).giveBack rules (budget + 1) = t.giveBack rules budget := by
  funext m
  rw [giveBack, ht]

end Pattern

namespace Engine

variable {rules : RuleSet} {budget : Nat} {cx : Context} {b : Bool} {inner : Pattern}
  {give give' : Matched → Option (Matched × Nat)} {bound bound' : Nat → Prop}

/-- An error no combinator recovers from meets the error part of the contract. -/
theorem fatal_kept {s : MatchState} {e : MatchError} (he : e.recoverable = false) (c : Cursor) :
    Clean s c → e.recoverable → c = s.cursor :=
  fun _ h ↦ absurd (he.symm.trans h) Bool.false_ne_true

/-- Returning a match without pieces where an inner match from `s` left the cursor: the
result is sized over the inner match's length. -/
theorem ends_pure_fixed {s s1 : MatchState} {a : Matched} (f : Fragment)
    (h1 : Clean s s1.cursor → s.cursor.Forward s1.cursor 0 ∧ Sized give' bound' a (s1.cursor.pos - s.cursor.pos))
    (hbound : ∀ d, bound' d → bound d) (hgive : give (.fixed f) = none)
    {E : MatchError → Cursor → Prop} :
    Ends ((pure (.fixed f) : Engine Matched) s1)
      (fun a c ↦ Clean s c → s.cursor.Forward c 0 ∧ Sized give bound a (c.pos - s.cursor.pos)) E :=
  fun hclean ↦ ⟨(h1 hclean).1, Sized.of_none (hbound _ (h1 hclean).2.bound_of) hgive⟩

/-! ### Each shape of pattern -/

section Shapes

theorem step_sequence_measured (hcx : cx.Measures rules budget) {cs : List Pattern}
    {sep : Option Pattern} {auto : Bool}
    (hsteps : ∀ q ∈ sequenceSteps cs sep, (consume cx q).Measured (q.giveBack rules budget) q.Fits) :
    (step cx (.mk (.sequence cs sep auto) b)).Measured
      ((Pattern.mk (.sequence cs sep auto) b).giveBack rules budget)
      (Pattern.mk (.sequence cs sep auto) b).Fits := by
  intro s
  rw [step]
  simp only [mark_bind]
  have hs := search_measured hcx (p := .mk (.sequence cs sep auto) b) _ hsteps
    (fun _ h ↦ sizeOf_step_lt h) 0 [] { s with cursor := s.cursor.mark }
  have ht := search_tidy (p := .mk (.sequence cs sep auto) b) _ (fun q _ ↦ consume_tidy hcx.tidy q)
    (fun _ h ↦ sizeOf_step_lt h) 0 [] { s with cursor := s.cursor.mark }
  cases hr : search cx (.mk (.sequence cs sep auto) b) (sequenceSteps cs sep)
      (fun _ h ↦ sizeOf_step_lt h) 0 [] { s with cursor := s.cursor.mark } with
  | ok r s1 =>
    rw [hr] at hs ht
    have hsuf : s1.cursor.marks <:+ s.cursor.pos :: s.cursor.marks := ht
    simp only [bind_of_ok (outcome_of_ok hr)]
    cases r with
    | done steps =>
      refine ends_forgetMark_bind (fun _ _ h ↦ absurd h Bool.false_ne_true) fun k ks hks ↦ ?_
      simp only [pure_apply, ends_ok]
      intro hclean
      have hks' : ks = s.cursor.marks := hclean.2
      subst hks'
      -- the pop landed on the sequence's stack, so the search ran clean
      obtain ⟨hf, ds, hds, hpos⟩ := hs ⟨hclean.1.mark, eq_of_pop hks hsuf⟩
      have hpos' : s1.cursor.pos = s.cursor.pos + ds.sum := hpos
      have hf' : s.cursor.Forward { s1.cursor with marks := s.cursor.marks } 0 := hf.forget
      have htop := hf'.sub_le_top hclean.1
      replace htop : s1.cursor.pos - s.cursor.pos ≤ Word.top := htop
      have hd : s1.cursor.pos - s.cursor.pos = ds.sum := by omega
      rw [hd] at htop
      refine ⟨hf', Sized.of_none ?_ (Pattern.giveBack_of_pieces_nil rules budget _ rfl)⟩
      show Pattern.Fits _ (s1.cursor.pos - s.cursor.pos)
      rw [hd]
      exact Pattern.fits_sequence hds htop
    | stuck f j =>
      simp only [record_bind]
      refine ends_restoreMark_bind (fun _ _ h ↦ absurd h Bool.false_ne_true) fun k ks hks ↦ ?_
      intro hclean _
      -- a stuck search that ran clean is back at the sequence's mark
      refine (Cursor.restored_of_pop (c := s.cursor) hks hsuf hclean.2 fun h1 ↦ ?_).1
      have hback : s1.cursor = s.cursor.mark := hs ⟨hclean.1.mark, h1⟩
      have htext := congrArg Cursor.text hback
      exact htext
  | error e s1 =>
    rw [hr] at hs
    simp only [bind_of_ok (outcome_of_error hr)]
    exact (ends_restoreMark_fatal hs).mono (fun _ _ h ↦ h) fun _ c h ↦ fatal_kept h c

theorem step_choice_measured (hcx : cx.Measures rules budget) {cs : List Pattern} {auto : Bool}
    (hcs : ∀ q ∈ cs, (consume cx q).Measured (q.giveBack rules budget) q.Fits) :
    (step cx (.mk (.choice cs auto) b)).Measured
      ((Pattern.mk (.choice cs auto) b).giveBack rules budget) (Pattern.mk (.choice cs auto) b).Fits := by
  refine .of_valid fun s hv ↦ ?_
  rw [step]
  simp only [mark_bind]
  refine (choose_measured hcx hv cs hcs (fun _ h ↦ sizeOf_choice_lt h) _).mono
    (fun a c h hclean ↦ ?_) fun e c h hclean ↦ h rfl hclean
  obtain ⟨hf, hpieces, q, hq, hfits⟩ := h rfl hclean
  exact ⟨hf, Sized.of_none (Pattern.fits_choice hq hfits) (Pattern.giveBack_of_pieces_nil rules budget _ hpieces)⟩

theorem step_repetition_measured (hcx : cx.Measures rules budget) {lo : Nat} {hi : Option Nat}
    (hin : (consume cx inner).Measured (inner.giveBack rules budget) inner.Fits) :
    (step cx (.mk (.repetition inner lo hi) b)).Measured
      ((Pattern.mk (.repetition inner lo hi) b).giveBack rules budget)
      (Pattern.mk (.repetition inner lo hi) b).Fits := by
  rw [Pattern.giveBack_repetition]
  refine .of_valid fun s hv ↦ ?_
  rw [step]
  simp only [mark_bind]
  refine Ends.bind ((rounds_measured hcx hin hv (hi.getD Word.size) _ #[] #[] _).and
      (rounds_tidy (L := s.cursor.mark.marks) (consume_tidy hcx.tidy inner) _ #[] #[] _
        (List.suffix_refl _)))
    (fun e c h _ hrec ↦ absurd (h.1.symm.trans hrec) Bool.false_ne_true) ?_
  rintro ⟨items, pieces⟩ s1 - ⟨hround, hsuf⟩
  have hfit : s1.cursor.marks = s.cursor.mark.marks →
      Fitted s.cursor (fun ds ↦ ∀ d ∈ ds, inner.Fits d) pieces s1.cursor ∧
        ∀ n, hi = some n → pieces.size ≤ n := by
    intro h1
    obtain ⟨hfit, hcap⟩ := hround h1 (.start hv fun _ h ↦ absurd h List.not_mem_nil) (by simp)
    exact ⟨hfit, fun n hn ↦ by simpa [hn] using hcap⟩
  refine ends_listEnd_measured hv (fun ds h d hd ↦ h d (List.mem_of_mem_dropLast hd))
    (fun ps hps hlo ↦ ?_) items pieces s1 hsuf hfit
  exact Pattern.fits_repetition (by simpa using hlo) (fun n hn ↦ by simpa using hps.2.1 n hn) hps.1
    hps.2.2

theorem step_separated_measured (hcx : cx.Measures rules budget) {sep elem : Pattern} {lo : Nat}
    {hi : Option Nat} (hsep : (consume cx sep).Measured (sep.giveBack rules budget) sep.Fits)
    (helem : (consume cx elem).Measured (elem.giveBack rules budget) elem.Fits) :
    (step cx (.mk (.separated sep elem lo hi) b)).Measured
      ((Pattern.mk (.separated sep elem lo hi) b).giveBack rules budget)
      (Pattern.mk (.separated sep elem lo hi) b).Fits := by
  rw [Pattern.giveBack_separated]
  refine .of_valid fun s hv ↦ ?_
  rw [step]
  simp only [mark_bind]
  refine Ends.bind ((listRounds_measured hcx hsep helem hv (hi.getD Word.size) _ #[] #[] _).and
      (listRounds_tidy (L := s.cursor.mark.marks) (consume_tidy hcx.tidy sep)
        (consume_tidy hcx.tidy elem) _ #[] #[] _ (List.suffix_refl _)))
    (fun e c h _ hrec ↦ absurd (h.1.symm.trans hrec) Bool.false_ne_true) ?_
  rintro ⟨items, pieces⟩ s1 - ⟨hround, hsuf⟩
  have hfit : s1.cursor.marks = s.cursor.mark.marks →
      Fitted s.cursor (Pattern.SepRounds sep elem) pieces s1.cursor ∧
        ∀ n, hi = some n → pieces.size ≤ n := by
    intro h1
    obtain ⟨hfit, hcap⟩ := hround h1 (.start hv trivial) (by simp)
    exact ⟨hfit, fun n hn ↦ by simpa [hn] using hcap⟩
  refine ends_listEnd_measured hv (fun ds h ↦ Pattern.SepRounds.dropLast h)
    (fun ps hps hlo ↦ ?_) items pieces s1 hsuf hfit
  exact Pattern.fits_separated hps.1 (by simpa using hlo) (fun n hn ↦ by simpa using hps.2.1 n hn)
    hps.2.2

theorem step_group_measured (hin : (consume cx inner).Measured (inner.giveBack rules budget) inner.Fits) :
    (step cx (.mk (.group inner) b)).Measured ((Pattern.mk (.group inner) b).giveBack rules budget)
      (Pattern.mk (.group inner) b).Fits := by
  intro s
  rw [step]
  simp only [position_bind]
  refine Ends.bind (hin s) (fun _ _ h ↦ h) fun m s1 _ h1 ↦ ?_
  simp only [cursor_bind]
  exact ends_pure_fixed _ h1 (fun _ h ↦ h.of_lengths rfl rfl)
    (Pattern.giveBack_of_pieces_nil rules budget _ rfl)

theorem step_flatten_measured (hin : (consume cx inner).Measured (inner.giveBack rules budget) inner.Fits) :
    (step cx (.mk (.flatten inner) b)).Measured ((Pattern.mk (.flatten inner) b).giveBack rules budget)
      (Pattern.mk (.flatten inner) b).Fits := by
  intro s
  rw [step]
  exact Ends.bind (hin s) (fun _ _ h ↦ h) fun m s1 _ h1 ↦ ends_pure_fixed _ h1
    (fun _ h ↦ h.of_lengths rfl rfl) (Pattern.giveBack_of_pieces_nil rules budget _ rfl)

theorem step_select_measured {sel : Selection}
    (hin : (consume cx inner).Measured (inner.giveBack rules budget) inner.Fits) :
    (step cx (.mk (.select inner sel) b)).Measured
      ((Pattern.mk (.select inner sel) b).giveBack rules budget) (Pattern.mk (.select inner sel) b).Fits := by
  intro s
  rw [step]
  exact Ends.bind (hin s) (fun _ _ h ↦ h) fun m s1 _ h1 ↦ ends_pure_fixed _ h1
    (fun _ h ↦ h.of_lengths rfl rfl) (Pattern.giveBack_of_pieces_nil rules budget _ rfl)

/-- A token skips whitespace from its mark, matches the inner pattern and skips whitespace
again: when the pop of its mark lands on its own stack, the inner pattern ran clean, and the
length is at least the inner pattern's. -/
theorem step_token_measured (hcx : cx.Measures rules budget)
    (hin : (consume cx inner).Measured (inner.giveBack rules budget) inner.Fits) :
    (step cx (.mk (.token inner) b)).Measured ((Pattern.mk (.token inner) b).giveBack rules budget)
      (Pattern.mk (.token inner) b).Fits := by
  refine .of_valid fun s hv ↦ ?_
  rw [step]
  simp only [mark_bind, skipWhitespace_bind]
  -- the whitespace before the inner pattern, skipped from the token's mark
  have hfw : s.cursor.mark.Forward
      (s.cursor.mark.advance ((s.cursor.mark.rest.takeWhile cx.config.isWhitespace).length)) 0 :=
    (Cursor.forward_advance hv.mark (List.takeWhile_prefix _).length_le).mono (Nat.zero_le _)
  generalize s.cursor.mark.advance ((s.cursor.mark.rest.takeWhile cx.config.isWhitespace).length) = w
    at hfw ⊢
  have hq := hin { s with cursor := w }
  have hqt := consume_tidy hcx.tidy inner { s with cursor := w }
  cases hc : consume cx inner { s with cursor := w } with
  | ok m s1 =>
    rw [hc] at hq hqt
    have hsuf : s1.cursor.marks <:+ s.cursor.pos :: s.cursor.marks := by
      have h : s1.cursor.marks <:+ w.marks := hqt
      rw [hfw.marks] at h
      exact h
    simp only [bind_of_ok (outcome_of_ok hc), skipWhitespace_bind]
    refine ends_forgetMark_bind (fun _ _ h ↦ absurd h Bool.false_ne_true) fun k ks hks ↦ ?_
    simp only [pure_apply, ends_ok]
    intro hclean
    have hks' : ks = s.cursor.marks := hclean
    subst hks'
    -- the pop landed on the token's stack, so the inner pattern ran clean
    obtain ⟨hf, hm⟩ := hq ⟨hv.mark.of_forward hfw, (eq_of_pop hks hsuf).trans hfw.marks.symm⟩
    have hf2 := Cursor.forward_advance ((hv.mark.of_forward hfw).of_forward hf)
      (List.takeWhile_prefix cx.config.isWhitespace).length_le
    have hfall := ((hfw.trans hf).trans (hf2.mono (Nat.zero_le _))).forget
    refine ⟨hfall, Sized.of_none (Pattern.fits_token ?_)
      (Pattern.giveBack_of_pieces_nil rules budget _ rfl)⟩
    have := hm.bound_of.1
    have := hfw.reach
    have := hf2.reach
    simp only [Cursor.pos_mark] at *
    omega
  | error e s1 =>
    rw [hc] at hq hqt
    have hsuf : s1.cursor.marks <:+ s.cursor.mark.marks := by
      have h : s1.cursor.marks <:+ w.marks := hqt
      rwa [hfw.marks] at h
    simp only [bind_of_ok (outcome_of_error hc)]
    refine ends_restoreMark_bind (fun _ _ h ↦ absurd h Bool.false_ne_true) fun k ks hks ↦ ?_
    intro hclean hrec
    -- the inner pattern failed clean, where the whitespace before it ended
    refine (Cursor.restored_of_pop (c := s.cursor) hks hsuf hclean fun h1 ↦ ?_).1
    have hback : s1.cursor = w := hq ⟨hv.mark.of_forward hfw, h1.trans hfw.marks.symm⟩ hrec
    rw [hback]
    exact hfw.text

/-- A grammar keeps its body's match, or takes it back when the bad pattern matches the text:
the cursor then retreats over what the body took, back to where the grammar started when the
body ran clean. -/
theorem step_grammar_measured (hcx : cx.Measures rules budget) {tag : Nat} {name : String}
    {bad : Option Pattern} (hin : (consume cx inner).Measured (inner.giveBack rules budget) inner.Fits) :
    (step cx (.mk (.embed tag (.grammar name inner bad)) b)).Measured
      ((Pattern.mk (.embed tag (.grammar name inner bad)) b).giveBack rules budget)
      (Pattern.mk (.embed tag (.grammar name inner bad)) b).Fits := by
  intro s
  rw [step]
  simp only [position_bind]
  refine Ends.bind (hin s) (fun _ _ h ↦ h) fun m s1 _ h1 ↦ ?_
  have hgive := Pattern.giveBack_of_pieces_nil rules budget
    (.mk (.embed tag (.grammar name inner bad)) b) (m := .fixed (.named name m.fragment)) rfl
  cases bad with
  | none => exact ends_pure_fixed _ h1 (fun _ h ↦ h.of_lengths rfl rfl) hgive
  | some bad =>
    refine Ends.bind (hcx.rejects bad _ s1) (fun _ c he ↦ fatal_kept he c) fun rejected s2 _ h2 ↦ ?_
    have h2' : s2.cursor = s1.cursor := h2
    cases rejected with
    | true =>
      simp only [↓reduceIte, record_bind, cursor_bind, setCursor_bind]
      intro hclean _
      rw [h2'] at hclean ⊢
      obtain ⟨hf, -⟩ := h1 hclean
      have hv1 := hclean.1.of_forward hf
      have hreach : s.cursor.pos ≤ s1.cursor.pos := by simpa using hf.reach
      rw [Word.wrapSub_of_le hreach (by have := hv1.1; have := hv1.2; omega),
        Cursor.retreat_sub hreach]
      exact hf.eq_of_pos
    | false =>
      simp only [Bool.false_eq_true, ↓reduceIte]
      have h1' : Clean s s2.cursor → s.cursor.Forward s2.cursor 0 ∧
          Sized (inner.giveBack rules budget) inner.Fits m (s2.cursor.pos - s.cursor.pos) := by
        rw [h2']
        exact h1
      exact ends_pure_fixed _ h1' (fun _ h ↦ h.of_lengths rfl rfl) hgive

theorem step_broken_measured {tag : Nat} :
    (step cx (.mk (.embed tag .broken) b)).Measured give bound := by
  intro s
  rw [step]
  simp only [position_bind, throw_apply]
  exact fatal_kept rfl s.cursor

/-- The matcher that pops a mark it did not push never ends clean: the stack it leaves is
shorter than the one it found. -/
theorem step_unbalanced_measured {tag : Nat} :
    (step cx (.mk (.embed tag .unbalanced) b)).Measured give bound := by
  intro s
  rw [step]
  simp only [moveCursor_bind]
  refine ends_forgetMark_bind (fun _ _ h ↦ absurd h Bool.false_ne_true) fun k ks hks hclean ↦ ?_
  have hks' : ks = k :: ks := hclean.2.trans hks
  exact absurd hks'.symm (List.cons_ne_self k ks)

end Shapes

/-! ### Every pattern -/

/-- Every pattern is measured by its own way of giving back and its own bounds, in every
context that is: by recursion on the size of the pattern, each shape from its own lemma. -/
theorem consume_measured (hcx : cx.Measures rules budget) :
    ∀ p : Pattern, (consume cx p).Measured (p.giveBack rules budget) p.Fits
  | .mk (.char cls) _ => .of_step (step_char_measured cls)
  | .mk (.run r) _ => .of_step (step_run_measured r)
  | .mk (.whitespace r) _ => .of_step (step_whitespace_measured r)
  | .mk (.literal t) _ => .of_step (step_literal_measured t)
  | .mk (.regex rx) _ => .of_step (step_regex_measured rx)
  | .mk (.boundary k) _ => .of_step (step_boundary_measured k)
  | .mk (.nextIs neg inner) _ =>
    .of_step (step_nextIs_measured neg (consume_measured hcx inner) (consume_tidy hcx.tidy inner))
  | .mk (.prevIs neg inner) _ => .of_step (step_prevIs_measured neg)
  | .mk (.sequence cs sep auto) _ =>
    .of_step (step_sequence_measured hcx fun q _ ↦ consume_measured hcx q)
  | .mk (.choice cs auto) _ => .of_step (step_choice_measured hcx fun q _ ↦ consume_measured hcx q)
  | .mk (.repetition inner lo hi) _ =>
    .of_step (step_repetition_measured hcx (consume_measured hcx inner))
  | .mk (.separated sep elem lo hi) _ =>
    .of_step (step_separated_measured hcx (consume_measured hcx sep) (consume_measured hcx elem))
  | .mk (.group inner) _ => .of_step (step_group_measured (consume_measured hcx inner))
  | .mk (.flatten inner) _ => .of_step (step_flatten_measured (consume_measured hcx inner))
  | .mk (.select inner sel) _ => .of_step (step_select_measured (consume_measured hcx inner))
  | .mk (.token inner) _ => .of_step (step_token_measured hcx (consume_measured hcx inner))
  | .mk (.rule ref) b => .of_step (by rw [step]; exact hcx.enter ref b)
  | .mk (.embed tag (.grammar name body bad)) _ =>
    .of_step (step_grammar_measured hcx (consume_measured hcx body))
  | .mk (.embed tag (.shared inner)) _ => .of_step (by
    rw [step, Pattern.giveBack_shared]
    exact (consume_measured hcx inner).weaken rfl fun _ h ↦ h.of_lengths rfl rfl)
  | .mk (.embed _ .broken) _ => .of_step step_broken_measured
  | .mk (.embed _ .unbalanced) _ => .of_step step_unbalanced_measured
termination_by p => sizeOf p
decreasing_by
  all_goals first
    | (simp only [Pattern.mk.sizeOf_spec, Shape.nextIs.sizeOf_spec,
        Shape.repetition.sizeOf_spec, Shape.separated.sizeOf_spec, Shape.group.sizeOf_spec,
        Shape.flatten.sizeOf_spec, Shape.select.sizeOf_spec, Shape.token.sizeOf_spec,
        Shape.embed.sizeOf_spec, Embedded.shared.sizeOf_spec, Embedded.grammar.sizeOf_spec]; omega)
    | exact sizeOf_step_lt ‹_›
    | exact sizeOf_choice_lt ‹_›

end Engine

/-- The contexts of matching meet what the contract needs at every depth, giving back with the
levels left below the limit. The induction is on those levels: entering a rule below the limit
matches its target one level deeper, and giving back through the reference follows the target
with one level less. -/
theorem contextAt_measures (rules : RuleSet) (config : Config) (checks depth : Nat) :
    (contextAt rules config checks depth).Measures rules (config.maxDepth - depth) := by
  refine ⟨contextAt_tidy rules config checks depth, fun q ↦ by rw [contextAt], fun ref b s ↦ ?_,
    fun bad text s ↦ ?_⟩
  · rw [contextAt]
    dsimp only
    cases ht : rules.target? ref with
    | none => exact fun _ _ ↦ rfl
    | some t =>
      by_cases hd : depth < config.maxDepth
      · simp only [if_pos hd]
        rw [consumeAt]
        have ih := Engine.consume_measured (contextAt_measures rules config checks (depth + 1)) t s
        have hlevels : config.maxDepth - depth = config.maxDepth - (depth + 1) + 1 := by omega
        rw [hlevels, Pattern.giveBack_rule_succ _ _ ht]
        exact ih.mono (fun a c h hclean ↦ ⟨(h hclean).1, (h hclean).2.mono fun d _ ↦
          Pattern.fits_rule ref d⟩) fun _ _ h ↦ h
      · simp only [if_neg hd]
        exact fun _ _ ↦ rfl
  · -- a check runs on a cursor of its own and puts the cursor back
    rw [contextAt]
    dsimp only
    cases checks with
    | zero => rfl
    | succ c =>
      simp only
      cases hr : consumeAt rules config c 0 (anchored bad) { s with cursor := Cursor.ofString text } with
      | ok a s1 =>
        simp only [Engine.bind_of_ok (Engine.within_of_ok hr)]
        rfl
      | error e s1 =>
        simp only [Engine.bind_of_ok (Engine.within_of_error hr)]
        cases e <;> rfl
termination_by config.maxDepth - depth
decreasing_by all_goals omega

/-- The matches that giving back reaches from a match, with the characters given back in
all: none, or one piece and then more. -/
inductive GivenBack (give : Matched → Option (Matched × Nat)) : Matched → Matched → Nat → Prop
  | refl (m : Matched) : GivenBack give m m 0
  | step {m m' m'' : Matched} {g g' : Nat} (hg : give m = some (m', g)) (rest : GivenBack give m' m'' g') :
      GivenBack give m m'' (g + g')

/-- Every match that giving back reaches from a sized match is sized over what is left: the
characters given back in all fit in the length, and the rest is within the bound. -/
theorem Sized.givenBack {give : Matched → Option (Matched × Nat)} {bound : Nat → Prop}
    {m m' : Matched} {d G : Nat} (h : Sized give bound m d) (hG : GivenBack give m m' G) :
    G ≤ d ∧ bound (d - G) := by
  induction hG generalizing d with
  | refl => exact ⟨Nat.zero_le d, h.bound_of⟩
  | step hg _ ih =>
    have hle := h.le_of_give hg
    obtain ⟨hle', hb⟩ := ih (h.back_of_give hg)
    refine ⟨by omega, ?_⟩
    rwa [Nat.sub_sub] at hb

/-- Matching a pattern from a fresh cursor within its text, under any rule set and
configuration: when the match succeeds, the cursor has moved forward by at least the pattern's
least length and by at most its greatest when that is finite. So has every shorter match that
rolling back reaches from it, once the characters given back are taken off. -/
theorem consumeTracked_within_bounds (p : Pattern) (rules : RuleSet) (config : Config) {c : Cursor}
    (hv : c.Valid) (hfresh : c.marks = []) {m : Matched}
    (hm : (p.consumeTracked rules config c).result = .ok m) :
    c.pos ≤ (p.consumeTracked rules config c).cursor.pos ∧
      p.minLength ≤ (p.consumeTracked rules config c).cursor.pos - c.pos ∧
      (∀ n, p.maxLength = .finite n → (p.consumeTracked rules config c).cursor.pos - c.pos ≤ n) ∧
      ∀ m' g, GivenBack (p.rollback rules config) m m' g →
        g ≤ (p.consumeTracked rules config c).cursor.pos - c.pos ∧
        p.minLength ≤ (p.consumeTracked rules config c).cursor.pos - c.pos - g ∧
        ∀ n, p.maxLength = .finite n → (p.consumeTracked rules config c).cursor.pos - c.pos - g ≤ n := by
  have hmeas := Engine.consume_measured (contextAt_measures rules config checkAllowance 0) p ⟨c, #[]⟩
  have htidy := consumeAt_tidy rules config checkAllowance 0 p ⟨c, #[]⟩
  rw [consumeAt] at htidy
  unfold Pattern.consumeTracked Engine.runOn at hm ⊢
  rw [consumeAt] at hm ⊢
  cases hr : Engine.consume (contextAt rules config checkAllowance 0) p ⟨c, #[]⟩ with
  | error e s' => simp [hr] at hm
  | ok a s' =>
    rw [hr] at hmeas htidy hm
    simp only [Except.ok.injEq] at hm
    subst hm
    simp only
    -- the stack after the run is a suffix of the empty one, so the run was clean
    have hmarks : s'.cursor.marks = c.marks :=
      (List.suffix_nil.mp (hfresh ▸ htidy)).trans hfresh.symm
    obtain ⟨hf, hsized⟩ := hmeas ⟨hv, hmarks⟩
    rw [Nat.sub_zero] at hsized
    have hall : ∀ m' g, GivenBack (p.rollback rules config) a m' g →
        g ≤ s'.cursor.pos - c.pos ∧ p.Fits (s'.cursor.pos - c.pos - g) :=
      fun m' g hg ↦ hsized.givenBack hg
    have hfits := hsized.bound_of
    refine ⟨by simpa using hf.reach, hfits.1, fun n hn ↦ hfits.le_of_maxLength hn,
      fun m' g hg ↦ ⟨(hall m' g hg).1, (hall m' g hg).2.1, fun n hn ↦ (hall m' g hg).2.le_of_maxLength hn⟩⟩

/-- A run of `a` over `aa` from the start takes both symbols, within the bounds of one
character or more, and so does giving one back. -/
theorem consumeTracked_within_bounds_chars :
    (Cursor.ofString "aa").Valid ∧ (Cursor.ofString "aa").marks = [] ∧
      ((Pattern.chars "a").consumeTracked (RuleSet.mk 0 []) {} (Cursor.ofString "aa")).result =
        .ok ⟨.text "aa", [⟨1, 1⟩, ⟨1, 1⟩]⟩ ∧
      (Cursor.ofString "aa").pos ≤
          ((Pattern.chars "a").consumeTracked (RuleSet.mk 0 []) {} (Cursor.ofString "aa")).cursor.pos ∧
        (Pattern.chars "a").minLength ≤
          ((Pattern.chars "a").consumeTracked (RuleSet.mk 0 []) {} (Cursor.ofString "aa")).cursor.pos -
            (Cursor.ofString "aa").pos ∧
        (∀ n, (Pattern.chars "a").maxLength = .finite n →
          ((Pattern.chars "a").consumeTracked (RuleSet.mk 0 []) {} (Cursor.ofString "aa")).cursor.pos -
            (Cursor.ofString "aa").pos ≤ n) ∧
        ∀ m' g, GivenBack ((Pattern.chars "a").rollback (RuleSet.mk 0 []) {})
            ⟨.text "aa", [⟨1, 1⟩, ⟨1, 1⟩]⟩ m' g →
          g ≤ ((Pattern.chars "a").consumeTracked (RuleSet.mk 0 []) {} (Cursor.ofString "aa")).cursor.pos -
            (Cursor.ofString "aa").pos ∧
          (Pattern.chars "a").minLength ≤
            ((Pattern.chars "a").consumeTracked (RuleSet.mk 0 []) {} (Cursor.ofString "aa")).cursor.pos -
              (Cursor.ofString "aa").pos - g ∧
          ∀ n, (Pattern.chars "a").maxLength = .finite n →
            ((Pattern.chars "a").consumeTracked (RuleSet.mk 0 []) {} (Cursor.ofString "aa")).cursor.pos -
              (Cursor.ofString "aa").pos - g ≤ n := by
  have hv : (Cursor.ofString "aa").Valid := by
    unfold Cursor.Valid
    decide
  have hm : ((Pattern.chars "a").consumeTracked (RuleSet.mk 0 []) {} (Cursor.ofString "aa")).result =
      .ok ⟨.text "aa", [⟨1, 1⟩, ⟨1, 1⟩]⟩ := by
    have hrun : Engine.consume (contextAt (RuleSet.mk 0 []) {} checkAllowance 0) (Pattern.chars "a")
        ⟨Cursor.ofString "aa", #[]⟩ = .ok ⟨.text "aa", [⟨1, 1⟩, ⟨1, 1⟩]⟩ ⟨⟨#['a', 'a'], 2, []⟩, #[]⟩ :=
      consume_chars_aa [] #[]
    unfold Pattern.consumeTracked Engine.runOn
    rw [consumeAt, hrun]
  exact ⟨hv, rfl, hm, consumeTracked_within_bounds _ _ _ hv rfl hm⟩

end Backtrack
