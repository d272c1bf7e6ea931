import Backtrack.Proofs.Bounds
import Backtrack.Proofs.GiveBack
import Backtrack.Proofs.Tidy

/-!
# Matching stays within the length bounds

A run is clean when it starts from a cursor inside its text and ends with the mark stack it
started with. Every clean run of a pattern that succeeds moves the cursor forward within the
text by a length that fits the pattern's bounds (`Pattern.Fits`), and so does every shorter
match that giving back reaches, by what is left after the pieces given back (`Sized`); every
clean run that fails leaves the cursor where it was (`Engine.Measured`).

Cleanness is what makes this hold for every pattern, custom matchers included. The stack
after any run is a suffix of the stack before (`Engine.Tidy`), so when a combinator ends on
its own stack, every run inside it ended on the stack it started with: the stacks in between
are squeezed between equal ones. A match that pops a mark it never pushed leaves a shorter
stack behind, and nothing after it can make the stack whole again.

This module states the contract and proves it for the primitive patterns and for the loops
inside the combinators (the search of a sequence, the alternatives of a choice, the rounds of
a repetition and of a separated list); `Backtrack.Proofs.LengthBounds` assembles them.
-/

namespace Backtrack

/-- A match without pieces gives nothing back. -/
theorem Pattern.giveBack_of_pieces_nil (rules : RuleSet) (budget : Nat) (p : Pattern) {m : Matched}
    (hm : m.pieces = []) : p.giveBack rules budget m = none := by
  cases h : p.giveBack rules budget m with
  | none => rfl
  | some r =>
    have := giveBack_pieces rules budget p m r.1 r.2 h
    simp [hm] at this

/-- A stack squeezed between two equal stacks is equal to them. -/
theorem suffix_squeeze {l m n : List Nat} (hl : l <:+ m) (hm : m <:+ n) (h : l = n) : m = n :=
  hm.eq_of_length (Nat.le_antisymm hm.length_le (h ▸ hl.length_le))

/-- Popping from a suffix of `k0 :: ms` and landing on `ms` means the stack was `k0 :: ms`. -/
theorem eq_of_pop {l ms : List Nat} {k k0 : Nat} (hl : l = k :: ms) (h : l <:+ k0 :: ms) :
    l = k0 :: ms :=
  h.eq_of_length (by simp [hl])

namespace Cursor

/-- Moving back to the mark pushed at `c`, after a run from `c.mark` that kept a suffix of the
stack, when the pop lands on the stack of `c`: the run ended on the stack it started with, and
if that keeps the text, the cursor is `c` again. -/
theorem restored_of_pop {c c1 : Cursor} {k : Nat} {ks : List Nat} (hks : c1.marks = k :: ks)
    (hsuf : c1.marks <:+ c.mark.marks) (hclean : ks = c.marks)
    (htext : c1.marks = c.mark.marks → c1.text = c.text) :
    ({ c1 with pos := k, marks := ks } : Cursor) = c ∧ c1.marks = c.mark.marks := by
  have h1 : c1.marks = c.mark.marks := eq_of_pop (hks.trans (by rw [hclean])) hsuf
  have hk : k = c.pos ∧ ks = c.marks := by
    rw [hks] at h1
    exact List.cons.inj h1
  obtain ⟨rfl, rfl⟩ := hk
  exact ⟨restore_of_text (htext h1), h1⟩

/-- How far a cursor moved forward within a text of words is itself a word. -/
theorem Forward.sub_le_top {c c' : Cursor} {n : Nat} (hv : c.Valid) (h : c.Forward c' n) :
    c'.pos - c.pos ≤ Word.top := by
  have hsize := size_eq_of_text h.text
  have := h.le_size
  have := hv.2
  unfold Word.top
  omega

end Cursor

namespace Engine

variable {α : Type}

theorem Ends.and {r : EStateM.Result MatchError MatchState α} {P P' : α → Cursor → Prop}
    {E E' : MatchError → Cursor → Prop} (h : Ends r P E) (h' : Ends r P' E') :
    Ends r (fun a c ↦ P a c ∧ P' a c) (fun e c ↦ E e c ∧ E' e c) := by
  cases r with
  | ok a s' => exact ⟨h, h'⟩
  | error e s' => exact ⟨h, h'⟩

/-- A run from `s` that ended at `c` is clean when it started inside its text and ended with
the mark stack it started with. -/
def Clean (s : MatchState) (c : Cursor) : Prop := s.cursor.Valid ∧ c.marks = s.cursor.marks

/-- The contract of a match measured by `give` and `bound`: a clean run that succeeds moves the
cursor forward within the text, and its match is sized over the distance moved; a clean run
that fails leaves the cursor where it was. -/
def Measured (give : Matched → Option (Matched × Nat)) (bound : Nat → Prop) (m : Engine Matched) :
    Prop :=
  ∀ s : MatchState, Ends (m s)
    (fun a c ↦ Clean s c → s.cursor.Forward c 0 ∧ Sized give bound a (c.pos - s.cursor.pos))
    (fun e c ↦ Clean s c → e.recoverable → c = s.cursor)

variable {give : Matched → Option (Matched × Nat)} {bound : Nat → Prop}

/-- The contract only speaks of runs from a cursor inside its text. -/
theorem Measured.of_valid {m : Engine Matched}
    (h : ∀ s : MatchState, s.cursor.Valid → Ends (m s)
      (fun a c ↦ c.marks = s.cursor.marks → s.cursor.Forward c 0 ∧ Sized give bound a (c.pos - s.cursor.pos))
      (fun e c ↦ c.marks = s.cursor.marks → e.recoverable → c = s.cursor)) :
    m.Measured give bound := by
  intro s
  by_cases hv : s.cursor.Valid
  · exact (h s hv).mono (fun _ _ h' hc ↦ h' hc.2) fun _ _ h' hc ↦ h' hc.2
  · cases m s with
    | ok a s' => exact fun hc ↦ absurd hc.1 hv
    | error e s' => exact fun hc ↦ absurd hc.1 hv

theorem Measured.of_step {cx : Context} {p : Pattern} (h : (step cx p).Measured give bound) :
    (consume cx p).Measured give bound := by
  intro s
  have hs := h s
  rw [consume]
  split
  · rename_i f s' hstep
    rw [hstep] at hs
    exact hs
  · assumption

/-- A match sized under one way of giving back and bound is sized under an equal way of giving
back and a weaker bound. -/
theorem Measured.weaken {m : Engine Matched} {give' : Matched → Option (Matched × Nat)}
    {bound' : Nat → Prop} (h : m.Measured give bound) (hgive : give' = give)
    (hbound : ∀ d, bound d → bound' d) : m.Measured give' bound' := by
  intro s
  subst hgive
  exact (h s).mono (fun _ _ h' hc ↦ ⟨(h' hc).1, (h' hc).2.mono hbound⟩) fun _ _ h' ↦ h'

/-- A computation whose clean runs stay where they are, with matches that have no pieces, is
measured by a bound that admits no characters. -/
theorem Measured.of_stays {m : Engine Matched}
    (hstay : ∀ s, Ends (m s) (fun a c ↦ Clean s c → c = s.cursor ∧ a.pieces = [])
      fun e c ↦ Clean s c → e.recoverable → c = s.cursor)
    (hgive : ∀ a : Matched, a.pieces = [] → give a = none) (hb : bound 0) : m.Measured give bound := by
  intro s
  refine (hstay s).mono (fun a c h hc ↦ ?_) fun e c h ↦ h
  obtain ⟨rfl, hpieces⟩ := h hc
  exact ⟨Cursor.Forward.refl _ hc.1, by simpa using Sized.of_none hb (hgive a hpieces)⟩

/-- Moving a valid cursor forward over `n` of the characters after it, with a match that has
no pieces and whose length `n` is within the bound. -/
theorem advance_sized (hgive : ∀ a : Matched, a.pieces = [] → give a = none) {c : Cursor}
    (hv : c.Valid) {n : Nat} (hn : n ≤ c.rest.length) (hb : bound n) (f : Fragment) :
    c.Forward (c.advance n) 0 ∧ Sized give bound (.fixed f) ((c.advance n).pos - c.pos) := by
  have hpos := Cursor.pos_advance (n := n) hv.2 (by have := hv.1; rw [Cursor.length_rest] at hn; omega)
  refine ⟨(Cursor.forward_advance hv hn).mono (Nat.zero_le _), ?_⟩
  rw [hpos, Nat.add_sub_cancel_left]
  exact Sized.of_none hb (hgive _ rfl)

/-- A lookaround's verdict leaves the cursor where it is. -/
theorem lookVerdict_stays (p inner : Pattern) (negated found : Bool) (s : MatchState) :
    Ends (lookVerdict p inner negated found s) (fun a c ↦ c = s.cursor ∧ a.pieces = [])
      fun _ c ↦ c = s.cursor := by
  unfold lookVerdict
  split
  · exact ⟨rfl, rfl⟩
  · split <;> rfl

/-! ### The primitive patterns -/

section Primitives

variable {rules : RuleSet} {budget : Nat} {cx : Context} {b : Bool}

theorem step_char_measured (cls : CharClass) :
    (step cx (.mk (.char cls) b)).Measured ((Pattern.mk (.char cls) b).giveBack rules budget)
      (Pattern.mk (.char cls) b).Fits := by
  refine .of_valid fun s hv ↦ ?_
  rw [step]
  simp only [matchChar, cursor_bind]
  cases hget : s.cursor.get 0 with
  | error e => exact fun _ _ ↦ rfl
  | ok ch =>
    by_cases hacc : cls.accepts ch
    · simp only [hacc, if_true, setCursor_bind, pure_apply, ends_ok]
      have hlt := lt_of_get_zero hv hget
      exact fun _ ↦ advance_sized (fun _ ↦ Pattern.giveBack_of_pieces_nil rules budget _) hv
        (by rw [Cursor.length_rest]; omega) (by simp [Pattern.Fits, Pattern.minLength,
          Pattern.shapeMin, Pattern.maxLength, Pattern.shapeMax]) _
    · simp only [hacc, Bool.false_eq_true, if_false]
      exact fun _ _ ↦ rfl

/-- A run of `count` characters, with the pieces of its characters, and a failure that leaves
the cursor where it was when the count is below the minimum. -/
theorem matchRun_measured (cfg : Config) (p : Pattern) (r : Run)
    (hb : ∀ d, r.min ≤ d → (∀ n, r.max = some n → d ≤ n) → bound d) :
    (matchRun cfg p r).Measured (Matched.dropLastChar r.min) bound := by
  refine .of_valid fun s hv ↦ ?_
  obtain ⟨avail, havail⟩ : ∃ avail, (s.cursor.rest.takeWhile fun ch ↦
      if r.configured then cfg.isWhitespace ch else r.cls.accepts ch).length = avail := ⟨_, rfl⟩
  obtain ⟨count, hcount⟩ : ∃ count, (r.max.map (min avail)).getD avail = count := ⟨_, rfl⟩
  rw [matchRun_apply cfg p r s havail hcount]
  have hle : count ≤ s.cursor.rest.length := by
    have := (List.takeWhile_prefix (fun ch ↦ if r.configured then cfg.isWhitespace ch
      else r.cls.accepts ch) (l := s.cursor.rest)).length_le
    rw [havail] at this
    cases hm : r.max <;> simp only [hm, Option.map_none, Option.getD_none, Option.map_some,
      Option.getD_some] at hcount <;> omega
  split
  · exact fun _ _ ↦ rfl
  · rename_i hlo
    simp only [ends_ok]
    intro _
    have hpos := Cursor.pos_advance (n := count) hv.2
      (by have := hv.1; rw [Cursor.length_rest] at hle; omega)
    refine ⟨(Cursor.forward_advance hv hle).mono (Nat.zero_le _), ?_⟩
    -- the run keeps one piece of one character per character it took
    have hbound : ∀ ps : List Piece,
        ((∀ piece ∈ ps, piece = ⟨1, 1⟩) ∧ ∀ n, r.max = some n → ps.length ≤ n) →
        r.min ≤ ps.length → bound (ps.map Piece.len).sum := by
      intro ps hps hlen
      have hsum : (ps.map Piece.len).sum = ps.length := by
        rw [List.map_congr_left (g := fun _ ↦ 1) fun piece hp ↦ by rw [hps.1 piece hp]]
        simp
      rw [hsum]
      exact hb _ hlen hps.2
    have hsized := sized_of_pieces (dropLastChar_dropsLast r.min)
      (fun ps ↦ (∀ piece ∈ ps, piece = ⟨1, 1⟩) ∧ ∀ n, r.max = some n → ps.length ≤ n)
      (fun ps hps ↦ ⟨fun piece hp ↦ hps.1 piece (List.mem_of_mem_dropLast hp),
        fun n hn ↦ by have := hps.2 n hn; simp only [List.length_dropLast]; omega⟩) hbound
      ⟨.text ((s.cursor.advance count).takenSince s.cursor.pos), List.replicate count ⟨1, 1⟩⟩
      ⟨fun piece hp ↦ List.eq_of_mem_replicate hp, fun n hn ↦ by
        simp only [hn, Option.map_some, Option.getD_some] at hcount
        simp only [List.length_replicate]
        omega⟩ (by simp; omega)
    have hspan : (⟨.text ((s.cursor.advance count).takenSince s.cursor.pos),
        List.replicate count ⟨1, 1⟩⟩ : Matched).span = count := by
      simp [Matched.span]
    rw [hspan] at hsized
    simpa [hpos] using hsized

theorem step_run_measured (r : Run) :
    (step cx (.mk (.run r) b)).Measured ((Pattern.mk (.run r) b).giveBack rules budget)
      (Pattern.mk (.run r) b).Fits := by
  rw [step]
  refine (matchRun_measured _ _ r fun d hmin hmax ↦ ?_).weaken (funext fun m ↦ by
    rw [Pattern.giveBack]) fun _ h ↦ h
  refine ⟨hmin, ?_⟩
  simp only [Pattern.maxLength, Pattern.shapeMax]
  cases hr : r.max with
  | none => simp [Limit.ofOption]
  | some n => simpa [Limit.ofOption] using hmax n hr

theorem step_whitespace_measured (r : Run) :
    (step cx (.mk (.whitespace r) b)).Measured ((Pattern.mk (.whitespace r) b).giveBack rules budget)
      (Pattern.mk (.whitespace r) b).Fits := by
  rw [step]
  refine (matchRun_measured _ _ r fun d hmin hmax ↦ ?_).weaken (funext fun m ↦ by
    rw [Pattern.giveBack]) fun _ h ↦ h
  refine ⟨hmin, ?_⟩
  simp only [Pattern.maxLength, Pattern.shapeMax]
  cases hr : r.max with
  | none => simp [Limit.ofOption]
  | some n => simpa [Limit.ofOption] using hmax n hr

theorem step_literal_measured (t : String) :
    (step cx (.mk (.literal t) b)).Measured ((Pattern.mk (.literal t) b).giveBack rules budget)
      (Pattern.mk (.literal t) b).Fits := by
  refine .of_valid fun s hv ↦ ?_
  rw [step]
  simp only [matchLiteral, cursor_bind]
  by_cases hpre : t.toList.isPrefixOf s.cursor.rest
  · have hle : t.length ≤ s.cursor.rest.length := by
      rw [← String.length_toList]
      exact (List.isPrefixOf_iff_prefix.mp hpre).length_le
    simp only [hpre, if_true, setCursor_bind, pure_apply, ends_ok]
    exact fun _ ↦ advance_sized (fun _ ↦ Pattern.giveBack_of_pieces_nil rules budget _) hv hle
      (by simp [Pattern.Fits, Pattern.minLength, Pattern.shapeMin, Pattern.maxLength,
        Pattern.shapeMax]) _
  · simp only [hpre, Bool.false_eq_true, if_false]
    exact fun _ _ ↦ rfl

theorem step_regex_measured (rx : RegexNode) :
    (step cx (.mk (.regex rx) b)).Measured ((Pattern.mk (.regex rx) b).giveBack rules budget)
      (Pattern.mk (.regex rx) b).Fits := by
  refine .of_valid fun s hv ↦ ?_
  rw [step]
  simp only [matchRegex, cursor_bind]
  cases rx.compiled.captures (String.ofList s.cursor.rest) with
  | none => exact fun _ _ ↦ rfl
  | some caps =>
    simp only [setCursor_bind, pure_apply, ends_ok]
    exact fun _ ↦ advance_sized (fun _ ↦ Pattern.giveBack_of_pieces_nil rules budget _) hv
      (length_bytePrefix_le _ _)
      (by simp [Pattern.Fits, Pattern.minLength, Pattern.shapeMin, Pattern.maxLength,
        Pattern.shapeMax]) _

theorem step_boundary_measured (k : Boundary) :
    (step cx (.mk (.boundary k) b)).Measured ((Pattern.mk (.boundary k) b).giveBack rules budget)
      (Pattern.mk (.boundary k) b).Fits := by
  rw [step]
  refine .of_stays (fun s ↦ ?_) (fun _ ↦ Pattern.giveBack_of_pieces_nil rules budget _)
    (by simp [Pattern.Fits, Pattern.minLength, Pattern.shapeMin, Pattern.maxLength, Pattern.shapeMax])
  simp only [matchBoundary, cursor_bind]
  split
  · exact fun _ ↦ ⟨rfl, rfl⟩
  · exact fun _ _ ↦ rfl

end Primitives

/-! ### Lookarounds -/

section Lookarounds

variable {rules : RuleSet} {budget : Nat} {cx : Context} {b : Bool} {inner : Pattern}
  {give' : Matched → Option (Matched × Nat)} {bound' : Nat → Prop}

/-- A lookahead moves back to its mark whatever the inner pattern did. When that pop lands on
the lookahead's own stack, the inner pattern ran clean, so the cursor is where it started. -/
theorem step_nextIs_measured (neg : Bool) (hin : (consume cx inner).Measured give' bound')
    (hit : (consume cx inner).Tidy) :
    (step cx (.mk (.nextIs neg inner) b)).Measured
      ((Pattern.mk (.nextIs neg inner) b).giveBack rules budget) (Pattern.mk (.nextIs neg inner) b).Fits := by
  refine .of_stays (fun s ↦ ?_) (fun _ ↦ Pattern.giveBack_of_pieces_nil rules budget _)
    (by simp [Pattern.Fits, Pattern.minLength, Pattern.shapeMin, Pattern.maxLength, Pattern.shapeMax])
  rw [step]
  simp only [mark_bind]
  have hi := hin { s with cursor := s.cursor.mark }
  have hti := hit { s with cursor := s.cursor.mark }
  -- after the pop, the verdict stays where the pop left the cursor
  have hverdict : ∀ (s1 : MatchState) (found : Bool), s1.cursor.marks <:+ s.cursor.mark.marks →
      (s1.cursor.marks = s.cursor.mark.marks → s.cursor.Valid → s1.cursor.text = s.cursor.text) →
      Ends ((restoreMark >>= fun _ ↦
          lookVerdict (.mk (.nextIs neg inner) b) inner neg found) s1)
        (fun a c ↦ Clean s c → c = s.cursor ∧ a.pieces = [])
        fun e c ↦ Clean s c → e.recoverable → c = s.cursor := by
    intro s1 found hsuf htext
    refine ends_restoreMark_bind (fun _ _ h ↦ absurd h Bool.false_ne_true) fun k ks hks ↦ ?_
    refine (lookVerdict_stays _ _ _ _ _).mono (fun a c h hclean ↦ ?_) fun e c h hclean _ ↦ ?_
    · rw [h.1] at hclean ⊢
      exact ⟨(Cursor.restored_of_pop hks hsuf hclean.2 fun h1 ↦ htext h1 hclean.1).1, h.2⟩
    · rw [h] at hclean ⊢
      exact (Cursor.restored_of_pop hks hsuf hclean.2 fun h1 ↦ htext h1 hclean.1).1
  cases hc : consume cx inner { s with cursor := s.cursor.mark } with
  | ok a s1 =>
    rw [hc] at hi hti
    simp only [bind_of_ok (outcome_of_ok (attempt_of_ok hc))]
    exact hverdict s1 _ hti fun h1 hv ↦ ((hi ⟨hv.mark, h1⟩).1).text
  | error e s1 =>
    rw [hc] at hi hti
    cases e with
    | failure f =>
      simp only [bind_of_ok (outcome_of_ok (attempt_of_failure hc))]
      exact hverdict s1 _ hti fun h1 hv ↦ by rw [hi ⟨hv.mark, h1⟩ rfl]; rfl
    | _ =>
      simp only [bind_of_ok (outcome_of_error (attempt_of_error hc rfl))]
      refine ends_restoreMark_bind (fun _ _ h ↦ absurd h Bool.false_ne_true) fun k ks hks ↦ ?_
      exact fun _ h ↦ absurd h Bool.false_ne_true

/-- The windows of a lookbehind are matched on cursors of their own, and the cursor is put
back after each. -/
theorem scan_stays {p : Pattern} {h : sizeOf inner < sizeOf p} (c : Cursor) (width limit : Nat)
    (s : MatchState) :
    Ends (scan cx p inner h c width limit s) (fun _ c' ↦ c' = s.cursor) fun _ c' ↦ c' = s.cursor := by
  rw [scan]
  by_cases hw : width ≤ limit
  · rw [if_pos hw]
    cases c.windowBefore width with
    | none => rfl
    | some w =>
      simp only
      cases hr : attempt (consume cx inner) { s with cursor := w } with
      | ok r s1 =>
        simp only [bind_of_ok (within_of_ok hr)]
        cases r with
        | ok a =>
          simp only
          split
          · rfl
          · exact scan_stays c (width + 1) limit _
        | error f => exact scan_stays c (width + 1) limit _
      | error e s1 =>
        simp only [bind_of_ok (within_of_error hr)]
        rfl
  · rw [if_neg hw]
    rfl
termination_by limit + 1 - width
decreasing_by all_goals omega

theorem step_prevIs_measured (neg : Bool) :
    (step cx (.mk (.prevIs neg inner) b)).Measured
      ((Pattern.mk (.prevIs neg inner) b).giveBack rules budget) (Pattern.mk (.prevIs neg inner) b).Fits := by
  refine .of_stays (fun s ↦ ?_) (fun _ ↦ Pattern.giveBack_of_pieces_nil rules budget _)
    (by simp [Pattern.Fits, Pattern.minLength, Pattern.shapeMin, Pattern.maxLength, Pattern.shapeMax])
  rw [step]
  simp only [cursor_bind]
  refine Ends.bind (scan_stays _ _ _ s) (fun e c h _ _ ↦ h) fun found s1 _ hs1 ↦ ?_
  exact (lookVerdict_stays _ _ _ _ s1).mono (fun a c h _ ↦ ⟨h.1.trans hs1, h.2⟩)
    fun e c h _ _ ↦ h.trans hs1

end Lookarounds

end Engine

/-- What a context needs for matching to stay within the length bounds, when giving back
follows rules down to `budget` levels: its runs keep a suffix of the stack, it gives back as
the patterns do, entering a rule is measured as the reference is, and checking a bad pattern
leaves the cursor where it was and never fails in a way a combinator could recover from. -/
structure Context.Measures (cx : Context) (rules : RuleSet) (budget : Nat) : Prop where
  tidy : cx.Tidy
  giveBack : ∀ q, cx.giveBack q = q.giveBack rules budget
  enter : ∀ ref b, (cx.enter ref).Measured ((Pattern.mk (.rule ref) b).giveBack rules budget)
    (Pattern.mk (.rule ref) b).Fits
  rejects : ∀ bad text s, Engine.Ends (cx.rejects bad text s) (fun _ c ↦ c = s.cursor)
    fun e _ ↦ e.recoverable = false

namespace Engine

/-! ### The steps of a sequence -/

/-- How a search over `steps` started at `c` ends when it ends with the stack it started
with: every step done and the cursor forward of `c` by lengths that fit the steps one by
one, or stuck and back at `c`. -/
def StepsFitted (c : Cursor) (steps : List Pattern) : Search → Cursor → Prop
  | .done _, c' => c.Forward c' 0 ∧ ∃ ds, List.Forall₂ Pattern.Fits steps ds ∧ c'.pos = c.pos + ds.sum
  | .stuck .., c' => c' = c

section Search

variable {rules : RuleSet} {budget : Nat} {cx : Context} {p : Pattern}

/-- Giving back and matching the later steps again, from a step `q` that matched `m` from
`start`: when the run is clean, it ends as a search from `start` does. Each retry gives back
a piece, so the recursion is on the pieces of `m`; the stack after the later steps lies
between the final one and the first, so a clean retry had clean later steps. -/
theorem retry_measured (hcx : cx.Measures rules budget) {q : Pattern} {rest : List Pattern}
    (h : ∀ q' ∈ q :: rest, sizeOf q' < sizeOf p)
    (hrest : ∀ hr j acc (s : MatchState), Ends (search cx p rest hr j acc s)
      (fun r c ↦ Clean s c → StepsFitted s.cursor rest r c) fun e _ ↦ e.recoverable = false)
    (hrest_tidy : ∀ hr j acc, (search cx p rest hr j acc).Tidy) (j start : Nat)
    (acc : List (Pattern × Matched)) (m : Matched) (s : MatchState) :
    Ends (retry cx p q rest h j start m acc s)
      (fun r c ↦ Clean s c → start ≤ s.cursor.pos →
        Sized (q.giveBack rules budget) q.Fits m (s.cursor.pos - start) →
        StepsFitted { s.cursor with pos := start } (q :: rest) r c)
      fun e _ ↦ e.recoverable = false := by
  have hs := hrest (fun q' hq ↦ h q' (List.mem_cons_of_mem _ hq)) (j + 1) (acc ++ [(q, m)]) s
  have ht := hrest_tidy (fun q' hq ↦ h q' (List.mem_cons_of_mem _ hq)) (j + 1) (acc ++ [(q, m)]) s
  cases hsr : search cx p rest (fun q' hq ↦ h q' (List.mem_cons_of_mem _ hq)) (j + 1)
      (acc ++ [(q, m)]) s with
  | error e s1 =>
    rw [hsr] at hs
    rw [retry_of_error hsr]
    exact hs
  | ok r s1 =>
    rw [hsr] at hs ht
    cases r with
    | done steps =>
      rw [retry_of_done hsr]
      intro hclean hstart hm
      obtain ⟨hf, ds, hds, hpos⟩ := hs hclean
      exact ⟨hf.rewind (by omega), _, .cons hm.bound_of hds, by simp only [List.sum_cons]; omega⟩
    | stuck f k =>
      cases hg : q.giveBack rules budget m with
      | none =>
        rw [retry_of_stuck hsr (by rw [hcx.giveBack]; exact hg)]
        intro hclean hstart _
        -- the later steps were stuck where they started
        have hs1 : s1.cursor = s.cursor := hs hclean
        show s1.cursor.retreat (s1.cursor.pos - start) = { s.cursor with pos := start }
        rw [hs1]
        exact Cursor.retreat_sub hstart
      | some r =>
        obtain ⟨m', g⟩ := r
        rw [retry_of_giveBack hsr (by rw [hcx.giveBack]; exact hg)]
        have ih := retry_measured hcx h hrest hrest_tidy j start acc m'
          { cursor := s1.cursor.retreat g, events := s1.events.push (.gaveBack q g (s1.cursor.pos - g)) }
        have hti := retry_tidy h hrest_tidy j start acc m'
          { cursor := s1.cursor.retreat g, events := s1.events.push (.gaveBack q g (s1.cursor.pos - g)) }
        refine (ih.and hti).mono (fun r c hr hclean hstart hm ↦ ?_) fun e _ he ↦ he.1
        have h1 : s1.cursor.marks = s.cursor.marks := suffix_squeeze hr.2 ht hclean.2
        have hs1 : s1.cursor = s.cursor := hs ⟨hclean.1, h1⟩
        have hle := hm.le_of_give hg
        have hback := hm.back_of_give hg
        have hr' := hr.1
        rw [hs1] at hr'
        exact hr' ⟨hclean.1.retreat g, hclean.2⟩ (by simp only [Cursor.pos_retreat]; omega)
          (by rw [Cursor.pos_retreat, Nat.sub_right_comm]; exact hback)
termination_by m.pieces.length
decreasing_by
  have := Pattern.giveBack_pieces rules budget q m m' g hg
  omega

/-- The search over steps that are each measured by their own bounds: a clean search that is
done has moved forward by lengths that fit the steps one by one, a clean search that is stuck
is back where it started, and a search stops only with errors no combinator recovers from. -/
theorem search_measured (hcx : cx.Measures rules budget) (steps : List Pattern)
    (hsteps : ∀ q ∈ steps, (consume cx q).Measured (q.giveBack rules budget) q.Fits) :
    ∀ h j acc (s : MatchState), Ends (search cx p steps h j acc s)
      (fun r c ↦ Clean s c → StepsFitted s.cursor steps r c) fun e _ ↦ e.recoverable = false := by
  induction steps with
  | nil =>
    intro h j acc s
    rw [search_nil]
    exact fun hclean ↦ ⟨Cursor.Forward.refl _ hclean.1, [], .nil, by simp⟩
  | cons q rest ih =>
    intro h j acc s
    have hq := hsteps q (List.mem_cons_self ..) s
    have hqt := consume_tidy hcx.tidy q s
    have hrest := ih fun q' hq' ↦ hsteps q' (List.mem_cons_of_mem _ hq')
    have hrest_tidy := search_tidy (p := p) rest fun q' _ ↦ consume_tidy hcx.tidy q'
    cases hc : consume cx q s with
    | ok m s1 =>
      rw [hc] at hq hqt
      rw [search_cons_of_ok hc]
      have hr := retry_measured hcx h hrest hrest_tidy j s.cursor.pos acc m s1
      have hrt := retry_tidy h hrest_tidy j s.cursor.pos acc m s1
      refine (hr.and hrt).mono (fun r c hr hclean ↦ ?_) fun e _ he ↦ he.1
      -- the step ran clean, since the stack after it lies between the final one and the first
      have h1 : s1.cursor.marks = s.cursor.marks := suffix_squeeze hr.2 hqt hclean.2
      obtain ⟨hf, hm⟩ := hq ⟨hclean.1, h1⟩
      have hr' := hr.1 ⟨hclean.1.of_forward hf, hclean.2.trans h1.symm⟩ (by simpa using hf.reach) hm
      rwa [hf.eq_of_pos] at hr'
    | error e s1 =>
      rw [hc] at hq
      cases e with
      | failure f =>
        rw [search_cons_of_failure hc]
        exact fun hclean ↦ hq hclean rfl
      | _ =>
        rw [search_cons_of_error hc rfl]
        rfl

end Search

/-! ### The alternatives of a choice -/

section Choice

variable {rules : RuleSet} {budget : Nat} {cx : Context} {p : Pattern}

/-- An alternative of a choice started at `c` failed from the choice's mark and the pop moved
back: when the later alternatives end on the choice's stack, the failed one ran clean, so the
pop landed on the choice's mark and the next alternative starts from it again. -/
theorem choose_next_mark {c : Cursor} {s s1 : MatchState} (hs : s.cursor = c.mark)
    (hback : Clean s s1.cursor → s1.cursor = s.cursor) (hqt : s1.cursor.marks <:+ s.cursor.marks)
    {k : Nat} {ks : List Nat} (hks : s1.cursor.marks = k :: ks) {c' : Cursor} (hsuf : c'.marks <:+ ks)
    (hclean : c'.marks = c.marks) (hv : c.Valid) :
    ({ s1.cursor with pos := k, marks := ks } : Cursor).mark = c.mark := by
  rw [hs] at hqt
  have hks' : ks <:+ c.marks := by
    have := tail_suffix_tail hqt
    rwa [hks] at this
  have hpop := Cursor.restored_of_pop hks hqt (suffix_squeeze (hclean ▸ hsuf) hks' rfl) fun h1 ↦ by
    rw [hback ⟨hs ▸ hv.mark, hs ▸ h1⟩, hs]
    rfl
  rw [hpop.1]

/-- The alternatives of a choice started at `c`, tried with its mark on top of the stack: a
clean run that succeeds has moved forward by a length that fits one of the alternatives and
keeps no pieces, and a clean run that fails is back at `c`. When an alternative fails, the
next one runs on the stack the pop left; that stack is the choice's own exactly when the
alternative ran clean. -/
theorem choose_measured (hcx : cx.Measures rules budget) {c : Cursor} (hv : c.Valid)
    (rest : List Pattern) (hcs : ∀ q ∈ rest, (consume cx q).Measured (q.giveBack rules budget) q.Fits)
    (h : ∀ q ∈ rest, sizeOf q < sizeOf p) (s : MatchState) :
    Ends (choose cx p rest h s)
      (fun a c' ↦ s.cursor = c.mark → c'.marks = c.marks →
        c.Forward c' 0 ∧ a.pieces = [] ∧ ∃ q ∈ rest, q.Fits (c'.pos - c.pos))
      fun e c' ↦ s.cursor = c.mark → c'.marks = c.marks → e.recoverable → c' = c := by
  induction rest generalizing s with
  | nil =>
    rw [choose.eq_1]
    refine ends_restoreMark_bind (fun _ _ _ h ↦ absurd h Bool.false_ne_true) fun k ks hks ↦ ?_
    intro hs _ _
    rw [hs] at hks
    obtain ⟨rfl, rfl⟩ := List.cons.inj hks
    show { s.cursor with pos := c.pos, marks := c.marks } = c
    rw [hs]
    rfl
  | cons q more ih =>
    rw [choose.eq_2]
    have hq := hcs q (List.mem_cons_self ..) s
    have hqt := consume_tidy hcx.tidy q s
    cases hc : consume cx q s with
    | ok m s1 =>
      rw [hc] at hq hqt
      simp only [bind_of_ok (outcome_of_ok hc)]
      refine ends_forgetMark_bind (fun _ _ _ h ↦ absurd h Bool.false_ne_true) fun k ks hks ↦ ?_
      simp only [pure_apply, ends_ok]
      intro hs hclean
      rw [hs] at hqt
      -- the pop landed on the choice's stack, so the alternative ran clean
      have h1 : s1.cursor.marks = c.mark.marks := eq_of_pop (hks.trans (by rw [hclean])) hqt
      obtain ⟨hf, hm⟩ := hq ⟨hs ▸ hv.mark, hs ▸ h1⟩
      have hks' : ks = c.marks := hclean
      rw [hs] at hf hm
      subst hks'
      exact ⟨hf.forget, rfl, q, List.mem_cons_self .., hm.bound_of⟩
    | error e s1 =>
      rw [hc] at hq hqt
      simp only [bind_of_ok (outcome_of_error hc)]
      cases e with
      | failure f =>
        refine ends_restoreMark_bind (fun _ _ _ h ↦ absurd h Bool.false_ne_true) fun k ks hks ↦ ?_
        simp only [mark_bind]
        have hih := ih (fun q' hq' ↦ hcs q' (List.mem_cons_of_mem _ hq'))
          (fun q' hq' ↦ h q' (List.mem_cons_of_mem _ hq'))
          { s1 with cursor := { s1.cursor with pos := k, marks := ks }.mark }
        have htid := choose_tidy more (fun q' _ ↦ consume_tidy hcx.tidy q')
          (fun q' hq' ↦ h q' (List.mem_cons_of_mem _ hq'))
          { s1 with cursor := { s1.cursor with pos := k, marks := ks }.mark } (List.suffix_refl _)
        -- when the choice ends on its own stack, the alternative failed clean and the next
        -- one starts from the choice's mark again
        have hnext : ∀ c' : Cursor, c'.marks <:+ ks → c'.marks = c.marks → s.cursor = c.mark →
            ({ s1.cursor with pos := k, marks := ks } : Cursor).mark = c.mark :=
          fun c' hsuf hclean hs ↦ choose_next_mark hs (fun hc ↦ hq hc rfl) hqt hks hsuf hclean hv
        refine (hih.and htid).mono (fun a c' h' hs hclean ↦ ?_) fun e c' h' hs hclean ↦ ?_
        · obtain ⟨hf, hpieces, q', hq', hfits⟩ := h'.1 (hnext c' h'.2 hclean hs) hclean
          exact ⟨hf, hpieces, q', List.mem_cons_of_mem _ hq', hfits⟩
        · exact h'.1 (hnext c' h'.2 hclean hs) hclean
      | _ =>
        refine ends_restoreMark_bind (fun _ _ _ h ↦ absurd h Bool.false_ne_true) fun k ks hks ↦ ?_
        exact fun _ _ h ↦ absurd h Bool.false_ne_true

end Choice

/-! ### The rounds of a repetition and a separated list -/

/-- What the rounds of a repetition or a separated list started at `c` keep about the pieces
found so far and the cursor `c'` they reached: the cursor is forward of `c` by exactly the
lengths of the pieces, and the lengths are good rounds. -/
structure Fitted (c : Cursor) (good : List Nat → Prop) (pieces : Array Piece) (c' : Cursor) : Prop where
  forward : c.mark.Forward c' 0
  exact : c'.pos = c.pos + reach pieces
  good : good (pieces.toList.map Piece.len)

namespace Fitted

variable {c c1 c2 : Cursor} {good : List Nat → Prop} {pieces : Array Piece}

theorem start (hv : c.Valid) (hgood : good []) : Fitted c good #[] c.mark :=
  ⟨Cursor.Forward.refl _ hv.mark, rfl, hgood⟩

/-- A round that stayed where it was keeps what the rounds had. -/
theorem stay (h : Fitted c good pieces c1) (hf : c1.Forward c2 0) (hpos : c2.pos = c1.pos) :
    Fitted c good pieces c2 :=
  ⟨h.forward.trans hf, hpos.trans h.exact, h.good⟩

/-- A round that moved from `c1` to `c2` adds a piece of that length. -/
theorem push (h : Fitted c good pieces c1) (hf : c1.Forward c2 0)
    (hgood : good (pieces.toList.map Piece.len ++ [c2.pos - c1.pos])) (n : Nat) :
    Fitted c good (pieces.push ⟨c2.pos - c1.pos, n⟩) c2 := by
  have hexact := h.exact
  have hreach := hf.reach
  refine ⟨h.forward.trans hf, ?_, by simpa using hgood⟩
  simp only [reach_push]
  omega

end Fitted

/-- Pieces whose lengths are good rounds, no more of them than `cap` allows, adding up to a
word. -/
def GoodPieces (good : List Nat → Prop) (cap : Option Nat) (ps : List Piece) : Prop :=
  good (ps.map Piece.len) ∧ (∀ n, cap = some n → ps.length ≤ n) ∧ (ps.map Piece.len).sum ≤ Word.top

theorem GoodPieces.dropLast {good : List Nat → Prop} {cap : Option Nat} {ps : List Piece}
    (hgood : ∀ ds, good ds → good ds.dropLast) (h : GoodPieces good cap ps) :
    GoodPieces good cap ps.dropLast := by
  obtain ⟨t, ht⟩ := List.dropLast_prefix ps
  have hsum : (ps.dropLast.map Piece.len).sum ≤ (ps.map Piece.len).sum := by
    conv_rhs => rw [← ht]
    simp
  refine ⟨by rw [List.map_dropLast]; exact hgood _ h.1, fun n hn ↦ ?_, hsum.trans h.2.2⟩
  have := h.2.1 n hn
  simp only [List.length_dropLast]
  omega

theorem ends_restoreMark_fatal {β : Type} {s : MatchState} {e : MatchError} (he : e.recoverable = false)
    {P : β → Cursor → Prop} :
    Ends ((restoreMark >>= fun _ ↦ throw e : Engine β) s) P fun e _ ↦ e.recoverable = false :=
  ends_restoreMark_bind (fun _ ↦ rfl) fun _ _ _ ↦ he

/-- The end of a repetition or a separated list started at `c`, after rounds that ended at
`s1`: below `lo` pieces it moves back to its mark and fails, otherwise it pops the mark and
keeps the pieces. When the pop lands on the stack of `c`, the rounds ended clean. -/
theorem ends_listEnd_measured {c : Cursor} (hv : c.Valid) {good : List Nat → Prop}
    {cap : Option Nat} {lo : Nat} {p : Pattern} {bound : Nat → Prop}
    (hgood : ∀ ds, good ds → good ds.dropLast)
    (hbound : ∀ ps, GoodPieces good cap ps → lo ≤ ps.length → bound (ps.map Piece.len).sum)
    (items : Array Fragment) (pieces : Array Piece) (s1 : MatchState)
    (hsuf : s1.cursor.marks <:+ c.mark.marks)
    (hfit : s1.cursor.marks = c.mark.marks →
      Fitted c good pieces s1.cursor ∧ ∀ n, cap = some n → pieces.size ≤ n) :
    Ends ((if pieces.size < lo then (restoreMark >>= fun _ ↦ fail (·.expected p))
      else (forgetMark >>= fun _ ↦ pure (⟨.list items.toList, pieces.toList⟩ : Matched))) s1)
      (fun a c' ↦ c'.marks = c.marks → c.Forward c' 0 ∧ Sized (Matched.dropLastPiece lo) bound a (c'.pos - c.pos))
      fun e c' ↦ c'.marks = c.marks → e.recoverable → c' = c := by
  split
  · refine ends_restoreMark_bind (fun _ _ h ↦ absurd h Bool.false_ne_true) fun k ks hks ↦ ?_
    exact fun hclean _ ↦ (Cursor.restored_of_pop hks hsuf hclean fun h1 ↦ (hfit h1).1.forward.text).1
  · rename_i hlo
    refine ends_forgetMark_bind (fun _ _ h ↦ absurd h Bool.false_ne_true) fun k ks hks ↦ ?_
    simp only [pure_apply, ends_ok]
    intro hclean
    have h1 : s1.cursor.marks = c.mark.marks := eq_of_pop (hks.trans (by rw [hclean])) hsuf
    obtain ⟨hfit', hcap⟩ := hfit h1
    have hks' : ks = c.marks := hclean
    subst hks'
    have hf := hfit'.forward.forget
    have hexact := hfit'.exact
    refine ⟨hf, ?_⟩
    -- the match spans its pieces, each one a round
    have hspan : (⟨.list items.toList, pieces.toList⟩ : Matched).span = s1.cursor.pos - c.pos := by
      simp only [Matched.span, hexact, reach]
      omega
    have htop : (⟨.list items.toList, pieces.toList⟩ : Matched).span ≤ Word.top := by
      have := hf.sub_le_top hv
      rw [hspan]
      exact this
    show Sized _ _ _ (s1.cursor.pos - c.pos)
    rw [← hspan]
    exact sized_of_pieces (dropLastPiece_dropsLast lo) (GoodPieces good cap)
      (fun ps h ↦ h.dropLast hgood) hbound _ ⟨hfit'.good, fun n hn ↦ by simpa using hcap n hn, htop⟩
      (by simpa using hlo)

section Rounds

variable {rules : RuleSet} {budget : Nat} {cx : Context} {p : Pattern}

/-- The rounds of a repetition started at `c`, with its mark on top of the stack: a clean run
keeps `Fitted` with every piece fitting the inner pattern, and no more pieces than the rounds
allowed. A clean run has clean rounds, since the stack after a round lies between the final
one and the first. The induction is on the rounds left. -/
theorem rounds_measured (hcx : cx.Measures rules budget) {inner : Pattern}
    {h : sizeOf inner < sizeOf p} {lo : Nat}
    (hin : (consume cx inner).Measured (inner.giveBack rules budget) inner.Fits) {c : Cursor}
    (hv : c.Valid) (cap left : Nat) :
    ∀ (items : Array Fragment) (pieces : Array Piece) (s : MatchState),
      Ends (rounds cx p inner h lo left items pieces s)
        (fun r c' ↦ c'.marks = c.mark.marks → Fitted c (fun ds ↦ ∀ d ∈ ds, inner.Fits d) pieces s.cursor →
          pieces.size + left ≤ cap →
          Fitted c (fun ds ↦ ∀ d ∈ ds, inner.Fits d) r.2 c' ∧ r.2.size ≤ cap)
        fun e _ ↦ e.recoverable = false := by
  induction left with
  | zero =>
    intro items pieces s
    rw [rounds.eq_1]
    exact fun _ hfit hcap ↦ ⟨hfit, by omega⟩
  | succ left ih =>
    intro items pieces s
    rw [rounds.eq_2]
    simp only [position_bind]
    have hq := hin s
    have hqt := consume_tidy hcx.tidy inner s
    cases hc : consume cx inner s with
    | ok m s1 =>
      rw [hc] at hq hqt
      simp only [bind_of_ok (outcome_of_ok hc), position_bind]
      -- a clean round moved forward by a length that fits the inner pattern
      have hround : s1.cursor.marks = c.mark.marks →
          Fitted c (fun ds ↦ ∀ d ∈ ds, inner.Fits d) pieces s.cursor →
          s.cursor.Forward s1.cursor 0 ∧ inner.Fits (s1.cursor.pos - s.cursor.pos) ∧
            Word.wrapSub s1.cursor.pos s.cursor.pos = s1.cursor.pos - s.cursor.pos := by
        intro h1 hfit
        have hvs := hv.mark.of_forward hfit.forward
        obtain ⟨hf, hm⟩ := hq ⟨hvs, h1.trans hfit.forward.marks.symm⟩
        have hvs1 := hvs.of_forward hf
        exact ⟨hf, hm.bound_of, Word.wrapSub_of_le (by simpa using hf.reach)
          (by have := hvs1.1; have := hvs1.2; omega)⟩
      split
      · rename_i hstop
        intro hclean hfit hcap
        obtain ⟨hf, -, hlen⟩ := hround hclean hfit
        rw [hlen] at hstop
        have := hf.reach
        refine ⟨hfit.stay hf (by omega), ?_⟩
        dsimp only
        omega
      · rcases pushItem items inner m.fragment with ⟨items', n⟩
        dsimp only
        refine ((ih _ _ s1).and (rounds_tidy (L := s1.cursor.marks) (consume_tidy hcx.tidy inner)
          left items' (pieces.push ⟨Word.wrapSub s1.cursor.pos s.cursor.pos, n⟩) s1
          (List.suffix_refl _))).mono (fun r c' h' hclean hfit hcap ↦ ?_) fun e _ h' ↦ h'.1
        have h1 : s1.cursor.marks = s.cursor.marks :=
          suffix_squeeze h'.2 hqt (hclean.trans hfit.forward.marks.symm)
        obtain ⟨hf, hfits, hlen⟩ := hround (h1.trans hfit.forward.marks) hfit
        have hnext := h'.1
        rw [hlen] at hnext
        refine hnext hclean (hfit.push hf ?_ _) (by simp; omega)
        intro d hd
        rcases List.mem_append.mp hd with hd | hd
        · exact hfit.good d hd
        · rw [List.mem_singleton.mp hd]
          exact hfits
    | error e s1 =>
      rw [hc] at hq
      simp only [bind_of_ok (outcome_of_error hc)]
      cases e with
      | failure f =>
        intro hclean hfit hcap
        have hs1 : s1.cursor = s.cursor :=
          hq ⟨hv.mark.of_forward hfit.forward, hclean.trans hfit.forward.marks.symm⟩ rfl
        rw [hs1]
        exact ⟨hfit, by dsimp only; omega⟩
      | _ => exact ends_restoreMark_fatal rfl

/-- The rounds of a separated list started at `c`, with its mark on top of the stack: as for a
repetition, where the first round is an element and each later round a separator and an
element, under a mark of its own. -/
theorem listRounds_measured (hcx : cx.Measures rules budget) {sep elem : Pattern}
    {hs : sizeOf sep < sizeOf p} {he : sizeOf elem < sizeOf p} {lo : Nat}
    (hsep : (consume cx sep).Measured (sep.giveBack rules budget) sep.Fits)
    (helem : (consume cx elem).Measured (elem.giveBack rules budget) elem.Fits) {c : Cursor}
    (hv : c.Valid) (cap left : Nat) :
    ∀ (items : Array Fragment) (pieces : Array Piece) (s : MatchState),
      Ends (listRounds cx p sep elem hs he lo left items pieces s)
        (fun r c' ↦ c'.marks = c.mark.marks → Fitted c (Pattern.SepRounds sep elem) pieces s.cursor →
          pieces.size + left ≤ cap → Fitted c (Pattern.SepRounds sep elem) r.2 c' ∧ r.2.size ≤ cap)
        fun e _ ↦ e.recoverable = false := by
  induction left with
  | zero =>
    intro items pieces s
    rw [listRounds.eq_1]
    exact fun _ hfit hcap ↦ ⟨hfit, by omega⟩
  | succ left ih =>
    intro items pieces s
    -- a round that found fragments and ended at `s1`, forward of `s` by a good round when
    -- it ran clean
    have hsome : ∀ (s1 : MatchState) (items' : Array Fragment) (n : Nat),
        s1.cursor.marks <:+ s.cursor.marks →
        (s1.cursor.marks = s.cursor.marks → Fitted c (Pattern.SepRounds sep elem) pieces s.cursor →
          s.cursor.Forward s1.cursor 0 ∧
            Pattern.SepRounds sep elem (pieces.toList.map Piece.len ++ [s1.cursor.pos - s.cursor.pos])) →
        Ends ((position >>= fun pos ↦
            if Word.wrapSub pos s.cursor.pos = 0 ∧ pieces.size ≥ lo then pure (items, pieces)
            else listRounds cx p sep elem hs he lo left items'
              (pieces.push ⟨Word.wrapSub pos s.cursor.pos, n⟩)) s1)
          (fun r c' ↦ c'.marks = c.mark.marks → Fitted c (Pattern.SepRounds sep elem) pieces s.cursor →
            pieces.size + (left + 1) ≤ cap → Fitted c (Pattern.SepRounds sep elem) r.2 c' ∧ r.2.size ≤ cap)
          fun e _ ↦ e.recoverable = false := by
      intro s1 items' n hsuf hround
      -- the length of a clean round is the distance it moved
      have hlen : s1.cursor.marks = s.cursor.marks → Fitted c (Pattern.SepRounds sep elem) pieces s.cursor →
          Word.wrapSub s1.cursor.pos s.cursor.pos = s1.cursor.pos - s.cursor.pos := by
        intro h1 hfit
        have hvs := hv.mark.of_forward hfit.forward
        have hf := (hround h1 hfit).1
        have hvs1 := hvs.of_forward hf
        exact Word.wrapSub_of_le (by simpa using hf.reach) (by have := hvs1.1; have := hvs1.2; omega)
      simp only [position_bind]
      split
      · rename_i hstop
        intro hclean hfit hcap
        have h1 : s1.cursor.marks = s.cursor.marks := hclean.trans hfit.forward.marks.symm
        rw [hlen h1 hfit] at hstop
        have := (hround h1 hfit).1.reach
        refine ⟨hfit.stay (hround h1 hfit).1 (by omega), ?_⟩
        dsimp only
        omega
      · refine ((ih _ _ s1).and (listRounds_tidy (L := s1.cursor.marks) (consume_tidy hcx.tidy sep)
          (consume_tidy hcx.tidy elem) left items'
          (pieces.push ⟨Word.wrapSub s1.cursor.pos s.cursor.pos, n⟩) s1 (List.suffix_refl _))).mono
          (fun r c' h' hclean hfit hcap ↦ ?_) fun e _ h' ↦ h'.1
        have h1 : s1.cursor.marks = s.cursor.marks :=
          suffix_squeeze h'.2 hsuf (hclean.trans hfit.forward.marks.symm)
        obtain ⟨hf, hgood⟩ := hround h1 hfit
        have hnext := h'.1
        rw [hlen h1 hfit] at hnext
        exact hnext hclean (hfit.push hf hgood n) (by simp; omega)
    -- a round that found nothing and, when clean, is back where it started
    have hnone : ∀ s1 : MatchState,
        (s1.cursor.marks = s.cursor.marks → s.cursor.Valid → s1.cursor = s.cursor) →
        Ends ((pure (items, pieces) : Engine _) s1)
          (fun r c' ↦ c'.marks = c.mark.marks → Fitted c (Pattern.SepRounds sep elem) pieces s.cursor →
            pieces.size + (left + 1) ≤ cap → Fitted c (Pattern.SepRounds sep elem) r.2 c' ∧ r.2.size ≤ cap)
          fun e _ ↦ e.recoverable = false := by
      intro s1 hback hclean hfit hcap
      have hs1 := hback (hclean.trans hfit.forward.marks.symm) (hv.mark.of_forward hfit.forward)
      rw [hs1]
      exact ⟨hfit, (by omega : pieces.size ≤ cap)⟩
    rw [listRounds.eq_2]
    simp only [position_bind, pure_bind]
    by_cases hemp : pieces.isEmpty
    · rw [if_pos hemp]
      have hq := helem s
      have hqt := consume_tidy hcx.tidy elem s
      cases hc : consume cx elem s with
      | ok me s1 =>
        rw [hc] at hq hqt
        simp only [bind_of_ok (outcome_of_ok hc)]
        refine hsome s1 _ _ hqt fun h1 hfit ↦ ?_
        obtain ⟨hf, hm⟩ := hq ⟨hv.mark.of_forward hfit.forward, h1⟩
        refine ⟨hf, hfit.good.append (fun _ ↦ hm.bound_of) fun hne ↦ absurd ?_ hne⟩
        simpa using hemp
      | error e s1 =>
        rw [hc] at hq
        simp only [bind_of_ok (outcome_of_error hc)]
        cases e with
        | failure f => exact hnone s1 fun h1 hvs ↦ hq ⟨hvs, h1⟩ rfl
        | _ => exact ends_restoreMark_fatal rfl
    · rw [if_neg hemp]
      simp only [mark_bind]
      have hq := hsep { s with cursor := s.cursor.mark }
      have hqt := consume_tidy hcx.tidy sep { s with cursor := s.cursor.mark }
      cases hc : consume cx sep { s with cursor := s.cursor.mark } with
      | ok ms s1 =>
        rw [hc] at hq hqt
        simp only [bind_of_ok (outcome_of_ok hc)]
        have hd := helem s1
        have hdt := consume_tidy hcx.tidy elem s1
        cases hd' : consume cx elem s1 with
        | ok me s2 =>
          rw [hd'] at hd hdt
          simp only [bind_of_ok (outcome_of_ok hd')]
          refine ends_forgetMark_bind (fun _ ↦ rfl) fun k ks hks ↦ ?_
          have hks' : ks <:+ s.cursor.marks := by
            have := tail_suffix_tail (hdt.trans hqt)
            rwa [hks] at this
          refine hsome _ _ _ hks' fun h1 hfit ↦ ?_
          have hks'' : ks = s.cursor.marks := h1
          subst hks''
          -- the pop landed on the list's stack, so the separator and the element ran clean
          have h2 : s2.cursor.marks = s.cursor.mark.marks := eq_of_pop hks (hdt.trans hqt)
          have h12 : s1.cursor.marks = s.cursor.mark.marks := suffix_squeeze hdt hqt h2
          have hvs := hv.mark.of_forward hfit.forward
          obtain ⟨hf1, hm1⟩ := hq ⟨hvs.mark, h12⟩
          obtain ⟨hf2, hm2⟩ := hd ⟨hvs.mark.of_forward hf1, h2.trans h12.symm⟩
          have hf := (hf1.trans hf2).forget.mono (Nat.zero_le 0)
          refine ⟨hf, hfit.good.append (fun hnil ↦ absurd (by simpa using hnil) hemp) fun _ ↦
            ⟨s1.cursor.pos - s.cursor.pos, s2.cursor.pos - s1.cursor.pos, ?_, hm1.bound_of, hm2.bound_of⟩⟩
          have := hf1.reach
          have := hf2.reach
          simp only [Cursor.pos_mark] at *
          omega
        | error e s2 =>
          rw [hd'] at hd hdt
          simp only [bind_of_ok (outcome_of_error hd')]
          cases e with
          | failure f =>
            simp only [record_bind]
            refine ends_restoreMark_bind (fun _ ↦ rfl) fun k ks hks ↦ ?_
            refine hnone _ fun h1 hvs ↦ ?_
            -- the element failed clean after a clean separator: back at the mark
            refine (Cursor.restored_of_pop hks (hdt.trans hqt) h1 fun h2 ↦ ?_).1
            have h12 : s1.cursor.marks = s.cursor.mark.marks := suffix_squeeze hdt hqt h2
            obtain ⟨hf1, -⟩ := hq ⟨hvs.mark, h12⟩
            rw [hd ⟨hvs.mark.of_forward hf1, h2.trans h12.symm⟩ rfl]
            exact hf1.text
          | _ =>
            refine ends_restoreMark_bind (fun _ ↦ rfl) fun k ks hks ↦ ?_
            exact ends_restoreMark_fatal rfl
      | error e s1 =>
        rw [hc] at hq hqt
        simp only [bind_of_ok (outcome_of_error hc)]
        cases e with
        | failure f =>
          refine ends_restoreMark_bind (fun _ ↦ rfl) fun k ks hks ↦ ?_
          refine hnone _ fun h1 hvs ↦ ?_
          refine (Cursor.restored_of_pop hks hqt h1 fun h2 ↦ ?_).1
          rw [hq ⟨hvs.mark, h2⟩ rfl]
          rfl
        | _ =>
          refine ends_restoreMark_bind (fun _ ↦ rfl) fun k ks hks ↦ ?_
          exact ends_restoreMark_fatal rfl

end Rounds

end Engine
end Backtrack
