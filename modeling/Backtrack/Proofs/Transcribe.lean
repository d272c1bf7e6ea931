import Backtrack.Proofs.LengthBounds

/-!
# Fragments spell out the input they span

A computation transcribes when every clean run of it that succeeds yields a fragment whose
text is the input from where the run started to where it ended, and every match that giving
back reaches from it spells the input to where that shorter match ends (`Engine.Transcribes`).

This module proves it for the primitive patterns and for the loops inside the combinators: the
steps of a sequence (`StepsSpelled`), the alternatives of a choice, and the rounds of a
repetition and a separated list, whose items split into one group per round (`Spelled`). The
positions come from the measured contract of `Backtrack.Proofs.Measured`; a pattern that is left
out of its parent's fragment spells nothing, which is right when it consumes nothing.
-/

namespace Backtrack

namespace Cursor

theorem textBetween_self (c : Cursor) (a : Nat) : c.textBetween a a = "" := by
  unfold textBetween size
  dsimp only
  rw [Array.extract_eq_empty_iff.mpr (by omega)]

theorem textBetween_append (c : Cursor) {a b d : Nat} (hab : a ≤ b) (hbd : b ≤ d) :
    c.textBetween a b ++ c.textBetween b d = c.textBetween a d := by
  unfold textBetween
  dsimp only
  rw [← String.ofList_append, ← Array.toList_append,
    show min b (min d c.size) = min b c.size by omega, Array.extract_append_extract,
    show min (min a (min b c.size)) (min b c.size) = min a (min d c.size) by omega,
    show max (min b c.size) (min d c.size) = min d c.size by omega]

theorem textBetween_of_text {c c' : Cursor} (h : c'.text = c.text) (a b : Nat) :
    c'.textBetween a b = c.textBetween a b := by
  simp only [textBetween, size, h]

theorem textBetween_succ {c : Cursor} {a : Nat} {ch : Char} (h : c.text[a]? = some ch) :
    c.textBetween a (a + 1) = String.singleton ch := by
  obtain ⟨hlt, hch⟩ := Array.getElem?_eq_some_iff.mp h
  unfold textBetween
  dsimp only
  rw [Nat.min_eq_left (show a + 1 ≤ c.size from hlt), Nat.min_eq_left (Nat.le_succ a),
    Array.toList_extract, String.singleton_eq_ofList]
  congr 1
  simp only [List.extract, Nat.add_sub_cancel_left]
  rw [List.drop_eq_getElem_cons (by simpa using hlt)]
  simp [hch]

theorem get_zero_text {c : Cursor} {ch : Char} (hv : c.Valid) (h : c.get 0 = .ok ch) :
    c.text[c.pos]? = some ch := by
  unfold get at h
  have hw : Word.wrapAdd c.pos 0 = c.pos := Nat.mod_eq_of_lt (by have := hv.1; have := hv.2; omega)
  split at h
  · rename_i ch' hch
    rw [hw] at hch
    cases h
    exact hch
  · cases h

end Cursor

/-- A match that gives nothing back reaches only itself. -/
theorem GivenBack.of_none {give : Matched → Option (Matched × Nat)} {m m' : Matched} {g : Nat}
    (h : give m = none) (hg : GivenBack give m m' g) : m' = m ∧ g = 0 := by
  cases hg with
  | refl => exact ⟨rfl, rfl⟩
  | step hg' _ => rw [h] at hg'; cases hg'

theorem GivenBack.congr {give give' : Matched → Option (Matched × Nat)} (h : give' = give)
    {m m' : Matched} {g : Nat} (hg : GivenBack give m m' g) : GivenBack give' m m' g :=
  h ▸ hg

/-- Giving back the last round of a list drops that round's piece and its items. -/
theorem Matched.dropLastPiece_list_eq_some {lo : Nat} {items : List Fragment} {pieces : List Piece} {m : Matched} {g : Nat}
    (h : Matched.dropLastPiece lo ⟨.list items, pieces⟩ = some (m, g)) :
    ∃ last, pieces.getLast? = some last ∧
      m = ⟨.list (items.take (items.length - last.items)), pieces.dropLast⟩ ∧ g = last.len := by
  unfold Matched.dropLastPiece at h
  cases hlast : pieces.getLast? with
  | none => simp [hlast] at h
  | some last =>
    simp only [hlast] at h
    split at h
    · cases h
    · cases h
      exact ⟨last, rfl, rfl, rfl⟩

namespace Engine

variable {give : Matched → Option (Matched × Nat)}

/-- The text contract of a match: a clean run that succeeds spells the input from where it
started to where it ended, and every match that giving back reaches spells the input to where
it ends, that many characters earlier. -/
def Transcribes (give : Matched → Option (Matched × Nat)) (m : Engine Matched) : Prop :=
  ∀ s : MatchState, Ends (m s)
    (fun a c ↦ Clean s c → ∀ a' g, GivenBack give a a' g →
      a'.fragment.toText = s.cursor.textBetween s.cursor.pos (c.pos - g))
    fun _ _ ↦ True

theorem Transcribes.of_valid {m : Engine Matched}
    (h : ∀ s : MatchState, s.cursor.Valid → Ends (m s)
      (fun a c ↦ c.marks = s.cursor.marks → ∀ a' g, GivenBack give a a' g →
        a'.fragment.toText = s.cursor.textBetween s.cursor.pos (c.pos - g))
      fun _ _ ↦ True) :
    m.Transcribes give := by
  intro s
  by_cases hv : s.cursor.Valid
  · exact (h s hv).mono (fun _ _ h' hc ↦ h' hc.2) fun _ _ _ ↦ trivial
  · cases m s with
    | ok a s' => exact fun hc ↦ absurd hc.1 hv
    | error e s' => trivial

theorem Transcribes.of_step {cx : Context} {p : Pattern} (h : (step cx p).Transcribes give) :
    (consume cx p).Transcribes give := by
  intro s
  have hs := h s
  rw [consume]
  split
  · trivial
  · assumption

theorem Transcribes.weaken {m : Engine Matched} {give' : Matched → Option (Matched × Nat)}
    (h : m.Transcribes give) (hgive : give' = give) : m.Transcribes give' := by
  subst hgive
  exact h

/-- A match that gives nothing back transcribes when it spells the input it spans. -/
theorem Transcribes.of_fixed {m : Engine Matched}
    (hgive : ∀ a : Matched, a.pieces = [] → give a = none)
    (h : ∀ s : MatchState, s.cursor.Valid → Ends (m s) (fun a c ↦ c.marks = s.cursor.marks →
      a.pieces = [] ∧ a.fragment.toText = s.cursor.textBetween s.cursor.pos c.pos) fun _ _ ↦ True) :
    m.Transcribes give := by
  refine .of_valid fun s hv ↦ (h s hv).mono (fun a c h' hmarks a' g hg ↦ ?_) fun _ _ _ ↦ trivial
  obtain ⟨hpieces, htext⟩ := h' hmarks
  obtain ⟨rfl, rfl⟩ := hg.of_none (hgive a hpieces)
  exact htext

/-- A measured computation that never moves, with matches that have no pieces and spell
nothing, transcribes. -/
theorem Transcribes.of_still {m : Engine Matched} {bound : Nat → Prop} (hm : m.Measured give bound)
    (hb : ∀ d, bound d → d = 0) (hgive : ∀ a : Matched, a.pieces = [] → give a = none)
    (hempty : ∀ s, Ends (m s) (fun a _ ↦ a.pieces = [] ∧ a.fragment.toText = "") fun _ _ ↦ True) :
    m.Transcribes give := by
  refine .of_fixed hgive fun s hv ↦ ((hm s).and (hempty s)).mono (fun a c h hmarks ↦ ?_)
    fun _ _ _ ↦ trivial
  obtain ⟨hf, hsized⟩ := h.1 ⟨hv, hmarks⟩
  have hd := hb _ hsized.bound_of
  have hpos : c.pos = s.cursor.pos := by have := hf.reach; omega
  rw [hpos, Cursor.textBetween_self]
  exact h.2

/-! ### The primitive patterns -/

section Primitives

variable {rules : RuleSet} {budget : Nat} {cx : Context} {b : Bool}

/-- The bounds of a pattern that consumes nothing admit only the empty length. -/
theorem zero_of_fits {p : Pattern} (hp : p.maxLength ≤ .finite 0) {d : Nat} (h : p.Fits d) : d = 0 := by
  have := Limit.le_trans h.2 hp
  simpa using this

theorem step_char_transcribes (cls : CharClass) :
    (step cx (.mk (.char cls) b)).Transcribes ((Pattern.mk (.char cls) b).giveBack rules budget) := by
  refine .of_fixed (fun _ ↦ Pattern.giveBack_of_pieces_nil rules budget _) fun s hv ↦ ?_
  rw [step]
  simp only [matchChar, cursor_bind]
  cases hget : s.cursor.get 0 with
  | error e => trivial
  | ok ch =>
    by_cases hacc : cls.accepts ch
    · simp only [hacc, if_true, setCursor_bind, pure_apply, ends_ok]
      intro _
      have hlt := lt_of_get_zero hv hget
      rw [Cursor.pos_advance hv.2 hlt, Cursor.textBetween_succ (Cursor.get_zero_text hv hget)]
      exact ⟨rfl, rfl⟩
    · simp only [hacc, Bool.false_eq_true, if_false]
      trivial

/-- The matches a run reaches by giving back characters are the runs of fewer characters. -/
theorem run_givenBack {c : Cursor} (hv : c.Valid) (lo : Nat) :
    ∀ {m m' : Matched} {g : Nat}, GivenBack (Matched.dropLastChar lo) m m' g →
      ∀ k, c.pos + k ≤ c.size → m = ⟨.text ((c.advance k).takenSince c.pos), List.replicate k ⟨1, 1⟩⟩ →
        g ≤ k ∧ m' = ⟨.text ((c.advance (k - g)).takenSince c.pos), List.replicate (k - g) ⟨1, 1⟩⟩ := by
  intro m m' g hg
  induction hg with
  | refl m => intro k _ hm; exact ⟨Nat.zero_le k, by simpa using hm⟩
  | @step m1 m2 m3 g1 g2 hgive _ ih =>
    intro k hk hm
    subst hm
    rw [Matched.dropLastChar_run (Cursor.length_takenSince_advance hv hk)] at hgive
    split at hgive
    · cases hgive
    · cases hgive
      rw [Cursor.takenSince_advance_pred hv hk] at ih
      obtain ⟨hle, rfl⟩ := ih (k - 1) (by omega) rfl
      exact ⟨by omega, by rw [Nat.sub_sub]⟩

theorem matchRun_transcribes (cfg : Config) (p : Pattern) (r : Run) :
    (matchRun cfg p r).Transcribes (Matched.dropLastChar r.min) := by
  refine .of_valid fun s hv ↦ ?_
  obtain ⟨avail, havail⟩ : ∃ avail, (s.cursor.rest.takeWhile fun ch ↦
      if r.configured then cfg.isWhitespace ch else r.cls.accepts ch).length = avail := ⟨_, rfl⟩
  obtain ⟨count, hcount⟩ : ∃ count, (r.max.map (min avail)).getD avail = count := ⟨_, rfl⟩
  rw [matchRun_apply cfg p r s havail hcount]
  have hle : count ≤ s.cursor.rest.length := by
    have := (List.takeWhile_prefix (fun ch ↦ if r.configured then cfg.isWhitespace ch
      else r.cls.accepts ch) (l := s.cursor.rest)).length_le
    rw [havail] at this
    cases hm : r.max <;> simp only [hm, Option.map_none, Option.getD_none, Option.map_some,
      Option.getD_some] at hcount <;> omega
  have hk : s.cursor.pos + count ≤ s.cursor.size := by
    have := hv.1
    rw [Cursor.length_rest] at hle
    omega
  split
  · trivial
  · simp only [ends_ok]
    intro _ a' g hg
    -- giving back from a run leaves the run of fewer characters, which ends as much earlier
    obtain ⟨hgk, rfl⟩ := run_givenBack hv r.min hg count hk rfl
    rw [Cursor.pos_advance hv.2 hk]
    show (s.cursor.advance (count - g)).textBetween _ _ = _
    rw [Cursor.pos_advance hv.2 (by omega), Nat.add_sub_assoc hgk]
    exact Cursor.textBetween_of_text rfl _ _

theorem step_run_transcribes (r : Run) :
    (step cx (.mk (.run r) b)).Transcribes ((Pattern.mk (.run r) b).giveBack rules budget) := by
  rw [step]
  exact (matchRun_transcribes _ _ r).weaken (funext fun m ↦ by rw [Pattern.giveBack])

theorem step_whitespace_transcribes (r : Run) :
    (step cx (.mk (.whitespace r) b)).Transcribes ((Pattern.mk (.whitespace r) b).giveBack rules budget) := by
  rw [step]
  exact (matchRun_transcribes _ _ r).weaken (funext fun m ↦ by rw [Pattern.giveBack])

theorem step_literal_transcribes (t : String) :
    (step cx (.mk (.literal t) b)).Transcribes ((Pattern.mk (.literal t) b).giveBack rules budget) := by
  refine .of_fixed (fun _ ↦ Pattern.giveBack_of_pieces_nil rules budget _) fun s _ ↦ ?_
  rw [step]
  simp only [matchLiteral, cursor_bind]
  split
  · simp only [setCursor_bind, pure_apply, ends_ok]
    exact fun _ ↦ ⟨rfl, Cursor.textBetween_of_text rfl _ _⟩
  · trivial

/-- An anchored regular expression whose fragment is group zero and whose cursor moves to the
end of group zero: the fragment is the input it moved over. -/
theorem step_regex_transcribes {rx : RegexNode} (hgroups : rx.options.groups = .one 0)
    (hadvance : rx.options.advance = 0) (hz : rx.compiled.Anchored) :
    (step cx (.mk (.regex rx) b)).Transcribes ((Pattern.mk (.regex rx) b).giveBack rules budget) := by
  refine .of_fixed (fun _ ↦ Pattern.giveBack_of_pieces_nil rules budget _) fun s hv ↦ ?_
  rw [step]
  simp only [matchRegex, cursor_bind, hgroups, hadvance]
  cases hcap : rx.compiled.captures (String.ofList s.cursor.rest) with
  | none => trivial
  | some caps =>
    -- group zero takes part, and it starts where the haystack does since the expression is
    -- anchored: the fragment and the move both cover the characters before its end
    obtain ⟨⟨s0, e0⟩, h0⟩ := Option.isSome_iff_exists.mp (rx.compiled.whole hcap)
    obtain rfl := hz hcap h0
    simp only [setCursor_bind, pure_apply, ends_ok, groupFragment, h0, Option.orElse_some,
      Option.map_some, Option.getD_some, bytePrefix_zero, byteSlice_zero, List.length_nil, Nat.add_zero]
    intro _
    refine ⟨rfl, ?_⟩
    rw [Cursor.pos_advance hv.2 (s.cursor.pos_add_bytePrefix_le hv.1 e0)]
    rfl

theorem step_boundary_transcribes (k : Boundary) :
    (step cx (.mk (.boundary k) b)).Transcribes ((Pattern.mk (.boundary k) b).giveBack rules budget) := by
  refine .of_still (step_boundary_measured k)
    (fun _ ↦ zero_of_fits (p := .mk (.boundary k) b) (Limit.le_refl _))
    (fun _ ↦ Pattern.giveBack_of_pieces_nil rules budget _) fun s ↦ ?_
  rw [step]
  simp only [matchBoundary, cursor_bind]
  split
  · exact ⟨rfl, rfl⟩
  · trivial

theorem lookVerdict_empty (p inner : Pattern) (negated found : Bool) (s : MatchState) :
    Ends (lookVerdict p inner negated found s) (fun a _ ↦ a.pieces = [] ∧ a.fragment.toText = "")
      fun _ _ ↦ True := by
  unfold lookVerdict
  split
  · exact ⟨rfl, rfl⟩
  · split <;> trivial

theorem step_nextIs_transcribes {inner : Pattern} (neg : Bool)
    (hin : (consume cx inner).Measured (inner.giveBack rules budget) inner.Fits) (hit : (consume cx inner).Tidy) :
    (step cx (.mk (.nextIs neg inner) b)).Transcribes
      ((Pattern.mk (.nextIs neg inner) b).giveBack rules budget) := by
  refine .of_still (step_nextIs_measured neg hin hit)
    (fun _ ↦ zero_of_fits (p := .mk (.nextIs neg inner) b) (Limit.le_refl _))
    (fun _ ↦ Pattern.giveBack_of_pieces_nil rules budget _) fun s ↦ ?_
  rw [step]
  simp only [mark_bind]
  cases hc : attempt (consume cx inner) { s with cursor := s.cursor.mark } with
  | ok r s1 =>
    simp only [bind_of_ok (outcome_of_ok hc)]
    exact ends_restoreMark_bind (fun _ ↦ trivial) fun _ _ _ ↦ lookVerdict_empty _ _ _ _ _
  | error e s1 =>
    simp only [bind_of_ok (outcome_of_error hc)]
    exact ends_restoreMark_bind (fun _ ↦ trivial) fun _ _ _ ↦ trivial

theorem step_prevIs_transcribes {inner : Pattern} (neg : Bool) :
    (step cx (.mk (.prevIs neg inner) b)).Transcribes
      ((Pattern.mk (.prevIs neg inner) b).giveBack rules budget) := by
  refine .of_still (step_prevIs_measured neg)
    (fun _ ↦ zero_of_fits (p := .mk (.prevIs neg inner) b) (Limit.le_refl _))
    (fun _ ↦ Pattern.giveBack_of_pieces_nil rules budget _) fun s ↦ ?_
  rw [step]
  simp only [cursor_bind]
  exact Ends.bind (scan_stays _ _ _ s) (fun _ _ _ ↦ trivial) fun found s1 _ _ ↦
    lookVerdict_empty _ _ _ _ _

end Primitives

/-! ### The steps of a sequence -/

theorem listText_sequenceItems_append (xs ys : List (Pattern × Matched)) :
    Fragment.listText (sequenceItems (xs ++ ys)) =
      Fragment.listText (sequenceItems xs) ++ Fragment.listText (sequenceItems ys) := by
  simp only [sequenceItems, List.filter_append, List.map_append, Fragment.listText_append]

/-- A fragment added to a list of items spells the stretch it was matched over: as its own
text when it is kept, and as nothing when it is left out, which happens only to an empty
fragment or to a suppressed pattern that did not move. -/
theorem pushItem_spells (items : Array Fragment) {q : Pattern} {f : Fragment} {c : Cursor} {a d : Nat}
    (htext : f.toText = c.textBetween a d) (hquiet : q.suppressed → d = a) :
    ∃ group, (pushItem items q f).1.toList = items.toList ++ group ∧
      (pushItem items q f).2 = group.length ∧ Fragment.listText group = c.textBetween a d := by
  unfold pushItem
  split
  · rename_i hdrop
    refine ⟨[], by simp, rfl, ?_⟩
    rcases Bool.or_eq_true _ _ |>.mp hdrop with hsup | hnil
    · rw [hquiet hsup, Cursor.textBetween_self]
      rfl
    · have hempty : f = .empty := by cases f <;> simp_all [Fragment.isNothing]
      rw [← htext, hempty]
      rfl
  · exact ⟨[f], by simp, rfl, by simp [Fragment.listText, htext]⟩

theorem sequenceItems_single (q : Pattern) (m : Matched) :
    sequenceItems [(q, m)] = (pushItem #[] q m.fragment).1.toList := by
  cases hs : q.suppressed <;> cases hn : m.fragment.isNothing <;> simp [sequenceItems, pushItem, hs, hn]

theorem listText_sequenceItems_single {q : Pattern} {m : Matched} {c : Cursor} {a d : Nat}
    (htext : m.fragment.toText = c.textBetween a d) (hquiet : q.suppressed → d = a) :
    Fragment.listText (sequenceItems [(q, m)]) = c.textBetween a d := by
  obtain ⟨group, hgroup, -, htext'⟩ := pushItem_spells #[] htext hquiet
  rw [sequenceItems_single, hgroup]
  simpa using htext'

/-- What a search over steps started at `c` spells when it ends done with the stack it started
with: the steps it adds to `acc` spell, in the sequence's items, the input from `c` to where it
ended. -/
def StepsSpelled (acc : List (Pattern × Matched)) (c : Cursor) : Search → Cursor → Prop
  | .done steps, c' => ∃ new, steps = acc ++ new ∧
      Fragment.listText (sequenceItems new) = c.textBetween c.pos c'.pos
  | .stuck .., _ => True

section Search

variable {rules : RuleSet} {budget : Nat} {cx : Context} {p : Pattern}

/-- Giving back and matching the later steps again, from a step `q` that matched `m` from
`start` and whose shorter matches spell the input to where they end: a clean run that is done
spells the input from `start`. The recursion is the one of `retry_measured`. -/
theorem retry_transcribes (hcx : cx.Measures rules budget) {q : Pattern} {rest : List Pattern}
    (h : ∀ q' ∈ q :: rest, sizeOf q' < sizeOf p) (hquiet : q.suppressed → q.maxLength ≤ .finite 0)
    (hrest : ∀ hr j acc (s : MatchState), Ends (search cx p rest hr j acc s)
      (fun r c ↦ Clean s c → StepsSpelled acc s.cursor r c) fun _ _ ↦ True)
    (hrest_m : ∀ hr j acc (s : MatchState), Ends (search cx p rest hr j acc s)
      (fun r c ↦ Clean s c → StepsFitted s.cursor rest r c) fun e _ ↦ e.recoverable = false)
    (hrest_tidy : ∀ hr j acc, (search cx p rest hr j acc).Tidy) (j start : Nat)
    (acc : List (Pattern × Matched)) (m : Matched) (s : MatchState) :
    Ends (retry cx p q rest h j start m acc s)
      (fun r c ↦ Clean s c → start ≤ s.cursor.pos →
        Sized (q.giveBack rules budget) q.Fits m (s.cursor.pos - start) →
        (∀ m' g, GivenBack (q.giveBack rules budget) m m' g →
          m'.fragment.toText = s.cursor.textBetween start (s.cursor.pos - g)) →
        StepsSpelled acc { s.cursor with pos := start } r c)
      fun _ _ ↦ True := by
  have hs := hrest (fun q' hq ↦ h q' (List.mem_cons_of_mem _ hq)) (j + 1) (acc ++ [(q, m)]) s
  have hsm := hrest_m (fun q' hq ↦ h q' (List.mem_cons_of_mem _ hq)) (j + 1) (acc ++ [(q, m)]) s
  have ht := hrest_tidy (fun q' hq ↦ h q' (List.mem_cons_of_mem _ hq)) (j + 1) (acc ++ [(q, m)]) s
  cases hsr : search cx p rest (fun q' hq ↦ h q' (List.mem_cons_of_mem _ hq)) (j + 1)
      (acc ++ [(q, m)]) s with
  | error e s1 =>
    rw [retry_of_error hsr]
    trivial
  | ok r s1 =>
    rw [hsr] at hs hsm ht
    cases r with
    | done steps =>
      rw [retry_of_done hsr]
      intro hclean hstart hm htext
      obtain ⟨new, hsteps, hnew⟩ := hs hclean
      obtain ⟨hf, -⟩ := hsm hclean
      -- the step spells the input from `start` to where the later steps began
      have hitem : Fragment.listText (sequenceItems [(q, m)]) =
          s.cursor.textBetween start s.cursor.pos := by
        refine listText_sequenceItems_single (by simpa using htext m 0 (.refl m)) fun hsup ↦ ?_
        have := zero_of_fits (hquiet hsup) hm.bound_of
        omega
      refine ⟨(q, m) :: new, by rw [hsteps, List.append_assoc, List.singleton_append], ?_⟩
      have hall := listText_sequenceItems_append [(q, m)] new
      rw [List.singleton_append] at hall
      rw [hall, hitem, hnew, Cursor.textBetween_append _ hstart (by simpa using hf.reach)]
      rfl
    | stuck f k =>
      cases hg : q.giveBack rules budget m with
      | none =>
        rw [retry_of_stuck hsr (by rw [hcx.giveBack]; exact hg)]
        exact fun _ _ _ _ ↦ trivial
      | some r =>
        obtain ⟨m', g⟩ := r
        rw [retry_of_giveBack hsr (by rw [hcx.giveBack]; exact hg)]
        have ih := retry_transcribes hcx h hquiet hrest hrest_m hrest_tidy j start acc m'
          { cursor := s1.cursor.retreat g, events := s1.events.push (.gaveBack q g (s1.cursor.pos - g)) }
        have hti := retry_tidy h hrest_tidy j start acc m'
          { cursor := s1.cursor.retreat g, events := s1.events.push (.gaveBack q g (s1.cursor.pos - g)) }
        refine (ih.and hti).mono (fun r c hr hclean hstart hm htext ↦ ?_) fun _ _ _ ↦ trivial
        have h1 : s1.cursor.marks = s.cursor.marks := suffix_squeeze hr.2 ht hclean.2
        have hs1 : s1.cursor = s.cursor := hsm ⟨hclean.1, h1⟩
        have hle := hm.le_of_give hg
        have hback := hm.back_of_give hg
        have hr' := hr.1
        rw [hs1] at hr'
        refine hr' ⟨hclean.1.retreat g, hclean.2⟩ (by simp only [Cursor.pos_retreat]; omega)
          (by rw [Cursor.pos_retreat, Nat.sub_right_comm]; exact hback) fun m'' g' hg' ↦ ?_
        -- what giving back reaches from the shorter match, it reaches from this one
        rw [Cursor.pos_retreat, Nat.sub_sub]
        exact htext m'' (g + g') (.step hg hg')
termination_by m.pieces.length
decreasing_by
  have := Pattern.giveBack_pieces rules budget q m m' g hg
  omega

/-- The search over steps that each transcribe, where a suppressed step consumes nothing: a
clean search that is done spells, in the items of the steps it adds, the input it moved
over. -/
theorem search_transcribes (hcx : cx.Measures rules budget) (steps : List Pattern)
    (hsteps : ∀ q ∈ steps, (consume cx q).Transcribes (q.giveBack rules budget))
    (hquiet : ∀ q ∈ steps, q.suppressed → q.maxLength ≤ .finite 0) :
    ∀ h j acc (s : MatchState), Ends (search cx p steps h j acc s)
      (fun r c ↦ Clean s c → StepsSpelled acc s.cursor r c) fun _ _ ↦ True := by
  induction steps with
  | nil =>
    intro h j acc s
    rw [search_nil]
    exact fun _ ↦ ⟨[], by rw [List.append_nil], by rw [Cursor.textBetween_self]; rfl⟩
  | cons q rest ih =>
    intro h j acc s
    have hq := hsteps q (List.mem_cons_self ..) s
    have hqm := consume_measured hcx q s
    have hqt := consume_tidy hcx.tidy q s
    have hrest := ih (fun q' hq' ↦ hsteps q' (List.mem_cons_of_mem _ hq'))
      fun q' hq' ↦ hquiet q' (List.mem_cons_of_mem _ hq')
    have hrest_m := search_measured hcx (p := p) rest fun q' _ ↦ consume_measured hcx q'
    have hrest_tidy := search_tidy (p := p) rest fun q' _ ↦ consume_tidy hcx.tidy q'
    cases hc : consume cx q s with
    | ok m s1 =>
      rw [hc] at hq hqm hqt
      rw [search_cons_of_ok hc]
      have hr := retry_transcribes hcx h (hquiet q (List.mem_cons_self ..)) hrest hrest_m
        hrest_tidy j s.cursor.pos acc m s1
      have hrt := retry_tidy h hrest_tidy j s.cursor.pos acc m s1
      refine (hr.and hrt).mono (fun r c hr hclean ↦ ?_) fun _ _ _ ↦ trivial
      -- the step ran clean, since the stack after it lies between the final one and the first
      have h1 : s1.cursor.marks = s.cursor.marks := suffix_squeeze hr.2 hqt hclean.2
      obtain ⟨hf, hm⟩ := hqm ⟨hclean.1, h1⟩
      have hr' := hr.1 ⟨hclean.1.of_forward hf, hclean.2.trans h1.symm⟩ (by simpa using hf.reach) hm
        fun m' g hg ↦ (hq ⟨hclean.1, h1⟩ m' g hg).trans (Cursor.textBetween_of_text hf.text _ _).symm
      rwa [hf.eq_of_pos] at hr'
    | error e s1 =>
      cases e with
      | failure f =>
        rw [search_cons_of_failure hc]
        exact fun _ ↦ trivial
      | _ =>
        rw [search_cons_of_error hc rfl]
        trivial

end Search

/-! ### The alternatives of a choice -/

section Choice

variable {rules : RuleSet} {budget : Nat} {cx : Context} {p : Pattern}

/-- The alternatives of a choice started at `c`, tried with its mark on top of the stack: a
clean run that succeeds spells the input it moved over, as the alternative that matched
does. -/
theorem choose_transcribes (hcx : cx.Measures rules budget) {c : Cursor} (hv : c.Valid)
    (rest : List Pattern) (hcs : ∀ q ∈ rest, (consume cx q).Transcribes (q.giveBack rules budget))
    (h : ∀ q ∈ rest, sizeOf q < sizeOf p) (s : MatchState) :
    Ends (choose cx p rest h s)
      (fun a c' ↦ s.cursor = c.mark → c'.marks = c.marks →
        a.pieces = [] ∧ a.fragment.toText = c.textBetween c.pos c'.pos)
      fun _ _ ↦ True := by
  induction rest generalizing s with
  | nil =>
    rw [choose.eq_1]
    exact ends_restoreMark_bind (fun _ ↦ trivial) fun _ _ _ ↦ trivial
  | cons q more ih =>
    rw [choose.eq_2]
    have hq := hcs q (List.mem_cons_self ..) s
    have hqm := consume_measured hcx q s
    have hqt := consume_tidy hcx.tidy q s
    cases hc : consume cx q s with
    | ok m s1 =>
      rw [hc] at hq hqt
      simp only [bind_of_ok (outcome_of_ok hc)]
      refine ends_forgetMark_bind (fun _ ↦ trivial) fun k ks hks ↦ ?_
      simp only [pure_apply, ends_ok]
      intro hs hclean
      rw [hs] at hqt
      -- the pop landed on the choice's stack, so the alternative ran clean
      have h1 : s1.cursor.marks = c.mark.marks := eq_of_pop (hks.trans (by rw [hclean])) hqt
      have htext := hq ⟨hs ▸ hv.mark, hs ▸ h1⟩ m 0 (.refl m)
      rw [hs] at htext
      exact ⟨rfl, htext⟩
    | error e s1 =>
      rw [hc] at hqm hqt
      simp only [bind_of_ok (outcome_of_error hc)]
      cases e with
      | failure f =>
        refine ends_restoreMark_bind (fun _ ↦ trivial) fun k ks hks ↦ ?_
        simp only [mark_bind]
        have hih := ih (fun q' hq' ↦ hcs q' (List.mem_cons_of_mem _ hq'))
          (fun q' hq' ↦ h q' (List.mem_cons_of_mem _ hq'))
          { s1 with cursor := { s1.cursor with pos := k, marks := ks }.mark }
        have htid := choose_tidy more (fun q' _ ↦ consume_tidy hcx.tidy q')
          (fun q' hq' ↦ h q' (List.mem_cons_of_mem _ hq'))
          { s1 with cursor := { s1.cursor with pos := k, marks := ks }.mark } (List.suffix_refl _)
        refine (hih.and htid).mono (fun a c' h' hs hclean ↦ ?_) fun _ _ _ ↦ trivial
        exact h'.1 (choose_next_mark hs (fun hc ↦ hqm hc rfl) hqt hks h'.2 hclean hv) hclean
      | _ => exact ends_restoreMark_bind (fun _ ↦ trivial) fun _ _ _ ↦ trivial

end Choice

/-! ### The rounds of a repetition and a separated list -/

/-- The items of a repetition or a separated list split into one group per piece, in order,
each as many items as its piece counts and spelling the input its round moved over: the
rounds start at `start` and each one starts where the one before ended. -/
inductive Spelled (c : Cursor) (start : Nat) : List Fragment → List Piece → Prop
  | nil : Spelled c start [] []
  | snoc {items : List Fragment} {pieces : List Piece} (group : List Fragment) (len : Nat)
      (h : Spelled c start items pieces)
      (htext : Fragment.listText group = c.textBetween (start + (pieces.map Piece.len).sum)
        (start + (pieces.map Piece.len).sum + len)) :
      Spelled c start (items ++ group) (pieces ++ [⟨len, group.length⟩])

namespace Spelled

variable {c : Cursor} {start : Nat} {items : List Fragment} {pieces : List Piece}

theorem text (h : Spelled c start items pieces) :
    Fragment.listText items = c.textBetween start (start + (pieces.map Piece.len).sum) := by
  induction h with
  | nil =>
    simp only [List.map_nil, List.sum_nil, Nat.add_zero]
    rw [Cursor.textBetween_self]
    rfl
  | snoc group len _ htext ih =>
    rw [Fragment.listText_append, ih, htext, Cursor.textBetween_append _ (Nat.le_add_right _ _)
      (Nat.le_add_right _ _)]
    simp only [List.map_append, List.map_cons, List.map_nil, List.sum_append, List.sum_cons,
      List.sum_nil, Nat.add_zero, Nat.add_assoc]

/-- Dropping the last piece and its items leaves the groups of the rounds before it. -/
theorem dropLast (h : Spelled c start items pieces) {last : Piece} (hlast : pieces.getLast? = some last) :
    Spelled c start (items.take (items.length - last.items)) pieces.dropLast := by
  cases h with
  | nil => cases hlast
  | snoc group len h _ =>
    rw [List.getLast?_concat] at hlast
    cases hlast
    simpa using h

/-- A round that moved from `a`, where the rounds before it ended, to `d` and whose items
spell that stretch adds its group. -/
theorem push {items : Array Fragment} {pieces : Array Piece}
    (h : Spelled c start items.toList pieces.toList) {group : List Fragment} {a d : Nat}
    (ha : a = start + reach pieces) (had : a ≤ d) (htext : Fragment.listText group = c.textBetween a d) :
    Spelled c start (items.toList ++ group) (pieces.push ⟨d - a, group.length⟩).toList := by
  rw [Array.toList_push]
  refine .snoc group (d - a) h ?_
  subst ha
  rw [htext]
  congr 1
  simp only [reach] at had ⊢
  omega

/-- Every match that giving back whole rounds reaches from the list spells the input from
`start` to where its last round ends. -/
theorem givenBack {lo : Nat} {m m' : Matched} {g : Nat}
    (hg : GivenBack (Matched.dropLastPiece lo) m m' g) :
    ∀ {items pieces}, m = ⟨.list items, pieces⟩ → Spelled c start items pieces →
      m'.fragment.toText = c.textBetween start (start + (pieces.map Piece.len).sum - g) := by
  induction hg with
  | refl m =>
    intro items pieces hm hsp
    subst hm
    exact hsp.text
  | @step m1 m2 m3 g1 g2 hgive _ ih =>
    intro items pieces hm hsp
    subst hm
    obtain ⟨last, hlast, rfl, rfl⟩ := Matched.dropLastPiece_list_eq_some hgive
    rw [ih rfl (hsp.dropLast hlast)]
    -- the pieces add up to those before the last one and the last one
    have hsum : (pieces.map Piece.len).sum = (pieces.dropLast.map Piece.len).sum + last.len := by
      rw [← List.dropLast_append_getLast? _ hlast]
      simp
    rw [hsum]
    congr 1
    omega

end Spelled

/-- The end of a repetition or a separated list started at `c`, after rounds that ended at
`s1`: when it keeps the pieces and the pop lands on the stack of `c`, the rounds ended clean,
and every match that giving back reaches spells the input to where it ends. -/
theorem ends_listEnd_transcribes {c : Cursor} {lo : Nat} {p : Pattern}
    (items : Array Fragment) (pieces : Array Piece) (s1 : MatchState)
    (hsuf : s1.cursor.marks <:+ c.mark.marks)
    (hspelled : s1.cursor.marks = c.mark.marks →
      Fitted c (fun _ ↦ True) pieces s1.cursor ∧ Spelled c c.pos items.toList pieces.toList) :
    Ends ((if pieces.size < lo then (restoreMark >>= fun _ ↦ fail (·.expected p))
      else (forgetMark >>= fun _ ↦ pure (⟨.list items.toList, pieces.toList⟩ : Matched))) s1)
      (fun a c' ↦ c'.marks = c.marks → ∀ a' g, GivenBack (Matched.dropLastPiece lo) a a' g →
        a'.fragment.toText = c.textBetween c.pos (c'.pos - g))
      fun _ _ ↦ True := by
  split
  · exact ends_restoreMark_bind (fun _ ↦ trivial) fun _ _ _ ↦ trivial
  · refine ends_forgetMark_bind (fun _ ↦ trivial) fun k ks hks ↦ ?_
    simp only [pure_apply, ends_ok]
    intro hclean a' g hg
    obtain ⟨hfit, hsp⟩ := hspelled (eq_of_pop (hks.trans (by rw [hclean])) hsuf)
    have htext := hsp.givenBack hg rfl
    rw [← hfit.exact] at htext
    exact htext

section Rounds

variable {rules : RuleSet} {budget : Nat} {cx : Context} {p : Pattern}

/-- One clean round over `inner` that moved from `s` to `s1`, with the rounds before it spelled
from `c`: it moved forward, and its fragment spells the stretch it moved over, which is empty
when `inner` is suppressed. -/
theorem round_spelled (hcx : cx.Measures rules budget) {inner : Pattern}
    (hin : (consume cx inner).Transcribes (inner.giveBack rules budget))
    (hquiet : inner.suppressed → inner.maxLength ≤ .finite 0) {c : Cursor} {m : Matched}
    {s s1 : MatchState} (hc : consume cx inner s = .ok m s1) (hvs : s.cursor.Valid)
    (h1 : s1.cursor.marks = s.cursor.marks) (htext : s.cursor.text = c.text) :
    s.cursor.Forward s1.cursor 0 ∧ (inner.suppressed → s1.cursor.pos = s.cursor.pos) ∧
      m.fragment.toText = c.textBetween s.cursor.pos s1.cursor.pos := by
  have hq := hin s
  have hqm := consume_measured hcx inner s
  rw [hc] at hq hqm
  obtain ⟨hf, hm⟩ := hqm ⟨hvs, h1⟩
  refine ⟨hf, fun hsup ↦ ?_, ?_⟩
  · have := zero_of_fits (hquiet hsup) hm.bound_of
    have := hf.reach
    omega
  · have hm0 := hq ⟨hvs, h1⟩ m 0 (.refl m)
    rw [Nat.sub_zero] at hm0
    exact hm0.trans (Cursor.textBetween_of_text htext _ _)

/-- The rounds of a repetition started at `c`, with its mark on top of the stack: a clean run
keeps the items spelled round by round. The induction is on the rounds left, as in
`rounds_measured`. -/
theorem rounds_transcribes (hcx : cx.Measures rules budget) {inner : Pattern}
    {h : sizeOf inner < sizeOf p} {lo : Nat}
    (hin : (consume cx inner).Transcribes (inner.giveBack rules budget))
    (hquiet : inner.suppressed → inner.maxLength ≤ .finite 0) {c : Cursor} (hv : c.Valid) (left : Nat) :
    ∀ (items : Array Fragment) (pieces : Array Piece) (s : MatchState),
      Ends (rounds cx p inner h lo left items pieces s)
        (fun r c' ↦ c'.marks = c.mark.marks → Fitted c (fun _ ↦ True) pieces s.cursor →
          Spelled c c.pos items.toList pieces.toList →
          Fitted c (fun _ ↦ True) r.2 c' ∧ Spelled c c.pos r.1.toList r.2.toList)
        fun _ _ ↦ True := by
  induction left with
  | zero =>
    intro items pieces s
    rw [rounds.eq_1]
    exact fun _ hfit hsp ↦ ⟨hfit, hsp⟩
  | succ left ih =>
    intro items pieces s
    rw [rounds.eq_2]
    simp only [position_bind]
    have hqt := consume_tidy hcx.tidy inner s
    cases hc : consume cx inner s with
    | ok m s1 =>
      rw [hc] at hqt
      simp only [bind_of_ok (outcome_of_ok hc), position_bind]
      -- a clean round moved forward, by a length no wrap-around shortens
      have hround : s1.cursor.marks = c.mark.marks → Fitted c (fun _ ↦ True) pieces s.cursor →
          s.cursor.Forward s1.cursor 0 ∧ (inner.suppressed → s1.cursor.pos = s.cursor.pos) ∧
            m.fragment.toText = c.textBetween s.cursor.pos s1.cursor.pos ∧
            Word.wrapSub s1.cursor.pos s.cursor.pos = s1.cursor.pos - s.cursor.pos := by
        intro h1 hfit
        have hvs := hv.mark.of_forward hfit.forward
        obtain ⟨hf, hstay, htext⟩ := round_spelled hcx hin hquiet hc hvs
          (h1.trans hfit.forward.marks.symm) hfit.forward.text
        have hvs1 := hvs.of_forward hf
        exact ⟨hf, hstay, htext, Word.wrapSub_of_le (by simpa using hf.reach)
          (by have := hvs1.1; have := hvs1.2; omega)⟩
      split
      · rename_i hstop
        intro hclean hfit hsp
        obtain ⟨hf, -, -, hlen⟩ := hround hclean hfit
        rw [hlen] at hstop
        have := hf.reach
        exact ⟨hfit.stay hf (by omega), hsp⟩
      · rcases hpush : pushItem items inner m.fragment with ⟨items', n⟩
        dsimp only
        refine ((ih _ _ s1).and (rounds_tidy (L := s1.cursor.marks) (consume_tidy hcx.tidy inner)
          left items' (pieces.push ⟨Word.wrapSub s1.cursor.pos s.cursor.pos, n⟩) s1
          (List.suffix_refl _))).mono (fun r c' h' hclean hfit hsp ↦ ?_) fun _ _ _ ↦ trivial
        have h1 : s1.cursor.marks = s.cursor.marks :=
          suffix_squeeze h'.2 hqt (hclean.trans hfit.forward.marks.symm)
        obtain ⟨hf, hstay, htext, hlen⟩ := hround (h1.trans hfit.forward.marks) hfit
        have hnext := h'.1
        rw [hlen] at hnext
        -- the round's items are its group, spelling the stretch it moved over
        obtain ⟨group, hitems, hn, hgroup⟩ := pushItem_spells items htext hstay
        rw [hpush] at hitems hn
        dsimp only at hitems hn
        refine hnext hclean (hfit.push hf trivial n) ?_
        rw [hitems, hn]
        exact hsp.push hfit.exact (by simpa using hf.reach) hgroup
    | error e s1 =>
      simp only [bind_of_ok (outcome_of_error hc)]
      cases e with
      | failure f =>
        intro hclean hfit hsp
        have hs1 : s1.cursor = s.cursor := by
          have hqm := consume_measured hcx inner s
          rw [hc] at hqm
          exact hqm ⟨hv.mark.of_forward hfit.forward, hclean.trans hfit.forward.marks.symm⟩ rfl
        rw [hs1]
        exact ⟨hfit, hsp⟩
      | _ => exact ends_restoreMark_bind (fun _ ↦ trivial) fun _ _ _ ↦ trivial

/-- The rounds of a separated list started at `c`, with its mark on top of the stack: as for a
repetition, where a round's items are those of its element, or of its separator and its
element. -/
theorem listRounds_transcribes (hcx : cx.Measures rules budget) {sep elem : Pattern}
    {hs : sizeOf sep < sizeOf p} {he : sizeOf elem < sizeOf p} {lo : Nat}
    (hsep : (consume cx sep).Transcribes (sep.giveBack rules budget))
    (helem : (consume cx elem).Transcribes (elem.giveBack rules budget))
    (hsep_quiet : sep.suppressed → sep.maxLength ≤ .finite 0)
    (helem_quiet : elem.suppressed → elem.maxLength ≤ .finite 0) {c : Cursor} (hv : c.Valid)
    (left : Nat) :
    ∀ (items : Array Fragment) (pieces : Array Piece) (s : MatchState),
      Ends (listRounds cx p sep elem hs he lo left items pieces s)
        (fun r c' ↦ c'.marks = c.mark.marks → Fitted c (fun _ ↦ True) pieces s.cursor →
          Spelled c c.pos items.toList pieces.toList →
          Fitted c (fun _ ↦ True) r.2 c' ∧ Spelled c c.pos r.1.toList r.2.toList)
        fun _ _ ↦ True := by
  induction left with
  | zero =>
    intro items pieces s
    rw [listRounds.eq_1]
    exact fun _ hfit hsp ↦ ⟨hfit, hsp⟩
  | succ left ih =>
    intro items pieces s
    -- a round that found fragments and ended at `s1`; when it ran clean it moved forward and
    -- its items spell the stretch it moved over
    have hsome : ∀ (s1 : MatchState) (items' : Array Fragment) (n : Nat),
        s1.cursor.marks <:+ s.cursor.marks →
        (s1.cursor.marks = s.cursor.marks → Fitted c (fun _ ↦ True) pieces s.cursor →
          s.cursor.Forward s1.cursor 0 ∧ ∃ group, items'.toList = items.toList ++ group ∧
            n = group.length ∧ Fragment.listText group = c.textBetween s.cursor.pos s1.cursor.pos) →
        Ends ((position >>= fun pos ↦
            if Word.wrapSub pos s.cursor.pos = 0 ∧ pieces.size ≥ lo then pure (items, pieces)
            else listRounds cx p sep elem hs he lo left items'
              (pieces.push ⟨Word.wrapSub pos s.cursor.pos, n⟩)) s1)
          (fun r c' ↦ c'.marks = c.mark.marks → Fitted c (fun _ ↦ True) pieces s.cursor →
            Spelled c c.pos items.toList pieces.toList →
            Fitted c (fun _ ↦ True) r.2 c' ∧ Spelled c c.pos r.1.toList r.2.toList)
          fun _ _ ↦ True := by
      intro s1 items' n hsuf hround
      have hlen : s1.cursor.marks = s.cursor.marks → Fitted c (fun _ ↦ True) pieces s.cursor →
          Word.wrapSub s1.cursor.pos s.cursor.pos = s1.cursor.pos - s.cursor.pos := by
        intro h1 hfit
        have hvs := hv.mark.of_forward hfit.forward
        have hf := (hround h1 hfit).1
        have hvs1 := hvs.of_forward hf
        exact Word.wrapSub_of_le (by simpa using hf.reach) (by have := hvs1.1; have := hvs1.2; omega)
      simp only [position_bind]
      split
      · rename_i hstop
        intro hclean hfit hsp
        have h1 : s1.cursor.marks = s.cursor.marks := hclean.trans hfit.forward.marks.symm
        rw [hlen h1 hfit] at hstop
        have := (hround h1 hfit).1.reach
        exact ⟨hfit.stay (hround h1 hfit).1 (by omega), hsp⟩
      · refine ((ih _ _ s1).and (listRounds_tidy (L := s1.cursor.marks) (consume_tidy hcx.tidy sep)
          (consume_tidy hcx.tidy elem) left items'
          (pieces.push ⟨Word.wrapSub s1.cursor.pos s.cursor.pos, n⟩) s1 (List.suffix_refl _))).mono
          (fun r c' h' hclean hfit hsp ↦ ?_) fun _ _ _ ↦ trivial
        have h1 : s1.cursor.marks = s.cursor.marks :=
          suffix_squeeze h'.2 hsuf (hclean.trans hfit.forward.marks.symm)
        obtain ⟨hf, group, hitems, hn, hgroup⟩ := hround h1 hfit
        have hnext := h'.1
        rw [hlen h1 hfit] at hnext
        refine hnext hclean (hfit.push hf trivial n) ?_
        rw [hitems, hn]
        exact hsp.push hfit.exact (by simpa using hf.reach) hgroup
    -- a round that found nothing and, when clean, is back where it started
    have hnone : ∀ s1 : MatchState,
        (s1.cursor.marks = s.cursor.marks → s.cursor.Valid → s1.cursor = s.cursor) →
        Ends ((pure (items, pieces) : Engine _) s1)
          (fun r c' ↦ c'.marks = c.mark.marks → Fitted c (fun _ ↦ True) pieces s.cursor →
            Spelled c c.pos items.toList pieces.toList →
            Fitted c (fun _ ↦ True) r.2 c' ∧ Spelled c c.pos r.1.toList r.2.toList)
          fun _ _ ↦ True := by
      intro s1 hback hclean hfit hsp
      rw [hback (hclean.trans hfit.forward.marks.symm) (hv.mark.of_forward hfit.forward)]
      exact ⟨hfit, hsp⟩
    rw [listRounds.eq_2]
    simp only [position_bind, pure_bind]
    by_cases hemp : pieces.isEmpty
    · rw [if_pos hemp]
      have hqt := consume_tidy hcx.tidy elem s
      cases hc : consume cx elem s with
      | ok me s1 =>
        rw [hc] at hqt
        simp only [bind_of_ok (outcome_of_ok hc)]
        refine hsome s1 _ _ hqt fun h1 hfit ↦ ?_
        obtain ⟨hf, hstay, htext⟩ := round_spelled hcx helem helem_quiet hc
          (hv.mark.of_forward hfit.forward) h1 hfit.forward.text
        obtain ⟨group, hitems, hn, hgroup⟩ := pushItem_spells items htext hstay
        exact ⟨hf, group, by simpa using hitems, by simpa using hn, hgroup⟩
      | error e s1 =>
        simp only [bind_of_ok (outcome_of_error hc)]
        cases e with
        | failure f =>
          have hqm := consume_measured hcx elem s
          rw [hc] at hqm
          exact hnone s1 fun h1 hvs ↦ hqm ⟨hvs, h1⟩ rfl
        | _ => exact ends_restoreMark_bind (fun _ ↦ trivial) fun _ _ _ ↦ trivial
    · rw [if_neg hemp]
      simp only [mark_bind]
      have hqm := consume_measured hcx sep { s with cursor := s.cursor.mark }
      have hqt := consume_tidy hcx.tidy sep { s with cursor := s.cursor.mark }
      cases hc : consume cx sep { s with cursor := s.cursor.mark } with
      | ok ms s1 =>
        rw [hc] at hqm hqt
        simp only [bind_of_ok (outcome_of_ok hc)]
        have hdm := consume_measured hcx elem s1
        have hdt := consume_tidy hcx.tidy elem s1
        cases hd' : consume cx elem s1 with
        | ok me s2 =>
          rw [hd'] at hdm hdt
          simp only [bind_of_ok (outcome_of_ok hd')]
          refine ends_forgetMark_bind (fun _ ↦ trivial) fun k ks hks ↦ ?_
          have hks' : ks <:+ s.cursor.marks := by
            have := tail_suffix_tail (hdt.trans hqt)
            rwa [hks] at this
          refine hsome _ _ _ hks' fun h1 hfit ↦ ?_
          have hks'' : ks = s.cursor.marks := h1
          subst hks''
          -- the pop landed on the list's stack, so the separator and the element ran clean
          have h2 : s2.cursor.marks = s.cursor.mark.marks := eq_of_pop hks (hdt.trans hqt)
          have h12 : s1.cursor.marks = s.cursor.mark.marks := suffix_squeeze hdt hqt h2
          have hvs := hv.mark.of_forward hfit.forward
          obtain ⟨hf1, hstay1, htext1⟩ := round_spelled hcx hsep hsep_quiet hc hvs.mark h12
            hfit.forward.text
          obtain ⟨hf2, hstay2, htext2⟩ := round_spelled hcx helem helem_quiet hd'
            (hvs.mark.of_forward hf1) (h2.trans h12.symm) (hf1.text.trans hfit.forward.text)
          obtain ⟨g1, hitems1, hn1, hg1⟩ := pushItem_spells items htext1 hstay1
          obtain ⟨g2, hitems2, hn2, hg2⟩ :=
            pushItem_spells (pushItem items sep ms.fragment).1 htext2 hstay2
          have hr1 := hf1.reach
          have hr2 := hf2.reach
          refine ⟨(hf1.trans hf2).forget.mono (Nat.zero_le 0), g1 ++ g2, ?_, ?_, ?_⟩
          · simp [hitems1, hitems2]
          · simp [hn1, hn2]
          · rw [Fragment.listText_append, hg1, hg2,
              Cursor.textBetween_append _ (by simpa using hr1) (by omega)]
            rfl
        | error e s2 =>
          rw [hd'] at hdm hdt
          simp only [bind_of_ok (outcome_of_error hd')]
          cases e with
          | failure f =>
            simp only [record_bind]
            refine ends_restoreMark_bind (fun _ ↦ trivial) fun k ks hks ↦ ?_
            refine hnone _ fun h1 hvs ↦ ?_
            -- the element failed clean after a clean separator: back at the mark
            refine (Cursor.restored_of_pop hks (hdt.trans hqt) h1 fun h2 ↦ ?_).1
            have h12 : s1.cursor.marks = s.cursor.mark.marks := suffix_squeeze hdt hqt h2
            obtain ⟨hf1, -⟩ := hqm ⟨hvs.mark, h12⟩
            rw [hdm ⟨hvs.mark.of_forward hf1, h2.trans h12.symm⟩ rfl]
            exact hf1.text
          | _ =>
            refine ends_restoreMark_bind (fun _ ↦ trivial) fun _ _ _ ↦ ?_
            exact ends_restoreMark_bind (fun _ ↦ trivial) fun _ _ _ ↦ trivial
      | error e s1 =>
        rw [hc] at hqm hqt
        simp only [bind_of_ok (outcome_of_error hc)]
        cases e with
        | failure f =>
          refine ends_restoreMark_bind (fun _ ↦ trivial) fun k ks hks ↦ ?_
          refine hnone _ fun h1 hvs ↦ ?_
          refine (Cursor.restored_of_pop hks hqt h1 fun h2 ↦ ?_).1
          rw [hqm ⟨hvs.mark, h2⟩ rfl]
          rfl
        | _ =>
          refine ends_restoreMark_bind (fun _ ↦ trivial) fun _ _ _ ↦ ?_
          exact ends_restoreMark_bind (fun _ ↦ trivial) fun _ _ _ ↦ trivial

end Rounds

end Engine
end Backtrack
