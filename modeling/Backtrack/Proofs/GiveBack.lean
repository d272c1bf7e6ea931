import Backtrack.Proofs.Contract

/-!
# Giving back a piece matches one round fewer

Runs of characters, repetitions and separated lists keep a piece for each character or round
they take, and give back the last piece without reading the text again
(`Pattern.giveBack`). Giving back is faithful to matching: the pieces of a match account for
its length and its items, a piece can be given back exactly when the match holds more than
the minimum, and what is left is the match that the same pattern, with its maximum lowered
to one piece fewer, makes from the same place. So giving back again and again walks down
through the matches of every smaller count, to the minimum.

Such a pattern may be reached through rule references and shared wrappers (`Reaches`):
matching passes through them one level deeper per rule, and giving back follows them
unchanged.

For a repetition the proof runs the loop twice from the same state: the run with one round
fewer makes the same rounds, since each round starts from the same cursor and the same
pieces, and stops just before the last (`rounds_lowered`).

Main statement: `rollback_lowers`.
-/

namespace Backtrack

namespace Pattern

/-- The minimum of a pattern that gives back pieces: the least number of characters of a run,
or of rounds of a repetition or a separated list. -/
def keeps? : Pattern → Option Nat
  | mk (.run r) _ | mk (.whitespace r) _ => some r.min
  | mk (.repetition _ lo _) _ | mk (.separated _ _ lo _) _ => some lo
  | _ => none

/-- A pattern that gives back pieces, with its maximum lowered to `n`. -/
def lowered (n : Nat) : Pattern → Pattern
  | mk (.run r) b => mk (.run { r with max := some n }) b
  | mk (.whitespace r) b => mk (.whitespace { r with max := some n }) b
  | mk (.repetition inner lo _) b => mk (.repetition inner lo (some n)) b
  | mk (.separated sep elem lo _) b => mk (.separated sep elem lo (some n)) b
  | p => p

theorem keeps?_lowered (n : Nat) (q : Pattern) : (q.lowered n).keeps? = q.keeps? := by
  obtain ⟨shape, b⟩ := q
  cases shape <;> rfl

theorem standard_lowered (n : Nat) (q : Pattern) : (q.lowered n).standard = q.standard := by
  obtain ⟨shape, b⟩ := q
  cases shape <;> rfl

/-- `q` is reached from `p` through `n` rule references of `rules` and any number of shared
wrappers. -/
inductive Reaches (rules : RuleSet) : Pattern → Pattern → Nat → Prop
  | refl (q : Pattern) : Reaches rules q q 0
  | rule {ref : RuleRef} {b : Bool} {t q : Pattern} {n : Nat} :
      rules.target? ref = some t → Reaches rules t q n → Reaches rules (mk (.rule ref) b) q (n + 1)
  | shared {tag : Nat} {b : Bool} {inner q : Pattern} {n : Nat} :
      Reaches rules inner q n → Reaches rules (mk (.embed tag (.shared inner)) b) q n

namespace Reaches

variable {rules : RuleSet} {p q : Pattern} {n : Nat}

/-- Giving back follows the rules and wrappers from `p` to `q`, one unit of budget per rule. -/
theorem giveBack (h : Reaches rules p q n) {budget : Nat} (hn : n ≤ budget) (m : Matched) :
    p.giveBack rules budget m = q.giveBack rules (budget - n) m := by
  induction h generalizing budget with
  | refl => rfl
  | rule ht _ ih =>
    obtain ⟨b, rfl⟩ : ∃ b, budget = b + 1 := ⟨budget - 1, by omega⟩
    rw [Pattern.giveBack]
    simp only [ht]
    rw [ih (by omega)]
    congr 1
    omega
  | shared _ ih =>
    rw [Pattern.giveBack]
    exact ih hn

theorem standard (h : Reaches rules p q n) (hrs : rules.standard) (hp : p.standard) :
    q.standard := by
  induction h with
  | refl => exact hp
  | rule ht _ ih => exact ih (rules.standard_of_target? hrs ht)
  | shared _ ih => exact ih hp

end Reaches

end Pattern

namespace Engine

variable {cx : Context} {p : Pattern} {s s' : MatchState} {m : Matched}

/-- A match that succeeds is the match of its step; reporting is only for failures. -/
theorem step_of_consume (h : consume cx p s = .ok m s') : step cx p s = .ok m s' := by
  rw [consume] at h
  split at h
  · cases h
  · assumption

theorem consume_of_step (h : step cx p s = .ok m s') : consume cx p s = .ok m s' := by
  rw [consume, h]

theorem consume_of_step_error {e : MatchError} (h : step cx p s = .error e s')
    (he : e.recoverable = false) : consume cx p s = .error e s' := by
  rw [consume, h]
  cases e with
  | failure f => cases he
  | _ => rfl

end Engine

/-- A match reached through rules and wrappers is the match of the pattern they lead to, one
level deeper for each rule; the levels it went down stay within the limit. -/
theorem Pattern.Reaches.consumeAt {rules : RuleSet} {p q : Pattern} {n : Nat}
    (h : p.Reaches rules q n) {config : Config} {checks depth : Nat} {s s' : MatchState}
    {m : Matched} (hm : Backtrack.consumeAt rules config checks depth p s = .ok m s') :
    (n = 0 ∨ depth + n ≤ config.maxDepth) ∧
      Backtrack.consumeAt rules config checks (depth + n) q s = .ok m s' := by
  induction h generalizing depth with
  | refl => exact ⟨Or.inl rfl, hm⟩
  | rule ht _ ih =>
    rw [Backtrack.consumeAt] at hm
    have hstep := Engine.step_of_consume hm
    rw [Engine.step, contextAt] at hstep
    dsimp only at hstep
    simp only [ht] at hstep
    split at hstep
    · obtain ⟨hle, hq⟩ := ih hstep
      refine ⟨Or.inr (by omega), ?_⟩
      rwa [Nat.add_right_comm, Nat.add_assoc] at hq
    · cases hstep
  | shared _ ih =>
    rw [Backtrack.consumeAt] at hm
    have hstep := Engine.step_of_consume hm
    rw [Engine.step] at hstep
    exact ih (by rw [Backtrack.consumeAt]; exact hstep)

namespace Cursor

/-- The characters taken by moving forward over `k` characters that are there. -/
theorem takenSince_advance {c : Cursor} {k : Nat} (hv : c.Valid) (h : c.pos + k ≤ c.size) :
    (c.advance k).takenSince c.pos = String.ofList ((c.text.toList.drop c.pos).take k) := by
  have hpos := pos_advance hv.2 h
  simp only [takenSince, textBetween, hpos, size_advance, text_advance, Nat.min_eq_left h,
    Nat.min_eq_left (Nat.le_add_right _ _), Array.toList_extract, List.extract,
    Nat.add_sub_cancel_left]

theorem le_length_drop {c : Cursor} {k : Nat} (h : c.pos + k ≤ c.size) :
    k ≤ (c.text.toList.drop c.pos).length := by
  rw [List.length_drop, Array.length_toList]
  exact Nat.le_sub_of_add_le' h

/-- Taking one character fewer drops the last character taken. -/
theorem takenSince_advance_pred {c : Cursor} {k : Nat} (hv : c.Valid) (h : c.pos + k ≤ c.size) :
    String.ofList ((c.advance k).takenSince c.pos).toList.dropLast =
      (c.advance (k - 1)).takenSince c.pos := by
  have hk := le_length_drop h
  rw [takenSince_advance hv h, takenSince_advance hv (by omega), String.toList_ofList,
    List.dropLast_eq_take, List.length_take, List.take_take, Nat.min_eq_left hk,
    Nat.min_eq_left (Nat.sub_le _ _)]

theorem length_takenSince_advance {c : Cursor} {k : Nat} (hv : c.Valid) (h : c.pos + k ≤ c.size) :
    ((c.advance k).takenSince c.pos).length = k := by
  rw [takenSince_advance hv h, String.length_ofList, List.length_take,
    Nat.min_eq_left (le_length_drop h)]

end Cursor

/-- The pieces of a match account for its fragment: a list holds as many items as its pieces
count, and a text is one character per piece. -/
def Matched.Accounted (m : Matched) : Prop :=
  match m.fragment with
  | .list items => (m.pieces.map Piece.items).sum = items.length
  | .text t => t.length = m.pieces.length ∧ ∀ u ∈ m.pieces, u = ⟨1, 1⟩
  | _ => False

/-- Giving back from a run: a character while there are more than the minimum. -/
theorem Matched.dropLastChar_run {min count : Nat} {t : String} (ht : t.length = count) :
    Matched.dropLastChar min ⟨.text t, List.replicate count ⟨1, 1⟩⟩ =
      if count ≤ min then none
      else some (⟨.text (String.ofList t.toList.dropLast), List.replicate (count - 1) ⟨1, 1⟩⟩, 1) := by
  unfold Matched.dropLastChar
  simp only [List.length_replicate]
  split
  · rfl
  · have hpos : count ≠ 0 := by omega
    have hne : t.isEmpty = false := by
      rw [Bool.eq_false_iff]
      intro he
      rw [String.isEmpty_iff] at he
      subst he
      simp at ht
      omega
    simp [List.getLast?_replicate, hpos, hne]

/-- Giving back from a list: its last piece with the items it holds, while there are more
pieces than the minimum. -/
theorem Matched.dropLastPiece_list {min : Nat} {items : List Fragment} {pieces : List Piece} :
    Matched.dropLastPiece min ⟨.list items, pieces⟩ =
      if pieces.length ≤ min then none
      else pieces.getLast?.map fun last ↦
        (⟨.list (items.take (items.length - last.items)), pieces.dropLast⟩, last.len) := by
  unfold Matched.dropLastPiece
  split
  · rfl
  · cases pieces.getLast? <;> rfl

namespace Engine

/-- What giving back does to the match `m` that a pattern `q` with minimum `lo` made from
state `s` to state `s'`: the pieces span exactly the text the match took and account for its
fragment; a piece can be given back exactly when there are more than `lo`, and then it is
the last piece, at least a character long, and what is left is the match that `q` makes from
`s` with its maximum lowered to one piece fewer. -/
structure Shrinks (cx : Context) (q : Pattern) (lo : Nat) (s : MatchState) (m : Matched)
    (s' : MatchState) : Prop where
  exact : s'.cursor.pos = s.cursor.pos + m.span
  accounted : m.Accounted
  isSome_iff : ∀ rules budget, (q.giveBack rules budget m).isSome ↔ lo < m.pieces.length
  lowered : ∀ rules budget m' g, q.giveBack rules budget m = some (m', g) →
    m.pieces.getLast?.map Piece.len = some g ∧ 1 ≤ g ∧
      ∃ s'', consume cx (q.lowered (m.pieces.length - 1)) s = .ok m' s''

variable {cx : Context}

/-- A run takes as many characters as it accepts, up to its maximum; below its minimum it
fails where it started. -/
theorem matchRun_apply (cfg : Config) (p : Pattern) (r : Run) (s : MatchState) {avail count : Nat}
    (havail : (s.cursor.rest.takeWhile fun ch ↦
      if r.configured then cfg.isWhitespace ch else r.cls.accepts ch).length = avail)
    (hcount : (r.max.map (min avail)).getD avail = count) :
    matchRun cfg p r s = if count < r.min then .error (.failure (s.cursor.expected p)) s
      else .ok ⟨.text ((s.cursor.advance count).takenSince s.cursor.pos), List.replicate count ⟨1, 1⟩⟩
        { s with cursor := s.cursor.advance count } := by
  obtain ⟨cls, lo, hi, configured⟩ := r
  simp only [matchRun, mark_bind, cursor_bind, setCursor_bind, Cursor.rest_mark, havail]
  -- the count is `count` once the maximum is known
  by_cases hlo : count < lo
  · rw [if_pos hlo]
    cases hi <;> simp only [Option.map_none, Option.getD_none, Option.map_some, Option.getD_some]
      at hcount <;> subst hcount <;> dsimp only <;> rw [if_pos hlo, restoreMark_bind _ rfl] <;> rfl
  · rw [if_neg hlo]
    cases hi <;> simp only [Option.map_none, Option.getD_none, Option.map_some, Option.getD_some]
      at hcount <;> subst hcount <;> dsimp only <;> rw [if_neg hlo, forgetMark_bind _ rfl] <;> rfl


/-- A run of characters or of whitespace gives back its last character, and what is left is
the run lowered to one character fewer. -/
theorem run_shrinks {q : Pattern} {r : Run} {b : Bool}
    (hq : q = .mk (.run r) b ∨ q = .mk (.whitespace r) b) {s s' : MatchState} {m : Matched}
    (hv : s.cursor.Valid) (hm : consume cx q s = .ok m s') : Shrinks cx q r.min s m s' := by
  -- both shapes match by `matchRun` and give back by `dropLastChar`
  have hstep : step cx q s = matchRun cx.config q r s := by
    rcases hq with rfl | rfl <;> rw [step]
  have hlower : ∀ n, step cx (q.lowered n) s =
      matchRun cx.config (q.lowered n) { r with max := some n } s := by
    intro n
    rcases hq with rfl | rfl <;> simp only [Pattern.lowered] <;> rw [step]
  have hgive : ∀ rules budget m, q.giveBack rules budget m = m.dropLastChar r.min := by
    intro rules budget m
    rcases hq with rfl | rfl <;> rw [Pattern.giveBack]
  obtain ⟨avail, havail⟩ : ∃ avail, (s.cursor.rest.takeWhile fun ch ↦
      if r.configured then cx.config.isWhitespace ch else r.cls.accepts ch).length = avail :=
    ⟨_, rfl⟩
  obtain ⟨count, hcount⟩ : ∃ count, (r.max.map (min avail)).getD avail = count := ⟨_, rfl⟩
  have hle : count ≤ avail := by
    rw [← hcount]
    cases r.max with
    | none => exact Nat.le_refl _
    | some mx => exact Nat.min_le_left _ _
  have hfit : s.cursor.pos + count ≤ s.cursor.size := by
    have hpre := (List.takeWhile_prefix (fun ch ↦
      if r.configured then cx.config.isWhitespace ch else r.cls.accepts ch) :
        s.cursor.rest.takeWhile _ <+: s.cursor.rest).length_le
    rw [havail, Cursor.length_rest] at hpre
    have := hv.1
    omega
  have hrun := step_of_consume hm
  rw [hstep, matchRun_apply _ _ _ _ havail hcount] at hrun
  by_cases hlo : count < r.min
  · rw [if_pos hlo] at hrun
    cases hrun
  rw [if_neg hlo] at hrun
  cases hrun
  have hlen := Cursor.length_takenSince_advance hv hfit
  refine ⟨?_, ⟨by rw [hlen, List.length_replicate], fun u hu ↦ List.eq_of_mem_replicate hu⟩, ?_, ?_⟩
  · show (s.cursor.advance count).pos = s.cursor.pos + Matched.span ⟨_, List.replicate count ⟨1, 1⟩⟩
    rw [Cursor.pos_advance hv.2 hfit]
    simp [Matched.span]
  · intro rules budget
    rw [hgive, Matched.dropLastChar_run hlen, List.length_replicate]
    split <;> simp <;> omega
  · intro rules budget m' g hg
    rw [hgive, Matched.dropLastChar_run hlen] at hg
    split at hg
    · cases hg
    cases hg
    have hpos : count ≠ 0 := by omega
    refine ⟨by simp [List.getLast?_replicate, hpos], Nat.le_refl 1,
      { s with cursor := s.cursor.advance (count - 1) }, consume_of_step ?_⟩
    dsimp only
    rw [List.length_replicate, hlower,
      matchRun_apply _ _ { r with max := some (count - 1) } _ havail rfl]
    rw [if_neg (by simp; omega), Cursor.takenSince_advance_pred hv hfit]
    simp only [Option.map_some, Option.getD_some, Nat.min_eq_right (by omega : count - 1 ≤ avail)]

/-- A list that extends `l₁` by `n` elements gives `l₁` back when they are dropped. -/
theorem prefix_eq_take_sub {α : Type} {l₁ l₂ : List α} {n : Nat} (h : l₁ <+: l₂)
    (hn : l₂.length = l₁.length + n) : l₂.take (l₂.length - n) = l₁ := by
  rw [hn, Nat.add_sub_cancel]
  exact (List.prefix_iff_eq_take.mp h).symm

/-- Running a loop over rounds again from the same state, with one round fewer than the first
run kept, gives the items and pieces of the first run without its last round. `F` is the
first run and `G` the second, by the number of rounds they have left; what is needed is that
a round either ends the loop without keeping a piece, or keeps one and goes on in `F` and `G`
alike. The induction is on the rounds the first run had left. -/
theorem lowered_of_step
    {F G : Nat → Array Fragment → Array Piece → Engine (Array Fragment × Array Piece)}
    {c : Cursor} {lo : Nat}
    (hF0 : ∀ items pieces s, F 0 items pieces s = .ok (items, pieces) s)
    (hG0 : ∀ items pieces s, G 0 items pieces s = .ok (items, pieces) s)
    (hpost : ∀ left items pieces s I P s', Rounds c lo items pieces s.cursor →
      F left items pieces s = .ok (I, P) s' →
      Rounds c lo I P s'.cursor ∧ items.toList <+: I.toList ∧ pieces.toList <+: P.toList)
    (hstep : ∀ items pieces s, Rounds c lo items pieces s.cursor →
      (∀ left I P s', F (left + 1) items pieces s = .ok (I, P) s' → P = pieces) ∨
      ∃ items' piece s1, Rounds c lo items' (pieces.push piece) s1.cursor ∧
        items.toList <+: items'.toList ∧ items'.size = items.size + piece.items ∧
        ∀ left, F (left + 1) items pieces s = F left items' (pieces.push piece) s1 ∧
          G (left + 1) items pieces s = G left items' (pieces.push piece) s1)
    (left : Nat) :
    ∀ (items : Array Fragment) (pieces : Array Piece) (s : MatchState) (I : Array Fragment)
      (P : Array Piece) (s' : MatchState) (last : Piece),
      Rounds c lo items pieces s.cursor → F left items pieces s = .ok (I, P) s' →
      pieces.size < P.size → P.toList.getLast? = some last →
      ∃ I' P' s'', G (P.size - pieces.size - 1) items pieces s = .ok (I', P') s'' ∧
        I'.toList = I.toList.take (I.toList.length - last.items) ∧ P'.toList = P.toList.dropLast := by
  induction left with
  | zero =>
    intro items pieces s I P s' last _ hr hlt _
    rw [hF0] at hr
    cases hr
    omega
  | succ left ih =>
    intro items pieces s I P s' last hs hr hlt hlast
    rcases hstep items pieces s hs with hend | ⟨items', piece, s1, hs1, hpre1, hsize, hnext⟩
    · have hP := hend left I P s' hr
      subst hP
      omega
    rw [(hnext left).1] at hr
    obtain ⟨hR, hpreI, hpreP⟩ := hpost left _ _ s1 I P s' hs1 hr
    by_cases hone : P.size = pieces.size + 1
    · -- the first round was the last one kept
      have hP := hpreP.eq_of_length (by simp; omega)
      have hI := hpreI.eq_of_length (by
        have hRi := hR.items
        have h1i := hs1.items
        rw [← hP] at hRi
        simp only [Array.length_toList]
        omega)
      rw [← hP, Array.toList_push, List.getLast?_concat, Option.some.injEq] at hlast
      subst hlast
      refine ⟨items, pieces, s, ?_, ?_, ?_⟩
      · rw [show P.size - pieces.size - 1 = 0 by omega, hG0]
      · rw [← hI]
        exact (prefix_eq_take_sub hpre1 (by simpa using hsize)).symm
      · rw [← hP, Array.toList_push, List.dropLast_concat]
    · obtain ⟨I', P', s'', hrun, hI', hP'⟩ :=
        ih _ _ s1 I P s' last hs1 hr (by simp; omega) hlast
      refine ⟨I', P', s'', ?_, hI', hP'⟩
      rw [show P.size - pieces.size - 1 = (P.size - (pieces.push piece).size - 1) + 1 by
        simp; omega, (hnext _).2]
      exact hrun

theorem Ends.of_ok {α : Type} {r : EStateM.Result MatchError MatchState α}
    {P : α → Cursor → Prop} {E : MatchError → Cursor → Prop} {a : α} {s' : MatchState}
    (h : Ends r P E) (hr : r = .ok a s') : P a s'.cursor := by
  subst hr
  exact h

/-- A round of a repetition ends the loop without keeping a piece, or keeps one and goes on,
whatever the repetition and the rounds left. -/
theorem rounds_step {inner : Pattern} {lo : Nat} (hin : (consume cx inner).Contract)
    {c : Cursor} (hv : c.Valid) (items : Array Fragment) (pieces : Array Piece) (s : MatchState)
    (hs : Rounds c lo items pieces s.cursor) :
    (∀ p h left I P s', rounds cx p inner h lo (left + 1) items pieces s = .ok (I, P) s' →
      P = pieces) ∨
    ∃ items' piece s1, Rounds c lo items' (pieces.push piece) s1.cursor ∧
      items.toList <+: items'.toList ∧ items'.size = items.size + piece.items ∧
      ∀ p h left, rounds cx p inner h lo (left + 1) items pieces s =
        rounds cx p inner h lo left items' (pieces.push piece) s1 := by
  have hvs : s.cursor.Valid := hv.mark.of_forward hs.forward
  cases hc : consume cx inner s with
  | error e s1 =>
    -- a round that fails or stops with an error keeps no piece
    obtain ⟨hs1, -⟩ := hin.error hvs hc
    refine Or.inl fun p h left I P s' hr ↦ ?_
    rw [rounds.eq_2] at hr
    simp only [position_bind, bind_of_ok (outcome_of_error hc)] at hr
    cases e with
    | failure f =>
      cases hr
      rfl
    | _ =>
      simp only [restoreMark_bind _ (hs1 ▸ hs.forward.marks), throw_apply] at hr
      cases hr
  | ok m s1 =>
    have hfw := hin.ok hvs hc
    have hf : s.cursor.Forward s1.cursor 0 := hfw.mono (Nat.zero_le _)
    have hlen : Word.wrapSub s1.cursor.pos s.cursor.pos = s1.cursor.pos - s.cursor.pos :=
      Word.wrapSub_of_le (by have := hfw.reach; omega)
        (by have := (hvs.of_forward hfw).2; have := hfw.le_size; omega)
    by_cases hstop : s1.cursor.pos - s.cursor.pos = 0 ∧ pieces.size ≥ lo
    · refine Or.inl fun p h left I P s' hr ↦ ?_
      rw [rounds.eq_2] at hr
      simp only [position_bind, bind_of_ok (outcome_of_ok hc), hlen, if_pos hstop] at hr
      cases hr
      rfl
    · refine Or.inr ⟨_, _, s1, hs.push hf (pushItem_size items inner m.fragment) hstop,
        pushItem_grows items inner m.fragment, pushItem_size items inner m.fragment,
        fun p h left ↦ ?_⟩
      rw [rounds.eq_2]
      simp only [position_bind, bind_of_ok (outcome_of_ok hc), hlen]
      rw [if_neg hstop]

/-- Matching the rounds of a repetition again from the same state, with one round fewer than
the first run kept, gives the items and pieces of the first run without its last round. -/
theorem rounds_lowered {p inner : Pattern} {h : sizeOf inner < sizeOf p} (p' : Pattern)
    (h' : sizeOf inner < sizeOf p') {lo : Nat} (hin : (consume cx inner).Contract) {c : Cursor}
    (hv : c.Valid) (left : Nat) :
    ∀ (items : Array Fragment) (pieces : Array Piece) (s : MatchState) (I : Array Fragment)
      (P : Array Piece) (s' : MatchState) (last : Piece),
      Rounds c lo items pieces s.cursor →
      rounds cx p inner h lo left items pieces s = .ok (I, P) s' →
      pieces.size < P.size → P.toList.getLast? = some last →
      ∃ I' P' s'', rounds cx p' inner h' lo (P.size - pieces.size - 1) items pieces s = .ok (I', P') s'' ∧
        I'.toList = I.toList.take (I.toList.length - last.items) ∧ P'.toList = P.toList.dropLast := by
  refine lowered_of_step (fun _ _ _ ↦ by rw [rounds.eq_1]; rfl) (fun _ _ _ ↦ by rw [rounds.eq_1]; rfl)
    (fun left items pieces s I P s' hs hr ↦ (rounds_contract hin hv left items pieces s hs).of_ok hr)
    (fun items pieces s hs ↦ ?_) left
  rcases rounds_step hin hv items pieces s hs with hend | ⟨items', piece, s1, hs1, hpre, hsize, hnext⟩
  · exact Or.inl (hend p h)
  · exact Or.inr ⟨items', piece, s1, hs1, hpre, hsize, fun left ↦ ⟨hnext p h left, hnext p' h' left⟩⟩

/-- A round of a separated list ends the loop without keeping a piece, or keeps one and goes
on, whatever the list pattern and the rounds left. -/
theorem listRounds_step {sep elem : Pattern} {lo : Nat} (hsep : (consume cx sep).Contract)
    (helem : (consume cx elem).Contract) {c : Cursor} (hv : c.Valid) (items : Array Fragment)
    (pieces : Array Piece) (s : MatchState) (h0 : Rounds c lo items pieces s.cursor) :
    (∀ p hs he left I P s', listRounds cx p sep elem hs he lo (left + 1) items pieces s =
      .ok (I, P) s' → P = pieces) ∨
    ∃ items' piece s1, Rounds c lo items' (pieces.push piece) s1.cursor ∧
      items.toList <+: items'.toList ∧ items'.size = items.size + piece.items ∧
      ∀ p hs he left, listRounds cx p sep elem hs he lo (left + 1) items pieces s =
        listRounds cx p sep elem hs he lo left items' (pieces.push piece) s1 := by
  have hvs : s.cursor.Valid := hv.mark.of_forward h0.forward
  -- a round that found fragments and moved forward to `s1` stops there or keeps a piece
  have hsome : ∀ (s1 : MatchState) (items' : Array Fragment) (n : Nat),
      s.cursor.Forward s1.cursor 0 → items'.size + 0 = items.size + n →
      items.toList <+: items'.toList →
      (∀ p hs he left, listRounds cx p sep elem hs he lo (left + 1) items pieces s =
        (position >>= fun pos ↦
          if Word.wrapSub pos s.cursor.pos = 0 ∧ pieces.size ≥ lo then pure (items, pieces)
          else listRounds cx p sep elem hs he lo left items'
            (pieces.push ⟨Word.wrapSub pos s.cursor.pos, n⟩)) s1) →
      (∀ p hs he left I P s', listRounds cx p sep elem hs he lo (left + 1) items pieces s =
        .ok (I, P) s' → P = pieces) ∨
      ∃ items' piece s1, Rounds c lo items' (pieces.push piece) s1.cursor ∧
        items.toList <+: items'.toList ∧ items'.size = items.size + piece.items ∧
        ∀ p hs he left, listRounds cx p sep elem hs he lo (left + 1) items pieces s =
          listRounds cx p sep elem hs he lo left items' (pieces.push piece) s1 := by
    intro s1 items' n hf hsize hpre hround
    have hlen : Word.wrapSub s1.cursor.pos s.cursor.pos = s1.cursor.pos - s.cursor.pos :=
      Word.wrapSub_of_le (by have := hf.reach; omega)
        (by have := (hvs.of_forward hf).2; have := hf.le_size; omega)
    by_cases hstop : s1.cursor.pos - s.cursor.pos = 0 ∧ pieces.size ≥ lo
    · refine Or.inl fun p hs he left I P s' hr ↦ ?_
      rw [hround, position_bind, hlen, if_pos hstop] at hr
      cases hr
      rfl
    · refine Or.inr ⟨items', _, s1, h0.push hf hsize hstop, hpre, by simpa using hsize,
        fun p hs he left ↦ ?_⟩
      rw [hround, position_bind, hlen, if_neg hstop]
  by_cases hemp : pieces.isEmpty
  · cases hc : consume cx elem s with
    | ok me s1 =>
      refine hsome s1 _ _ ((helem.ok hvs hc).mono (Nat.zero_le _))
        (foldl_pushItem_size [(elem, me.fragment)] (items, 0))
        (foldl_pushItem_grows [(elem, me.fragment)] (items, 0)) fun p hs he left ↦ ?_
      rw [listRounds.eq_2]
      simp only [position_bind, pure_bind, if_pos hemp, bind_of_ok (outcome_of_ok hc)]
    | error e s1 =>
      obtain ⟨hs1, -⟩ := helem.error hvs hc
      refine Or.inl fun p hs he left I P s' hr ↦ ?_
      rw [listRounds.eq_2] at hr
      simp only [position_bind, pure_bind, if_pos hemp, bind_of_ok (outcome_of_error hc)] at hr
      cases e with
      | failure f =>
        cases hr
        rfl
      | _ =>
        simp only [restoreMark_bind _ (hs1 ▸ h0.forward.marks), throw_apply] at hr
        cases hr
  · have hvm : ({ s with cursor := s.cursor.mark } : MatchState).cursor.Valid := hvs.mark
    cases hc : consume cx sep { s with cursor := s.cursor.mark } with
    | ok ms s1 =>
      have hf1 := hsep.ok hvm hc
      cases hd : consume cx elem s1 with
      | ok me s2 =>
        have hf := hf1.trans (helem.ok (hvm.of_forward hf1) hd)
        refine hsome { s2 with cursor := { s2.cursor with marks := s.cursor.marks } } _ _
          (hf.forget.mono (Nat.zero_le _))
          (foldl_pushItem_size [(sep, ms.fragment), (elem, me.fragment)] (items, 0))
          (foldl_pushItem_grows [(sep, ms.fragment), (elem, me.fragment)] (items, 0))
          fun p hs he left ↦ ?_
        rw [listRounds.eq_2]
        simp only [position_bind, pure_bind, if_neg hemp, mark_bind, bind_of_ok (outcome_of_ok hc),
          bind_of_ok (outcome_of_ok hd), forgetMark_bind _ hf.marks]
      | error e s2 =>
        obtain ⟨hs2, -⟩ := helem.error (hvm.of_forward hf1) hd
        have hm2 : s2.cursor.marks = s.cursor.pos :: s.cursor.marks := hs2 ▸ hf1.marks
        have hback : { s2.cursor with pos := s.cursor.pos, marks := s.cursor.marks } = s.cursor :=
          hs2 ▸ hf1.restore
        refine Or.inl fun p hs he left I P s' hr ↦ ?_
        rw [listRounds.eq_2] at hr
        simp only [position_bind, pure_bind, if_neg hemp, mark_bind, bind_of_ok (outcome_of_ok hc),
          bind_of_ok (outcome_of_error hd)] at hr
        cases e with
        | failure f =>
          simp only [record_bind] at hr
          rw [restoreMark_bind_mk _ hm2] at hr
          cases hr
          rfl
        | _ =>
          simp only [restoreMark_bind _ hm2, hback] at hr
          rw [restoreMark_bind_mk _ h0.forward.marks, throw_apply] at hr
          cases hr
    | error e s1 =>
      obtain ⟨hs1, -⟩ := hsep.error hvm hc
      have hm1 : s1.cursor.marks = s.cursor.pos :: s.cursor.marks := by rw [hs1]; rfl
      have hback : { s1.cursor with pos := s.cursor.pos, marks := s.cursor.marks } = s.cursor :=
        Cursor.restore_of_text (by rw [hs1]; rfl)
      refine Or.inl fun p hs he left I P s' hr ↦ ?_
      rw [listRounds.eq_2] at hr
      simp only [position_bind, pure_bind, if_neg hemp, mark_bind,
        bind_of_ok (outcome_of_error hc)] at hr
      cases e with
      | failure f =>
        simp only [restoreMark_bind _ hm1] at hr
        cases hr
        rfl
      | _ =>
        simp only [restoreMark_bind _ hm1, hback] at hr
        rw [restoreMark_bind_mk _ h0.forward.marks, throw_apply] at hr
        cases hr

/-- Matching the rounds of a separated list again from the same state, with one round fewer
than the first run kept, gives the items and pieces of the first run without its last round. -/
theorem listRounds_lowered {p sep elem : Pattern} {hs : sizeOf sep < sizeOf p}
    {he : sizeOf elem < sizeOf p} (p' : Pattern) (hs' : sizeOf sep < sizeOf p')
    (he' : sizeOf elem < sizeOf p') {lo : Nat} (hsep : (consume cx sep).Contract)
    (helem : (consume cx elem).Contract) {c : Cursor} (hv : c.Valid) (left : Nat) :
    ∀ (items : Array Fragment) (pieces : Array Piece) (s : MatchState) (I : Array Fragment)
      (P : Array Piece) (s' : MatchState) (last : Piece),
      Rounds c lo items pieces s.cursor →
      listRounds cx p sep elem hs he lo left items pieces s = .ok (I, P) s' →
      pieces.size < P.size → P.toList.getLast? = some last →
      ∃ I' P' s'', listRounds cx p' sep elem hs' he' lo (P.size - pieces.size - 1) items pieces s =
          .ok (I', P') s'' ∧
        I'.toList = I.toList.take (I.toList.length - last.items) ∧ P'.toList = P.toList.dropLast := by
  refine lowered_of_step (fun _ _ _ ↦ by rw [listRounds.eq_1]; rfl)
    (fun _ _ _ ↦ by rw [listRounds.eq_1]; rfl)
    (fun left items pieces s I P s' h0 hr ↦
      (listRounds_contract hsep helem hv left items pieces s h0).of_ok hr)
    (fun items pieces s h0 ↦ ?_) left
  rcases listRounds_step hsep helem hv items pieces s h0 with
    hend | ⟨items', piece, s1, hs1, hpre, hsize, hnext⟩
  · exact Or.inl (hend p hs he)
  · exact Or.inr ⟨items', piece, s1, hs1, hpre, hsize,
      fun left ↦ ⟨hnext p hs he left, hnext p' hs' he' left⟩⟩

/-- A loop that ended at `c1` with its pieces `P` and items `I`, at least `lo` of them, and
gives back by `dropLastPiece`, shrinks as soon as the loop lowered to one piece fewer makes
the match without its last piece. -/
theorem Shrinks.of_rounds {q : Pattern} {lo : Nat} {s s' : MatchState} {I : Array Fragment}
    {P : Array Piece} {c1 : Cursor}
    (hgive : ∀ rules budget m, q.giveBack rules budget m = m.dropLastPiece lo)
    (hR : Rounds s.cursor lo I P c1) (hpos : s'.cursor.pos = c1.pos)
    (hlower : ∀ last, P.toList.getLast? = some last → lo < P.size →
      ∃ s'', consume cx (q.lowered (P.size - 1)) s =
        .ok ⟨.list (I.toList.take (I.toList.length - last.items)), P.toList.dropLast⟩ s'') :
    Shrinks cx q lo s ⟨.list I.toList, P.toList⟩ s' := by
  refine ⟨by rw [hpos, hR.exact]; rfl, ?_, fun rules budget ↦ ?_, fun rules budget m' g hg ↦ ?_⟩
  · show (P.toList.map Piece.items).sum = I.toList.length
    rw [Array.length_toList, hR.items]
  · rw [hgive, Matched.dropLastPiece_list]
    dsimp only
    split
    · simp only [Option.isSome_none, Bool.false_eq_true, false_iff]
      omega
    · rename_i hlen
      have hne : P.toList ≠ [] := fun h ↦ hlen (by rw [h]; exact Nat.zero_le _)
      simp only [Option.isSome_map, List.getLast?_isSome.mpr hne, true_iff]
      omega
  · rw [hgive, Matched.dropLastPiece_list] at hg
    split at hg
    · cases hg
    rename_i hlen
    cases hlast : P.toList.getLast? with
    | none => rw [hlast] at hg; cases hg
    | some last =>
      rw [hlast, Option.map_some, Option.some.injEq] at hg
      cases hg
      have hlt : lo < P.size := by simpa using hlen
      -- the last piece lies past the minimum, where every piece is at least a character long
      have hmem : last ∈ P.toList.drop lo := by
        apply List.mem_of_getLast?
        rw [List.getLast?_drop, if_neg hlen, hlast]
      refine ⟨rfl, hR.long last hmem, ?_⟩
      simpa using hlower last hlast hlt

/-- A repetition gives back its last round, and what is left is the repetition lowered to one
round fewer. -/
theorem repetition_shrinks {inner : Pattern} {lo : Nat} {hi : Option Nat} {b : Bool}
    (hin : (consume cx inner).Contract) {s s' : MatchState} {m : Matched} (hv : s.cursor.Valid)
    (hm : consume cx (.mk (.repetition inner lo hi) b) s = .ok m s') :
    Shrinks cx (.mk (.repetition inner lo hi) b) lo s m s' := by
  have hrun := step_of_consume hm
  rw [step] at hrun
  simp only [mark_bind] at hrun
  obtain ⟨⟨I, P⟩, s1, hr, hfin⟩ := ok_of_bind hrun
  have hR := ((rounds_contract hin hv _ #[] #[] _ (Rounds.start hv lo)).of_ok hr).1
  by_cases hlo : P.size < lo
  · simp only [hlo, if_true, restoreMark_bind _ hR.forward.marks, fail_apply] at hfin
    cases hfin
  simp only [hlo, if_false, forgetMark_bind _ hR.forward.marks, pure_apply] at hfin
  cases hfin
  refine Shrinks.of_rounds (fun _ _ _ ↦ by rw [Pattern.giveBack]) hR rfl fun last hlast hlt ↦ ?_
  -- the lowered repetition makes the same rounds but the last, and keeps at least `lo`
  obtain ⟨I', P', s2, hr', hI', hP'⟩ := rounds_lowered
    (.mk (.repetition inner lo (some (P.size - 1))) b)
    (by simp only [Pattern.mk.sizeOf_spec, Shape.repetition.sizeOf_spec]; omega)
    hin hv _ #[] #[] _ I P s1 last (Rounds.start hv lo) hr (by simp; omega) hlast
  simp only [Array.size_empty, Nat.sub_zero] at hr'
  have hR' := ((rounds_contract hin hv _ #[] #[] _ (Rounds.start hv lo)).of_ok hr').1
  have hsize : P'.size = P.size - 1 := by simpa using congrArg List.length hP'
  refine ⟨{ s2 with cursor := { s2.cursor with marks := s.cursor.marks } }, consume_of_step ?_⟩
  rw [Pattern.lowered, step]
  simp only [mark_bind, Option.getD_some]
  rw [bind_of_ok hr']
  simp only [if_neg (show ¬P'.size < lo by omega), forgetMark_bind _ hR'.forward.marks,
    pure_apply, hI', hP']

/-- A separated list gives back its last element with the separator before it, and what is
left is the list lowered to one element fewer. -/
theorem separated_shrinks {sep elem : Pattern} {lo : Nat} {hi : Option Nat} {b : Bool}
    (hsep : (consume cx sep).Contract) (helem : (consume cx elem).Contract) {s s' : MatchState}
    {m : Matched} (hv : s.cursor.Valid)
    (hm : consume cx (.mk (.separated sep elem lo hi) b) s = .ok m s') :
    Shrinks cx (.mk (.separated sep elem lo hi) b) lo s m s' := by
  have hrun := step_of_consume hm
  rw [step] at hrun
  simp only [mark_bind] at hrun
  obtain ⟨⟨I, P⟩, s1, hr, hfin⟩ := ok_of_bind hrun
  have hR := ((listRounds_contract hsep helem hv _ #[] #[] _ (Rounds.start hv lo)).of_ok hr).1
  by_cases hlo : P.size < lo
  · simp only [hlo, if_true, restoreMark_bind _ hR.forward.marks, fail_apply] at hfin
    cases hfin
  simp only [hlo, if_false, forgetMark_bind _ hR.forward.marks, pure_apply] at hfin
  cases hfin
  refine Shrinks.of_rounds (fun _ _ _ ↦ by rw [Pattern.giveBack]) hR rfl fun last hlast hlt ↦ ?_
  -- the lowered list makes the same rounds but the last, and keeps at least `lo`
  obtain ⟨I', P', s2, hr', hI', hP'⟩ := listRounds_lowered
    (.mk (.separated sep elem lo (some (P.size - 1))) b)
    (by simp only [Pattern.mk.sizeOf_spec, Shape.separated.sizeOf_spec]; omega)
    (by simp only [Pattern.mk.sizeOf_spec, Shape.separated.sizeOf_spec]; omega)
    hsep helem hv _ #[] #[] _ I P s1 last (Rounds.start hv lo) hr (by simp; omega) hlast
  simp only [Array.size_empty, Nat.sub_zero] at hr'
  have hR' := ((listRounds_contract hsep helem hv _ #[] #[] _ (Rounds.start hv lo)).of_ok hr').1
  have hsize : P'.size = P.size - 1 := by simpa using congrArg List.length hP'
  refine ⟨{ s2 with cursor := { s2.cursor with marks := s.cursor.marks } }, consume_of_step ?_⟩
  rw [Pattern.lowered, step]
  simp only [mark_bind, Option.getD_some]
  rw [bind_of_ok hr']
  simp only [if_neg (show ¬P'.size < lo by omega), forgetMark_bind _ hR'.forward.marks,
    pure_apply, hI', hP']

/-- Every standard pattern that gives back pieces shrinks faithfully, from every valid cursor,
in a sound context. -/
theorem shrinks (hcx : cx.Sound) {q : Pattern} {lo : Nat} (hq : q.standard)
    (hlo : q.keeps? = some lo) {s s' : MatchState} {m : Matched} (hv : s.cursor.Valid)
    (hm : consume cx q s = .ok m s') : Shrinks cx q lo s m s' := by
  obtain ⟨shape, b⟩ := q
  cases shape with
  | run r =>
    cases hlo
    exact run_shrinks (Or.inl rfl) hv hm
  | whitespace r =>
    cases hlo
    exact run_shrinks (Or.inr rfl) hv hm
  | repetition inner lo hi =>
    cases hlo
    exact repetition_shrinks (consume_contract hcx inner hq) hv hm
  | separated sep elem lo hi =>
    cases hlo
    have hboth : sep.standard ∧ elem.standard := by
      simpa [Pattern.standard, Pattern.shapeStandard] using hq
    exact separated_shrinks (consume_contract hcx sep hboth.1) (consume_contract hcx elem hboth.2)
      hv hm
  | _ => cases hlo

end Engine

/-- Giving back from the match of a standard pattern that reaches, through `n` rule references
and any shared wrappers, a run, repetition or separated list `q` with minimum `lo`, matched
under a standard rule set from a valid cursor: the pieces of the match span exactly the text
it took and account for its items, or for its characters one by one; a piece can be given
back exactly when there are more than `lo`; and what is given back is the last piece, at
least one character long, leaving the match that `q`, lowered to one piece fewer, makes from
the same place `n` levels deeper, ending where the piece given back began. -/
theorem rollback_lowers {rules : RuleSet} (hrs : rules.standard) (config : Config)
    (checks depth : Nat) {p q : Pattern} {n lo : Nat} (hreach : p.Reaches rules q n)
    (hlo : q.keeps? = some lo) (hp : p.standard) {s s' : MatchState} {m : Matched}
    (hv : s.cursor.Valid) (hm : consumeAt rules config checks depth p s = .ok m s') :
    s'.cursor.pos = s.cursor.pos + m.span ∧ m.Accounted ∧
      ((p.rollback rules config m).isSome ↔ lo < m.pieces.length) ∧
      ∀ m' g, p.rollback rules config m = some (m', g) →
        m.pieces.getLast?.map Piece.len = some g ∧ 1 ≤ g ∧
          ∃ s'', consumeAt rules config checks (depth + n) (q.lowered (m.pieces.length - 1)) s =
            .ok m' s'' ∧ s''.cursor.pos + g = s'.cursor.pos := by
  obtain ⟨hdepth, hq⟩ := hreach.consumeAt hm
  have hcx := contextAt_sound hrs config checks (depth + n)
  have hstd : q.standard := hreach.standard hrs hp
  rw [consumeAt] at hq
  have hsh := Engine.shrinks hcx hstd hlo hv hq
  -- rolling back follows the references down to `q`, within the depth budget
  have hgive : ∀ m, p.rollback rules config m = q.giveBack rules (config.maxDepth - n) m :=
    hreach.giveBack (by omega)
  refine ⟨hsh.exact, hsh.accounted, by rw [hgive]; exact hsh.isSome_iff _ _, fun m' g hg ↦ ?_⟩
  rw [hgive] at hg
  obtain ⟨hlast, hg1, s'', hlow⟩ := hsh.lowered _ _ m' g hg
  -- the lowered match is itself a faithful match, so it ends where its pieces do
  have hsh' := Engine.shrinks hcx (by rwa [Pattern.standard_lowered])
    (by rw [Pattern.keeps?_lowered, hlo]) hv hlow
  have hspan := Pattern.giveBack_span rules _ q hg
  refine ⟨hlast, hg1, s'', by rw [consumeAt]; exact hlow, ?_⟩
  rw [hsh'.exact, hsh.exact]
  omega

/-- A run of `a` takes both symbols of `aa`, one piece each, whatever the marks and events. -/
theorem consume_chars_aa (marks : List Nat) (events : Array Event) :
    Engine.consume (contextAt (RuleSet.mk 0 []) {} checkAllowance 0) (Pattern.chars "a")
      ⟨⟨#['a', 'a'], 0, marks⟩, events⟩ =
        .ok ⟨.text "aa", [⟨1, 1⟩, ⟨1, 1⟩]⟩ ⟨⟨#['a', 'a'], 2, marks⟩, events⟩ := by
  have havail : ((⟨#['a', 'a'], 0, marks⟩ : Cursor).rest.takeWhile fun ch ↦
      if false = true then ({} : Config).isWhitespace ch else (CharClass.of "a").accepts ch).length =
        2 := rfl
  apply Engine.consume_of_step
  show Engine.step _ (.mk (.run ⟨.of "a", 1, none, false⟩) false) _ = _
  rw [Engine.step, Engine.matchRun_apply _ _ _ _ havail rfl, if_neg (by decide)]
  rfl

/-- A run of `a`s takes both characters of `aa`; giving one back leaves the match of the run
lowered to one character, which ends a character earlier. -/
theorem rollback_lowers_run :
    (RuleSet.mk 0 []).standard ∧ (Pattern.chars "a").standard ∧
      consumeAt (RuleSet.mk 0 []) {} checkAllowance 0 (Pattern.chars "a")
          ⟨Cursor.ofString "aa", #[]⟩ =
        .ok ⟨.text "aa", [⟨1, 1⟩, ⟨1, 1⟩]⟩ ⟨⟨#['a', 'a'], 2, []⟩, #[]⟩ ∧
      ∃ s'', consumeAt (RuleSet.mk 0 []) {} checkAllowance 0 ((Pattern.chars "a").lowered 1)
          ⟨Cursor.ofString "aa", #[]⟩ = .ok ⟨.text "a", [⟨1, 1⟩]⟩ s'' ∧ s''.cursor.pos + 1 = 2 := by
  have hrun : Pattern.chars "a" = .mk (.run ⟨.of "a", 1, none, false⟩) false := rfl
  have hm : consumeAt (RuleSet.mk 0 []) {} checkAllowance 0 (Pattern.chars "a")
      ⟨Cursor.ofString "aa", #[]⟩ = .ok ⟨.text "aa", [⟨1, 1⟩, ⟨1, 1⟩]⟩ ⟨⟨#['a', 'a'], 2, []⟩, #[]⟩ := by
    rw [consumeAt]
    exact consume_chars_aa [] #[]
  have hback : (Pattern.chars "a").rollback (RuleSet.mk 0 []) {} ⟨.text "aa", [⟨1, 1⟩, ⟨1, 1⟩]⟩ =
      some (⟨.text "a", [⟨1, 1⟩]⟩, 1) := by
    rw [Pattern.rollback, hrun, Pattern.giveBack]
    rfl
  obtain ⟨-, -, -, hlow⟩ := rollback_lowers (by decide) {} checkAllowance 0 (.refl _) rfl
    (by decide) (by unfold Cursor.Valid; decide) hm
  obtain ⟨-, -, hs⟩ := hlow _ _ hback
  exact ⟨by decide, by decide, hm, hs⟩

end Backtrack
