import Backtrack.Proofs.Primitives

/-!
# The contract of matching

Every combinator brackets what it tries with a mark: it pushes the position first and pops
the mark afterwards, moving back to it or not. For patterns made by the builders, the
operators and rule references, with embedded matchers only as shared wrappers of such
patterns (`Pattern.standard`), this discipline gives each match a contract
(`Engine.Contract`): started at a cursor inside its text, a match that succeeds has moved
the cursor forward within the text, at least over the pieces it can give back, and left the
text and the mark stack as they were; a match that stops with an error has left the cursor
exactly as it was, and the error is a failure, the nesting limit or a rule that leads
nowhere, never a pop from an empty mark stack.

The contract is proved one function of the engine at a time. Each loop (the windows of a
lookbehind, the search over the steps of a sequence and its giving back, the alternatives
of a choice, the rounds of a repetition or a separated list) has a lemma of its own that
assumes the contract of the patterns it calls; the contract of a pattern then follows by
induction on its size, and the contract of matching under a rule set by induction on the
nesting levels left.

Main statements: `Engine.consume_contract` (a standard pattern keeps the contract in every
context whose rules keep it) and `consumeAt_contract` (matching a standard pattern under a
rule set of standard patterns keeps it, at every depth).
-/

namespace Backtrack

namespace MatchError

/-- The errors that matching a standard pattern can stop with: a failure, the nesting limit,
or a rule that leads nowhere. Popping from an empty mark stack and exhausting the nested
grammar checks are not among them. -/
def Ordinary : MatchError → Prop
  | failure _ | depthExceeded .. | unresolvedRule _ => True
  | markUnderflow _ | exhausted => False

@[simp] theorem ordinary_failure (f : Failure) : (failure f).Ordinary := trivial

end MatchError

namespace Pattern

mutual
/-- A standard pattern: one made by the builders, the operators and rule references, where an
embedded matcher appears only as a shared wrapper of a standard pattern. -/
def standard : Pattern → Bool
  | mk s _ => shapeStandard s

/-- `standard` by shape. -/
def shapeStandard : Shape → Bool
  | .nextIs _ inner | .prevIs _ inner | .repetition inner _ _ | .group inner | .flatten inner
  | .select inner _ | .token inner => standard inner
  | .sequence cs none _ => allStandard cs
  | .sequence cs (some sep) _ => allStandard cs && standard sep
  | .choice cs _ => allStandard cs
  | .separated sep elem _ _ => standard sep && standard elem
  | .embed _ m => embeddedStandard m
  | _ => true

/-- `standard` of an embedded matcher: only shared wrappers qualify. -/
def embeddedStandard : Embedded → Bool
  | .shared inner => standard inner
  | _ => false

/-- Whether every pattern of the list is standard. -/
def allStandard : List Pattern → Bool
  | [] => true
  | p :: ps => standard p && allStandard ps
end

theorem allStandard_iff {cs : List Pattern} : allStandard cs ↔ ∀ q ∈ cs, q.standard := by
  induction cs with
  | nil => simp [allStandard]
  | cons p ps ih => simp [allStandard, ih]

/-- Every step of a standard sequence is standard, separators included. -/
theorem standard_of_mem_sequenceSteps {cs : List Pattern} {sep : Option Pattern} {auto b : Bool}
    (hp : (mk (.sequence cs sep auto) b).standard) {q : Pattern} (hq : q ∈ sequenceSteps cs sep) :
    q.standard := by
  rcases mem_sequenceSteps hq with hc | rfl
  · cases sep <;> simp only [standard, shapeStandard, Bool.and_eq_true] at hp
    · exact allStandard_iff.mp hp q hc
    · exact allStandard_iff.mp hp.1 q hc
  · simp only [standard, shapeStandard, Bool.and_eq_true] at hp
    exact hp.2

end Pattern

namespace RuleSet

/-- A rule set whose defined rules are all standard patterns. -/
def standard (rs : RuleSet) : Bool := rs.entries.all fun e ↦ e.2.all Pattern.standard

/-- A reference into a rule set whose defined rules all pass a check leads to a pattern that
passes it. -/
theorem all_of_target? {rs : RuleSet} {f : Pattern → Bool} (hrs : rs.entries.all fun e ↦ e.2.all f)
    {r : RuleRef} {t : Pattern} (ht : rs.target? r = some t) : f t := by
  unfold target? at ht
  split at ht
  · obtain ⟨o, hfind, hot⟩ : ∃ o, rs.find? r.name = some o ∧ o = some t := by
      simpa [get?, Option.bind_eq_some_iff] using ht
    obtain ⟨e, he, rfl⟩ : ∃ e, rs.entries.find? (·.1 == r.name) = some e ∧ e.2 = o := by
      simpa [find?] using hfind
    have hall := List.all_eq_true.mp hrs e (List.mem_of_find?_eq_some he)
    simpa [hot] using hall
  · cases ht

/-- A reference into a standard rule set leads to a standard pattern. -/
theorem standard_of_target? {rs : RuleSet} (hrs : rs.standard) {r : RuleRef} {t : Pattern}
    (ht : rs.target? r = some t) : t.standard :=
  all_of_target? hrs ht

end RuleSet

namespace Engine

variable {α : Type}

/-- The run `r` ends as `ok` and `err` say: with a value and the cursor it leaves, or with an
error and the cursor it leaves. -/
def Ends (r : EStateM.Result MatchError MatchState α) (ok : α → Cursor → Prop)
    (err : MatchError → Cursor → Prop) : Prop :=
  match r with
  | .ok a s' => ok a s'.cursor
  | .error e s' => err e s'.cursor

@[simp] theorem ends_ok {a : α} {s' : MatchState} {ok : α → Cursor → Prop}
    {err : MatchError → Cursor → Prop} : Ends (.ok a s') ok err = ok a s'.cursor := rfl

@[simp] theorem ends_error {e : MatchError} {s' : MatchState} {ok : α → Cursor → Prop}
    {err : MatchError → Cursor → Prop} : Ends (.error e s') ok err = err e s'.cursor := rfl

/-- The contract of a match: from a valid cursor, success moves the cursor forward within the
text over at least the pieces it can give back and keeps the text and the marks; an error
leaves the cursor as it was and is an ordinary one. -/
def Contract (m : Engine Matched) : Prop :=
  ∀ s : MatchState, s.cursor.Valid →
    Ends (m s) (fun a c' ↦ s.cursor.Forward c' a.span) (fun e c' ↦ c' = s.cursor ∧ e.Ordinary)

/-- A computation that leaves the cursor as it was, whatever its outcome, and stops only with
ordinary errors. -/
def Steady (m : Engine α) : Prop :=
  ∀ s : MatchState, s.cursor.Valid →
    Ends (m s) (fun _ c' ↦ c' = s.cursor) (fun e c' ↦ c' = s.cursor ∧ e.Ordinary)

theorem Contract.ok {m : Engine Matched} (h : m.Contract) {s : MatchState} {a : Matched}
    {s' : MatchState} (hv : s.cursor.Valid) (hm : m s = .ok a s') : s.cursor.Forward s'.cursor a.span := by
  have := h s hv
  rwa [hm] at this

theorem Contract.error {m : Engine Matched} (h : m.Contract) {s : MatchState} {e : MatchError}
    {s' : MatchState} (hv : s.cursor.Valid) (hm : m s = .error e s') : s'.cursor = s.cursor ∧ e.Ordinary := by
  have := h s hv
  rwa [hm] at this

/-- A steady computation whose matches give nothing back keeps the contract. -/
theorem Steady.contract {m : Engine Matched} (h : m.Steady) (hfix : ∀ s a s', m s = .ok a s' → a.span = 0) :
    m.Contract := by
  intro s hv
  have hs := h s hv
  cases hm : m s with
  | ok a s' =>
    rw [hm] at hs
    simp only [ends_ok] at hs ⊢
    rw [hs, hfix s a s' hm]
    exact Cursor.Forward.refl _ hv
  | error e s' =>
    rw [hm] at hs
    exact hs

/-- Matching a pattern keeps the contract when the step by its shape does: reporting a failure
does not touch the cursor. -/
theorem Contract.of_step {cx : Context} {p : Pattern} (h : (step cx p).Contract) :
    (consume cx p).Contract := by
  intro s hv
  have hs := h s hv
  rw [consume]
  split
  · rename_i f s' hstep
    rw [hstep] at hs
    exact hs
  · assumption

/-- How the outcome of a match from `c` that keeps the contract leaves the cursor. -/
def Settled (c : Cursor) : Except MatchError Matched → Cursor → Prop
  | .ok a, c' => c.Forward c' a.span
  | .error e, c' => c' = c ∧ e.Ordinary

/-- Taking the outcome of a match that keeps the contract as a value never stops. -/
theorem Contract.outcome {m : Engine Matched} (h : m.Contract) {s : MatchState}
    (hv : s.cursor.Valid) : Ends (m.outcome s) (Settled s.cursor) fun _ _ ↦ False := by
  have hs := h s hv
  cases hm : m s with
  | ok a s' =>
    rw [hm] at hs
    rw [outcome_of_ok hm]
    exact hs
  | error e s' =>
    rw [hm] at hs
    rw [outcome_of_error hm]
    exact hs

/-! ### The primitive patterns -/

theorem get_error {c : Cursor} {i : Nat} {e : MatchError} (h : c.get i = .error e) : e.Ordinary := by
  unfold Cursor.get at h
  split at h
  · cases h
  · cases h
    trivial

theorem lt_of_get_zero {c : Cursor} {ch : Char} (hv : c.Valid) (h : c.get 0 = .ok ch) :
    c.pos < c.size := by
  unfold Cursor.get at h
  have hw : Word.wrapAdd c.pos 0 = c.pos := Nat.mod_eq_of_lt (by have := hv.1; have := hv.2; omega)
  split at h
  · rename_i ch' hch
    rw [hw] at hch
    exact (Array.getElem?_eq_some_iff.mp hch).1
  · cases h

theorem matchChar_contract (p : Pattern) (cls : CharClass) : (matchChar p cls).Contract := by
  intro s hv
  simp only [matchChar, cursor_bind]
  cases hget : s.cursor.get 0 with
  | error e => exact ⟨rfl, get_error hget⟩
  | ok ch =>
    have hlt := lt_of_get_zero hv hget
    by_cases hacc : cls.accepts ch
    · simp only [hacc, if_true, setCursor_bind, pure_apply, ends_ok, Matched.span_fixed]
      exact (Cursor.forward_advance hv (by rw [Cursor.length_rest]; omega)).mono (Nat.zero_le _)
    · simp only [hacc, if_false, fail_apply, ends_error, Bool.false_eq_true,
        MatchError.ordinary_failure, and_self]

/-- The end of a run of `count` characters: below the minimum it moves back to its mark and
fails, otherwise it pops the mark and keeps one piece per character. -/
theorem runEnd_contract {s : MatchState} (hv : s.cursor.Valid) {count : Nat}
    (hc : count ≤ s.cursor.rest.length) (p : Pattern) (lo : Nat) :
    Ends ((if count < lo then (restoreMark >>= fun _ ↦ fail (·.expected p))
      else (forgetMark >>= fun _ ↦ cursor >>= fun c' ↦
        pure (⟨.text (c'.takenSince s.cursor.pos), List.replicate count ⟨1, 1⟩⟩ : Matched)))
        { cursor := s.cursor.mark.advance count, events := s.events })
      (fun a c' ↦ s.cursor.Forward c' a.span) (fun e c' ↦ c' = s.cursor ∧ e.Ordinary) := by
  have hfw := Cursor.forward_advance hv hc
  by_cases hlo : count < lo
  · rw [if_pos hlo, restoreMark_bind _ rfl]
    exact ⟨rfl, trivial⟩
  · rw [if_neg hlo, forgetMark_bind _ rfl]
    simp only [cursor_bind, pure_apply, ends_ok]
    exact ⟨hfw.text, rfl, by simpa [Matched.span] using hfw.reach, hfw.le_size⟩

theorem matchRun_contract (cfg : Config) (p : Pattern) (r : Run) : (matchRun cfg p r).Contract := by
  intro s hv
  simp only [matchRun, mark_bind, cursor_bind, setCursor_bind]
  refine runEnd_contract hv ?_ p r.min
  have hle := (List.takeWhile_prefix (fun ch ↦ if r.configured then cfg.isWhitespace ch else r.cls.accepts ch)
    (l := s.cursor.rest)).length_le
  simp only [Cursor.rest_mark]
  split <;> omega

theorem matchLiteral_contract (p : Pattern) (t : String) : (matchLiteral p t).Contract := by
  intro s hv
  simp only [matchLiteral, cursor_bind]
  by_cases hpre : t.toList.isPrefixOf s.cursor.rest
  · have hle : t.length ≤ s.cursor.rest.length := by
      rw [← String.length_toList]
      exact (List.isPrefixOf_iff_prefix.mp hpre).length_le
    simp only [hpre, if_true, setCursor_bind, pure_apply, ends_ok, Matched.span_fixed]
    exact (Cursor.forward_advance hv hle).mono (Nat.zero_le _)
  · simp only [hpre, Bool.false_eq_true, if_false, fail_apply, ends_error,
      MatchError.ordinary_failure, and_self]

theorem matchRegex_contract (p : Pattern) (rx : RegexNode) : (matchRegex p rx).Contract := by
  intro s hv
  simp only [matchRegex, cursor_bind]
  cases rx.compiled.captures (String.ofList s.cursor.rest) with
  | none => exact ⟨rfl, trivial⟩
  | some caps =>
    simp only [setCursor_bind, pure_apply, ends_ok, Matched.span_fixed]
    -- the cursor moves over the characters that the bytes before the stop hold, never past
    -- the text after it
    exact (Cursor.forward_advance hv (length_bytePrefix_le _ _)).mono (Nat.zero_le _)

theorem matchBoundary_contract (p : Pattern) (b : Boundary) : (matchBoundary p b).Contract := by
  intro s hv
  simp only [matchBoundary, cursor_bind]
  by_cases hb : b.holds s.cursor
  · simp only [hb, if_true, pure_apply, ends_ok, Matched.span_fixed]
    exact Cursor.Forward.refl _ hv
  · simp only [hb, Bool.false_eq_true, if_false, fail_apply, ends_error,
      MatchError.ordinary_failure, and_self]

theorem lookVerdict_contract (p inner : Pattern) (negated found : Bool) :
    (lookVerdict p inner negated found).Contract := by
  intro s hv
  cases found <;> cases negated <;> simp [lookVerdict, Cursor.Forward.refl _ hv]

/-- Skipping whitespace moves a valid cursor forward within its text. -/
theorem forward_skipWhitespace (cfg : Config) {c : Cursor} (hv : c.Valid) :
    c.Forward (c.advance ((c.rest.takeWhile cfg.isWhitespace).length)) 0 :=
  (Cursor.forward_advance hv (List.takeWhile_prefix _).length_le).mono (Nat.zero_le _)

@[simp] theorem skipWhitespace_bind {β : Type} (cfg : Config) (s : MatchState) (f : Unit → Engine β) :
    (skipWhitespace cfg >>= f) s =
      f () { s with cursor := s.cursor.advance ((s.cursor.rest.takeWhile cfg.isWhitespace).length) } :=
  rfl

theorem Ends.mono {r : EStateM.Result MatchError MatchState α} {P P' : α → Cursor → Prop}
    {E E' : MatchError → Cursor → Prop} (h : Ends r P E) (hP : ∀ a c, P a c → P' a c)
    (hE : ∀ e c, E e c → E' e c) : Ends r P' E' := by
  cases r with
  | ok a s' => exact hP a _ h
  | error e s' => exact hE e _ h

/-- Running `m` and then `f`: the run ends as `f` does from wherever `m` succeeded, or as `m`
stopped. -/
theorem Ends.bind {β : Type} {m : Engine α} {f : α → Engine β} {s : MatchState}
    {P : α → Cursor → Prop} {E E' : MatchError → Cursor → Prop} {Q : β → Cursor → Prop}
    (hm : Ends (m s) P E) (hE : ∀ e c, E e c → E' e c)
    (hf : ∀ a s', m s = .ok a s' → P a s'.cursor → Ends (f a s') Q E') :
    Ends ((m >>= f) s) Q E' := by
  cases hr : m s with
  | ok a s' =>
    rw [hr] at hm
    rw [bind_of_ok hr]
    exact hf a s' hr hm
  | error e s' =>
    rw [hr] at hm
    rw [bind_of_error hr]
    exact hE e _ hm

end Engine

namespace Context

/-- A context that keeps the contract: entering any rule keeps it, and giving back a piece of
a match shortens its reach by exactly the count given back. -/
structure Sound (cx : Context) : Prop where
  enter : ∀ r, (cx.enter r).Contract
  giveBack : ∀ q m r, cx.giveBack q m = some r → r.1.span + r.2 = m.span

end Context

namespace Engine

/-! ### The steps of a sequence

The search over the steps of a sequence branches on the outcome of the step it matches, and
on whether the step can give back a piece when a later one is stuck. Each branch is an
equation first; the invariant of the search is then proved from them. -/

section Search

variable {cx : Context} {p q : Pattern} {rest : List Pattern} {j : Nat}
  {acc : List (Pattern × Matched)} {s s' : MatchState}

theorem search_nil {h : ∀ q ∈ ([] : List Pattern), sizeOf q < sizeOf p} :
    search cx p [] h j acc s = .ok (.done acc) s := by
  rw [search.eq_1]
  rfl

theorem search_cons_of_ok {h : ∀ q' ∈ q :: rest, sizeOf q' < sizeOf p} {m : Matched}
    (hq : consume cx q s = .ok m s') :
    search cx p (q :: rest) h j acc s = retry cx p q rest h j s.cursor.pos m acc s' := by
  rw [search.eq_2]
  simp only [position_bind, bind_of_ok (attempt_of_ok hq)]

theorem search_cons_of_failure {h : ∀ q' ∈ q :: rest, sizeOf q' < sizeOf p} {f : Failure}
    (hq : consume cx q s = .error (.failure f) s') :
    search cx p (q :: rest) h j acc s = .ok (.stuck f j) s' := by
  rw [search.eq_2]
  simp only [position_bind, bind_of_ok (attempt_of_failure hq)]
  rfl

theorem search_cons_of_error {h : ∀ q' ∈ q :: rest, sizeOf q' < sizeOf p} {e : MatchError}
    (hq : consume cx q s = .error e s') (he : e.recoverable = false) :
    search cx p (q :: rest) h j acc s = .error e s' := by
  rw [search.eq_2]
  simp only [position_bind, bind_of_error (attempt_of_error hq he)]

variable {h : ∀ q' ∈ q :: rest, sizeOf q' < sizeOf p}
  {start : Nat} {m : Matched}

theorem retry_of_done {steps : List (Pattern × Matched)}
    (hs : search cx p rest (fun q' hq ↦ h q' (List.mem_cons_of_mem _ hq)) (j + 1)
      (acc ++ [(q, m)]) s = .ok (.done steps) s') :
    retry cx p q rest h j start m acc s = .ok (.done steps) s' := by
  rw [retry, bind_of_ok hs]
  rfl

theorem retry_of_error {e : MatchError}
    (hs : search cx p rest (fun q' hq ↦ h q' (List.mem_cons_of_mem _ hq)) (j + 1)
      (acc ++ [(q, m)]) s = .error e s') :
    retry cx p q rest h j start m acc s = .error e s' := by
  rw [retry, bind_of_error hs]

/-- A later step is stuck and step `q` gives back a piece: the cursor moves back over it and
the steps after `q` are matched again. -/
theorem retry_of_giveBack {f : Failure} {k : Nat} {m' : Matched} {g : Nat}
    (hs : search cx p rest (fun q' hq ↦ h q' (List.mem_cons_of_mem _ hq)) (j + 1)
      (acc ++ [(q, m)]) s = .ok (.stuck f k) s')
    (hg : cx.giveBack q m = some (m', g)) :
    retry cx p q rest h j start m acc s = retry cx p q rest h j start m' acc
      { cursor := s'.cursor.retreat g, events := s'.events.push (.gaveBack q g (s'.cursor.pos - g)) } := by
  rw [retry, bind_of_ok hs]
  split
  · rename_i m'' g' hg'
    rw [hg] at hg'
    cases hg'
    rfl
  · rename_i hg'
    rw [hg] at hg'
    cases hg'

/-- A later step is stuck and step `q` gives back nothing: the cursor moves back to where `q`
started and the search is stuck. -/
theorem retry_of_stuck {f : Failure} {k : Nat}
    (hs : search cx p rest (fun q' hq ↦ h q' (List.mem_cons_of_mem _ hq)) (j + 1)
      (acc ++ [(q, m)]) s = .ok (.stuck f k) s')
    (hg : cx.giveBack q m = none) :
    retry cx p q rest h j start m acc s =
      .ok (.stuck f k) { s' with cursor := s'.cursor.retreat (s'.cursor.pos - start) } := by
  rw [retry, bind_of_ok hs]
  split
  · rename_i m'' g' hg'
    rw [hg] at hg'
    cases hg'
  · rfl

/-- How a search over steps started at `c` leaves the cursor: forward within the text when
every step is done, back at `c` when a step is stuck. -/
def Searched (c : Cursor) : Search → Cursor → Prop
  | .done _, c' => c.Forward c' 0
  | .stuck .., c' => c' = c

/-- An ordinary error that keeps the text and the marks of `c`. -/
def Kept (c : Cursor) (e : MatchError) (c' : Cursor) : Prop :=
  c'.text = c.text ∧ c'.marks = c.marks ∧ e.Ordinary

theorem Kept.of_forward {c c' c'' : Cursor} {n : Nat} {e : MatchError} (hc : c.Forward c' n)
    (h : Kept c' e c'') : Kept c e c'' :=
  ⟨h.1.trans hc.text, h.2.1.trans hc.marks, h.2.2⟩

/-- The invariant of the search over the steps of a sequence, from a valid cursor. -/
def SearchKeeps (m : Engine Search) : Prop :=
  ∀ s : MatchState, s.cursor.Valid → Ends (m s) (Searched s.cursor) (Kept s.cursor)

/-- Giving back and matching again: when step `q` matched `m` from `start` up to a cursor at
least its span further on, retrying ends as a search from `start` does. Each retry gives back
a piece, so the induction is on the number of pieces of `m`. -/
theorem retry_searched (hcx : cx.Sound) (h : ∀ q' ∈ q :: rest, sizeOf q' < sizeOf p)
    (hrest : ∀ hr j acc, SearchKeeps (search cx p rest hr j acc)) (j start : Nat)
    (acc : List (Pattern × Matched)) (m : Matched) (s : MatchState) (hv : s.cursor.Valid)
    (hstart : start + m.span ≤ s.cursor.pos) :
    Ends (retry cx p q rest h j start m acc s) (Searched { s.cursor with pos := start })
      (Kept s.cursor) := by
  have hs := hrest (fun q' hq ↦ h q' (List.mem_cons_of_mem _ hq)) (j + 1) (acc ++ [(q, m)]) s hv
  cases hsr : search cx p rest (fun q' hq ↦ h q' (List.mem_cons_of_mem _ hq)) (j + 1)
      (acc ++ [(q, m)]) s with
  | error e s1 =>
    rw [hsr] at hs
    rw [retry_of_error hsr]
    exact hs
  | ok r s1 =>
    rw [hsr] at hs
    cases r with
    | done steps =>
      rw [retry_of_done hsr]
      exact hs.rewind (by omega)
    | stuck f k =>
      -- the later steps left the cursor where they found it
      have hs1 : s1.cursor = s.cursor := hs
      cases hg : cx.giveBack q m with
      | none =>
        rw [retry_of_stuck hsr hg]
        show s1.cursor.retreat (s1.cursor.pos - start) = { s.cursor with pos := start }
        rw [hs1]
        exact Cursor.retreat_sub (by omega)
      | some r =>
        obtain ⟨m', g⟩ := r
        have hspan : m'.span + g = m.span := hcx.giveBack q m _ hg
        rw [retry_of_giveBack hsr hg, hs1]
        exact retry_searched hcx h hrest j start acc m' _ (hv.retreat g)
          (by simp only [Cursor.pos_retreat]; omega)
termination_by m.pieces.length
decreasing_by exact cx.giveBack_shrinks q m (m', g) hg

/-- The search over steps that keep the contract keeps its invariant. -/
theorem search_searched (hcx : cx.Sound) (steps : List Pattern)
    (hsteps : ∀ q ∈ steps, (consume cx q).Contract) :
    ∀ h j acc, SearchKeeps (search cx p steps h j acc) := by
  induction steps with
  | nil =>
    intro h j acc s hv
    rw [search_nil]
    exact Cursor.Forward.refl _ hv
  | cons q rest ih =>
    intro h j acc s hv
    have hq := hsteps q (List.mem_cons_self ..)
    have hrest := ih fun q' hq' ↦ hsteps q' (List.mem_cons_of_mem _ hq')
    cases hc : consume cx q s with
    | ok m s1 =>
      have hfw := hq.ok hv hc
      rw [search_cons_of_ok hc]
      have hr := retry_searched hcx h hrest j s.cursor.pos acc m s1 (hv.of_forward hfw) hfw.reach
      rw [hfw.eq_of_pos] at hr
      exact hr.mono (fun _ _ h ↦ h) fun _ _ h ↦ h.of_forward hfw
    | error e s1 =>
      obtain ⟨hs1, he⟩ := hq.error hv hc
      cases e with
      | failure f =>
        rw [search_cons_of_failure hc]
        exact hs1
      | _ =>
        rw [search_cons_of_error hc rfl]
        exact ⟨congrArg Cursor.text hs1, congrArg Cursor.marks hs1, he⟩

end Search

/-! ### The alternatives of a choice and the rounds of a repetition

A choice and a repetition push a mark at the cursor `c` they start from and run their loop
on top of it; the loops keep that mark on the stack, and pop it only to stop. -/

section Loops

variable {cx : Context} {p : Pattern}

/-- The alternatives of a choice, tried from `c` with its position marked, keep the contract
from `c` when each alternative keeps it. -/
theorem choose_contract {c : Cursor} (hv : c.Valid) (rest : List Pattern)
    (hcs : ∀ q ∈ rest, (consume cx q).Contract) (h : ∀ q ∈ rest, sizeOf q < sizeOf p)
    (s : MatchState) (hs : s.cursor = c.mark) :
    Ends (choose cx p rest h s) (fun a c' ↦ c.Forward c' a.span)
      (fun e c' ↦ c' = c ∧ e.Ordinary) := by
  induction rest generalizing s with
  | nil =>
    rw [choose.eq_1, restoreMark_bind _ (by rw [hs]; rfl)]
    refine ⟨?_, trivial⟩
    show { s.cursor with pos := c.pos, marks := c.marks } = c
    rw [hs]
    rfl
  | cons q more ih =>
    have hq := hcs q (List.mem_cons_self ..)
    have hvs : s.cursor.Valid := hs ▸ hv.mark
    rw [choose.eq_2]
    cases hc : consume cx q s with
    | ok m s1 =>
      have hfw : c.mark.Forward s1.cursor m.span := hs ▸ hq.ok hvs hc
      simp only [bind_of_ok (outcome_of_ok hc), forgetMark_bind _ hfw.marks, pure_apply, ends_ok,
        Matched.span_fixed]
      exact hfw.forget.mono (Nat.zero_le _)
    | error e s1 =>
      obtain ⟨hs1, he⟩ := hq.error hvs hc
      rw [hs] at hs1
      have hback : { s1.cursor with pos := c.pos, marks := c.marks } = c :=
        Cursor.restore_of_text (by rw [hs1]; rfl)
      simp only [bind_of_ok (outcome_of_error hc)]
      cases e with
      | failure f =>
        simp only [restoreMark_bind _ (by rw [hs1]; rfl), mark_bind, hback]
        exact ih (fun q' hq' ↦ hcs q' (List.mem_cons_of_mem _ hq')) _ _ rfl
      | _ =>
        simp only [restoreMark_bind _ (by rw [hs1]; rfl), throw_apply, ends_error, hback, true_and]
        exact he

/-- The length of the pieces kept so far. -/
abbrev reach (pieces : Array Piece) : Nat := (pieces.toList.map Piece.len).sum

theorem reach_push (pieces : Array Piece) (piece : Piece) :
    reach (pieces.push piece) = reach pieces + piece.len := by
  simp [reach]

/-- What the rounds of a repetition or a separated list, started at `c` with its position
marked, keep about the items and pieces found so far and the cursor `c'` they reached: the
cursor moved forward over exactly the lengths of the pieces, the items are as many as the
pieces count, and every piece past the first `lo` is at least a character long. -/
structure Rounds (c : Cursor) (lo : Nat) (items : Array Fragment) (pieces : Array Piece)
    (c' : Cursor) : Prop where
  forward : c.mark.Forward c' (reach pieces)
  exact : c'.pos = c.pos + reach pieces
  items : items.size = (pieces.toList.map Piece.items).sum
  long : ∀ piece ∈ pieces.toList.drop lo, 1 ≤ piece.len

theorem Rounds.start {c : Cursor} (hv : c.Valid) (lo : Nat) : Rounds c lo #[] #[] c.mark :=
  ⟨Cursor.Forward.refl _ hv.mark, rfl, rfl, by simp⟩

/-- A round that found nothing new and stayed where it was keeps the invariant. -/
theorem Rounds.stay {c c1 c2 : Cursor} {lo : Nat} {items : Array Fragment} {pieces : Array Piece}
    (h : Rounds c lo items pieces c1) (hf : c1.Forward c2 0) (hpos : c2.pos = c1.pos) :
    Rounds c lo items pieces c2 :=
  ⟨(h.forward.trans hf).mono (Nat.le_add_right _ _), hpos.trans h.exact, h.items, h.long⟩

/-- A round that moved from `c1` to `c2` and added `n` items keeps the invariant with its
piece pushed, unless it moved nowhere once `lo` rounds were done. -/
theorem Rounds.push {c c1 c2 : Cursor} {lo n : Nat} {items items' : Array Fragment}
    {pieces : Array Piece} (h : Rounds c lo items pieces c1) (hf : c1.Forward c2 0)
    (hitems : items'.size = items.size + n)
    (hlong : ¬(c2.pos - c1.pos = 0 ∧ pieces.size ≥ lo)) :
    Rounds c lo items' (pieces.push ⟨c2.pos - c1.pos, n⟩) c2 := by
  have hexact := h.exact
  have hreach := hf.reach
  refine ⟨⟨hf.text.trans h.forward.text, hf.marks.trans h.forward.marks, ?_, hf.le_size⟩, ?_, ?_, ?_⟩
  · simp only [reach_push, Cursor.pos_mark]
    omega
  · simp only [reach_push]
    omega
  · simp [hitems, h.items]
  · intro piece hp
    rw [Array.toList_push] at hp
    by_cases hlo : lo ≤ pieces.size
    · rw [List.drop_append_of_le_length (by simpa using hlo)] at hp
      rcases List.mem_append.mp hp with hp | hp
      · exact h.long piece hp
      · simp only [List.mem_singleton] at hp
        subst hp
        simp only
        omega
    · rw [List.drop_eq_nil_of_le (by simp; omega)] at hp
      cases hp

theorem pushItem_size (items : Array Fragment) (q : Pattern) (f : Fragment) :
    (pushItem items q f).1.size = items.size + (pushItem items q f).2 := by
  unfold pushItem
  split <;> simp

theorem pushItem_grows (items : Array Fragment) (q : Pattern) (f : Fragment) :
    items.toList <+: (pushItem items q f).1.toList := by
  unfold pushItem
  split
  · exact List.prefix_refl _
  · simp

/-- The rounds of a repetition started from `c` with its position marked keep `Rounds`, and
only add items and pieces; an error moves back to `c`. -/
theorem rounds_contract {inner : Pattern} {h : sizeOf inner < sizeOf p} {lo : Nat}
    (hin : (consume cx inner).Contract) {c : Cursor} (hv : c.Valid) (left : Nat) :
    ∀ (items : Array Fragment) (pieces : Array Piece) (s : MatchState),
      Rounds c lo items pieces s.cursor →
      Ends (rounds cx p inner h lo left items pieces s)
        (fun r c' ↦ Rounds c lo r.1 r.2 c' ∧ items.toList <+: r.1.toList ∧ pieces.toList <+: r.2.toList)
        (fun e c' ↦ c' = c ∧ e.Ordinary) := by
  induction left with
  | zero =>
    intro items pieces s hs
    rw [rounds.eq_1]
    exact ⟨hs, List.prefix_refl _, List.prefix_refl _⟩
  | succ left ih =>
    intro items pieces s hs
    have hvs : s.cursor.Valid := hv.mark.of_forward hs.forward
    rw [rounds.eq_2]
    simp only [position_bind]
    cases hc : consume cx inner s with
    | ok m s1 =>
      have hfw := hin.ok hvs hc
      have hf : s.cursor.Forward s1.cursor 0 := hfw.mono (Nat.zero_le _)
      -- the piece is the distance the round moved, which no wrap-around can shorten
      have hlen : Word.wrapSub s1.cursor.pos s.cursor.pos = s1.cursor.pos - s.cursor.pos :=
        Word.wrapSub_of_le (by have := hfw.reach; omega)
          (by have := (hvs.of_forward hfw).2; have := hfw.le_size; omega)
      simp only [bind_of_ok (outcome_of_ok hc), position_bind, hlen]
      by_cases hstop : s1.cursor.pos - s.cursor.pos = 0 ∧ pieces.size ≥ lo
      · rw [if_pos hstop]
        have hpos : s1.cursor.pos = s.cursor.pos := by have := hf.reach; omega
        exact ⟨hs.stay hf hpos, List.prefix_refl _, List.prefix_refl _⟩
      · rw [if_neg hstop]
        have hnext := ih _ _ s1 (hs.push hf (pushItem_size items inner m.fragment) hstop)
        refine hnext.mono (fun r c' hr ↦ ⟨hr.1, ?_, ?_⟩) fun _ _ h ↦ h
        · exact (pushItem_grows items inner m.fragment).trans hr.2.1
        · exact (List.prefix_append _ _).trans (by simpa using hr.2.2)
    | error e s1 =>
      obtain ⟨hs1, he⟩ := hin.error hvs hc
      simp only [bind_of_ok (outcome_of_error hc)]
      cases e with
      | failure f =>
        simp only [pure_apply, ends_ok, hs1]
        exact ⟨hs, List.prefix_refl _, List.prefix_refl _⟩
      | _ =>
        simp only [restoreMark_bind _ (hs1 ▸ hs.forward.marks), throw_apply, ends_error]
        exact ⟨hs1 ▸ hs.forward.restore, he⟩

/-- How the attempt of one round of a separated list, started at `c`, may end: with nothing
and the cursor back at `c`, with fragments and the cursor forward, or with an ordinary error
and the cursor back at `c`. -/
def Found (c : Cursor) : Except MatchError (Option (List (Pattern × Fragment))) → Cursor → Prop
  | .ok none, c' => c' = c
  | .ok (some _), c' => c.Forward c' 0
  | .error e, c' => c' = c ∧ e.Ordinary

theorem foldl_pushItem_size (frags : List (Pattern × Fragment)) (acc : Array Fragment × Nat) :
    (frags.foldl (fun acc x ↦ ((pushItem acc.1 x.1 x.2).1, acc.2 + (pushItem acc.1 x.1 x.2).2))
      acc).1.size + acc.2 = acc.1.size +
    (frags.foldl (fun acc x ↦ ((pushItem acc.1 x.1 x.2).1, acc.2 + (pushItem acc.1 x.1 x.2).2))
      acc).2 := by
  induction frags generalizing acc with
  | nil => rfl
  | cons x rest ih =>
    have hstep := ih ((pushItem acc.1 x.1 x.2).1, acc.2 + (pushItem acc.1 x.1 x.2).2)
    have hpush := pushItem_size acc.1 x.1 x.2
    simp only at hstep
    simp only [List.foldl_cons]
    omega

theorem foldl_pushItem_grows (frags : List (Pattern × Fragment)) (acc : Array Fragment × Nat) :
    acc.1.toList <+: (frags.foldl
      (fun acc x ↦ ((pushItem acc.1 x.1 x.2).1, acc.2 + (pushItem acc.1 x.1 x.2).2)) acc).1.toList := by
  induction frags generalizing acc with
  | nil => exact List.prefix_refl _
  | cons x rest ih =>
    simp only [List.foldl_cons]
    exact (pushItem_grows acc.1 x.1 x.2).trans
      (ih ((pushItem acc.1 x.1 x.2).1, acc.2 + (pushItem acc.1 x.1 x.2).2))

/-- The rounds of a separated list started from `c` with its position marked: as for a
repetition, where a round matches an element, or a separator and an element under a mark of
its own. -/
theorem listRounds_contract {sep elem : Pattern} {hs : sizeOf sep < sizeOf p}
    {he : sizeOf elem < sizeOf p} {lo : Nat} (hsep : (consume cx sep).Contract)
    (helem : (consume cx elem).Contract) {c : Cursor} (hv : c.Valid) (left : Nat) :
    ∀ (items : Array Fragment) (pieces : Array Piece) (s : MatchState),
      Rounds c lo items pieces s.cursor →
      Ends (listRounds cx p sep elem hs he lo left items pieces s)
        (fun r c' ↦ Rounds c lo r.1 r.2 c' ∧ items.toList <+: r.1.toList ∧ pieces.toList <+: r.2.toList)
        (fun e c' ↦ c' = c ∧ e.Ordinary) := by
  induction left with
  | zero =>
    intro items pieces s h0
    rw [listRounds.eq_1]
    exact ⟨h0, List.prefix_refl _, List.prefix_refl _⟩
  | succ left ih =>
    intro items pieces s h0
    have hvs : s.cursor.Valid := hv.mark.of_forward h0.forward
    -- the three ways a round ends: it found fragments and moved forward, it found nothing
    -- and is back at `s`, or it stopped with an error and is back at `s`
    have hsome : ∀ (s1 : MatchState) (items' : Array Fragment) (n : Nat),
        s.cursor.Forward s1.cursor 0 → items'.size + 0 = items.size + n →
        items.toList <+: items'.toList →
        Ends ((position >>= fun pos ↦
            if Word.wrapSub pos s.cursor.pos = 0 ∧ pieces.size ≥ lo then pure (items, pieces)
            else listRounds cx p sep elem hs he lo left items'
              (pieces.push ⟨Word.wrapSub pos s.cursor.pos, n⟩)) s1)
          (fun r c' ↦ Rounds c lo r.1 r.2 c' ∧ items.toList <+: r.1.toList ∧
            pieces.toList <+: r.2.toList) (fun e c' ↦ c' = c ∧ e.Ordinary) := by
      intro s1 items' n hf hsize hpre
      have hlen : Word.wrapSub s1.cursor.pos s.cursor.pos = s1.cursor.pos - s.cursor.pos :=
        Word.wrapSub_of_le (by have := hf.reach; omega)
          (by have := (hvs.of_forward hf).2; have := hf.le_size; omega)
      simp only [position_bind, hlen]
      by_cases hstop : s1.cursor.pos - s.cursor.pos = 0 ∧ pieces.size ≥ lo
      · rw [if_pos hstop]
        have hpos : s1.cursor.pos = s.cursor.pos := by have := hf.reach; omega
        exact ⟨h0.stay hf hpos, List.prefix_refl _, List.prefix_refl _⟩
      · rw [if_neg hstop]
        have hnext := ih _ _ s1 (h0.push hf hsize hstop)
        refine hnext.mono (fun r c' hr ↦ ⟨hr.1, hpre.trans hr.2.1, ?_⟩) fun _ _ h ↦ h
        exact (List.prefix_append _ _).trans (by simpa using hr.2.2)
    have hnone : ∀ s1 : MatchState, s1.cursor = s.cursor →
        Ends ((pure (items, pieces) : Engine _) s1)
          (fun r c' ↦ Rounds c lo r.1 r.2 c' ∧ items.toList <+: r.1.toList ∧
            pieces.toList <+: r.2.toList) (fun e c' ↦ c' = c ∧ e.Ordinary) := by
      intro s1 hs1
      simp only [pure_apply, ends_ok, hs1]
      exact ⟨h0, List.prefix_refl _, List.prefix_refl _⟩
    have herror : ∀ (s1 : MatchState) (e : MatchError), s1.cursor = s.cursor → e.Ordinary →
        Ends ((restoreMark >>= fun _ ↦ throw e : Engine (Array Fragment × Array Piece)) s1)
          (fun r c' ↦ Rounds c lo r.1 r.2 c' ∧ items.toList <+: r.1.toList ∧
            pieces.toList <+: r.2.toList) (fun e c' ↦ c' = c ∧ e.Ordinary) := by
      intro s1 e hs1 hord
      simp only [restoreMark_bind _ (hs1 ▸ h0.forward.marks), throw_apply, ends_error]
      exact ⟨hs1 ▸ h0.forward.restore, hord⟩
    rw [listRounds.eq_2]
    simp only [position_bind, pure_bind]
    by_cases hemp : pieces.isEmpty
    · rw [if_pos hemp]
      cases hc : consume cx elem s with
      | ok me s1 =>
        simp only [bind_of_ok (outcome_of_ok hc)]
        exact hsome s1 _ _ ((helem.ok hvs hc).mono (Nat.zero_le _))
          (foldl_pushItem_size _ (items, 0)) (foldl_pushItem_grows _ (items, 0))
      | error e s1 =>
        obtain ⟨hs1, hord⟩ := helem.error hvs hc
        simp only [bind_of_ok (outcome_of_error hc)]
        cases e with
        | failure f => exact hnone s1 hs1
        | _ => exact herror s1 _ hs1 hord
    · rw [if_neg hemp]
      simp only [mark_bind]
      have hvm : ({ s with cursor := s.cursor.mark } : MatchState).cursor.Valid := hvs.mark
      cases hc : consume cx sep { s with cursor := s.cursor.mark } with
      | ok ms s1 =>
        have hf1 := hsep.ok hvm hc
        simp only [bind_of_ok (outcome_of_ok hc)]
        cases hd : consume cx elem s1 with
        | ok me s2 =>
          have hf := hf1.trans (helem.ok (hvm.of_forward hf1) hd)
          simp only [bind_of_ok (outcome_of_ok hd), forgetMark_bind _ hf.marks]
          exact hsome _ _ _ (hf.forget.mono (Nat.zero_le _))
            (foldl_pushItem_size _ (items, 0)) (foldl_pushItem_grows _ (items, 0))
        | error e s2 =>
          obtain ⟨hs2, hord⟩ := helem.error (hvm.of_forward hf1) hd
          simp only [bind_of_ok (outcome_of_error hd)]
          cases e with
          | failure f =>
            have hm2 : s2.cursor.marks = s.cursor.pos :: s.cursor.marks := hs2 ▸ hf1.marks
            simp only [record_bind]
            rw [restoreMark_bind_mk _ hm2]
            exact hnone _ (by exact hs2 ▸ hf1.restore)
          | _ =>
            simp only [restoreMark_bind _ (hs2 ▸ hf1.marks)]
            exact herror _ _ (by exact hs2 ▸ hf1.restore) hord
      | error e s1 =>
        obtain ⟨hs1, hord⟩ := hsep.error hvm hc
        have hback : { s1.cursor with pos := s.cursor.pos, marks := s.cursor.marks } = s.cursor :=
          Cursor.restore_of_text (by rw [hs1]; rfl)
        simp only [bind_of_ok (outcome_of_error hc)]
        cases e with
        | failure f =>
          simp only [restoreMark_bind _ (by rw [hs1]; rfl)]
          exact hnone _ hback
        | _ =>
          simp only [restoreMark_bind _ (by rw [hs1]; rfl)]
          exact herror _ _ hback hord

/-- The windows of a lookbehind are matched on cursors of their own, so scanning them leaves
the cursor in place; the induction is on the widths left to try. -/
theorem scan_steady {inner : Pattern} {h : sizeOf inner < sizeOf p}
    (hin : (consume cx inner).Contract) {c : Cursor} (hv : c.Valid) (width limit : Nat) :
    (scan cx p inner h c width limit).Steady := by
  intro s hs
  rw [scan]
  by_cases hw : width ≤ limit
  · rw [if_pos hw]
    cases hwin : c.windowBefore width with
    | none => exact rfl
    | some w =>
      have hwv := Cursor.valid_windowBefore hv hwin
      simp only
      cases hr : consume cx inner { s with cursor := w } with
      | ok a s1 =>
        simp only [bind_of_ok (within_of_ok (attempt_of_ok hr))]
        by_cases hend : s1.cursor.atEnd
        · simp only [hend, if_true, record_bind, pure_apply, ends_ok]
        · simp only [hend, Bool.false_eq_true, if_false]
          exact scan_steady hin hv (width + 1) limit _ hs
      | error e s1 =>
        cases e with
        | failure f =>
          simp only [bind_of_ok (within_of_ok (attempt_of_failure hr))]
          exact scan_steady hin hv (width + 1) limit _ hs
        | _ =>
          simp only [bind_of_ok (within_of_error (attempt_of_error hr rfl)), throw_apply,
            ends_error, true_and]
          exact (hin.error hwv hr).2
  · rw [if_neg hw]
    exact rfl
termination_by limit + 1 - width
decreasing_by all_goals omega

end Loops

/-! ### Each shape of pattern

One lemma per shape that calls other patterns: the step keeps the contract when the
patterns it calls do. -/

section Shapes

variable {cx : Context} {inner : Pattern} {b : Bool}

theorem step_nextIs_contract (neg : Bool) (hin : (consume cx inner).Contract) :
    (step cx (.mk (.nextIs neg inner) b)).Contract := by
  intro s hv
  rw [step]
  simp only [mark_bind]
  have hvm : ({ s with cursor := s.cursor.mark } : MatchState).cursor.Valid := hv.mark
  cases hc : consume cx inner { s with cursor := s.cursor.mark } with
  | ok a s1 =>
    have hf : s.cursor.mark.Forward s1.cursor a.span := hin.ok hvm hc
    simp only [bind_of_ok (outcome_of_ok (attempt_of_ok hc)), restoreMark_bind _ hf.marks,
      hf.restore]
    exact lookVerdict_contract _ _ _ _ _ hv
  | error e s1 =>
    obtain ⟨hs1, hord⟩ := hin.error hvm hc
    have hm1 : s1.cursor.marks = s.cursor.pos :: s.cursor.marks := by rw [hs1]; rfl
    have hback : { s1.cursor with pos := s.cursor.pos, marks := s.cursor.marks } = s.cursor :=
      Cursor.restore_of_text (by rw [hs1]; rfl)
    cases e with
    | failure f =>
      simp only [bind_of_ok (outcome_of_ok (attempt_of_failure hc)), restoreMark_bind _ hm1, hback]
      exact lookVerdict_contract _ _ _ _ _ hv
    | _ =>
      simp only [bind_of_ok (outcome_of_error (attempt_of_error hc rfl)), restoreMark_bind _ hm1,
        hback, throw_apply, ends_error, true_and]
      exact hord

theorem step_prevIs_contract (neg : Bool) (hin : (consume cx inner).Contract) :
    (step cx (.mk (.prevIs neg inner) b)).Contract := by
  intro s hv
  rw [step]
  simp only [cursor_bind]
  refine Ends.bind (scan_steady hin hv _ _ s hv) (fun _ _ h ↦ h) ?_
  intro found s1 _ hs1
  have hverdict := lookVerdict_contract (.mk (.prevIs neg inner) b) inner neg found s1 (hs1 ▸ hv)
  rwa [hs1] at hverdict

theorem step_sequence_contract (hcx : cx.Sound) {cs : List Pattern} {sep : Option Pattern}
    {auto : Bool} (hsteps : ∀ q ∈ sequenceSteps cs sep, (consume cx q).Contract) :
    (step cx (.mk (.sequence cs sep auto) b)).Contract := by
  intro s hv
  rw [step]
  simp only [mark_bind]
  have hvm : ({ s with cursor := s.cursor.mark } : MatchState).cursor.Valid := hv.mark
  have hkeeps : SearchKeeps (search cx (.mk (.sequence cs sep auto) b) (sequenceSteps cs sep)
      (fun _ h ↦ sizeOf_step_lt h) 0 []) := search_searched hcx _ hsteps _ 0 []
  have hsearch := hkeeps _ hvm
  cases hr : search cx (.mk (.sequence cs sep auto) b) (sequenceSteps cs sep)
      (fun _ h ↦ sizeOf_step_lt h) 0 [] { s with cursor := s.cursor.mark } with
  | ok r s1 =>
    rw [hr] at hsearch
    simp only [bind_of_ok (outcome_of_ok hr)]
    cases r with
    | done steps =>
      have hf : s.cursor.mark.Forward s1.cursor 0 := hsearch
      simp only [forgetMark_bind _ hf.marks, pure_apply, ends_ok, Matched.span_fixed]
      exact hf.forget
    | stuck f j =>
      -- the search is back at the mark, which the sequence restores before it fails
      have hs1 : s1.cursor = s.cursor.mark := hsearch
      have hm1 : s1.cursor.marks = s.cursor.pos :: s.cursor.marks := by rw [hs1]; rfl
      simp only [record_bind]
      rw [restoreMark_bind_mk _ hm1]
      exact ⟨Cursor.restore_of_text (by rw [hs1]; rfl), trivial⟩
  | error e s1 =>
    rw [hr] at hsearch
    obtain ⟨htext, hmarks, hord⟩ := hsearch
    simp only [bind_of_ok (outcome_of_error hr), restoreMark_bind _ hmarks, throw_apply, ends_error]
    exact ⟨Cursor.restore_of_text htext, hord⟩

theorem step_choice_contract {cs : List Pattern} {auto : Bool}
    (hcs : ∀ q ∈ cs, (consume cx q).Contract) : (step cx (.mk (.choice cs auto) b)).Contract := by
  intro s hv
  rw [step]
  simp only [mark_bind]
  exact choose_contract hv cs hcs _ _ rfl

theorem step_repetition_contract {lo : Nat} {hi : Option Nat}
    (hin : (consume cx inner).Contract) : (step cx (.mk (.repetition inner lo hi) b)).Contract := by
  intro s hv
  rw [step]
  simp only [mark_bind]
  refine Ends.bind (rounds_contract hin hv _ #[] #[] _ (Rounds.start hv lo)) (fun _ _ h ↦ h) ?_
  rintro ⟨items, pieces⟩ s1 _ ⟨⟨hr, -⟩, -⟩
  by_cases hlo : pieces.size < lo
  · simp only [hlo, if_true, restoreMark_bind _ hr.marks, fail_apply, ends_error,
      MatchError.ordinary_failure, and_true]
    exact hr.restore
  · simp only [hlo, if_false, forgetMark_bind _ hr.marks, pure_apply, ends_ok]
    exact hr.forget

theorem step_separated_contract {sep elem : Pattern} {lo : Nat} {hi : Option Nat}
    (hsep : (consume cx sep).Contract) (helem : (consume cx elem).Contract) :
    (step cx (.mk (.separated sep elem lo hi) b)).Contract := by
  intro s hv
  rw [step]
  simp only [mark_bind]
  refine Ends.bind (listRounds_contract hsep helem hv _ #[] #[] _ (Rounds.start hv lo))
    (fun _ _ h ↦ h) ?_
  rintro ⟨items, pieces⟩ s1 _ ⟨⟨hr, -⟩, -⟩
  by_cases hlo : pieces.size < lo
  · simp only [hlo, if_true, restoreMark_bind _ hr.marks, fail_apply, ends_error,
      MatchError.ordinary_failure, and_true]
    exact hr.restore
  · simp only [hlo, if_false, forgetMark_bind _ hr.marks, pure_apply, ends_ok]
    exact hr.forget

theorem step_group_contract (hin : (consume cx inner).Contract) :
    (step cx (.mk (.group inner) b)).Contract := by
  intro s hv
  rw [step]
  simp only [position_bind]
  refine Ends.bind (hin s hv) (fun _ _ h ↦ h) ?_
  intro m s1 _ hf
  simp only [cursor_bind, pure_apply, ends_ok, Matched.span_fixed]
  exact hf.mono (Nat.zero_le _)

theorem step_flatten_contract (hin : (consume cx inner).Contract) :
    (step cx (.mk (.flatten inner) b)).Contract := by
  intro s hv
  rw [step]
  refine Ends.bind (hin s hv) (fun _ _ h ↦ h) ?_
  intro m s1 _ hf
  exact hf.mono (Nat.zero_le _)

theorem step_select_contract {sel : Selection} (hin : (consume cx inner).Contract) :
    (step cx (.mk (.select inner sel) b)).Contract := by
  intro s hv
  rw [step]
  refine Ends.bind (hin s hv) (fun _ _ h ↦ h) ?_
  intro m s1 _ hf
  exact hf.mono (Nat.zero_le _)

/-- A token skips whitespace on both sides of its inner pattern, under a mark that it pops
when the inner pattern matched and restores otherwise. -/
theorem step_token_contract (hin : (consume cx inner).Contract) :
    (step cx (.mk (.token inner) b)).Contract := by
  intro s hv
  rw [step]
  simp only [mark_bind, skipWhitespace_bind]
  have hw := forward_skipWhitespace cx.config hv.mark
  have hvw := hv.mark.of_forward hw
  refine Ends.bind (Contract.outcome hin hvw) (fun _ _ h ↦ h.elim) ?_
  intro r s1 _ hr
  cases r with
  | ok m =>
    have hf : s.cursor.mark.Forward s1.cursor m.span := (hw.trans hr).mono (Nat.le_add_left _ _)
    have hall := hf.trans (forward_skipWhitespace cx.config (hv.mark.of_forward hf))
    simp only [skipWhitespace_bind]
    rw [forgetMark_bind_mk _ hall.marks]
    exact hall.forget.mono (Nat.zero_le _)
  | error e =>
    obtain ⟨hs1, hord⟩ := hr
    have hm1 : s1.cursor.marks = s.cursor.pos :: s.cursor.marks := by rw [hs1]; rfl
    simp only [restoreMark_bind _ hm1, throw_apply, ends_error]
    exact ⟨Cursor.restore_of_text (by rw [hs1]; rfl), hord⟩

theorem step_rule_contract (hcx : cx.Sound) (ref : RuleRef) :
    (step cx (.mk (.rule ref) b)).Contract := by
  rw [step]
  exact hcx.enter ref

theorem step_shared_contract {tag : Nat} (hin : (consume cx inner).Contract) :
    (step cx (.mk (.embed tag (.shared inner)) b)).Contract := by
  rw [step]
  exact hin

end Shapes

/-! ### Standard patterns -/

/-- A standard pattern keeps the contract in every sound context: by recursion on the size of
the pattern, each shape from its own lemma. -/
theorem consume_contract {cx : Context} (hcx : cx.Sound) :
    ∀ p : Pattern, p.standard → (consume cx p).Contract
  | .mk (.char cls) _, _ => .of_step (by rw [step]; exact matchChar_contract _ _)
  | .mk (.run r) _, _ => .of_step (by rw [step]; exact matchRun_contract _ _ _)
  | .mk (.whitespace r) _, _ => .of_step (by rw [step]; exact matchRun_contract _ _ _)
  | .mk (.literal t) _, _ => .of_step (by rw [step]; exact matchLiteral_contract _ _)
  | .mk (.regex rx) _, _ => .of_step (by rw [step]; exact matchRegex_contract _ _)
  | .mk (.boundary k) _, _ => .of_step (by rw [step]; exact matchBoundary_contract _ _)
  | .mk (.nextIs neg inner) _, hp =>
    .of_step (step_nextIs_contract neg (consume_contract hcx inner hp))
  | .mk (.prevIs neg inner) _, hp =>
    .of_step (step_prevIs_contract neg (consume_contract hcx inner hp))
  | .mk (.sequence cs sep auto) _, hp =>
    .of_step (step_sequence_contract hcx fun q hq ↦
      consume_contract hcx q (Pattern.standard_of_mem_sequenceSteps hp hq))
  | .mk (.choice cs auto) _, hp =>
    .of_step (step_choice_contract fun q hq ↦
      consume_contract hcx q (Pattern.allStandard_iff.mp hp q hq))
  | .mk (.repetition inner lo hi) _, hp =>
    .of_step (step_repetition_contract (consume_contract hcx inner hp))
  | .mk (.separated sep elem lo hi) _, hp =>
    have hboth : sep.standard ∧ elem.standard := by
      simpa [Pattern.standard, Pattern.shapeStandard] using hp
    .of_step (step_separated_contract (consume_contract hcx sep hboth.1)
      (consume_contract hcx elem hboth.2))
  | .mk (.group inner) _, hp => .of_step (step_group_contract (consume_contract hcx inner hp))
  | .mk (.flatten inner) _, hp => .of_step (step_flatten_contract (consume_contract hcx inner hp))
  | .mk (.select inner sel) _, hp => .of_step (step_select_contract (consume_contract hcx inner hp))
  | .mk (.token inner) _, hp => .of_step (step_token_contract (consume_contract hcx inner hp))
  | .mk (.rule ref) _, _ => .of_step (step_rule_contract hcx ref)
  | .mk (.embed tag (.shared inner)) _, hp =>
    .of_step (step_shared_contract (consume_contract hcx inner hp))
  | .mk (.embed _ (.grammar ..)) _, hp | .mk (.embed _ .broken) _, hp
  | .mk (.embed _ .unbalanced) _, hp =>
    absurd hp (by simp [Pattern.standard, Pattern.shapeStandard, Pattern.embeddedStandard])
termination_by p => sizeOf p
decreasing_by
  all_goals first
    | (simp only [Pattern.mk.sizeOf_spec, Shape.nextIs.sizeOf_spec, Shape.prevIs.sizeOf_spec,
        Shape.repetition.sizeOf_spec, Shape.separated.sizeOf_spec, Shape.group.sizeOf_spec,
        Shape.flatten.sizeOf_spec, Shape.select.sizeOf_spec, Shape.token.sizeOf_spec,
        Shape.embed.sizeOf_spec, Embedded.shared.sizeOf_spec]; omega)
    | exact sizeOf_step_lt ‹_›
    | exact sizeOf_choice_lt ‹_›

end Engine

/-- Matching under a standard rule set is sound at every depth: entering a rule either stops
with an ordinary error or matches a standard pattern one level deeper, which is sound by
induction on the levels left below the limit. -/
theorem contextAt_sound {rules : RuleSet} (hrs : rules.standard) (config : Config) (checks : Nat)
    (depth : Nat) : (contextAt rules config checks depth).Sound := by
  refine ⟨fun ref s hv ↦ ?_, fun q m r h ↦ ?_⟩
  · rw [contextAt]
    dsimp only
    cases ht : rules.target? ref with
    | none => exact ⟨rfl, trivial⟩
    | some t =>
      by_cases hd : depth < config.maxDepth
      · simp only [if_pos hd]
        rw [consumeAt]
        exact Engine.consume_contract (contextAt_sound hrs config checks (depth + 1)) t
          (rules.standard_of_target? hrs ht) s hv
      · simp only [if_neg hd]
        exact ⟨rfl, trivial⟩
  · rw [contextAt] at h
    exact Pattern.giveBack_span rules _ q h
termination_by config.maxDepth - depth
decreasing_by all_goals omega

/-- Matching a standard pattern under a standard rule set, from a cursor inside a text of
fewer than `2 ^ 64` characters, at any depth and with any allowance of grammar checks: on
success the cursor has moved forward within the text, at least over the pieces the match can
give back, and the mark stack is as it was; on an error the cursor, its position and its
mark stack included, is exactly as it was, and the error is a failure, the nesting limit or
a rule that leads nowhere, never an empty mark stack. The pieces that a repetition or a
separated list keeps are the distances its rounds moved, so no subtraction of positions in
them wraps around. -/
theorem consumeAt_contract {rules : RuleSet} (hrs : rules.standard) (config : Config)
    (checks depth : Nat) {p : Pattern} (hp : p.standard) :
    (consumeAt rules config checks depth p).Contract := by
  rw [consumeAt]
  exact Engine.consume_contract (contextAt_sound hrs config checks depth) p hp

/-- A rule that nests brackets through a reference to itself keeps the contract. -/
theorem consumeAt_contract_nested :
    (RuleSet.mk 0 [("nest", some (Pattern.sequence [Pattern.literal "(",
        Pattern.zeroOrMore (Pattern.new (.rule ⟨"nest", 0⟩)), Pattern.literal ")"]))]).standard ∧
      (Pattern.new (.rule ⟨"nest", 0⟩)).standard ∧
      (consumeAt (RuleSet.mk 0 [("nest", some (Pattern.sequence [Pattern.literal "(",
        Pattern.zeroOrMore (Pattern.new (.rule ⟨"nest", 0⟩)), Pattern.literal ")"]))])
        {} checkAllowance 0 (Pattern.new (.rule ⟨"nest", 0⟩))).Contract :=
  ⟨by decide, by decide, consumeAt_contract (by decide) {} checkAllowance 0 (by decide)⟩

end Backtrack
