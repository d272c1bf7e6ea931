import Backtrack.Proofs.FragmentText
import Backtrack.Proofs.Rejection
import Backtrack.Proofs.Offers

/-!
# The shape of what a pattern yields

What a match yields is decided by the shape of its pattern. A literal yields its text, a run a
text of characters it takes with one piece per character, a sequence the list of what its kept
steps yield, a choice what one of its alternatives yields, a repetition the list of what its
rounds yield, a rule what the pattern it leads to yields, a grammar what its body yields under
its name (`Pattern.Yields`). The relation is stated on patterns and matches alone, apart from
the engine, and giving back a piece of a match keeps the rest within it
(`Pattern.Yields.giveBack`).

The engine keeps it (`Engine.Delivers`): every run from a cursor whose text has fewer than
`2 ^ 64` characters keeps the text, and a run that succeeds returns a match of the shape of
its pattern. It is proved one function of the engine at a time, as the other contracts are;
then for every pattern by recursion on its size, and under a rule set by induction on the
nesting levels left.

Read backwards, each shape gives back what its parts yield (`Pattern.Yields.sequence_inv` and
the others), and the text of a sequence joins the texts of the steps it keeps
(`Pattern.sequence_text`).

Main statements: `Pattern.Yields.giveBack` and `consumeAt_yields`.
-/

namespace Backtrack

/-- Whether a run under `cfg` takes a character: the whitespace of the configuration for a
configured run, the run's class otherwise. -/
def Run.takes (r : Run) (cfg : Config) (ch : Char) : Bool :=
  if r.configured then cfg.isWhitespace ch else r.cls.accepts ch

namespace Pattern

/-- The matches that a pattern can make under the rules `rules` and the configuration `cfg`,
read off its shape. Lookarounds, boundaries and the matcher that pops a foreign mark yield
nothing; a regular expression yields a piece of text or nothing for one group and a list of
texts, one per group, for several; a sequence yields the fragments of its steps that it keeps,
in order; a repetition and a separated list yield what their rounds yield, a repetition at
most its maximum of them. -/
inductive Yields (rules : RuleSet) (cfg : Config) : Pattern → Matched → Prop
  | char {cls : CharClass} {b : Bool} {ch : Char} (accepts : cls.accepts ch) :
    Yields rules cfg (mk (.char cls) b) (.fixed (.text (String.singleton ch)))
  | run {r : Run} {b : Bool} {t : String} {pieces : List Piece} (takes : ∀ ch ∈ t.toList, r.takes cfg ch)
    (atLeast : r.min ≤ t.length) (perChar : pieces.length = t.length) :
    Yields rules cfg (mk (.run r) b) ⟨.text t, pieces⟩
  | whitespace {r : Run} {b : Bool} {t : String} {pieces : List Piece}
    (takes : ∀ ch ∈ t.toList, r.takes cfg ch) (atLeast : r.min ≤ t.length)
    (perChar : pieces.length = t.length) : Yields rules cfg (mk (.whitespace r) b) ⟨.text t, pieces⟩
  | literal {t : String} {b : Bool} : Yields rules cfg (mk (.literal t) b) (.fixed (.text t))
  | regexText {rx : RegexNode} {b : Bool} {g : Nat} {t : String} (one : rx.options.groups = .one g) :
    Yields rules cfg (mk (.regex rx) b) (.fixed (.text t))
  | regexNothing {rx : RegexNode} {b : Bool} {g : Nat} (one : rx.options.groups = .one g) :
    Yields rules cfg (mk (.regex rx) b) (.fixed .empty)
  | regexList {rx : RegexNode} {b : Bool} {gs : List Nat} {ts : List String}
    (many : rx.options.groups = .many gs) (perGroup : ts.length = gs.length) :
    Yields rules cfg (mk (.regex rx) b) (.fixed (.list (ts.map .text)))
  | boundary {k : Boundary} {b : Bool} : Yields rules cfg (mk (.boundary k) b) (.fixed .empty)
  | nextIs {neg : Bool} {inner : Pattern} {b : Bool} : Yields rules cfg (mk (.nextIs neg inner) b) (.fixed .empty)
  | prevIs {neg : Bool} {inner : Pattern} {b : Bool} : Yields rules cfg (mk (.prevIs neg inner) b) (.fixed .empty)
  | sequence {cs : List Pattern} {sep : Option Pattern} {auto b : Bool} (steps : List (Pattern × Matched))
    (inOrder : steps.map Prod.fst = sequenceSteps cs sep) (each : ∀ x ∈ steps, Yields rules cfg x.1 x.2) :
    Yields rules cfg (mk (.sequence cs sep auto) b) (.fixed (.list (sequenceItems steps)))
  | choice {cs : List Pattern} {auto b : Bool} {q : Pattern} {m : Matched} (mem : q ∈ cs)
    (chosen : Yields rules cfg q m) : Yields rules cfg (mk (.choice cs auto) b) (.fixed m.fragment)
  | repetition {inner : Pattern} {lo : Nat} {hi : Option Nat} {b : Bool} (rounds : List Matched)
    (pieces : List Piece) (bounded : rounds.length ≤ hi.getD Word.size) (each : ∀ m ∈ rounds, Yields rules cfg inner m) :
    Yields rules cfg (mk (.repetition inner lo hi) b) ⟨.list (rounds.map (·.fragment)), pieces⟩
  | separated {sep elem : Pattern} {lo : Nat} {hi : Option Nat} {b : Bool} (parts : List (Pattern × Matched))
    (pieces : List Piece) (among : ∀ x ∈ parts, x.1 = sep ∨ x.1 = elem)
    (each : ∀ x ∈ parts, Yields rules cfg x.1 x.2) :
    Yields rules cfg (mk (.separated sep elem lo hi) b) ⟨.list (parts.map (·.2.fragment)), pieces⟩
  | group {inner : Pattern} {b : Bool} {m : Matched} (body : Yields rules cfg inner m) :
    Yields rules cfg (mk (.group inner) b) (.fixed (.text m.fragment.toText))
  | flatten {inner : Pattern} {b : Bool} {m : Matched} (body : Yields rules cfg inner m) :
    Yields rules cfg (mk (.flatten inner) b) (.fixed (.list m.fragment.flatten))
  | select {inner : Pattern} {sel : Selection} {b : Bool} {m : Matched} (body : Yields rules cfg inner m) :
    Yields rules cfg (mk (.select inner sel) b) (.fixed (sel.apply m.fragment))
  | token {inner : Pattern} {b : Bool} {m : Matched} (body : Yields rules cfg inner m) :
    Yields rules cfg (mk (.token inner) b) (.fixed m.fragment)
  | rule {ref : RuleRef} {b : Bool} {t : Pattern} {m : Matched} (target : rules.target? ref = some t)
    (body : Yields rules cfg t m) : Yields rules cfg (mk (.rule ref) b) m
  | grammar {tag : Nat} {name : String} {body : Pattern} {bad : Option Pattern} {b : Bool} {m : Matched}
    (inner : Yields rules cfg body m) :
    Yields rules cfg (mk (.embed tag (.grammar name body bad)) b) (.fixed (.named name m.fragment))
  | shared {tag : Nat} {inner : Pattern} {b : Bool} {m : Matched} (body : Yields rules cfg inner m) :
    Yields rules cfg (mk (.embed tag (.shared inner)) b) m
  | unbalanced {tag : Nat} {b : Bool} : Yields rules cfg (mk (.embed tag .unbalanced) b) (.fixed .empty)

variable {rules : RuleSet} {cfg : Config}

theorem dropLastChar_text_eq_some {lo : Nat} {t : String} {pieces : List Piece} {r : Matched} {g : Nat}
    (h : Matched.dropLastChar lo ⟨.text t, pieces⟩ = some (r, g)) :
    lo < pieces.length ∧ r = ⟨.text (String.ofList t.toList.dropLast), pieces.dropLast⟩ := by
  unfold Matched.dropLastChar at h
  split at h
  · cases h
  · rename_i hlo
    cases hlast : pieces.getLast? with
    | none => simp [hlast] at h
    | some last =>
      simp only [hlast] at h
      split at h
      · cases h
      · cases h
        exact ⟨Nat.lt_of_not_le hlo, rfl⟩

/-- Giving back from a run keeps a text of characters it takes, one piece per character, at
least the minimum of them. -/
theorem run_dropLastChar {r : Run} {t : String} {pieces : List Piece} {m : Matched} {g : Nat}
    (takes : ∀ ch ∈ t.toList, r.takes cfg ch) (perChar : pieces.length = t.length)
    (h : Matched.dropLastChar r.min ⟨.text t, pieces⟩ = some (m, g)) :
    ∃ t' pieces', m = ⟨.text t', pieces'⟩ ∧ (∀ ch ∈ t'.toList, r.takes cfg ch) ∧ r.min ≤ t'.length ∧
      pieces'.length = t'.length := by
  obtain ⟨hlo, rfl⟩ := dropLastChar_text_eq_some h
  refine ⟨_, _, rfl, fun ch hch ↦ takes ch ?_, ?_, ?_⟩
  · rw [String.toList_ofList] at hch
    exact List.dropLast_subset _ hch
  · rw [String.length_ofList, List.length_dropLast, String.length_toList]
    omega
  · rw [String.length_ofList, List.length_dropLast, List.length_dropLast, String.length_toList, perChar]

/-- Giving back keeps a match within what its pattern yields: a run keeps a shorter run of
the characters it takes, a repetition or a separated list keeps its earlier rounds, and a rule
or a shared pattern gives back as the pattern it leads to. -/
theorem Yields.giveBack {budget : Nat} {p : Pattern} {m r : Matched} {g : Nat} (hy : p.Yields rules cfg m)
    (h : p.giveBack rules budget m = some (r, g)) : p.Yields rules cfg r := by
  induction budget, p using Pattern.giveBack.induct rules generalizing m r g with
  | case1 budget run b =>
    rw [Pattern.giveBack] at h
    cases hy with
    | run takes _ perChar =>
      obtain ⟨t', pieces', rfl, takes', atLeast', perChar'⟩ := run_dropLastChar takes perChar h
      exact .run takes' atLeast' perChar'
  | case2 budget run b =>
    rw [Pattern.giveBack] at h
    cases hy with
    | whitespace takes _ perChar =>
      obtain ⟨t', pieces', rfl, takes', atLeast', perChar'⟩ := run_dropLastChar takes perChar h
      exact .whitespace takes' atLeast' perChar'
  | case3 budget inner lo hi b =>
    rw [Pattern.giveBack] at h
    cases hy with
    | repetition rounds pieces bounded each =>
      obtain ⟨last, _, rfl, _⟩ := Matched.dropLastPiece_list_eq_some h
      rw [← List.map_take]
      refine .repetition _ _ ((List.length_take_le' _ _).trans bounded) fun x hx ↦ each x ?_
      exact List.mem_of_mem_take hx
  | case4 budget sep elem lo hi b =>
    rw [Pattern.giveBack] at h
    cases hy with
    | separated parts pieces among each =>
      obtain ⟨last, _, rfl, _⟩ := Matched.dropLastPiece_list_eq_some h
      rw [← List.map_take]
      exact .separated _ _ (fun x hx ↦ among x (List.mem_of_mem_take hx))
        fun x hx ↦ each x (List.mem_of_mem_take hx)
  | case5 ref b => simp [Pattern.giveBack] at h
  | case6 ref b budget t ht ih =>
    simp only [Pattern.giveBack, ht] at h
    cases hy with
    | rule target body =>
      rw [ht] at target
      cases target
      exact .rule ht (ih body h)
  | case7 ref b budget ht => simp [Pattern.giveBack, ht] at h
  | case8 budget tag inner b ih =>
    simp only [Pattern.giveBack] at h
    cases hy with
    | shared body => exact .shared (ih body h)
  | case9 =>
    unfold Pattern.giveBack at h
    split at h <;> first | contradiction | (exfalso; solve_by_elim)

end Pattern

namespace Engine

variable {α : Type}

/-- A computation delivers `P` when every run of it from a cursor whose text has fewer than
`2 ^ 64` characters keeps the text, and a run that succeeds returns a value of `P`. -/
def Delivers (P : α → Prop) (m : Engine α) : Prop :=
  ∀ s : MatchState, s.cursor.size < Word.size →
    Ends (m s) (fun a c ↦ c.text = s.cursor.text ∧ P a) fun _ c ↦ c.text = s.cursor.text

variable {P Q : α → Prop} {m : Engine α}

theorem Delivers.mono (h : m.Delivers P) (hPQ : ∀ a, P a → Q a) : m.Delivers Q := fun s hs ↦
  (h s hs).mono (fun a _ hc ↦ ⟨hc.1, hPQ a hc.2⟩) fun _ _ hc ↦ hc

/-- A run from a state with the text of `s0` delivers as a run from `s0` would. -/
theorem Delivers.from (h : m.Delivers P) {s s0 : MatchState} (hs : s.cursor.text = s0.cursor.text)
    (hsize : s0.cursor.size < Word.size) :
    Ends (m s) (fun a c ↦ c.text = s0.cursor.text ∧ P a) fun _ c ↦ c.text = s0.cursor.text := by
  have hrun := h s (by rw [Cursor.size_eq_of_text hs]; exact hsize)
  rw [hs] at hrun
  exact hrun

theorem Delivers.ok (h : m.Delivers P) {s s' : MatchState} {a : α} (hm : m s = .ok a s')
    (hs : s.cursor.size < Word.size) : s'.cursor.text = s.cursor.text ∧ P a := by
  have hrun := h s hs
  rwa [hm] at hrun

theorem Delivers.error (h : m.Delivers P) {s s' : MatchState} {e : MatchError} (hm : m s = .error e s')
    (hs : s.cursor.size < Word.size) : s'.cursor.text = s.cursor.text := by
  have hrun := h s hs
  rwa [hm] at hrun

theorem Delivers.of_step {cx : Context} {p : Pattern} {P : Matched → Prop} (h : (step cx p).Delivers P) :
    (consume cx p).Delivers P := by
  intro s hs
  have hrun := h s hs
  rw [consume]
  split
  · rename_i f s' hstep
    rw [hstep] at hrun
    exact hrun
  · assumption

end Engine

namespace Cursor

/-- Moving forward over characters that follow the cursor takes exactly those characters. -/
theorem takenSince_advance_rest {c : Cursor} {n : Nat} (hs : c.size < Word.size) (hn : n ≤ c.rest.length) :
    (c.advance n).takenSince c.pos = String.ofList (c.rest.take n) := by
  by_cases hpos : c.pos ≤ c.size
  · rw [takenSince_advance ⟨hpos, hs⟩ (by rw [length_rest] at hn; omega), rest_eq_drop]
  · -- past the end of the text nothing follows, so nothing is taken
    have hnil : c.rest = [] := List.eq_nil_of_length_eq_zero (by rw [length_rest]; omega)
    rw [hnil] at hn ⊢
    have hn0 : n = 0 := Nat.le_zero.mp hn
    subst hn0
    unfold takenSince textBetween advance
    simp only [size] at hpos ⊢
    rw [Array.extract_eq_empty_iff.mpr (by omega)]
    rfl

end Cursor

namespace Engine

variable {rules : RuleSet} {cfg : Config} {b : Bool}

/-! ### The primitive patterns -/

theorem matchChar_delivers (p : Pattern) (cls : CharClass) :
    (matchChar p cls).Delivers (Pattern.Yields rules cfg (.mk (.char cls) b)) := by
  intro s _
  simp only [matchChar, cursor_bind]
  cases s.cursor.get 0 with
  | error e => exact rfl
  | ok ch =>
    by_cases hacc : cls.accepts ch
    · simp only [hacc, if_true, setCursor_bind, pure_apply, ends_ok]
      exact ⟨rfl, .char hacc⟩
    · simp only [hacc, Bool.false_eq_true, if_false]
      exact rfl

/-- The first `n` characters of a list, for `n` within its longest prefix of characters that
`f` takes, are all taken by `f`. -/
theorem mem_take_of_le_takeWhile {f : Char → Bool} {l : List Char} {n : Nat}
    (hn : n ≤ (l.takeWhile f).length) : ∀ ch ∈ l.take n, f ch := by
  intro ch hch
  rw [← List.takeWhile_append_dropWhile (p := f) (l := l), List.take_append_of_le_length hn] at hch
  exact List.mem_takeWhile_imp (List.mem_of_mem_take hch)

/-- A run takes the characters it counts, one piece each, and at least its minimum of them. -/
theorem matchRun_delivers (p : Pattern) (r : Run) :
    (matchRun cfg p r).Delivers fun m ↦ ∃ t pieces, m = ⟨.text t, pieces⟩ ∧
      (∀ ch ∈ t.toList, r.takes cfg ch) ∧ r.min ≤ t.length ∧ pieces.length = t.length := by
  intro s hs
  obtain ⟨avail, havail⟩ : ∃ avail, (s.cursor.rest.takeWhile fun ch ↦
      if r.configured then cfg.isWhitespace ch else r.cls.accepts ch).length = avail := ⟨_, rfl⟩
  obtain ⟨count, hcount⟩ : ∃ count, (r.max.map (min avail)).getD avail = count := ⟨_, rfl⟩
  rw [matchRun_apply cfg p r s havail hcount]
  have hle : count ≤ avail := by
    cases hm : r.max <;> simp only [hm, Option.map_none, Option.getD_none, Option.map_some,
      Option.getD_some] at hcount <;> omega
  have hrest : count ≤ s.cursor.rest.length := hle.trans (havail ▸ (List.takeWhile_prefix _).length_le)
  split
  · exact rfl
  · rename_i hlo
    simp only [ends_ok]
    rw [Cursor.takenSince_advance_rest hs hrest]
    have hlen : (s.cursor.rest.take count).length = count := List.length_take_of_le hrest
    refine ⟨rfl, _, _, rfl, fun ch hch ↦ ?_, ?_, ?_⟩
    · rw [String.toList_ofList] at hch
      exact mem_take_of_le_takeWhile (havail ▸ hle) ch hch
    · rw [String.length_ofList, hlen]
      omega
    · rw [String.length_ofList, hlen, List.length_replicate]

/-- A literal that is there takes exactly its text. -/
theorem matchLiteral_delivers (p : Pattern) (t : String) :
    (matchLiteral p t).Delivers (Pattern.Yields rules cfg (.mk (.literal t) b)) := by
  intro s hs
  simp only [matchLiteral, cursor_bind]
  split
  · rename_i hpre
    have hbefore : t.toList <+: s.cursor.rest := List.isPrefixOf_iff_prefix.mp hpre
    have htake : s.cursor.rest.take t.length = t.toList := by
      rw [← String.length_toList]
      exact (List.prefix_iff_eq_take.mp hbefore).symm
    simp only [setCursor_bind, pure_apply, ends_ok]
    rw [Cursor.takenSince_advance_rest hs (by rw [← String.length_toList]; exact hbefore.length_le), htake,
      String.ofList_toList]
    exact ⟨rfl, .literal⟩
  · exact rfl

theorem matchBoundary_delivers (p : Pattern) (k : Boundary) :
    (matchBoundary p k).Delivers (Pattern.Yields rules cfg (.mk (.boundary k) b)) := by
  intro s _
  simp only [matchBoundary, cursor_bind]
  split
  · exact ⟨rfl, .boundary⟩
  · exact rfl

/-- Several groups, each reported as a piece of text, yield a list of texts. -/
theorem yields_regex_texts {rx : RegexNode} {gs : List Nat} (many : rx.options.groups = .many gs)
    {F : Nat → Fragment} (hF : ∀ g, ∃ t, F g = .text t) :
    Pattern.Yields rules cfg (.mk (.regex rx) b) (.fixed (.list (gs.map F))) := by
  have hmap : gs.map F = (gs.map fun g ↦ (F g).toText).map Fragment.text := by
    rw [List.map_map]
    refine List.map_congr_left fun g _ ↦ ?_
    obtain ⟨t, ht⟩ := hF g
    rw [Function.comp_apply, ht]
    rfl
  rw [hmap]
  exact .regexList many (List.length_map _)

/-- A regular expression yields the texts of the groups it reports. -/
theorem matchRegex_delivers (p : Pattern) (rx : RegexNode) :
    (matchRegex p rx).Delivers (Pattern.Yields rules cfg (.mk (.regex rx) b)) := by
  intro s _
  simp only [matchRegex, cursor_bind]
  cases rx.compiled.captures (String.ofList s.cursor.rest) with
  | none => exact rfl
  | some caps =>
    simp only [setCursor_bind, pure_apply, ends_ok]
    refine ⟨rfl, ?_⟩
    cases hgroups : rx.options.groups with
    | one g =>
      simp only [groupFragment]
      split
      · exact .regexText hgroups
      · exact .regexNothing hgroups
    | many gs =>
      simp only
      -- a group that did not take part is reported as empty text
      refine yields_regex_texts hgroups fun g ↦ ?_
      unfold groupListed groupFragment
      cases caps g with
      | none => exact ⟨_, rfl⟩
      | some se => exact ⟨_, rfl⟩

/-- A lookaround's verdict leaves the cursor where it is and yields nothing. -/
theorem lookVerdict_delivers {p inner q : Pattern} {negated found : Bool}
    (hq : q.Yields rules cfg (.fixed .empty)) : (lookVerdict p inner negated found).Delivers (q.Yields rules cfg) := by
  intro s _
  unfold lookVerdict
  split
  · exact ⟨rfl, hq⟩
  · split <;> rfl

end Engine

/-- What a context needs for matching to deliver what patterns yield under `rules`: entering a
rule keeps the text and yields what the rule's pattern yields, checking a bad pattern keeps the
text, and giving back keeps a match within what its pattern yields. -/
structure Context.Yielding (cx : Context) (rules : RuleSet) : Prop where
  enter : ∀ ref, (cx.enter ref).Delivers fun m ↦ ∃ t, rules.target? ref = some t ∧ t.Yields rules cx.config m
  rejects : ∀ bad text, (cx.rejects bad text).Delivers fun _ ↦ True
  giveBack : ∀ q m r, q.Yields rules cx.config m → cx.giveBack q m = some r → q.Yields rules cx.config r.1

namespace Engine

/-! ### The loops -/

section Loops

variable {cx : Context} {rules : RuleSet} {p : Pattern}

/-- What a search over `steps` after the steps of `acc` returns when it is done: the steps that
follow `acc` are `steps`, each with a match it yields. -/
def StepsYield (rules : RuleSet) (cfg : Config) (acc : List (Pattern × Matched)) (steps : List Pattern) :
    Search → Prop
  | .done all => ∃ tail, all = acc ++ tail ∧ tail.map Prod.fst = steps ∧ ∀ x ∈ tail, x.1.Yields rules cfg x.2
  | .stuck .. => True

theorem StepsYield.cons {cfg : Config} {acc : List (Pattern × Matched)} {q : Pattern} {m : Matched}
    {rest : List Pattern} {r : Search} (hm : q.Yields rules cfg m) (h : StepsYield rules cfg (acc ++ [(q, m)]) rest r) :
    StepsYield rules cfg acc (q :: rest) r := by
  cases r with
  | done all =>
    obtain ⟨tail, rfl, hmap, each⟩ := h
    refine ⟨(q, m) :: tail, by simp, by simp [hmap], fun x hx ↦ ?_⟩
    rcases List.mem_cons.mp hx with rfl | hx
    · exact hm
    · exact each x hx
  | stuck f k => trivial

/-- Giving back and matching the later steps again: every retry gives back a piece of a match
that step `q` yields, which leaves a match it yields, so the recursion is on the pieces. -/
theorem retry_delivers (hcx : cx.Yielding rules) {q : Pattern} {rest : List Pattern}
    (h : ∀ q' ∈ q :: rest, sizeOf q' < sizeOf p)
    (hrest : ∀ hr j acc, (search cx p rest hr j acc).Delivers (StepsYield rules cx.config acc rest))
    (j start : Nat) (acc : List (Pattern × Matched)) (m : Matched) (hm : q.Yields rules cx.config m) :
    (retry cx p q rest h j start m acc).Delivers (StepsYield rules cx.config acc (q :: rest)) := by
  intro s hs
  have hsr := hrest (fun q' hq ↦ h q' (List.mem_cons_of_mem _ hq)) (j + 1) (acc ++ [(q, m)]) s hs
  cases hr : search cx p rest (fun q' hq ↦ h q' (List.mem_cons_of_mem _ hq)) (j + 1)
      (acc ++ [(q, m)]) s with
  | error e s1 => rw [hr] at hsr; rw [retry_of_error hr]; exact hsr
  | ok r s1 =>
    rw [hr] at hsr
    cases r with
    | done steps => rw [retry_of_done hr]; exact ⟨hsr.1, hsr.2.cons hm⟩
    | stuck f k =>
      cases hg : cx.giveBack q m with
      | none => rw [retry_of_stuck hr hg]; exact ⟨hsr.1, trivial⟩
      | some r =>
        obtain ⟨m', g⟩ := r
        rw [retry_of_giveBack hr hg]
        exact (retry_delivers hcx h hrest j start acc m' (hcx.giveBack q m (m', g) hm hg)).from hsr.1 hs
termination_by m.pieces.length
decreasing_by exact cx.giveBack_shrinks q m (m', g) hg

theorem search_delivers (hcx : cx.Yielding rules) (steps : List Pattern)
    (hsteps : ∀ q ∈ steps, (consume cx q).Delivers (q.Yields rules cx.config)) :
    ∀ h j acc, (search cx p steps h j acc).Delivers (StepsYield rules cx.config acc steps) := by
  induction steps with
  | nil =>
    intro h j acc s _
    rw [search_nil]
    exact ⟨rfl, [], by simp, rfl, by simp⟩
  | cons q rest ih =>
    intro h j acc s hs
    have hrest := ih fun q' hq' ↦ hsteps q' (List.mem_cons_of_mem _ hq')
    cases hc : consume cx q s with
    | ok m s1 =>
      have hq := (hsteps q (List.mem_cons_self ..)).ok hc hs
      rw [search_cons_of_ok hc]
      exact (retry_delivers hcx h hrest j s.cursor.pos acc m hq.2).from hq.1 hs
    | error e s1 =>
      have hq := (hsteps q (List.mem_cons_self ..)).error hc hs
      cases e with
      | failure f => rw [search_cons_of_failure hc]; exact ⟨hq, trivial⟩
      | _ => rw [search_cons_of_error hc rfl]; exact hq

/-- The alternatives of a choice among `cs`, from any of its suffixes: the first that matches
gives its fragment. -/
theorem choose_delivers {cs : List Pattern} {auto b : Bool} (rest : List Pattern) (hsub : ∀ q ∈ rest, q ∈ cs)
    (hcs : ∀ q ∈ rest, (consume cx q).Delivers (q.Yields rules cx.config))
    (h : ∀ q ∈ rest, sizeOf q < sizeOf p) :
    (choose cx p rest h).Delivers ((Pattern.mk (.choice cs auto) b).Yields rules cx.config) := by
  induction rest with
  | nil =>
    intro s _
    rw [choose.eq_1]
    exact ends_restoreMark_bind (fun _ ↦ rfl) fun _ _ _ ↦ rfl
  | cons q more ih =>
    intro s hs
    rw [choose.eq_2]
    cases hc : consume cx q s with
    | ok m s1 =>
      have hq := (hcs q (List.mem_cons_self ..)).ok hc hs
      simp only [bind_of_ok (outcome_of_ok hc)]
      exact ends_forgetMark_bind (fun _ ↦ hq.1) fun _ _ _ ↦
        ⟨hq.1, .choice (hsub q (List.mem_cons_self ..)) hq.2⟩
    | error e s1 =>
      have hq := (hcs q (List.mem_cons_self ..)).error hc hs
      simp only [bind_of_ok (outcome_of_error hc)]
      cases e with
      | failure f =>
        refine ends_restoreMark_bind (fun _ ↦ hq) fun _ _ _ ↦ ?_
        simp only [mark_bind]
        exact (ih (fun q' hq' ↦ hsub q' (List.mem_cons_of_mem _ hq'))
          (fun q' hq' ↦ hcs q' (List.mem_cons_of_mem _ hq'))
          (fun q' hq' ↦ h q' (List.mem_cons_of_mem _ hq'))).from hq hs
      | _ => exact ends_restoreMark_bind (fun _ ↦ hq) fun _ _ _ ↦ hq

/-- The items gathered by the rounds of a repetition: fragments of at most `bound` matches that
its inner pattern yields. -/
def RoundsYield (rules : RuleSet) (cfg : Config) (inner : Pattern) (bound : Nat)
    (x : Array Fragment × Array Piece) : Prop :=
  ∃ rs : List Matched, x.1.toList = rs.map (·.fragment) ∧ rs.length ≤ bound ∧ ∀ m ∈ rs, inner.Yields rules cfg m

theorem pushItem_toList (items : Array Fragment) (q : Pattern) (f : Fragment) :
    (pushItem items q f).1.toList = items.toList ∨ (pushItem items q f).1.toList = items.toList ++ [f] := by
  unfold pushItem
  split
  · exact .inl rfl
  · exact .inr (Array.toList_push ..)

/-- Adding the fragment of a match to the items keeps them the fragments of the matches so far. -/
theorem pushItem_matches {items : Array Fragment} {rs : List Matched}
    (hitems : items.toList = rs.map (·.fragment)) (q : Pattern) (m : Matched) :
    ∃ rs' : List Matched, (pushItem items q m.fragment).1.toList = rs'.map (·.fragment) ∧ rs'.length ≤ rs.length + 1 ∧
      ∀ x ∈ rs', x ∈ rs ∨ x = m := by
  rcases pushItem_toList items q m.fragment with h | h
  · exact ⟨rs, h.trans hitems, by omega, fun x hx ↦ .inl hx⟩
  · refine ⟨rs ++ [m], by rw [h, hitems, List.map_append]; rfl, by simp, fun x hx ↦ ?_⟩
    simpa using hx

/-- The rounds of a repetition, at most `left` more, add at most `left` fragments, each of a
match that the inner pattern yields. -/
theorem rounds_delivers {inner : Pattern} {h : sizeOf inner < sizeOf p} {lo : Nat}
    (hin : (consume cx inner).Delivers (inner.Yields rules cx.config)) (left : Nat) :
    ∀ (items : Array Fragment) (pieces : Array Piece) (rs : List Matched),
      items.toList = rs.map (·.fragment) → (∀ m ∈ rs, inner.Yields rules cx.config m) →
      (rounds cx p inner h lo left items pieces).Delivers (RoundsYield rules cx.config inner (rs.length + left)) := by
  induction left with
  | zero =>
    intro items pieces rs hitems hrs s _
    rw [rounds.eq_1]
    exact ⟨rfl, rs, hitems, le_refl _, hrs⟩
  | succ left ih =>
    intro items pieces rs hitems hrs s hs
    rw [rounds.eq_2]
    simp only [position_bind]
    cases hc : consume cx inner s with
    | ok m s1 =>
      have hm := hin.ok hc hs
      simp only [bind_of_ok (outcome_of_ok hc), position_bind]
      split
      · exact ⟨hm.1, rs, hitems, by omega, hrs⟩
      · obtain ⟨rs', hitems', hlen, hrs'⟩ := pushItem_matches hitems inner m
        have hall : ∀ x ∈ rs', inner.Yields rules cx.config x := fun x hx ↦ by
          rcases hrs' x hx with hx | rfl
          · exact hrs x hx
          · exact hm.2
        exact ((ih _ _ rs' hitems' hall).from hm.1 hs).mono
          (fun _ _ hc ↦ ⟨hc.1, by obtain ⟨xs, h1, h2, h3⟩ := hc.2; exact ⟨xs, h1, by omega, h3⟩⟩)
          fun _ _ hc ↦ hc
    | error e s1 =>
      have hm := hin.error hc hs
      simp only [bind_of_ok (outcome_of_error hc)]
      cases e with
      | failure f => exact ⟨hm, rs, hitems, by omega, hrs⟩
      | _ => exact ends_restoreMark_bind (fun _ ↦ hm) fun _ _ _ ↦ hm

/-- The items gathered by the rounds of a separated list: fragments of matches that its
separator or its element yields. -/
def PartsYield (rules : RuleSet) (cfg : Config) (sep elem : Pattern) (x : Array Fragment × Array Piece) : Prop :=
  ∃ parts : List (Pattern × Matched), x.1.toList = parts.map (·.2.fragment) ∧
    ∀ y ∈ parts, (y.1 = sep ∨ y.1 = elem) ∧ y.1.Yields rules cfg y.2

/-- Folding the fragments of a round into the items, each as `pushItem` adds it, keeps them
fragments of matches of the separator or the element. -/
theorem partsYield_foldl {cfg : Config} {sep elem : Pattern}
    {F : Array Fragment × Nat → Pattern × Fragment → Array Fragment × Nat}
    (hF : ∀ acc x, (F acc x).1 = (pushItem acc.1 x.1 x.2).1) (ys : List (Pattern × Matched))
    (hys : ∀ y ∈ ys, (y.1 = sep ∨ y.1 = elem) ∧ y.1.Yields rules cfg y.2) :
    ∀ (acc : Array Fragment × Nat) (pieces pieces' : Array Piece), PartsYield rules cfg sep elem (acc.1, pieces) →
      PartsYield rules cfg sep elem (((ys.map fun y ↦ (y.1, y.2.fragment)).foldl F acc).1, pieces') := by
  induction ys with
  | nil => intro acc pieces pieces' h0; exact h0
  | cons y ys ih =>
    intro acc pieces pieces' h0
    obtain ⟨parts, hitems, hparts⟩ := h0
    refine ih (fun y' hy' ↦ hys y' (List.mem_cons_of_mem _ hy')) (F acc (y.1, y.2.fragment)) pieces pieces' ?_
    show PartsYield rules cfg sep elem ((F acc (y.1, y.2.fragment)).1, pieces)
    rw [hF]
    rcases pushItem_toList acc.1 y.1 y.2.fragment with h | h
    · exact ⟨parts, h.trans hitems, hparts⟩
    · refine ⟨parts ++ [y], by rw [h, hitems, List.map_append]; rfl, fun x hx ↦ ?_⟩
      rcases List.mem_append.mp hx with hx | hx
      · exact hparts x hx
      · rw [List.mem_singleton.mp hx]
        exact hys y (List.mem_cons_self ..)

/-- The rounds of a separated list add fragments of matches of the separator or the element;
a round with a separator brackets it with a mark of its own. -/
theorem listRounds_delivers {sep elem : Pattern} {hs : sizeOf sep < sizeOf p} {he : sizeOf elem < sizeOf p}
    {lo : Nat} (hsep : (consume cx sep).Delivers (sep.Yields rules cx.config))
    (helem : (consume cx elem).Delivers (elem.Yields rules cx.config)) (left : Nat) :
    ∀ (items : Array Fragment) (pieces : Array Piece), PartsYield rules cx.config sep elem (items, pieces) →
      (listRounds cx p sep elem hs he lo left items pieces).Delivers (PartsYield rules cx.config sep elem) := by
  induction left with
  | zero =>
    intro items pieces h0 s _
    rw [listRounds.eq_1]
    exact ⟨rfl, h0⟩
  | succ left ih =>
    intro items pieces h0 s hs0
    -- a round that found fragments goes on from where it ended with the items it kept
    have hsome : ∀ (s1 : MatchState) (items' : Array Fragment) (n : Nat), s1.cursor.text = s.cursor.text →
        PartsYield rules cx.config sep elem (items', pieces) →
        Ends ((position >>= fun pos ↦
            if Word.wrapSub pos s.cursor.pos = 0 ∧ pieces.size ≥ lo then pure (items, pieces)
            else listRounds cx p sep elem hs he lo left items'
              (pieces.push ⟨Word.wrapSub pos s.cursor.pos, n⟩)) s1)
          (fun a c ↦ c.text = s.cursor.text ∧ PartsYield rules cx.config sep elem a)
          (fun _ c ↦ c.text = s.cursor.text) := by
      intro s1 items' n h1 hparts
      simp only [position_bind]
      split
      · exact ⟨h1, h0⟩
      · exact (ih items' (pieces.push _) hparts).from h1 hs0
    rw [listRounds.eq_2]
    simp only [position_bind, pure_bind]
    by_cases hemp : pieces.isEmpty
    · rw [if_pos hemp]
      cases hc : consume cx elem s with
      | ok me s1 =>
        have h1 := helem.ok hc hs0
        simp only [bind_of_ok (outcome_of_ok hc)]
        exact hsome s1 _ _ h1.1 (partsYield_foldl (fun _ _ ↦ rfl) [(elem, me)]
          (fun y hy ↦ by rw [List.mem_singleton.mp hy]; exact ⟨.inr rfl, h1.2⟩) _ pieces pieces h0)
      | error e s1 =>
        have h1 := helem.error hc hs0
        simp only [bind_of_ok (outcome_of_error hc)]
        cases e with
        | failure f => exact ⟨h1, h0⟩
        | _ => exact ends_restoreMark_bind (fun _ ↦ h1) fun _ _ _ ↦ h1
    · rw [if_neg hemp]
      simp only [mark_bind]
      cases hc : consume cx sep { s with cursor := s.cursor.mark } with
      | ok msep s1 =>
        have h1 := hsep.ok hc hs0
        simp only [bind_of_ok (outcome_of_ok hc)]
        cases hd : consume cx elem s1 with
        | ok me s2 =>
          have h2 := (helem.from h1.1 hs0).mono (fun _ _ h ↦ h) fun _ _ h ↦ h
          rw [hd] at h2
          simp only [bind_of_ok (outcome_of_ok hd)]
          refine ends_forgetMark_bind (fun _ ↦ h2.1) fun _ _ _ ↦ ?_
          refine hsome _ _ _ h2.1 (partsYield_foldl (fun _ _ ↦ rfl) [(sep, msep), (elem, me)]
            (fun y hy ↦ ?_) _ pieces pieces h0)
          rcases List.mem_pair.mp hy with rfl | rfl
          · exact ⟨.inl rfl, h1.2⟩
          · exact ⟨.inr rfl, h2.2⟩
        | error e s2 =>
          have h2 := (helem.from h1.1 hs0).mono (fun _ _ h ↦ h) fun _ _ h ↦ h
          rw [hd] at h2
          simp only [bind_of_ok (outcome_of_error hd)]
          cases e with
          | failure f =>
            simp only [record_bind]
            exact ends_restoreMark_bind (fun _ ↦ h2) fun _ _ _ ↦ ⟨h2, h0⟩
          | _ =>
            refine ends_restoreMark_bind (fun _ ↦ h2) fun _ _ _ ↦ ?_
            exact ends_restoreMark_bind (fun _ ↦ h2) fun _ _ _ ↦ h2
      | error e s1 =>
        have h1 := hsep.error hc hs0
        simp only [bind_of_ok (outcome_of_error hc)]
        cases e with
        | failure f => exact ends_restoreMark_bind (fun _ ↦ h1) fun _ _ _ ↦ ⟨h1, h0⟩
        | _ =>
          refine ends_restoreMark_bind (fun _ ↦ h1) fun _ _ _ ↦ ?_
          exact ends_restoreMark_bind (fun _ ↦ h1) fun _ _ _ ↦ h1

end Loops

/-! ### Each shape of pattern -/

section Shapes

variable {cx : Context} {rules : RuleSet} {inner : Pattern} {b : Bool}

theorem step_run_delivers (r : Run) :
    (step cx (.mk (.run r) b)).Delivers ((Pattern.mk (.run r) b).Yields rules cx.config) := by
  rw [step]
  refine (matchRun_delivers _ r).mono ?_
  rintro m ⟨t, pieces, rfl, takes, atLeast, perChar⟩
  exact .run takes atLeast perChar

theorem step_whitespace_delivers (r : Run) :
    (step cx (.mk (.whitespace r) b)).Delivers ((Pattern.mk (.whitespace r) b).Yields rules cx.config) := by
  rw [step]
  refine (matchRun_delivers _ r).mono ?_
  rintro m ⟨t, pieces, rfl, takes, atLeast, perChar⟩
  exact .whitespace takes atLeast perChar

theorem step_rule_delivers (hcx : cx.Yielding rules) (ref : RuleRef) :
    (step cx (.mk (.rule ref) b)).Delivers ((Pattern.mk (.rule ref) b).Yields rules cx.config) := by
  rw [step]
  refine (hcx.enter ref).mono ?_
  rintro m ⟨t, ht, hm⟩
  exact .rule ht hm

theorem step_nextIs_delivers (neg : Bool) {Q : Matched → Prop} (hin : (consume cx inner).Delivers Q) :
    (step cx (.mk (.nextIs neg inner) b)).Delivers ((Pattern.mk (.nextIs neg inner) b).Yields rules cx.config) := by
  intro s hs
  rw [step]
  simp only [mark_bind]
  cases hc : consume cx inner { s with cursor := s.cursor.mark } with
  | ok m s1 =>
    have h1 := (hin.ok hc hs).1
    simp only [bind_of_ok (outcome_of_ok (attempt_of_ok hc))]
    exact ends_restoreMark_bind (fun _ ↦ h1) fun _ _ _ ↦ (lookVerdict_delivers .nextIs).from h1 hs
  | error e s1 =>
    have h1 := hin.error hc hs
    cases e with
    | failure f =>
      simp only [bind_of_ok (outcome_of_ok (attempt_of_failure hc))]
      exact ends_restoreMark_bind (fun _ ↦ h1) fun _ _ _ ↦ (lookVerdict_delivers .nextIs).from h1 hs
    | _ =>
      simp only [bind_of_ok (outcome_of_error (attempt_of_error hc rfl))]
      exact ends_restoreMark_bind (fun _ ↦ h1) fun _ _ _ ↦ h1

theorem step_prevIs_delivers (neg : Bool) :
    (step cx (.mk (.prevIs neg inner) b)).Delivers ((Pattern.mk (.prevIs neg inner) b).Yields rules cx.config) := by
  intro s hs
  rw [step]
  simp only [cursor_bind]
  exact Ends.bind (scan_stays _ _ _ s) (fun _ _ hc ↦ by rw [hc]) fun _ s1 _ h1 ↦
    (lookVerdict_delivers .prevIs).from (by rw [h1]) hs

theorem step_sequence_delivers (hcx : cx.Yielding rules) {cs : List Pattern} {sep : Option Pattern} {auto : Bool}
    (hsteps : ∀ q ∈ sequenceSteps cs sep, (consume cx q).Delivers (q.Yields rules cx.config)) :
    (step cx (.mk (.sequence cs sep auto) b)).Delivers
      ((Pattern.mk (.sequence cs sep auto) b).Yields rules cx.config) := by
  intro s hs
  rw [step]
  simp only [mark_bind]
  have hsearch := (search_delivers (p := .mk (.sequence cs sep auto) b) hcx _ hsteps
    (fun _ h ↦ sizeOf_step_lt h) 0 []).from (s := { s with cursor := s.cursor.mark }) rfl hs
  cases hr : search cx (.mk (.sequence cs sep auto) b) (sequenceSteps cs sep)
      (fun _ h ↦ sizeOf_step_lt h) 0 [] { s with cursor := s.cursor.mark } with
  | ok r s1 =>
    rw [hr] at hsearch
    simp only [bind_of_ok (outcome_of_ok hr)]
    cases r with
    | done steps =>
      obtain ⟨htext, tail, rfl, hmap, each⟩ := hsearch
      exact ends_forgetMark_bind (fun _ ↦ htext) fun _ _ _ ↦ ⟨htext, .sequence _ hmap each⟩
    | stuck f j =>
      simp only [record_bind]
      exact ends_restoreMark_bind (fun _ ↦ hsearch.1) fun _ _ _ ↦ hsearch.1
  | error e s1 =>
    rw [hr] at hsearch
    simp only [bind_of_ok (outcome_of_error hr)]
    exact ends_restoreMark_bind (fun _ ↦ hsearch) fun _ _ _ ↦ hsearch

theorem step_choice_delivers {cs : List Pattern} {auto : Bool}
    (hcs : ∀ q ∈ cs, (consume cx q).Delivers (q.Yields rules cx.config)) :
    (step cx (.mk (.choice cs auto) b)).Delivers ((Pattern.mk (.choice cs auto) b).Yields rules cx.config) := by
  intro s hs
  rw [step]
  simp only [mark_bind]
  exact (choose_delivers cs (fun _ hq ↦ hq) hcs _).from rfl hs

/-- The end of a repetition or a separated list pops the list's mark and reports the items. -/
theorem ends_listEnd_delivers {s : MatchState} {T : Array Char} (htext : s.cursor.text = T) (lo : Nat)
    (p : Pattern) (items : Array Fragment) (pieces : Array Piece) {Q : Matched → Prop}
    (hq : Q ⟨.list items.toList, pieces.toList⟩) :
    Ends ((if pieces.size < lo then (restoreMark >>= fun _ ↦ fail (·.expected p))
      else (forgetMark >>= fun _ ↦ pure (⟨.list items.toList, pieces.toList⟩ : Matched))) s)
      (fun a c ↦ c.text = T ∧ Q a) (fun _ c ↦ c.text = T) := by
  split
  · exact ends_restoreMark_bind (fun _ ↦ htext) fun _ _ _ ↦ htext
  · exact ends_forgetMark_bind (fun _ ↦ htext) fun _ _ _ ↦ ⟨htext, hq⟩

theorem step_repetition_delivers {lo : Nat} {hi : Option Nat}
    (hin : (consume cx inner).Delivers (inner.Yields rules cx.config)) :
    (step cx (.mk (.repetition inner lo hi) b)).Delivers
      ((Pattern.mk (.repetition inner lo hi) b).Yields rules cx.config) := by
  intro s hs
  rw [step]
  simp only [mark_bind]
  refine Ends.bind ((rounds_delivers hin _ #[] #[] [] rfl (by simp)).from
    (s := { s with cursor := s.cursor.mark }) rfl hs) (fun _ _ h ↦ h) ?_
  rintro ⟨items, pieces⟩ s1 _ ⟨htext, rs, hitems, hlen, hrs⟩
  refine ends_listEnd_delivers htext lo _ items pieces ?_
  rw [hitems]
  exact .repetition rs pieces.toList (by simpa using hlen) hrs

theorem step_separated_delivers {sep elem : Pattern} {lo : Nat} {hi : Option Nat}
    (hsep : (consume cx sep).Delivers (sep.Yields rules cx.config))
    (helem : (consume cx elem).Delivers (elem.Yields rules cx.config)) :
    (step cx (.mk (.separated sep elem lo hi) b)).Delivers
      ((Pattern.mk (.separated sep elem lo hi) b).Yields rules cx.config) := by
  intro s hs
  rw [step]
  simp only [mark_bind]
  refine Ends.bind ((listRounds_delivers hsep helem _ #[] #[] ⟨[], rfl, by simp⟩).from
    (s := { s with cursor := s.cursor.mark }) rfl hs) (fun _ _ h ↦ h) ?_
  rintro ⟨items, pieces⟩ s1 _ ⟨htext, parts, hitems, hparts⟩
  refine ends_listEnd_delivers htext lo _ items pieces ?_
  rw [hitems]
  exact .separated parts pieces.toList (fun x hx ↦ (hparts x hx).1) fun x hx ↦ (hparts x hx).2

theorem step_group_delivers (hin : (consume cx inner).Delivers (inner.Yields rules cx.config)) :
    (step cx (.mk (.group inner) b)).Delivers ((Pattern.mk (.group inner) b).Yields rules cx.config) := by
  intro s hs
  rw [step]
  simp only [position_bind]
  refine Ends.bind (hin s hs) (fun _ _ h ↦ h) fun m s1 _ h1 ↦ ?_
  simp only [cursor_bind, pure_apply, ends_ok, Pattern.group_fragment]
  exact ⟨h1.1, .group h1.2⟩

theorem step_flatten_delivers (hin : (consume cx inner).Delivers (inner.Yields rules cx.config)) :
    (step cx (.mk (.flatten inner) b)).Delivers ((Pattern.mk (.flatten inner) b).Yields rules cx.config) := by
  intro s hs
  rw [step]
  exact Ends.bind (hin s hs) (fun _ _ h ↦ h) fun m s1 _ h1 ↦ ⟨h1.1, .flatten h1.2⟩

theorem step_select_delivers {sel : Selection} (hin : (consume cx inner).Delivers (inner.Yields rules cx.config)) :
    (step cx (.mk (.select inner sel) b)).Delivers ((Pattern.mk (.select inner sel) b).Yields rules cx.config) := by
  intro s hs
  rw [step]
  exact Ends.bind (hin s hs) (fun _ _ h ↦ h) fun m s1 _ h1 ↦ ⟨h1.1, .select h1.2⟩

theorem step_token_delivers (hin : (consume cx inner).Delivers (inner.Yields rules cx.config)) :
    (step cx (.mk (.token inner) b)).Delivers ((Pattern.mk (.token inner) b).Yields rules cx.config) := by
  intro s hs
  rw [step]
  simp only [mark_bind, skipWhitespace_bind]
  cases hc : consume cx inner
      { s with cursor := s.cursor.mark.advance ((s.cursor.mark.rest.takeWhile cx.config.isWhitespace).length) } with
  | ok m s1 =>
    have h1 := hin.ok hc hs
    simp only [bind_of_ok (outcome_of_ok hc), skipWhitespace_bind]
    exact ends_forgetMark_bind (fun _ ↦ h1.1) fun _ _ _ ↦ ⟨h1.1, .token h1.2⟩
  | error e s1 =>
    have h1 := hin.error hc hs
    simp only [bind_of_ok (outcome_of_error hc)]
    exact ends_restoreMark_bind (fun _ ↦ h1) fun _ _ _ ↦ h1

/-- A grammar yields its body's fragment under its name; a rejected match is a failure. -/
theorem step_grammar_delivers (hcx : cx.Yielding rules) {tag : Nat} {name : String} {bad : Option Pattern}
    (hin : (consume cx inner).Delivers (inner.Yields rules cx.config)) :
    (step cx (.mk (.embed tag (.grammar name inner bad)) b)).Delivers
      ((Pattern.mk (.embed tag (.grammar name inner bad)) b).Yields rules cx.config) := by
  intro s hs
  rw [step]
  simp only [position_bind]
  refine Ends.bind (hin s hs) (fun _ _ h ↦ h) fun m s1 _ h1 ↦ ?_
  cases bad with
  | none => exact ⟨h1.1, .grammar h1.2⟩
  | some bad =>
    refine Ends.bind ((hcx.rejects bad _).from h1.1 hs) (fun _ _ h ↦ h) fun rejected s2 _ h2 ↦ ?_
    cases rejected with
    | true =>
      simp only [if_true, record_bind, cursor_bind, setCursor_bind, fail_apply, ends_error]
      exact h2.1
    | false => exact ⟨h2.1, .grammar h1.2⟩

theorem step_unbalanced_delivers {tag : Nat} :
    (step cx (.mk (.embed tag .unbalanced) b)).Delivers
      ((Pattern.mk (.embed tag .unbalanced) b).Yields rules cx.config) := by
  intro s _
  rw [step]
  simp only [moveCursor_bind]
  exact ends_forgetMark_bind (fun _ ↦ rfl) fun _ _ _ ↦ ⟨rfl, .unbalanced⟩

end Shapes

/-! ### Every pattern -/

/-- Every pattern delivers what it yields in every context whose rules and checks do: by
recursion on the size of the pattern, each shape from its own lemma. -/
theorem consume_delivers {cx : Context} {rules : RuleSet} (hcx : cx.Yielding rules) (p : Pattern) :
    (consume cx p).Delivers (p.Yields rules cx.config) := by
  obtain ⟨shape, b⟩ := p
  cases shape with
  | char cls => exact .of_step (by rw [step]; exact matchChar_delivers _ _)
  | run r => exact .of_step (step_run_delivers r)
  | whitespace r => exact .of_step (step_whitespace_delivers r)
  | literal t => exact .of_step (by rw [step]; exact matchLiteral_delivers _ _)
  | regex rx => exact .of_step (by rw [step]; exact matchRegex_delivers _ _)
  | boundary k => exact .of_step (by rw [step]; exact matchBoundary_delivers _ _)
  | nextIs neg inner => exact .of_step (step_nextIs_delivers neg (consume_delivers hcx inner))
  | prevIs neg inner => exact .of_step (step_prevIs_delivers neg)
  | sequence cs sep auto => exact .of_step (step_sequence_delivers hcx fun q _ ↦ consume_delivers hcx q)
  | choice cs auto => exact .of_step (step_choice_delivers fun q _ ↦ consume_delivers hcx q)
  | repetition inner lo hi => exact .of_step (step_repetition_delivers (consume_delivers hcx inner))
  | separated sep elem lo hi =>
    exact .of_step (step_separated_delivers (consume_delivers hcx sep) (consume_delivers hcx elem))
  | group inner => exact .of_step (step_group_delivers (consume_delivers hcx inner))
  | flatten inner => exact .of_step (step_flatten_delivers (consume_delivers hcx inner))
  | select inner sel => exact .of_step (step_select_delivers (consume_delivers hcx inner))
  | token inner => exact .of_step (step_token_delivers (consume_delivers hcx inner))
  | rule ref => exact .of_step (step_rule_delivers hcx ref)
  | embed tag em =>
    cases em with
    | grammar name body bad => exact .of_step (step_grammar_delivers hcx (consume_delivers hcx body))
    | shared inner =>
      exact .of_step (by rw [step]; exact (consume_delivers hcx inner).mono fun _ hm ↦ .shared hm)
    | broken => exact .of_step (by intro s _; rw [step]; exact rfl)
    | unbalanced => exact .of_step step_unbalanced_delivers
termination_by sizeOf p
decreasing_by
  all_goals first
    | (simp only [Pattern.mk.sizeOf_spec, Shape.nextIs.sizeOf_spec,
        Shape.repetition.sizeOf_spec, Shape.separated.sizeOf_spec, Shape.group.sizeOf_spec,
        Shape.flatten.sizeOf_spec, Shape.select.sizeOf_spec, Shape.token.sizeOf_spec,
        Shape.embed.sizeOf_spec, Embedded.shared.sizeOf_spec, Embedded.grammar.sizeOf_spec]; omega)
    | exact sizeOf_step_lt ‹_›
    | exact sizeOf_choice_lt ‹_›

end Engine

open Engine

/-- Matching under a rule set delivers what patterns yield at every depth: entering a rule
either stops at once or matches its pattern one level deeper, a check runs on a cursor of its
own, and giving back follows the patterns. -/
theorem contextAt_yielding (rules : RuleSet) (config : Config) (checks depth : Nat) :
    (contextAt rules config checks depth).Yielding rules := by
  have hconfig : ∀ d, (contextAt rules config checks d).config = config := fun d ↦ by rw [contextAt]
  refine ⟨fun ref s hs ↦ ?_, fun bad text s _ ↦ ?_, fun q m r hm hg ↦ ?_⟩
  · rw [hconfig]
    rw [contextAt]
    dsimp only
    cases ht : rules.target? ref with
    | none => exact rfl
    | some t =>
      by_cases hd : depth < config.maxDepth
      · simp only [if_pos hd]
        rw [consumeAt]
        have hdeeper := consume_delivers (contextAt_yielding rules config checks (depth + 1)) t s hs
        rw [hconfig] at hdeeper
        exact hdeeper.mono (fun _ _ hc ↦ ⟨hc.1, t, rfl, hc.2⟩) fun _ _ hc ↦ hc
      · simp only [if_neg hd]
        exact rfl
  · exact (rejects_cursor rules config checks depth bad text s).mono (fun _ _ hc ↦ ⟨by rw [hc], trivial⟩)
      fun _ _ hc ↦ by rw [hc.1]
  · rw [contextAt] at hg
    exact hm.giveBack hg
termination_by config.maxDepth - depth
decreasing_by all_goals omega

/-- What a pattern yields, for a match under any rule set, at any depth and with any allowance
of checks, from any cursor whose text has fewer than `2 ^ 64` characters. -/
theorem consumeAt_yields {rules : RuleSet} {config : Config} {checks depth : Nat} {p : Pattern}
    {s s' : MatchState} {m : Matched} (hs : s.cursor.size < Word.size)
    (h : consumeAt rules config checks depth p s = .ok m s') : p.Yields rules config m := by
  rw [consumeAt] at h
  have hyields := ((consume_delivers (contextAt_yielding rules config checks depth) p).ok h hs).2
  rwa [show (contextAt rules config checks depth).config = config by rw [contextAt]] at hyields


/-! ### Reading a shape back

Each constructor of `Pattern.Yields` is read back by one lemma, so that what a pattern of a
known shape yields is found without a case analysis on the relation. -/

namespace Pattern.Yields

variable {rules : RuleSet} {cfg : Config} {b : Bool} {m : Matched}

theorem literal_inv {t : String} (h : (mk (.literal t) b).Yields rules cfg m) : m = .fixed (.text t) := by
  cases h
  rfl

theorem char_inv {cls : CharClass} (h : (mk (.char cls) b).Yields rules cfg m) :
    ∃ ch, cls.accepts ch ∧ m = .fixed (.text (String.singleton ch)) := by
  cases h with
  | char accepts => exact ⟨_, accepts, rfl⟩

theorem run_inv {r : Run} (h : (mk (.run r) b).Yields rules cfg m) :
    ∃ t pieces, (∀ ch ∈ t.toList, r.takes cfg ch) ∧ r.min ≤ t.length ∧ m = ⟨.text t, pieces⟩ := by
  cases h with
  | run takes atLeast _ => exact ⟨_, _, takes, atLeast, rfl⟩

theorem nextIs_inv {neg : Bool} {inner : Pattern} (h : (mk (.nextIs neg inner) b).Yields rules cfg m) :
    m = .fixed .empty := by
  cases h
  rfl

theorem nextIs_text {neg : Bool} {inner : Pattern} (h : (mk (.nextIs neg inner) b).Yields rules cfg m) :
    m.fragment.toText = "" := by
  rw [nextIs_inv h]
  rfl

theorem sequence_inv {cs : List Pattern} {sep : Option Pattern} {auto : Bool}
    (h : (mk (.sequence cs sep auto) b).Yields rules cfg m) :
    ∃ ms, List.Forall₂ (Yields rules cfg) (sequenceSteps cs sep) ms ∧
      m = .fixed (.list (sequenceItems ((sequenceSteps cs sep).zip ms))) := by
  cases h with
  | sequence steps inOrder each =>
    refine ⟨steps.map Prod.snd, ?_, ?_⟩
    · rw [← inOrder, List.forall₂_map_left_iff, List.forall₂_map_right_iff, List.forall₂_same]
      exact each
    · rw [← List.zip_of_prod inOrder rfl]

theorem choice_inv {cs : List Pattern} {auto : Bool} (h : (mk (.choice cs auto) b).Yields rules cfg m) :
    ∃ q ∈ cs, ∃ mq, q.Yields rules cfg mq ∧ m = .fixed mq.fragment := by
  cases h with
  | choice mem chosen => exact ⟨_, mem, _, chosen, rfl⟩

theorem repetition_inv {inner : Pattern} {lo : Nat} {hi : Option Nat}
    (h : (mk (.repetition inner lo hi) b).Yields rules cfg m) :
    ∃ (rounds : List Matched) (pieces : List Piece), rounds.length ≤ hi.getD Word.size ∧
      (∀ r ∈ rounds, inner.Yields rules cfg r) ∧ m = ⟨.list (rounds.map (·.fragment)), pieces⟩ := by
  cases h with
  | repetition rounds pieces bounded each => exact ⟨rounds, pieces, bounded, each, rfl⟩

theorem group_inv {inner : Pattern} (h : (mk (.group inner) b).Yields rules cfg m) :
    ∃ mi, inner.Yields rules cfg mi ∧ m = .fixed (.text mi.fragment.toText) := by
  cases h with
  | group body => exact ⟨_, body, rfl⟩

theorem token_inv {inner : Pattern} (h : (mk (.token inner) b).Yields rules cfg m) :
    ∃ mi, inner.Yields rules cfg mi ∧ m = .fixed mi.fragment := by
  cases h with
  | token body => exact ⟨_, body, rfl⟩

theorem rule_inv {ref : RuleRef} (h : (mk (.rule ref) b).Yields rules cfg m) :
    ∃ t, rules.target? ref = some t ∧ t.Yields rules cfg m := by
  cases h with
  | rule target body => exact ⟨_, target, body⟩

theorem grammar_inv {tag : Nat} {name : String} {body : Pattern} {bad : Option Pattern}
    (h : (mk (.embed tag (.grammar name body bad)) b).Yields rules cfg m) :
    ∃ mb, body.Yields rules cfg mb ∧ m = .fixed (.named name mb.fragment) := by
  cases h with
  | grammar inner => exact ⟨_, inner, rfl⟩

end Pattern.Yields

theorem sequenceItems_cons_of_kept {p : Pattern} {mp : Matched} {rest : List (Pattern × Matched)}
    (hp : p.suppressed = false) (hm : mp.fragment.isNothing = false) :
    sequenceItems ((p, mp) :: rest) = mp.fragment :: sequenceItems rest := by
  simp [sequenceItems, hp, hm]

theorem sequenceItems_cons_of_suppressed {p : Pattern} {mp : Matched} {rest : List (Pattern × Matched)}
    (hp : p.suppressed = true) : sequenceItems ((p, mp) :: rest) = sequenceItems rest := by
  simp [sequenceItems, hp]

namespace Pattern

variable {rules : RuleSet} {cfg : Config} {m : Matched}

/-- The text of a sequence joins the texts of its steps, when every step it leaves out for being
suppressed yields no text. -/
theorem listText_sequenceItems {ps : List Pattern} {ms : List Matched}
    (hquiet : ∀ p ∈ ps, p.suppressed = true → ∀ mp, p.Yields rules cfg mp → mp.fragment.toText = "")
    (hms : List.Forall₂ (Yields rules cfg) ps ms) :
    Fragment.listText (sequenceItems (ps.zip ms)) = Fragment.listText (ms.map (·.fragment)) := by
  induction hms with
  | nil => rfl
  | @cons p mp ps ms hp _ ih =>
    have ih' := ih fun q hq ↦ hquiet q (List.mem_cons_of_mem _ hq)
    by_cases hkeep : (!p.suppressed && !mp.fragment.isNothing) = true
    · simp only [sequenceItems, List.zip_cons_cons, List.filter_cons, hkeep, if_true, List.map_cons,
        Fragment.listText] at ih' ⊢
      rw [ih']
    · have hnone : mp.fragment.toText = "" := by
        cases hs : p.suppressed
        · cases hf : mp.fragment <;> simp_all [Fragment.isNothing, Fragment.toText]
        · exact hquiet p (List.mem_cons_self ..) hs mp hp
      simp only [sequenceItems, List.zip_cons_cons, List.filter_cons, hkeep, Bool.false_eq_true, if_false,
        List.map_cons, Fragment.listText] at ih' ⊢
      rw [ih', hnone, String.empty_append]

theorem sequence_text {ps : List Pattern} {auto b : Bool}
    (hquiet : ∀ p ∈ ps, p.suppressed = true → ∀ mp, p.Yields rules cfg mp → mp.fragment.toText = "")
    (h : (mk (.sequence ps none auto) b).Yields rules cfg m) :
    ∃ ms, List.Forall₂ (Yields rules cfg) ps ms ∧
      m.fragment.toText = Fragment.listText (ms.map (·.fragment)) := by
  obtain ⟨ms, hms, rfl⟩ := Yields.sequence_inv h
  exact ⟨ms, hms, listText_sequenceItems hquiet hms⟩

theorem optional_text {p : Pattern} (h : (optional p).Yields rules cfg m) :
    m.fragment.toText = "" ∨ ∃ r, p.Yields rules cfg r ∧ m.fragment.toText = r.fragment.toText := by
  obtain ⟨rounds, pieces, hbound, heach, rfl⟩ := Yields.repetition_inv h
  rcases rounds with _ | ⟨r, _ | ⟨r', rounds⟩⟩
  · exact .inl rfl
  · exact .inr ⟨r, heach r (List.mem_singleton_self r), by simp [Fragment.toText, Fragment.listText]⟩
  · simp at hbound

/-- Steps that are all kept leave out nothing, so `sequence_text` needs no more of them. -/
theorem quiet_of_unsuppressed {ps : List Pattern} (h : ps.all (fun p ↦ !p.suppressed) = true) :
    ∀ p ∈ ps, p.suppressed = true → ∀ mp, p.Yields rules cfg mp → mp.fragment.toText = "" := by
  intro p hp hs
  have hkept := List.all_eq_true.mp h p hp
  rw [hs] at hkept
  nomatch hkept

end Pattern

end Backtrack
