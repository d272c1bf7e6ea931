import Backtrack.Proofs.Offers

/-!
# Offers read off the characters after the position

Most shapes offer ends that depend only on the characters after the position, as lengths from
it. A pattern reads `f` (`Engine.Reads`) when it offers, from every position `i`, `i` plus the
lengths that `f` gives on the characters from `i` on. Lookaheads, optional parts, groups,
sequences and choices of patterns that read read as well, and the search over the steps of a
sequence reaches the first length that `firstLen` gives. What a pattern built from these shapes
matches is then a function on lists of characters, with no positions left, and the lemmas at
the end evaluate it one step at a time.

Main statements: `firstEnd_shifted`, `reads_sequence`.
-/

namespace Backtrack

namespace CharClass

theorem accepts_of (s : String) (ch : Char) : (CharClass.of s).accepts ch = decide (ch ∈ s.toList) := by
  simp [accepts, of]

theorem accepts_notOf (s : String) (ch : Char) :
    (CharClass.notOf s).accepts ch = decide (ch ∉ s.toList) := by
  simp [accepts, notOf]

end CharClass

/-- An unbounded run of a class that is not the configured whitespace takes the longest prefix
that the class accepts. -/
theorem Run.count_unbounded (cls : CharClass) (lo : Nat) (cfg : Config) (l : List Char) :
    Run.count ⟨cls, lo, none, false⟩ cfg l = (l.takeWhile cls.accepts).length := by
  simp [Run.count]

namespace Engine

/-- The ends `f` gives from each position of `T`, as lengths from it. -/
def shifted (T : Array Char) (f : List Char → List Nat) (i : Nat) : List Nat :=
  (f (T.toList.drop i)).map (i + ·)

/-- `q` offers, from every position `i` of `T`, `i` plus the lengths that `f` reads off the
characters from `i` on. -/
def Reads (cx : Context) (T : Array Char) (q : Pattern) (f : List Char → List Nat) : Prop :=
  Offers cx T q (shifted T f)

/-- The length from the start of `l` that a search over steps reading `fs` reaches. -/
def firstLen : List (List Char → List Nat) → List Char → Option Nat
  | [], _ => some 0
  | f :: fs, l => (f l).findSome? fun k ↦ (firstLen fs (l.drop k)).map (k + ·)

/-- What a literal reads: its length, where the characters start with it. -/
def literalLens (t : String) (l : List Char) : List Nat := if t.toList <+: l then [t.length] else []

/-- What one character of a class reads. -/
def charLens (cls : CharClass) (l : List Char) : List Nat :=
  match l.head? with
  | some ch => if cls.accepts ch then [1] else []
  | none => []

/-- What a run reads: as many characters as it takes, then one fewer at a time down to its
minimum. -/
def runLens (cfg : Config) (r : Run) (l : List Char) : List Nat :=
  if r.count cfg l < r.min then [] else r.count cfg l :: countDown (r.count cfg l) (r.count cfg l - r.min)

/-- What the end of the text reads. -/
def endLens (l : List Char) : List Nat := if l = [] then [0] else []

/-- What a lookahead reads, when its pattern reads `f`. -/
def lookLens (f : List Char → List Nat) (neg : Bool) (l : List Char) : List Nat :=
  if (f l).isEmpty = neg then [0] else []

/-- What an optional pattern reads: past the pattern's first match, then nothing. -/
def optionalLens (f : List Char → List Nat) (l : List Char) : List Nat :=
  match (f l).head? with
  | none => [0]
  | some k => if k = 0 then [0] else [k, 0]

/-- What a group reads: its pattern's first length. -/
def groupLens (f : List Char → List Nat) (l : List Char) : List Nat := (f l).take 1

/-- What a sequence reads: the length its search reaches. -/
def sequenceLens (fs : List (List Char → List Nat)) (l : List Char) : List Nat := (firstLen fs l).toList

/-- What a choice reads: the first length of the first alternative that reads one. -/
def choiceLens (fs : List (List Char → List Nat)) (l : List Char) : List Nat :=
  (fs.findSome? fun f ↦ (f l).head?).toList

/-- Counting down from a later end is counting down from the earlier one, moved. The induction is
on the count. -/
theorem countDown_add (i : Nat) : ∀ {e n : Nat}, n ≤ e → countDown (i + e) n = (countDown e n).map (i + ·)
  | _, 0, _ => rfl
  | e, n + 1, h => by
    rw [countDown, countDown, List.map_cons, show i + e - 1 = i + (e - 1) by omega,
      countDown_add i (by omega : n ≤ e - 1)]

/-- The search over steps that read reaches, from `i`, `i` plus the first length of the steps on
the characters from `i` on. The induction is on the steps. -/
theorem firstEnd_shifted (T : Array Char) :
    ∀ (fs : List (List Char → List Nat)) (i : Nat),
      firstEnd (fs.map (shifted T)) i = (firstLen fs (T.toList.drop i)).map (i + ·)
  | [], i => by simp [firstEnd, firstLen]
  | f :: fs, i => by
    simp only [List.map_cons, firstEnd, firstLen, shifted, List.findSome?_map, Function.comp_def,
      firstEnd_shifted T fs, List.drop_drop]
    rw [List.map_findSome?]
    simp only [Option.map_map, Function.comp_def, Nat.add_assoc]

theorem firstHead_shifted (T : Array Char) (fs : List (List Char → List Nat)) (i : Nat) :
    firstHead (fs.map (shifted T)) i = (fs.findSome? fun f ↦ (f (T.toList.drop i)).head?).map (i + ·) := by
  simp only [firstHead, List.findSome?_map, Function.comp_def, shifted, List.head?_map]
  rw [List.map_findSome?]
  simp only [Function.comp_def]

/-- An optional part offers past its pattern's first match, then the position itself. -/
theorem repetitionEnds_optional (o : Nat → List Nat) (i : Nat) :
    repetitionEnds o 0 (some 1) i =
      match (o i).head? with
      | none => [i]
      | some e => if e = i then [i] else [e, i] := by
  unfold repetitionEnds
  simp only [Option.getD_some, roundEnds]
  cases (o i).head? with
  | none => rfl
  | some e =>
    by_cases h : e = i
    · simp [h]
    · simp [h]

section Shapes

variable {cx : Context} {rules : RuleSet} {budget : Nat} {T : Array Char}

theorem Reads.of_offers {q : Pattern} {o : Nat → List Nat} {f : List Char → List Nat}
    (h : Offers cx T q o) (ho : ∀ i, o i = shifted T f i) : Reads cx T q f := by
  have heq : o = shifted T f := funext ho
  subst heq
  exact h

variable (hcx : cx.Measures rules budget) (hT : T.size < Word.size)
include hcx hT

theorem reads_literal (t : String) (b : Bool) : Reads cx T (.mk (.literal t) b) (literalLens t) := by
  refine .of_offers (offers_literal hcx hT t b) fun i ↦ ?_
  unfold literalEnds shifted literalLens
  split_ifs <;> rfl

theorem reads_char (cls : CharClass) (b : Bool) : Reads cx T (.mk (.char cls) b) (charLens cls) := by
  refine .of_offers (offers_char hcx hT cls b) fun i ↦ ?_
  unfold charEnds shifted charLens
  cases (T.toList.drop i).head? with
  | none => rfl
  | some ch =>
    dsimp only
    split_ifs <;> rfl

theorem reads_run (r : Run) (b : Bool) : Reads cx T (.mk (.run r) b) (runLens cx.config r) := by
  refine .of_offers (offers_run hcx hT r b) fun i ↦ ?_
  unfold runEnds shifted runLens
  split_ifs
  · rfl
  · rw [List.map_cons, countDown_add i (Nat.sub_le _ _)]

omit hT in
theorem reads_stringEnd (b : Bool) : Reads cx T (.mk (.boundary .stringEnd) b) endLens := by
  refine .of_offers (offers_boundary hcx .stringEnd b) fun i ↦ ?_
  have hend : Boundary.holds .stringEnd ⟨T, i, []⟩ = true ↔ T.toList.drop i = [] := by
    simp [Boundary.holds, Cursor.atEnd, Cursor.size]
  unfold boundaryEnds shifted endLens
  by_cases h : T.toList.drop i = []
  · simp [hend.mpr h, h]
  · simp [mt hend.mp h, h]

omit hT in
theorem reads_nextIs (hfr : cx.Frames) {q : Pattern} {f : List Char → List Nat} (hq : Reads cx T q f)
    (hqf : OnlyFails (consume cx q)) (hT : T.size < Word.size) (neg b : Bool) :
    Reads cx T (.mk (.nextIs neg q) b) (lookLens f neg) := by
  refine .of_offers (offers_nextIs hcx hfr hq hqf hT neg b) fun i ↦ ?_
  unfold lookEnds shifted lookLens
  rw [List.isEmpty_map]
  split_ifs <;> rfl

omit hT in
theorem reads_optional {q : Pattern} {f : List Char → List Nat} (hq : Reads cx T q f)
    (hT : T.size < Word.size) (b : Bool) :
    Reads cx T (.mk (.repetition q 0 (some 1)) b) (optionalLens f) := by
  refine .of_offers (offers_repetition hcx hq hT 0 (some 1) b) fun i ↦ ?_
  rw [repetitionEnds_optional]
  unfold shifted optionalLens
  rw [List.head?_map]
  cases (f (T.toList.drop i)).head? with
  | none => rfl
  | some k =>
    by_cases hk : k = 0
    · simp [hk]
    · simp [hk]

omit hT in
theorem reads_group {q : Pattern} {f : List Char → List Nat} (hq : Reads cx T q f) (b : Bool) :
    Reads cx T (.mk (.group q) b) (groupLens f) := by
  refine .of_offers (offers_group hcx hq b) fun i ↦ ?_
  unfold groupEnds shifted groupLens
  rw [List.map_take]

omit hT in
theorem reads_sequence {cs : List Pattern} {fs : List (List Char → List Nat)}
    (hcs : List.Forall₂ (Reads cx T) cs fs) (auto b : Bool) :
    Reads cx T (.mk (.sequence cs none auto) b) (sequenceLens fs) := by
  have hoffers : List.Forall₂ (Offers cx T) cs (fs.map (shifted T)) := List.forall₂_map_right_iff.mpr hcs
  refine .of_offers (offers_sequence hcx hoffers auto b) fun i ↦ ?_
  unfold sequenceEnds
  rw [firstEnd_shifted]
  unfold shifted sequenceLens
  cases firstLen fs (T.toList.drop i) <;> rfl

omit hT in
theorem reads_choice {cs : List Pattern} {fs : List (List Char → List Nat)}
    (hcs : List.Forall₂ (Reads cx T) cs fs) (auto b : Bool) :
    Reads cx T (.mk (.choice cs auto) b) (choiceLens fs) := by
  have hoffers : List.Forall₂ (Offers cx T) cs (fs.map (shifted T)) := List.forall₂_map_right_iff.mpr hcs
  refine .of_offers (offers_choice hcx hoffers auto b) fun i ↦ ?_
  unfold choiceEnds
  rw [firstHead_shifted]
  unfold shifted choiceLens
  cases fs.findSome? (fun f ↦ (f (T.toList.drop i)).head?) <;> rfl

end Shapes

/-! ### Evaluating a search step by step -/

section Evaluate

variable {f : List Char → List Nat} {fs : List (List Char → List Nat)} {l : List Char}

/-- A step that reads nothing stops the search. -/
theorem firstLen_of_nil (h : f l = []) : firstLen (f :: fs) l = none := by
  simp [firstLen, h]

/-- A step that reads one length hands the rest of the characters on. -/
theorem firstLen_of_single {k : Nat} (h : f l = [k]) :
    firstLen (f :: fs) l = (firstLen fs (l.drop k)).map (k + ·) := by
  simp only [firstLen, h, List.findSome?_cons, List.findSome?_nil]
  cases firstLen fs (l.drop k) <;> rfl

/-- An optional step tries the longer reading first. -/
theorem firstLen_of_pair {k : Nat} (h : f l = [k, 0]) :
    firstLen (f :: fs) l = ((firstLen fs (l.drop k)).map (k + ·)).or (firstLen fs l) := by
  simp only [firstLen, h, List.findSome?_cons, List.findSome?_nil, List.drop_zero]
  cases firstLen fs (l.drop k) <;> cases firstLen fs l <;> simp

/-- From the start of the text, a reading's first length is its first end. -/
theorem head?_shifted_zero (T : Array Char) (f : List Char → List Nat) :
    (shifted T f 0).head? = (f T.toList).head? := by
  simp [shifted]

theorem literalLens_of_startsWith {t : String} (h : t.toList <+: l) : literalLens t l = [t.length] := by
  simp [literalLens, h]

theorem literalLens_of_not_startsWith {t : String} (h : ¬t.toList <+: l) : literalLens t l = [] := by
  simp [literalLens, h]

theorem charLens_cons (cls : CharClass) (ch : Char) (rest : List Char) :
    charLens cls (ch :: rest) = if cls.accepts ch then [1] else [] := rfl

/-- A literal step reads its text off the front, and the search goes on after it. -/
theorem firstLen_literal {t : String} {n : Nat} :
    firstLen (literalLens t :: fs) l = some n ↔
      ∃ rest k, l = t.toList ++ rest ∧ firstLen fs rest = some k ∧ n = t.length + k := by
  by_cases hp : t.toList <+: l
  · obtain ⟨rest, rfl⟩ := hp
    rw [firstLen_of_single (literalLens_of_startsWith (List.prefix_append _ _)), ← String.length_toList,
      List.drop_left]
    constructor
    · intro h
      obtain ⟨k, hk, rfl⟩ := Option.map_eq_some_iff.mp h
      exact ⟨rest, k, rfl, hk, rfl⟩
    · rintro ⟨rest', k, hl, hk, rfl⟩
      rw [List.append_cancel_left hl, hk]
      rfl
  · rw [firstLen_of_nil (literalLens_of_not_startsWith hp)]
    simp only [reduceCtorEq, false_iff, not_exists, not_and]
    rintro rest k rfl
    exact absurd (List.prefix_append _ _) hp

/-- A step of one character of a class reads it off the front, and the search goes on after it. -/
theorem firstLen_char {cls : CharClass} {n : Nat} :
    firstLen (charLens cls :: fs) l = some n ↔
      ∃ ch rest k, l = ch :: rest ∧ cls.accepts ch ∧ firstLen fs rest = some k ∧ n = 1 + k := by
  rcases l with _ | ⟨ch, rest⟩
  · simp [firstLen, charLens]
  by_cases hc : cls.accepts ch
  · rw [firstLen_of_single (by rw [charLens_cons, if_pos hc]), List.drop_one, List.tail_cons]
    constructor
    · intro h
      obtain ⟨k, hk, rfl⟩ := Option.map_eq_some_iff.mp h
      exact ⟨ch, rest, k, rfl, hc, hk, rfl⟩
    · rintro ⟨ch', rest', k, hl, -, hk, rfl⟩
      cases hl
      rw [hk]
      rfl
  · rw [firstLen_of_nil (by rw [charLens_cons, if_neg hc])]
    simp only [reduceCtorEq, false_iff, not_exists, not_and]
    rintro ch' rest' k hl hc' - -
    cases hl
    exact hc hc'

/-- A group of a sequence reads the length the sequence's search reaches first. -/
theorem head_groupLens_sequenceLens : (groupLens (sequenceLens fs) l).head? = firstLen fs l := by
  cases h : firstLen fs l <;> simp [groupLens, sequenceLens, h]

/-- A group of a choice reads the first length of the first alternative that reads one. -/
theorem head_groupLens_choiceLens :
    (groupLens (choiceLens fs) l).head? = fs.findSome? fun f ↦ (f l).head? := by
  cases h : fs.findSome? (fun f ↦ (f l).head?) <;> simp [groupLens, choiceLens, h]

end Evaluate

end Engine

end Backtrack
