import Backtrack.Proofs.NumberGrammars

/-!
# Reserved words and the identifiers that avoid them

`reservedWord name words` tries the words in order, each followed by a word end. A word end
after the last character of a word, itself a word character, holds exactly when no word
character follows; so a word matches only as the whole run of word characters at the position
(`wordRun`). The order of the words then cannot matter: the grammar parses a text exactly when
the run of word characters at its start is one of the words, and yields that run.

`pythonVariable` matches a greedy identifier and checks it against the reserved words of Python,
anchored at both ends of the identifier's text. Every identifier character is a word character,
so there the run of word characters is the whole identifier, and the check rejects exactly the
identifiers that are reserved words.

Main statement: `reserved_words_parse`.
-/

namespace Backtrack

namespace Grammar

open Engine Pattern

/-! ### Runs of word characters -/

/-- The longest run of word characters at the start of `l`. -/
def wordRun (l : List Char) : List Char := l.takeWhile isWordChar

/-- The characters of an identifier after its first: letters, digits and the underscore. -/
def identifierChars : String := letters ++ digits ++ "_"

/-- The longest run of identifier characters at the start of `l`. -/
def identifierRun (l : List Char) : List Char := l.takeWhile fun ch ↦ decide (ch ∈ identifierChars.toList)

/-- A run stops at `w` exactly when the characters start with `w`, every character of which
passes, and the character after it, if any, does not. -/
theorem takeWhile_eq_iff {p : Char → Bool} {w l : List Char} (hw : ∀ ch ∈ w, p ch) :
    l.takeWhile p = w ↔ w <+: l ∧ ((l.drop w.length).head?.any p) = false := by
  constructor
  · rintro rfl
    refine ⟨List.takeWhile_prefix p, ?_⟩
    have hdrop : l.drop (l.takeWhile p).length = l.dropWhile p := by
      calc l.drop (l.takeWhile p).length = (l.takeWhile p ++ l.dropWhile p).drop (l.takeWhile p).length := by
            rw [List.takeWhile_append_dropWhile]
        _ = l.dropWhile p := List.drop_left
    have hnot := List.head?_dropWhile_not p l
    rw [hdrop]
    cases hd : (l.dropWhile p).head? with
    | none => rfl
    | some x =>
      rw [hd] at hnot
      simpa using hnot
  · rintro ⟨⟨rest, rfl⟩, hnext⟩
    rw [List.takeWhile_append_of_pos hw]
    rw [List.drop_left] at hnext
    cases rest with
    | nil => simp
    | cons x xs =>
      simp only [List.head?_cons, Option.any_some] at hnext
      simp [List.takeWhile_cons_of_neg (by simpa using hnext)]

/-- Every identifier character is a word character. -/
theorem isWordChar_of_identifierChars : ∀ ch ∈ identifierChars.toList, isWordChar ch = true := by
  -- one goal per character: the kernel decides each, but not the membership test over the list
  simp only [identifierChars, letters, digits, String.toList_append, String.reduceToList, List.cons_append,
    List.nil_append, List.forall_mem_cons, List.not_mem_nil, IsEmpty.forall_iff, implies_true, and_true]
  and_intros
  all_goals decide +kernel

/-- A run of identifier characters is its own run of word characters. -/
theorem wordRun_identifierRun (l : List Char) : wordRun (identifierRun l) = identifierRun l := by
  rw [wordRun, List.takeWhile_eq_self_iff]
  intro ch hch
  exact isWordChar_of_identifierChars ch (by simpa using List.mem_takeWhile_imp hch)

/-! ### A word followed by a word end -/

/-- What a word followed by a word end reads: its length, where the run of word characters is
the word. -/
def wordLens (w : String) (l : List Char) : List Nat := if wordRun l = w.toList then [w.length] else []

/-- What a choice among such words reads. -/
def reservedLens (words : List String) : List Char → List Nat := choiceLens (words.map wordLens)

/-- Right after a nonempty run of word characters, a word end holds exactly when no word
character follows. -/
theorem wordEnd_holds_after {T : Array Char} {i : Nat} {w : List Char} (hne : w ≠ [])
    (hwc : ∀ ch ∈ w, isWordChar ch) (hpre : w <+: T.toList.drop i) :
    Boundary.holds .wordEnd ⟨T, i + w.length, []⟩ = !(((T.toList.drop i).drop w.length).head?.any isWordChar) := by
  obtain ⟨rest, hrest⟩ := hpre
  have hlen : 0 < w.length := List.length_pos_of_ne_nil hne
  -- the character before the end is the last one of the word
  have hprev : (T[i + w.length - 1]?).any isWordChar = true := by
    have hlast : w.length - 1 < w.length := by omega
    have hget : T[i + w.length - 1]? = some w[w.length - 1] := by
      rw [show i + w.length - 1 = i + (w.length - 1) by omega, ← Array.getElem?_toList, ← List.getElem?_drop,
        ← hrest, List.getElem?_append_left hlast, List.getElem?_eq_getElem hlast]
    rw [hget]
    exact hwc _ (List.getElem_mem hlast)
  have hpeek : T[i + w.length]? = ((T.toList.drop i).drop w.length).head? := by
    rw [List.head?_drop, List.getElem?_drop, Array.getElem?_toList]
  simp only [Boundary.holds, Cursor.prev?, Cursor.peek?, hpeek]
  rw [if_neg (by omega), hprev, Bool.true_and]

section Reads

variable {cx : Context} {rules : RuleSet} {budget : Nat} {T : Array Char}
  (hcx : cx.Measures rules budget) (hT : T.size < Word.size)
include hcx hT

/-- A nonempty word of word characters followed by a word end reads the word's length exactly
where the word is the whole run of word characters. -/
theorem reads_word {w : String} (hne : w ≠ "") (hwc : ∀ ch ∈ w.toList, isWordChar ch) :
    Reads cx T (literal w + wordEnd) (wordLens w) := by
  have hoffers := offers_sequence hcx (.cons (offers_literal hcx hT w false)
    (.cons (offers_boundary hcx .wordEnd true) .nil)) true false
  refine .of_offers hoffers fun i ↦ ?_
  have hne' : w.toList ≠ [] := by simpa using hne
  have hiff : wordRun (T.toList.drop i) = w.toList ↔
      w.toList <+: T.toList.drop i ∧ ((T.toList.drop i).drop w.toList.length).head?.any isWordChar = false :=
    takeWhile_eq_iff hwc
  simp only [sequenceEnds, firstEnd, literalEnds, shifted, wordLens]
  by_cases hpre : w.toList <+: T.toList.drop i
  · have hholds := wordEnd_holds_after hne' hwc hpre
    rw [String.length_toList] at hholds hiff
    rw [if_pos hpre]
    simp only [List.findSome?_cons, List.findSome?_nil, boundaryEnds, hholds]
    -- the word end holds exactly when the word is the whole run
    by_cases hnext : ((T.toList.drop i).drop w.length).head?.any isWordChar = true
    · have hrun : ¬wordRun (T.toList.drop i) = w.toList := fun h ↦ by
        rw [(hiff.mp h).2] at hnext
        exact Bool.false_ne_true hnext
      rw [hnext]
      simp [hrun]
    · have hnext' : ((T.toList.drop i).drop w.length).head?.any isWordChar = false := Bool.eq_false_iff.mpr hnext
      have hrun : wordRun (T.toList.drop i) = w.toList := hiff.mpr ⟨hpre, hnext'⟩
      rw [hnext']
      simp [hrun]
  · have hrun : ¬wordRun (T.toList.drop i) = w.toList := fun h ↦ hpre (h ▸ List.takeWhile_prefix _)
    simp [hpre, hrun]

/-- A choice among such words reads what the first word that is the run reads. -/
theorem reads_reserved {words : List String} (hws : ∀ w ∈ words, w ≠ "" ∧ ∀ ch ∈ w.toList, isWordChar ch) :
    Reads cx T (anyOf (words.map fun w ↦ literal w + wordEnd)) (reservedLens words) := by
  have hcs : List.Forall₂ (Reads cx T) (words.map fun w ↦ literal w + wordEnd) (words.map wordLens) := by
    rw [List.forall₂_map_left_iff, List.forall₂_map_right_iff]
    exact List.forall₂_same.mpr fun w hw ↦ reads_word hcx hT (hws w hw).1 (hws w hw).2
  exact reads_choice hcx hcs false false

omit hT in
/-- A grammar without a bad pattern reads the first length its body reads. -/
theorem reads_unchecked {body : Pattern} {f : List Char → List Nat} (hT : T.size < Word.size)
    (hbody : Reads cx T body f) (name : String) (tag : Nat) (b : Bool) :
    Reads cx T (.mk (.embed tag (.grammar name body none)) b) (groupLens f) := by
  refine .of_offers (offers_unchecked hcx hT hbody b) fun i ↦ ?_
  rw [grammarEnds_unchecked]
  simp only [shifted, groupLens, List.head?_map, List.take_one]
  cases (f (T.toList.drop i)).head? <;> rfl

end Reads

/-- The reserved words read the run of word characters, when it is one of them. -/
theorem reservedLens_eq {words : List String} (l : List Char) :
    reservedLens words l = if String.ofList (wordRun l) ∈ words then [(wordRun l).length] else [] := by
  simp only [reservedLens, choiceLens, List.findSome?_map, Function.comp_def]
  induction words with
  | nil => simp
  | cons w ws ih =>
    by_cases hw : wordRun l = w.toList
    · have hone : wordLens w l = [w.length] := if_pos hw
      simp [hone, hw, String.length_toList]
    · have hofl : String.ofList (wordRun l) ≠ w := fun h ↦ hw (by rw [← h, String.toList_ofList])
      have hnil : wordLens w l = [] := if_neg hw
      rw [List.findSome?_cons, hnil, List.head?_nil]
      simp only [ih, List.mem_cons, hofl, false_or]

/-! ### Parses -/

theorem head_groupLens (f : List Char → List Nat) (l : List Char) : (groupLens f l).head? = (f l).head? := by
  simp [groupLens, List.head?_take]

theorem text_ofString_toList (s : String) : (Cursor.ofString s).text.toList = s.toList := by
  simp [Cursor.ofString]

/-- `g` parses `s` exactly when `accepts` holds of its characters, and then consumes `run` of
them and yields it as one piece of text, under every rule set and for every input of fewer than
`2 ^ 64` characters. -/
def ParsesRun (g : Grammar) (accepts : List Char → Prop) (run : List Char → List Char) : Prop :=
  ∀ (rules : RuleSet) (s : String), s.length < Word.size →
    ((∃ p, (g.parse rules s).1 = .ok p) ↔ accepts s.toList) ∧
      ∀ p, (g.parse rules s).1 = .ok p → p = ⟨g.name, s, .text (String.ofList (run s.toList)), (run s.toList).length⟩

/-- The first characters of a fresh text, as it spells them. -/
theorem textBetween_ofString_zero (s : String) (k : Nat) :
    (Cursor.ofString s).textBetween 0 k = String.ofList (s.toList.take k) := by
  simp only [Cursor.textBetween, Cursor.ofString, Cursor.size, List.size_toArray, Nat.zero_le, Nat.min_eq_left,
    List.extract_toArray, List.extract_eq_take_drop, List.drop_zero, Nat.sub_zero, List.toList_toArray]
  rcases Nat.le_total k s.toList.length with h | h
  · rw [Nat.min_eq_left h]
  · rw [Nat.min_eq_right h, List.take_length, List.take_of_length_le h]

/-- A parse whose grammar offers `run` of the characters first, and whose fragment is the input
it consumed, consumes `run` and yields it. -/
theorem parsed_run {g : Grammar} {o : Nat → List Nat} {rules : RuleSet} {s : String}
    {run : List Char → List Char} (hrun : run s.toList <+: s.toList)
    (ho : Offers (contextAt rules {} checkAllowance 0) (Cursor.ofString s).text (g.toPattern 0) o)
    (hfirst : ∀ e, (o 0).head? = some e → e = (run s.toList).length)
    (hfrag : ∀ p, (g.parse rules s).1 = .ok p → p.fragment = .text ((Cursor.ofString s).textBetween 0 p.consumed))
    {p : Parsed} (h : (g.parse rules s).1 = .ok p) :
    p = ⟨g.name, s, .text (String.ofList (run s.toList)), (run s.toList).length⟩ := by
  obtain ⟨m, s', -, rfl, hhead⟩ := parse_ok_of_offers ho h
  have he := hfirst _ hhead
  have hf := hfrag _ h
  simp only at hf
  rw [hf, he, textBetween_ofString_zero, ← List.prefix_iff_eq_take.mp hrun]

section Words

variable {name : String} {words : List String}

/-- What the reserved-word grammar offers from each position. -/
theorem offers_reservedWord (name : String) (hws : ∀ w ∈ words, w ≠ "" ∧ ∀ ch ∈ w.toList, isWordChar ch) (rules : RuleSet)
    {T : Array Char} (hT : T.size < Word.size) :
    Reads (contextAt rules {} checkAllowance 0) T ((reservedWord name words).toPattern 0)
      (groupLens (groupLens (reservedLens words))) :=
  reads_unchecked (contextAt_measures rules {} checkAllowance 0) hT
    (reads_group (contextAt_measures rules {} checkAllowance 0)
      (reads_reserved (contextAt_measures rules {} checkAllowance 0) hT hws) false) name 0 false

/-- The alternatives of the reserved-word grammar spell the input they match. -/
theorem reservedChoice_transcribes {cx : Context} {rules : RuleSet} {budget : Nat} (hcx : cx.Measures rules budget) :
    (consume cx (anyOf (words.map fun w ↦ literal w + wordEnd))).Transcribes
      ((anyOf (words.map fun w ↦ literal w + wordEnd)).giveBack rules budget) := by
  refine .of_step (step_choice_transcribes hcx fun q hq ↦ ?_)
  obtain ⟨w, -, rfl⟩ := List.mem_map.mp hq
  show (consume cx (.mk (.sequence [literal w, wordEnd] none true) false)).Transcribes
    ((Pattern.mk (.sequence [literal w, wordEnd] none true) false).giveBack rules budget)
  refine .of_step (step_sequence_transcribes hcx (fun q hq ↦ ?_) fun q hq hs ↦ ?_)
  · simp only [sequenceSteps, List.mem_cons, List.not_mem_nil, or_false] at hq
    rcases hq with rfl | rfl
    · exact .of_step (step_literal_transcribes w)
    · exact .of_step (step_boundary_transcribes .wordEnd)
  · simp only [sequenceSteps, List.mem_cons, List.not_mem_nil, or_false] at hq
    rcases hq with rfl | rfl
    · exact absurd hs Bool.false_ne_true
    · exact Limit.le_refl _

/-- The reserved-word grammar parses a text exactly when the run of word characters at its
start is one of the words, and yields that run. -/
theorem reservedWord_parsesRun (hws : ∀ w ∈ words, w ≠ "" ∧ ∀ ch ∈ w.toList, isWordChar ch) :
    (reservedWord name words).ParsesRun (fun l ↦ String.ofList (wordRun l) ∈ words) wordRun := by
  intro rules s hs
  have hT : (Cursor.ofString s).text.size < Word.size := by rw [size_ofString]; exact hs
  have ho := offers_reservedWord name hws rules hT
  -- from the start, the grammar offers the run's length when the run is a word, and nothing else
  have hfirst : (shifted (Cursor.ofString s).text (groupLens (groupLens (reservedLens words))) 0).head? =
      if String.ofList (wordRun s.toList) ∈ words then some (wordRun s.toList).length else none := by
    rw [head?_shifted_zero, head_groupLens, head_groupLens, reservedLens_eq, text_ofString_toList]
    split_ifs <;> rfl
  refine ⟨?_, fun p h ↦ parsed_run (List.takeWhile_prefix _) ho (fun e he ↦ ?_) (fun p h ↦ ?_) h⟩
  · rw [parse_ok_iff_offers ho, ne_eq, ← List.head?_eq_none_iff, hfirst]
    split_ifs with hw <;> simp [hw]
  · rw [hfirst] at he
    split_ifs at he
    cases he
    rfl
  · exact parse_group_fragment (reservedChoice_transcribes (contextAt_measures rules {} checkAllowance 0)) hs h

end Words

section Python

/-- The steps of an identifier: a letter or underscore, then identifier characters. -/
def identifierSteps (cfg : Config) : List (List Char → List Nat) :=
  [charLens (.of (letters ++ "_")), runLens cfg ⟨.of identifierChars, 0, none, false⟩]

/-- The steps of the check: a reserved word of Python, then the end of the text. -/
def reservedCheckSteps : List (List Char → List Nat) :=
  [groupLens (groupLens (reservedLens pythonReservedWords)), endLens]

theorem pythonReservedWords_words : ∀ w ∈ pythonReservedWords, w ≠ "" ∧ ∀ ch ∈ w.toList, isWordChar ch := by
  simp only [pythonReservedWords, List.forall_mem_cons, String.reduceToList, List.not_mem_nil,
    IsEmpty.forall_iff, implies_true, and_true, ne_eq, String.reduceEq, not_false_eq_true, true_and]
  and_intros
  all_goals decide +kernel

theorem plain_identifier :
    (charOf (letters ++ "_") + charsBounded (letters ++ digits ++ "_") 0 none).Plain := by
  show Plain (.mk (.sequence [charOf (letters ++ "_"), charsBounded (letters ++ digits ++ "_") 0 none] none true) false)
  refine .sequence true fun q hq ↦ ?_
  simp only [List.mem_cons, List.not_mem_nil, or_false] at hq
  rcases hq with rfl | rfl
  · exact .char _
  · exact .run _

/-- What `pythonVariable` offers from each position: the identifier there, unless the check
finds a reserved word spanning all of it. -/
theorem offers_pythonVariable (rules : RuleSet) {T : Array Char} (hT : T.size < Word.size) :
    Offers (contextAt rules {} checkAllowance 0) T (pythonVariable.toPattern 0)
      (grammarEnds (shifted T (groupLens (sequenceLens (identifierSteps {}))))
        fun i e ↦ !(anchoredEnds (T.extract i e) reservedCheckSteps 0).isEmpty) := by
  refine offers_checkedAt (fun cfg ↦ groupLens (sequenceLens (identifierSteps cfg))) (fun _ ↦ reservedCheckSteps)
    (fun hcx _ hT ↦ ?_) (fun hcx hT ↦ ?_) (Plain.group plain_identifier) hT _ 0 0
  · exact reads_group hcx (reads_sequence hcx (.cons (reads_char hcx hT _ false)
      (.cons (reads_run hcx hT _ false) .nil)) true false) false
  · exact offers_sequence hcx (.cons (offers_boundary hcx .stringStart true)
      (.cons (reads_unchecked hcx hT (reads_group hcx (reads_reserved hcx hT pythonReservedWords_words) false) _ 0 false)
        (.cons (reads_stringEnd hcx true) .nil))) true false

/-- A run of a class with no minimum and no maximum reads as far as the class allows. -/
theorem firstLen_identifierRun (cfg : Config) (l : List Char) :
    firstLen [runLens cfg ⟨.of identifierChars, 0, none, false⟩] l = some (spanOf identifierChars l) := by
  simp [firstLen, runLens, count_setRun]

/-- After a letter or underscore, the identifier's body reads the whole identifier run. -/
theorem firstLen_identifierSteps_cons (cfg : Config) {c : Char} (rest : List Char) (hc : c ∈ (letters ++ "_").toList) :
    firstLen (identifierSteps cfg) (c :: rest) = some (identifierRun (c :: rest)).length := by
  have hid : c ∈ identifierChars.toList := by
    simp only [identifierChars, String.toList_append, List.mem_append] at hc ⊢
    tauto
  have hrun : identifierRun (c :: rest) = c :: identifierRun rest :=
    List.takeWhile_cons_of_pos (p := fun ch ↦ decide (ch ∈ identifierChars.toList)) (by simpa using hid)
  rw [identifierSteps, firstLen_of_single (by rw [charLens_cons, CharClass.accepts_of, if_pos (by simpa using hc)]),
    List.drop_one, List.tail_cons, firstLen_identifierRun, hrun, List.length_cons, Nat.add_comm]
  rfl

/-- The identifier's body reads nothing where no letter or underscore starts the text. -/
theorem firstLen_identifierSteps_eq_none (cfg : Config) {l : List Char}
    (hl : ¬∃ c rest, l = c :: rest ∧ c ∈ (letters ++ "_").toList) : firstLen (identifierSteps cfg) l = none := by
  rcases l with _ | ⟨c, rest⟩
  · rfl
  · have hc : c ∉ (letters ++ "_").toList := fun hc ↦ hl ⟨c, rest, rfl, hc⟩
    rw [identifierSteps, firstLen_of_nil (by rw [charLens_cons, CharClass.accepts_of, if_neg (by simpa using hc)])]

/-- The check finds a reserved word spanning an identifier run exactly when the run is one. -/
theorem firstLen_reservedCheck (l : List Char) :
    (firstLen reservedCheckSteps (identifierRun l)).isSome = decide (String.ofList (identifierRun l) ∈ pythonReservedWords) := by
  have hgroup : groupLens (groupLens (reservedLens pythonReservedWords)) (identifierRun l) =
      reservedLens pythonReservedWords (identifierRun l) := by
    simp only [groupLens, reservedLens_eq, wordRun_identifierRun]
    split_ifs <;> rfl
  by_cases hw : String.ofList (identifierRun l) ∈ pythonReservedWords
  · rw [reservedCheckSteps, firstLen_of_single (by rw [hgroup, reservedLens_eq, wordRun_identifierRun, if_pos hw]),
      List.drop_length]
    simp [firstLen, endLens, hw]
  · rw [reservedCheckSteps, firstLen_of_nil (by rw [hgroup, reservedLens_eq, wordRun_identifierRun, if_neg hw])]
    simp [hw]

/-- The check of `pythonVariable`, run on the identifier run at the start of `s`, rejects it
exactly when the run is a reserved word. -/
theorem reservedCheck_rejects (s : String) :
    (!(anchoredEnds ((Cursor.ofString s).text.extract 0 (identifierRun s.toList).length)
      reservedCheckSteps 0).isEmpty) = decide (String.ofList (identifierRun s.toList) ∈ pythonReservedWords) := by
  have hextract : ((Cursor.ofString s).text.extract 0 (identifierRun s.toList).length).toList =
      identifierRun s.toList := by
    simp only [Cursor.ofString, List.extract_toArray, List.extract_eq_take_drop, List.drop_zero, Nat.sub_zero,
      List.toList_toArray]
    exact (List.prefix_iff_eq_take.mp (List.takeWhile_prefix _)).symm
  rw [anchoredEnds_zero, hextract, ← firstLen_reservedCheck]
  cases firstLen reservedCheckSteps (identifierRun s.toList) <;> rfl

/-- The first end that `pythonVariable` offers on `s` is the end of the identifier run, when
`s` starts with a letter or an underscore and the run is no reserved word; otherwise it offers
none. -/
theorem pythonVariable_firstEnd (s : String) (e : Nat) :
    (grammarEnds (shifted (Cursor.ofString s).text (groupLens (sequenceLens (identifierSteps {}))))
      (fun i e ↦ !(anchoredEnds ((Cursor.ofString s).text.extract i e) reservedCheckSteps 0).isEmpty) 0).head? =
        some e ↔
      ((∃ c rest, s.toList = c :: rest ∧ c ∈ (letters ++ "_").toList) ∧
        String.ofList (identifierRun s.toList) ∉ pythonReservedWords) ∧ e = (identifierRun s.toList).length := by
  rw [grammarEnds_head?, head?_shifted_zero, head_groupLens_sequenceLens, text_ofString_toList]
  by_cases hstart : ∃ c rest, s.toList = c :: rest ∧ c ∈ (letters ++ "_").toList
  · obtain ⟨c, rest, hcons, hc⟩ := hstart
    have hbody : firstLen (identifierSteps {}) s.toList = some (identifierRun s.toList).length := by
      rw [hcons]
      exact firstLen_identifierSteps_cons {} rest hc
    rw [hbody]
    constructor
    · rintro ⟨he, hcheck⟩
      cases he
      rw [reservedCheck_rejects] at hcheck
      exact ⟨⟨⟨c, rest, hcons, hc⟩, by simpa using hcheck⟩, rfl⟩
    · rintro ⟨⟨-, hw⟩, rfl⟩
      refine ⟨rfl, ?_⟩
      rw [reservedCheck_rejects]
      simpa using hw
  · rw [firstLen_identifierSteps_eq_none {} hstart]
    constructor
    · rintro ⟨hnone, -⟩
      exact absurd hnone (by simp)
    · rintro ⟨⟨hstart', -⟩, -⟩
      exact absurd hstart' hstart

/-- `pythonVariable` parses a text exactly when it starts with a letter or underscore and its
identifier run is no reserved word of Python, and yields that run. -/
theorem pythonVariable_parsesRun :
    pythonVariable.ParsesRun
      (fun l ↦ (∃ c rest, l = c :: rest ∧ c ∈ (letters ++ "_").toList) ∧
        String.ofList (identifierRun l) ∉ pythonReservedWords) identifierRun := by
  intro rules s hs
  have hT : (Cursor.ofString s).text.size < Word.size := by rw [size_ofString]; exact hs
  have ho := offers_pythonVariable rules hT
  have hfirst := pythonVariable_firstEnd s
  refine ⟨?_, fun p h ↦ parsed_run (List.takeWhile_prefix _) ho (fun e he ↦ ((hfirst e).mp he).2)
    (fun p h ↦ ?_) h⟩
  · rw [parse_ok_iff_offers ho, ne_eq, ← List.head?_eq_none_iff]
    constructor
    · intro hne
      obtain ⟨e, he⟩ := Option.ne_none_iff_exists'.mp hne
      exact ((hfirst e).mp he).1
    · intro hacc
      rw [(hfirst _).mpr ⟨hacc, rfl⟩]
      simp
  · have hcx := contextAt_measures rules {} checkAllowance 0
    exact parse_group_fragment (plain_identifier.transcribes hcx) hs h

end Python

/-- The grammar of reserved words, each a nonempty run of word characters, parses a text exactly
when the run of word characters at its start is one of the words, whatever their order, and
then yields that run; `pythonVariable` parses a text exactly when it starts with a letter or an
underscore and its run of identifier characters is no reserved word of Python, and then yields
that run. -/
theorem reserved_words_parse :
    (∀ (name : String) (words : List String), (∀ w ∈ words, w ≠ "" ∧ ∀ ch ∈ w.toList, isWordChar ch) →
      (reservedWord name words).ParsesRun (fun l ↦ String.ofList (wordRun l) ∈ words) wordRun) ∧
    pythonVariable.ParsesRun
      (fun l ↦ (∃ c rest, l = c :: rest ∧ c ∈ (letters ++ "_").toList) ∧
        String.ofList (identifierRun l) ∉ pythonReservedWords) identifierRun :=
  ⟨fun _ _ hws ↦ reservedWord_parsesRun hws, pythonVariable_parsesRun⟩

/-- Between `if` and `in`, the text `in x` parses as `in`, under every rule set. -/
theorem reservedWord_parses_in :
    (∀ w ∈ ["if", "in"], w ≠ "" ∧ ∀ ch ∈ w.toList, isWordChar ch) ∧
      ∀ rules : RuleSet, ((reservedWord "keyword" ["if", "in"]).parse rules "in x").1 =
        .ok ⟨"keyword", "in x", .text "in", 2⟩ := by
  have hws : ∀ w ∈ ["if", "in"], w ≠ "" ∧ ∀ ch ∈ w.toList, isWordChar ch := by
    simp only [List.forall_mem_cons, String.reduceToList, List.not_mem_nil, IsEmpty.forall_iff, implies_true,
      and_true, ne_eq, String.reduceEq, not_false_eq_true, true_and]
    and_intros
    all_goals decide +kernel
  refine ⟨hws, fun rules ↦ ?_⟩
  have hlen : "in x".length < Word.size := by
    simp only [← String.length_toList, String.reduceToList, List.length_cons, List.length_nil, Word.size]
    decide
  obtain ⟨hiff, hrun⟩ := reserved_words_parse.1 "keyword" ["if", "in"] hws rules "in x" hlen
  have hw : wordRun "in x".toList = ['i', 'n'] := by
    simp [wordRun, isWordChar]
  obtain ⟨p, hp⟩ := hiff.mpr (show String.ofList (wordRun "in x".toList) ∈ ["if", "in"] by rw [hw]; decide)
  rw [hp, hrun p hp, hw]
  rfl

end Grammar

end Backtrack
