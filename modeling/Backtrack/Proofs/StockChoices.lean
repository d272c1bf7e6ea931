import Backtrack.Proofs.NumberGrammars

/-!
# The stock ordered choices find the grammar that matches in full

`number` tries the binary, hexadecimal, float, octal and integer grammars in that order, and
`string` tries the triple-quoted strings before the single-quoted ones. An ordered choice
commits to the first alternative that matches anything at all, so it could hide a later
grammar that matches the whole input behind an earlier one that matches only a prefix of it.
Neither choice does: on every input that a later alternative parses in full, every earlier one
matches nothing from the start, which is what `choosesAmong_of_pairwise` asks.

For the numbers this is a matter of what each body reads after the optional sign: `0` and a
mark for the prefixed kinds, a whole part and a point for `float`, `0` and an octal digit (after
an optional mark) for `octalInteger`, and the later languages begin otherwise. For the strings,
each body starts with its opening quotes, and a single-quoted string stops after its second
character when the input starts with two quotes.

Main statement: `stock_choices_choose_among`.
-/

namespace Backtrack

namespace Grammar

open Engine Pattern

/-! ### What follows the sign -/

/-- The text after an optional leading minus. -/
def unsigned (l : List Char) : List Char := if l.head? = some '-' then l.tail else l

theorem unsigned_sign_append {sign u : List Char} (hs : Sign sign) (hu : u.head? ≠ some '-') :
    unsigned (sign ++ u) = u := by
  rcases hs with rfl | rfl
  · simp [unsigned, hu]
  · simp [unsigned]

/-- `0` and a mark, as the prefixed kinds read after their sign. -/
def PrefixedHead (marks : String) (u : List Char) : Prop :=
  ∃ r rest, r ∈ marks.toList ∧ u = '0' :: r :: rest

/-- A whole part and a point, as `float` reads after its sign. -/
def FloatHead (u : List Char) : Prop := ∃ w rest, Whole w ∧ u = w ++ '.' :: rest

/-- `0`, an optional mark and an octal digit, as `octalInteger` reads after its sign. -/
def OctalHead (u : List Char) : Prop :=
  ∃ o d rest, OctalMark o ∧ d ∈ octalDigits.toList ∧ u = '0' :: (o ++ d :: rest)

/-- `0`, or digits that do not start with `0`: an integer after its sign. -/
def IntegerHead (u : List Char) : Prop := u = ['0'] ∨ (Among digits u ∧ u.head? ≠ some '0')

section Heads

variable {u : List Char}

theorem Whole.head_mem {w : List Char} (hw : Whole w) : ∃ c w', w = c :: w' ∧ c ∈ digits.toList := by
  rcases hw with rfl | ⟨⟨hne, hall⟩, -⟩
  · exact ⟨'0', [], rfl, by decide⟩
  · obtain ⟨c, w', rfl⟩ := List.exists_cons_of_ne_nil hne
    exact ⟨c, w', rfl, hall c List.mem_cons_self⟩

theorem Whole.head?_append_ne_minus {w : List Char} (hw : Whole w) (rest : List Char) :
    (w ++ rest).head? ≠ some '-' := by
  obtain ⟨c, w', rfl, hc⟩ := hw.head_mem
  rintro h
  simp only [List.cons_append, List.head?_cons, Option.some.injEq] at h
  subst h
  exact absurd hc (by decide)

theorem exists_cons_of_spanOf_pos {set : String} {l : List Char} (h : 0 < spanOf set l) :
    ∃ d rest, l = d :: rest ∧ d ∈ set.toList := by
  rcases l with _ | ⟨d, rest⟩
  · simp [spanOf_nil] at h
  · by_cases hd : d ∈ set.toList
    · exact ⟨d, rest, rfl, hd⟩
    · rw [spanOf_cons_of_not_mem hd] at h
      cases h

/-! #### Two readings never meet -/

theorem PrefixedHead.not_prefixed {marks marks' : String} (h : PrefixedHead marks u)
    (h' : PrefixedHead marks' u) (hdisj : ∀ r ∈ marks.toList, r ∉ marks'.toList) : False := by
  obtain ⟨r, rest, hr, rfl⟩ := h
  obtain ⟨r', rest', hr', h'⟩ := h'
  simp only [List.cons.injEq, true_and] at h'
  exact hdisj r hr (h'.1 ▸ hr')

theorem PrefixedHead.not_float {marks : String} (h : PrefixedHead marks u) (hf : FloatHead u)
    (hdot : '.' ∉ marks.toList) : False := by
  obtain ⟨r, rest, hr, rfl⟩ := h
  obtain ⟨w, f, hw, hl⟩ := hf
  rcases hw with rfl | ⟨-, hw0⟩
  · simp only [List.cons_append, List.nil_append, List.cons.injEq, true_and] at hl
    exact hdot (hl.1 ▸ hr)
  · -- a whole part other than `0` does not start with `0`
    obtain ⟨c, w', rfl⟩ : ∃ c w', w = c :: w' := List.exists_cons_of_ne_nil (by rintro rfl; simp at hl)
    simp only [List.cons_append, List.cons.injEq] at hl
    simp [← hl.1] at hw0

theorem PrefixedHead.not_octal {marks : String} (h : PrefixedHead marks u) (ho : OctalHead u)
    (hdisj : ∀ r ∈ marks.toList, r ∉ "oO".toList ∧ r ∉ octalDigits.toList) : False := by
  obtain ⟨r, rest, hr, rfl⟩ := h
  obtain ⟨o, d, rest', hmark, hd, hl⟩ := ho
  simp only [List.cons.injEq, true_and] at hl
  rcases hmark with rfl | rfl | rfl
  · simp only [List.nil_append, List.cons.injEq] at hl
    exact (hdisj r hr).2 (hl.1 ▸ hd)
  all_goals
    simp only [List.cons_append, List.nil_append, List.cons.injEq] at hl
    exact (hdisj r hr).1 (by rw [hl.1]; decide)

theorem PrefixedHead.not_integer {marks : String} (h : PrefixedHead marks u) (hi : IntegerHead u) : False := by
  obtain ⟨r, rest, -, rfl⟩ := h
  rcases hi with hl | ⟨-, h0⟩
  · simp at hl
  · simp at h0

theorem FloatHead.not_octal (hf : FloatHead u) (ho : OctalHead u) : False := by
  obtain ⟨w, f, hw, rfl⟩ := hf
  obtain ⟨o, d, rest, hmark, hd, hl⟩ := ho
  rcases hw with rfl | ⟨⟨hne, -⟩, hw0⟩
  · -- after `0`, the point meets the octal mark or the first octal digit
    simp only [List.cons_append, List.nil_append, List.cons.injEq, true_and] at hl
    rcases hmark with rfl | rfl | rfl
    · simp only [List.nil_append, List.cons.injEq] at hl
      exact absurd (hl.1 ▸ hd) (by decide)
    all_goals simp at hl
  · obtain ⟨c, w', rfl⟩ := List.exists_cons_of_ne_nil hne
    simp only [List.cons_append, List.cons.injEq] at hl
    simp [hl.1] at hw0

theorem FloatHead.not_integer (hf : FloatHead u) (hi : IntegerHead u) : False := by
  obtain ⟨w, f, hw, rfl⟩ := hf
  rcases hi with hl | ⟨⟨-, hall⟩, -⟩
  · -- a whole part and a point are two characters at least
    have := congrArg List.length hl
    obtain ⟨c, w', rfl, -⟩ := hw.head_mem
    simp at this
  · exact absurd (hall '.' (by simp)) (by decide)

theorem OctalHead.not_integer (ho : OctalHead u) (hi : IntegerHead u) : False := by
  obtain ⟨o, d, rest, -, -, rfl⟩ := ho
  rcases hi with hl | ⟨-, h0⟩
  · simp at hl
  · simp at h0

end Heads

/-! ### What the earlier alternatives read, and what the later ones accept -/

section Shapes

variable {cfg : Config} {l : List Char} {n : Nat}

theorem prefixedHead_of_firstLen {marks set : String} (h : firstLen (prefixedSteps cfg marks set) l = some n) :
    PrefixedHead marks (unsigned l) := by
  rw [prefixedSteps, firstLen_signed firstLen_zero_minus] at h
  obtain ⟨sign, rest, k, hs, rfl, hk, -⟩ := h
  obtain ⟨r, rest', rfl, hr, -, -⟩ := firstLen_radix.mp hk
  rw [unsigned_sign_append hs (by simp)]
  exact ⟨r, rest', hr, rfl⟩

theorem floatHead_of_firstLen (h : firstLen (floatSteps cfg) l = some n) : FloatHead (unsigned l) := by
  rw [floatSteps, firstLen_signed firstLen_whole_minus] at h
  obtain ⟨sign, rest, k, hs, rfl, hk, -⟩ := h
  obtain ⟨w, f, -, hw, rfl, -, -⟩ := firstLen_wholePoint.mp hk
  rw [unsigned_sign_append hs (hw.head?_append_ne_minus _)]
  exact ⟨w, f, hw, rfl⟩

theorem octalHead_of_firstLen (h : firstLen (octalSteps cfg) l = some n) : OctalHead (unsigned l) := by
  rw [octalSteps, firstLen_signed firstLen_zero_minus] at h
  obtain ⟨sign, rest, k, hs, rfl, hk, -⟩ := h
  obtain ⟨o, rest', ho, rfl, hpos, -⟩ := firstLen_octalRadix.mp hk
  obtain ⟨d, rest'', rfl, hd⟩ := exists_cons_of_spanOf_pos hpos
  rw [unsigned_sign_append hs (by simp)]
  exact ⟨o, d, rest'', ho, hd, rfl⟩

theorem prefixedHead_of_complete {marks set : String}
    (h : (groupLens (sequenceLens (prefixedSteps cfg marks set)) l).head? = some l.length) :
    PrefixedHead marks (unsigned l) := by
  rw [head_groupLens_sequenceLens] at h
  exact prefixedHead_of_firstLen h

theorem floatHead_of_complete (h : (groupLens (sequenceLens (floatSteps cfg)) l).head? = some l.length) :
    FloatHead (unsigned l) := by
  rw [head_groupLens_sequenceLens] at h
  exact floatHead_of_firstLen h

theorem octalHead_of_complete (h : (groupLens (sequenceLens (octalSteps cfg)) l).head? = some l.length) :
    OctalHead (unsigned l) := by
  rw [head_groupLens_sequenceLens] at h
  exact octalHead_of_firstLen h

theorem integerHead_of_complete (h : (integerLens cfg l).head? = some l.length) : IntegerHead (unsigned l) := by
  rcases integer_complete.mp h with rfl | ⟨sign, w, hs, hw, hw0, rfl⟩
  · exact Or.inl rfl
  · -- digits not starting with `0` are a whole part, so they do not start with a minus
    have hminus : w.head? ≠ some '-' := by
      simpa using Whole.head?_append_ne_minus (Or.inr ⟨hw, hw0⟩) []
    rw [unsigned_sign_append hs hminus]
    exact Or.inr ⟨hw, hw0⟩

end Shapes

/-! ### The number choice -/

section Offered

variable {s : String} {rejected : Nat → Nat → Bool}

/-- An alternative whose body reads nothing from the start of the input offers nothing there. -/
theorem offered_nil {steps : List (List Char → List Nat)} (h : ∀ n, firstLen steps s.toList ≠ some n) :
    grammarEnds (shifted (Cursor.ofString s).text (groupLens (sequenceLens steps))) rejected 0 = [] := by
  unfold grammarEnds
  rw [head?_shifted_zero, head_groupLens_sequenceLens, toList_text_ofString]
  cases hf : firstLen steps s.toList with
  | none => rfl
  | some n => exact absurd hf (h n)

/-- An alternative that offers the end of the input first has a body that reads all of it. -/
theorem complete_of_offered {lens : List Char → List Nat}
    (h : (grammarEnds (shifted (Cursor.ofString s).text lens) rejected 0).head? = some s.length) :
    (lens s.toList).head? = some s.toList.length := by
  rw [String.length_toList, ← toList_text_ofString, ← head?_shifted_zero]
  exact ((grammarEnds_head? _ _ 0 _).mp h).1

end Offered

/-- The number grammars in the order `number` tries them, each with the ends it offers at the
top on the text `T`. -/
def numberAlternatives (T : Array Char) : List (Grammar × (Nat → List Nat)) :=
  [(binaryInteger, grammarEnds (shifted T (groupLens (sequenceLens (prefixedSteps {} "bB" "01"))))
      fun i e ↦ !(anchoredEnds (T.extract i e) (negZeroSteps {} "bB") 0).isEmpty),
    (hexadecimalInteger, grammarEnds (shifted T (groupLens (sequenceLens (prefixedSteps {} "xX" hexDigits))))
      fun i e ↦ !(anchoredEnds (T.extract i e) (negZeroSteps {} "xX") 0).isEmpty),
    (float, grammarEnds (shifted T (groupLens (sequenceLens (floatSteps {})))) fun _ _ ↦ false),
    (octalInteger, grammarEnds (shifted T (groupLens (sequenceLens (octalSteps {}))))
      fun i e ↦ !(anchoredEnds (T.extract i e) (octalNegZeroSteps {}) 0).isEmpty),
    (integer, grammarEnds (shifted T (integerLens {})) fun _ _ ↦ false)]

theorem offers_numberAlternatives {rules : RuleSet} {T : Array Char} (hT : T.size < Word.size) (depth : Nat) :
    ∀ a ∈ numberAlternatives T, Offers (contextAt rules {} checkAllowance depth) T (a.1.toPattern 0) a.2 := by
  simp only [numberAlternatives, List.mem_cons, List.not_mem_nil, or_false]
  rintro a (rfl | rfl | rfl | rfl | rfl)
  · exact offers_checkedAt (fun cfg ↦ groupLens (sequenceLens (prefixedSteps cfg "bB" "01")))
      (fun cfg ↦ negZeroSteps cfg "bB") (fun hcx _ hT ↦ reads_prefixedBody hcx hT "bB" "01")
      (fun hcx hT ↦ offers_negZero hcx hT "bB") (.group (plain_prefixedBody "bB" "01")) hT _ 0 depth
  · exact offers_checkedAt (fun cfg ↦ groupLens (sequenceLens (prefixedSteps cfg "xX" hexDigits)))
      (fun cfg ↦ negZeroSteps cfg "xX") (fun hcx _ hT ↦ reads_prefixedBody hcx hT "xX" hexDigits)
      (fun hcx hT ↦ offers_negZero hcx hT "xX") (.group (plain_prefixedBody "xX" hexDigits)) hT _ 0 depth
  · exact offers_uncheckedAt (fun cfg ↦ groupLens (sequenceLens (floatSteps cfg)))
      (fun hcx hfr hT ↦ reads_floatBody hcx hT hfr) hT _ 0 depth
  · exact offers_checkedAt (fun cfg ↦ groupLens (sequenceLens (octalSteps cfg))) octalNegZeroSteps
      (fun hcx _ hT ↦ reads_octalBody hcx hT)
      (fun hcx hT ↦ offers_octalNegZero hcx hT) (.group plain_octalBody) hT _ 0 depth
  · exact offers_uncheckedAt integerLens (fun hcx hfr hT ↦ reads_integerBody hcx hT hfr) hT _ 0 depth

/-- On every input that a later number grammar parses in full, every earlier one offers
nothing: what the earlier body reads after the sign never begins a later language. -/
theorem numberAlternatives_pairwise (s : String) :
    (numberAlternatives (Cursor.ofString s).text).Pairwise
      fun a b ↦ (b.2 0).head? = some s.length → a.2 0 = [] := by
  simp only [numberAlternatives, List.pairwise_cons, List.mem_cons, List.not_mem_nil, or_false,
    forall_eq_or_imp, forall_eq, false_implies, implies_true, List.Pairwise.nil, and_true]
  refine ⟨⟨?_, ?_, ?_, ?_⟩, ⟨?_, ?_, ?_⟩, ⟨?_, ?_⟩, ?_⟩
  · exact fun hb ↦ offered_nil fun _ hn ↦ (prefixedHead_of_firstLen hn).not_prefixed
      (prefixedHead_of_complete (complete_of_offered hb)) (by simp)
  · exact fun hb ↦ offered_nil fun _ hn ↦ (prefixedHead_of_firstLen hn).not_float
      (floatHead_of_complete (complete_of_offered hb)) (by decide)
  · exact fun hb ↦ offered_nil fun _ hn ↦ (prefixedHead_of_firstLen hn).not_octal
      (octalHead_of_complete (complete_of_offered hb)) (by simp [octalDigits])
  · exact fun hb ↦ offered_nil fun _ hn ↦ (prefixedHead_of_firstLen hn).not_integer
      (integerHead_of_complete (complete_of_offered hb))
  · exact fun hb ↦ offered_nil fun _ hn ↦ (prefixedHead_of_firstLen hn).not_float
      (floatHead_of_complete (complete_of_offered hb)) (by decide)
  · exact fun hb ↦ offered_nil fun _ hn ↦ (prefixedHead_of_firstLen hn).not_octal
      (octalHead_of_complete (complete_of_offered hb)) (by simp [octalDigits])
  · exact fun hb ↦ offered_nil fun _ hn ↦ (prefixedHead_of_firstLen hn).not_integer
      (integerHead_of_complete (complete_of_offered hb))
  · exact fun hb ↦ offered_nil fun _ hn ↦ (floatHead_of_firstLen hn).not_octal
      (octalHead_of_complete (complete_of_offered hb))
  · exact fun hb ↦ offered_nil fun _ hn ↦ (floatHead_of_firstLen hn).not_integer
      (integerHead_of_complete (complete_of_offered hb))
  · exact fun hb ↦ offered_nil fun _ hn ↦ (octalHead_of_firstLen hn).not_integer
      (integerHead_of_complete (complete_of_offered hb))

theorem number_choosesAmong (rules : RuleSet) (s : String) (hs : s.length < Word.size) :
    number.ChoosesAmong rules [binaryInteger, hexadecimalInteger, float, octalInteger, integer] s := by
  have hT : (Cursor.ofString s).text.size < Word.size := by rwa [size_ofString]
  exact choosesAmong_of_pairwise hs (offers_numberAlternatives hT 0) (numberAlternatives_pairwise s)

/-! ### The string choice -/

/-- What the body of `escapeSequence` reads: a backslash and one escapable character. -/
def escapeLens : List Char → List Nat :=
  groupLens (sequenceLens [literalLens "\\", charLens (.of escapedChars)])

/-- What one round of a quoted string's body offers: an escape, or a run of characters other
than the quote, the backslash and the line feed. -/
def quotedRound (T : Array Char) (cfg : Config) (quote : String) : Nat → List Nat :=
  choiceEnds [grammarEnds (shifted T escapeLens) (fun _ _ ↦ false),
    shifted T (runLens cfg ⟨.notOf (quote ++ "\\\n"), 1, none, false⟩)]

/-- What one round of a triple-quoted string's body offers: an escape, a run of characters
other than the quote and the backslash, or a quote not followed by two more. -/
def tripleRound (T : Array Char) (cfg : Config) (quote : String) : Nat → List Nat :=
  choiceEnds [grammarEnds (shifted T escapeLens) (fun _ _ ↦ false),
    shifted T (runLens cfg ⟨.notOf (quote ++ "\\"), 1, none, false⟩),
    shifted T (sequenceLens [literalLens quote, lookLens (literalLens (quote ++ quote)) true])]

/-- What a string grammar offers at the top: its opening quotes, as many rounds of its body as
there are, and its closing quotes. -/
def stringEnds (T : Array Char) (fence : String) (round : Nat → List Nat) : Nat → List Nat :=
  grammarEnds (groupEnds (sequenceEnds [shifted T (literalLens fence), repetitionEnds round 0 none,
    shifted T (literalLens fence)])) fun _ _ ↦ false

section StringOffers

variable {cx : Context} {rules : RuleSet} {budget : Nat} {T : Array Char}
  (hcx : cx.Measures rules budget) (hT : T.size < Word.size)
include hcx hT

theorem offers_escape :
    Offers cx T (escapeSequence.toPattern 0) (grammarEnds (shifted T escapeLens) fun _ _ ↦ false) :=
  offers_unchecked hcx hT (reads_group hcx (reads_sequence hcx (.cons (reads_literal hcx hT "\\" false)
    (.cons (reads_char hcx hT _ false) .nil)) true false) false) false

theorem offers_quoted (name quote : String) :
    Offers cx T ((quoted name quote).toPattern 0) (stringEnds T quote (quotedRound T cx.config quote)) :=
  offers_unchecked hcx hT (offers_group hcx (offers_sequence hcx (.cons (reads_literal hcx hT quote false)
    (.cons (offers_repetition hcx (offers_choice hcx (.cons (offers_escape hcx hT)
      (.cons (reads_run hcx hT _ false) .nil)) true false) hT 0 none false)
    (.cons (reads_literal hcx hT quote false) .nil))) true false) false) false

theorem offers_tripleQuoted (hfr : cx.Frames) (name quote : String) :
    Offers cx T ((tripleQuoted name quote).toPattern 0)
      (stringEnds T (quote ++ quote ++ quote) (tripleRound T cx.config quote)) :=
  offers_unchecked hcx hT (offers_group hcx (offers_sequence hcx
    (.cons (reads_literal hcx hT (quote ++ quote ++ quote) false)
    (.cons (offers_repetition hcx (offers_choice hcx (.cons (offers_escape hcx hT)
      (.cons (reads_run hcx hT _ false) (.cons (reads_sequence hcx (.cons (reads_literal hcx hT quote false)
        (.cons (reads_nextIs hcx hfr (reads_literal hcx hT (quote ++ quote) false) (onlyFails_literal cx _) hT true true)
          .nil)) true false) .nil))) true false) hT 0 none false)
    (.cons (reads_literal hcx hT (quote ++ quote ++ quote) false) .nil))) true false) false) false

end StringOffers

section StringEnds

variable {T : Array Char} {fence : String} {round : Nat → List Nat}

/-- A string grammar offers nothing where the text does not start with its opening quotes. -/
theorem stringEnds_nil (h : ¬fence.toList <+: T.toList) : stringEnds T fence round 0 = [] := by
  have hopen : shifted T (literalLens fence) 0 = [] := by
    rw [shifted, List.drop_zero, literalLens_of_not_startsWith h, List.map_nil]
  simp [stringEnds, grammarEnds, groupEnds, sequenceEnds, firstEnd, hopen]

theorem prefix_of_stringEnds {e : Nat} (h : (stringEnds T fence round 0).head? = some e) :
    fence.toList <+: T.toList := by
  by_contra hp
  rw [stringEnds_nil hp] at h
  cases h

/-- A repetition without a minimum ends where it starts when no round starts there. -/
theorem repetitionEnds_of_head?_none {o : Nat → List Nat} {i : Nat} (h : (o i).head? = none) :
    repetitionEnds o 0 none i = [i] := by
  have hsize : (none : Option Nat).getD Word.size = (Word.size - 1) + 1 := by
    unfold Word.size
    decide
  unfold repetitionEnds
  rw [hsize]
  simp [roundEnds, h]

/-- On a text that starts with two quotes, a string of that quote ends after the second one
when no round of its body starts at it. -/
theorem stringEnds_head?_two {quote : String} {c : Char} (hq : quote.toList = [c]) (h2 : [c, c] <+: T.toList)
    (hround : (round 1).head? = none) : (stringEnds T quote round 0).head? = some 2 := by
  obtain ⟨rest, hrest⟩ := h2
  have hlen : quote.length = 1 := by
    rw [← String.length_toList, hq]
    rfl
  have hopen : shifted T (literalLens quote) 0 = [1] := by
    rw [shifted, List.drop_zero, literalLens_of_startsWith (by rw [hq, ← hrest]; simp), hlen]
    rfl
  have hclose : shifted T (literalLens quote) 1 = [2] := by
    rw [shifted, literalLens_of_startsWith (by rw [hq, ← hrest]; simp), hlen]
    rfl
  simp [stringEnds, grammarEnds, groupEnds, sequenceEnds, firstEnd, hopen, hclose,
    repetitionEnds_of_head?_none hround]

/-- No round of a quoted string's body starts at its quote: not an escape, and not a character
the plain run takes. -/
theorem quotedRound_head?_none {cfg : Config} {quote : String} {c : Char} {i : Nat} (hq : quote.toList = [c])
    (hc : c ≠ '\\') (h : (T.toList.drop i).head? = some c) : (quotedRound T cfg quote i).head? = none := by
  obtain ⟨rest, hrest⟩ : ∃ rest, T.toList.drop i = c :: rest := by
    cases hd : T.toList.drop i with
    | nil => rw [hd] at h; cases h
    | cons d rest =>
      rw [hd] at h
      cases h
      exact ⟨rest, rfl⟩
  have hlit : ¬"\\".toList <+: c :: rest := by simp [Ne.symm hc]
  have hesc : escapeLens (c :: rest) = [] := by
    simp [escapeLens, groupLens, sequenceLens, firstLen_of_nil (literalLens_of_not_startsWith hlit)]
  have hplain : runLens cfg ⟨.notOf (quote ++ "\\\n"), 1, none, false⟩ (c :: rest) = [] := by
    simp [runLens, Run.count_unbounded, CharClass.accepts_notOf, hq]
  simp [quotedRound, choiceEnds, firstHead, grammarEnds, shifted, hrest, hesc, hplain]

/-- Where the text starts with three quotes, the string of one quote ends after two of them. -/
theorem quoted_head?_of_fence {cfg : Config} {quote : String} {c : Char} (hq : quote.toList = [c])
    (hc : c ≠ '\\') (hfence : (quote ++ quote ++ quote).toList <+: T.toList) :
    (stringEnds T quote (quotedRound T cfg quote) 0).head? = some 2 := by
  obtain ⟨rest, hrest⟩ := hfence
  simp only [String.toList_append, hq, List.cons_append, List.nil_append] at hrest
  refine stringEnds_head?_two hq ⟨c :: rest, by rw [← hrest]; rfl⟩ (quotedRound_head?_none hq hc ?_)
  rw [← hrest]
  rfl

/-- The string of one quote never parses in full a text that starts with three of its quotes. -/
theorem quoted_not_complete_of_fence {cfg : Config} {quote : String} {c : Char} (hq : quote.toList = [c])
    (hc : c ≠ '\\') (hfence : (quote ++ quote ++ quote).toList <+: T.toList) :
    (stringEnds T quote (quotedRound T cfg quote) 0).head? ≠ some T.size := by
  rw [quoted_head?_of_fence hq hc hfence]
  intro h
  have hlong := hfence.length_le
  simp only [String.toList_append, hq, List.length_append, List.length_cons, List.length_nil,
    Array.length_toList] at hlong
  simp only [Option.some.injEq] at h
  omega

end StringEnds

/-- Two texts that a list starts with start alike. -/
theorem head_eq_of_both_start {a b l : List Char} (ha : a <+: l) (hb : b <+: l) (ha0 : a ≠ []) (hb0 : b ≠ []) :
    a.head ha0 = b.head hb0 :=
  (ha.head ha0).trans (hb.head hb0).symm

/-- The string grammars in the order `string` tries them, each with the ends it offers at the
top on the text `T`. -/
def stringAlternatives (T : Array Char) : List (Grammar × (Nat → List Nat)) :=
  [(tripleSingleQuotedString, stringEnds T ("'" ++ "'" ++ "'") (tripleRound T {} "'")),
    (tripleDoubleQuotedString, stringEnds T ("\"" ++ "\"" ++ "\"") (tripleRound T {} "\"")),
    (singleQuotedString, stringEnds T "'" (quotedRound T {} "'")),
    (doubleQuotedString, stringEnds T "\"" (quotedRound T {} "\""))]

theorem offers_stringAlternatives {rules : RuleSet} {T : Array Char} (hT : T.size < Word.size) :
    ∀ a ∈ stringAlternatives T, Offers (contextAt rules {} checkAllowance 0) T (a.1.toPattern 0) a.2 := by
  have hcx := contextAt_measures rules {} checkAllowance 0
  have hfr := contextAt_frames rules {} checkAllowance 0
  simp only [stringAlternatives, List.mem_cons, List.not_mem_nil, or_false]
  rintro a (rfl | rfl | rfl | rfl)
  · have h := offers_tripleQuoted hcx hT hfr "TripleSingleQuotedString" "'"
    rwa [contextAt_config] at h
  · have h := offers_tripleQuoted hcx hT hfr "TripleDoubleQuotedString" "\""
    rwa [contextAt_config] at h
  · have h := offers_quoted hcx hT "SingleQuotedString" "'"
    rwa [contextAt_config] at h
  · have h := offers_quoted hcx hT "DoubleQuotedString" "\""
    rwa [contextAt_config] at h

/-- On every input that a later string grammar parses in full, every earlier one offers
nothing: the opening quotes differ, or a triple-quoted opening stops the string of one quote
after two characters. -/
theorem stringAlternatives_pairwise (s : String) :
    (stringAlternatives (Cursor.ofString s).text).Pairwise
      fun a b ↦ (b.2 0).head? = some s.length → a.2 0 = [] := by
  have hsize := size_ofString s
  simp only [stringAlternatives, List.pairwise_cons, List.mem_cons, List.not_mem_nil, or_false,
    forall_eq_or_imp, forall_eq, false_implies, implies_true, List.Pairwise.nil, and_true]
  refine ⟨⟨?_, ?_, ?_⟩, ⟨?_, ?_⟩, ?_⟩
  · exact fun hb ↦ stringEnds_nil fun ha ↦ absurd
      (head_eq_of_both_start ha (prefix_of_stringEnds hb) (by simp) (by simp)) (by simp)
  · refine fun hb ↦ stringEnds_nil fun ha ↦ ?_
    exact quoted_not_complete_of_fence (show "'".toList = ['\x27'] by simp) (by decide) ha (hsize ▸ hb)
  · exact fun hb ↦ stringEnds_nil fun ha ↦ absurd
      (head_eq_of_both_start ha (prefix_of_stringEnds hb) (by simp) (by simp)) (by simp)
  · exact fun hb ↦ stringEnds_nil fun ha ↦ absurd
      (head_eq_of_both_start ha (prefix_of_stringEnds hb) (by simp) (by simp)) (by simp)
  · refine fun hb ↦ stringEnds_nil fun ha ↦ ?_
    exact quoted_not_complete_of_fence (show "\"".toList = ['"'] by simp) (by decide) ha (hsize ▸ hb)
  · exact fun hb ↦ stringEnds_nil fun ha ↦ absurd
      (head_eq_of_both_start ha (prefix_of_stringEnds hb) (by simp) (by simp)) (by simp)

theorem string_choosesAmong (rules : RuleSet) (s : String) (hs : s.length < Word.size) :
    string.ChoosesAmong rules
      [tripleSingleQuotedString, tripleDoubleQuotedString, singleQuotedString, doubleQuotedString] s := by
  have hT : (Cursor.ofString s).text.size < Word.size := by rwa [size_ofString]
  exact choosesAmong_of_pairwise hs (offers_stringAlternatives hT) (stringAlternatives_pairwise s)

/-- `number` and `string` each parse in full exactly what one of their alternatives parses in
full, that alternative is the only one that does, and the parse is named after it. -/
theorem stock_choices_choose_among (rules : RuleSet) (s : String) (hs : s.length < Word.size) :
    number.ChoosesAmong rules [binaryInteger, hexadecimalInteger, float, octalInteger, integer] s ∧
      string.ChoosesAmong rules
        [tripleSingleQuotedString, tripleDoubleQuotedString, singleQuotedString, doubleQuotedString] s :=
  ⟨number_choosesAmong rules s hs, string_choosesAmong rules s hs⟩

theorem stock_choices_choose_among_hex :
    "0x1F".length < Word.size ∧
      number.ChoosesAmong (RuleSet.mk 0 []) [binaryInteger, hexadecimalInteger, float, octalInteger, integer]
        "0x1F" ∧
      string.ChoosesAmong (RuleSet.mk 0 [])
        [tripleSingleQuotedString, tripleDoubleQuotedString, singleQuotedString, doubleQuotedString] "0x1F" :=
  ⟨by decide, stock_choices_choose_among (RuleSet.mk 0 []) "0x1F" (by decide)⟩

end Grammar

end Backtrack
