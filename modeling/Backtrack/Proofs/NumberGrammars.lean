import Backtrack.Proofs.Parsing
import Backtrack.Proofs.Reads
import Backtrack.Grammar.Stock

/-!
# The languages of the number grammars

Each number grammar parses, in full, exactly the strings of a regular language, and yields the
whole input as one piece of text:

* `integer`: `0|-?[1-9][0-9]*`;
* `float`: `-?(0|[1-9][0-9]*)\.[0-9]+`;
* `binaryInteger`: `-?0[bB][01]+`, without the negative zeros `-0[bB]0+`;
* `octalInteger`: `-?0[oO]?[0-7]+`, without the negative zeros `-0[oO]?0+`;
* `hexadecimalInteger`: `-?0[xX][0-9a-fA-F]+`, without the negative zeros `-0[xX]0+`.

The languages are stated on the characters of the input (`IntegerText` ... `OctalText`). Every
part of the bodies reads lengths off the characters after the position (`Engine.Reads`), so a
complete parse comes down to the first length the body reads from the start of the input
(`parseComplete_iff_offers`) and, for the prefixed kinds, to whether the anchored bad pattern
reads the whole input. What is left is reasoning about lists: where the optional sign, the
lookahead `nextIsNot "0"` and the greedy runs leave the search.

Main statement: `number_grammars_parse_exactly`.
-/

namespace Backtrack

namespace Grammar

/-! ### The languages -/

/-- One or more characters, all from `set`. -/
def Among (set : String) (l : List Char) : Prop := l ≠ [] ∧ ∀ ch ∈ l, ch ∈ set.toList

instance (set : String) (l : List Char) : Decidable (Among set l) :=
  inferInstanceAs (Decidable (_ ∧ _))

/-- An optional minus sign. -/
def Sign (l : List Char) : Prop := l = [] ∨ l = ['-']

/-- `0|[1-9][0-9]*`: zero, or decimal digits that do not start with zero. -/
def Whole (l : List Char) : Prop := l = ['0'] ∨ (Among digits l ∧ l.head? ≠ some '0')

/-- `0|-?[1-9][0-9]*` -/
def IntegerText (l : List Char) : Prop :=
  l = ['0'] ∨ ∃ sign w, Sign sign ∧ Among digits w ∧ w.head? ≠ some '0' ∧ l = sign ++ w

/-- `-?(0|[1-9][0-9]*)\.[0-9]+` -/
def FloatText (l : List Char) : Prop :=
  ∃ sign w f, Sign sign ∧ Whole w ∧ Among digits f ∧ l = sign ++ w ++ '.' :: f

/-- `-?0[marks][set]+`, without the negative zeros `-0[marks]0+`. -/
def PrefixedText (marks set : String) (l : List Char) : Prop :=
  (∃ sign r ds, Sign sign ∧ r ∈ marks.toList ∧ Among set ds ∧ l = sign ++ '0' :: r :: ds) ∧
    ¬∃ r zs, r ∈ marks.toList ∧ Among "0" zs ∧ l = '-' :: '0' :: r :: zs

/-- An optional `o` or `O`. -/
def OctalMark (o : List Char) : Prop := o = [] ∨ o = ['o'] ∨ o = ['O']

/-- `-?0[oO]?[0-7]+`, without the negative zeros `-0[oO]?0+`. -/
def OctalText (l : List Char) : Prop :=
  (∃ sign o ds, Sign sign ∧ OctalMark o ∧ Among octalDigits ds ∧ l = sign ++ '0' :: (o ++ ds)) ∧
    ¬∃ o zs, OctalMark o ∧ Among "0" zs ∧ l = '-' :: '0' :: (o ++ zs)

/-- `g` parses in full, under every rule set, exactly the inputs of `L` (of fewer than `2 ^ 64`
characters), and yields each as one piece of text. -/
def ParsesExactly (g : Grammar) (L : List Char → Prop) : Prop :=
  ∀ (rules : RuleSet) (s : String), s.length < Word.size →
    ((∃ p, (g.parseComplete rules s).1 = .ok p) ↔ L s.toList) ∧
      ∀ p, (g.parseComplete rules s).1 = .ok p → p.fragment = .text s

/-! ### How far a run of a class reaches -/

/-- How many characters from the start of `l` belong to `set`. -/
def spanOf (set : String) (l : List Char) : Nat := (l.takeWhile fun ch ↦ decide (ch ∈ set.toList)).length

section Span

variable {set : String}

theorem spanOf_nil : spanOf set [] = 0 := rfl

theorem spanOf_cons_of_not_mem {ch : Char} {l : List Char} (h : ch ∉ set.toList) :
    spanOf set (ch :: l) = 0 := by
  simp [spanOf, List.takeWhile_cons_of_neg (p := fun ch ↦ decide (ch ∈ set.toList)) (by simpa using h)]

theorem spanOf_le (l : List Char) : spanOf set l ≤ l.length :=
  (List.takeWhile_prefix _).length_le

/-- The run reaches the end exactly when every character belongs to the set. -/
theorem spanOf_eq_length_iff {l : List Char} : spanOf set l = l.length ↔ ∀ ch ∈ l, ch ∈ set.toList := by
  constructor
  · intro h
    have hself : (l.takeWhile fun ch ↦ decide (ch ∈ set.toList)) = l :=
      (List.takeWhile_prefix _).eq_of_length h
    simpa using List.takeWhile_eq_self_iff.mp hself
  · intro h
    rw [spanOf, List.takeWhile_eq_self_iff.mpr (by simpa using h)]

theorem among_iff {l : List Char} : Among set l ↔ 0 < spanOf set l ∧ spanOf set l = l.length := by
  rw [Among, spanOf_eq_length_iff]
  constructor
  · rintro ⟨hne, hall⟩
    refine ⟨?_, hall⟩
    rw [spanOf_eq_length_iff.mpr hall]
    exact List.length_pos_of_ne_nil hne
  · rintro ⟨hpos, hall⟩
    refine ⟨fun h ↦ ?_, hall⟩
    subst h
    simp [spanOf_nil] at hpos

/-- A run over characters of the set stops at the first character outside it. -/
theorem spanOf_append_of_not_mem {w f : List Char} {x : Char} (hw : ∀ ch ∈ w, ch ∈ set.toList)
    (hx : x ∉ set.toList) : spanOf set (w ++ x :: f) = w.length := by
  rw [spanOf, List.takeWhile_append_of_pos (by simpa using hw),
    List.takeWhile_cons_of_neg (by simpa using hx)]
  simp

theorem count_setRun (lo : Nat) (cfg : Config) (l : List Char) :
    Run.count ⟨.of set, lo, none, false⟩ cfg l = spanOf set l := by
  rw [Run.count_unbounded, spanOf]
  congr 2
  funext ch
  exact CharClass.accepts_of set ch

end Span

/-! ### What the bodies read -/

open Engine Pattern

/-- What an optional minus sign reads. -/
def signLens : List Char → List Nat := optionalLens (literalLens "-")

/-- What a run of at least one character of `set` reads. -/
def setLens (cfg : Config) (set : String) : List Char → List Nat := runLens cfg ⟨.of set, 1, none, false⟩

/-- The steps of `-?0[marks][set]+`. -/
def prefixedSteps (cfg : Config) (marks set : String) : List (List Char → List Nat) :=
  [signLens, literalLens "0", charLens (.of marks), setLens cfg set]

/-- The steps of `-0[marks]0+` up to the end of the text. -/
def negZeroSteps (cfg : Config) (marks : String) : List (List Char → List Nat) :=
  [literalLens "-0", charLens (.of marks), setLens cfg "0", endLens]

/-- What the optional mark of an octal literal reads. -/
def octalMarkLens : List Char → List Nat := optionalLens (charLens (.of "oO"))

/-- The steps of `-?0[oO]?[0-7]+`. -/
def octalSteps (cfg : Config) : List (List Char → List Nat) :=
  [signLens, literalLens "0", octalMarkLens, setLens cfg octalDigits]

/-- The steps of `-0[oO]?0+` up to the end of the text. -/
def octalNegZeroSteps (cfg : Config) : List (List Char → List Nat) :=
  [literalLens "-0", octalMarkLens, setLens cfg "0", endLens]

/-- The steps of `(?!0)[0-9]+`: digits that do not start with `0`. -/
def unsignedSteps (cfg : Config) : List (List Char → List Nat) :=
  [lookLens (literalLens "0") true, setLens cfg digits]

/-- What the body of `integer` reads: `0`, or else `-?(?!0)[0-9]+`. -/
def integerLens (cfg : Config) : List Char → List Nat :=
  groupLens (choiceLens [literalLens "0", sequenceLens (signLens :: unsignedSteps cfg)])

/-- What the integer part of a float reads: `0`, or else `(?!0)[0-9]+`. -/
def wholeLens (cfg : Config) : List Char → List Nat :=
  choiceLens [literalLens "0", sequenceLens (unsignedSteps cfg)]

/-- The steps of `-?(0|(?!0)[0-9]+)\.[0-9]+`. -/
def floatSteps (cfg : Config) : List (List Char → List Nat) :=
  [signLens, wholeLens cfg, literalLens ".", setLens cfg digits]

/-- The ends a bad pattern anchored at both ends offers, when the steps of the bad pattern
read `steps`. -/
def anchoredEnds (T : Array Char) (steps : List (List Char → List Nat)) : Nat → List Nat :=
  sequenceEnds (boundaryEnds T .stringStart :: steps.map (shifted T))

/-- From the start of the text, the anchored pattern offers what its steps read there. -/
theorem anchoredEnds_zero (T : Array Char) (steps : List (List Char → List Nat)) :
    anchoredEnds T steps 0 = (firstLen steps T.toList).toList := by
  have hstart : boundaryEnds T .stringStart 0 = [0] := rfl
  simp only [anchoredEnds, sequenceEnds, firstEnd, hstart, List.findSome?_cons, List.findSome?_nil,
    firstEnd_shifted, List.drop_zero]
  cases firstLen steps T.toList <;> simp

theorem contextAt_config (rules : RuleSet) (config : Config) (checks depth : Nat) :
    (contextAt rules config checks depth).config = config := by
  rw [contextAt]

section Bodies

variable {cx : Context} {rules : RuleSet} {budget : Nat} {T : Array Char}
  (hcx : cx.Measures rules budget) (hT : T.size < Word.size)
include hcx hT

theorem reads_sign : Reads cx T (optional (literal "-")) signLens :=
  reads_optional hcx (reads_literal hcx hT "-" false) hT false

theorem reads_chars (set : String) : Reads cx T (chars set) (setLens cx.config set) :=
  reads_run hcx hT ⟨.of set, 1, none, false⟩ false

theorem reads_notZero (hfr : cx.Frames) : Reads cx T (nextIsNot (literal "0")) (lookLens (literalLens "0") true) :=
  reads_nextIs hcx hfr (reads_literal hcx hT "0" false) (onlyFails_literal cx "0") hT true true

theorem reads_prefixedBody (marks set : String) :
    Reads cx T (group (optional (literal "-") + literal "0" + charOf marks + chars set))
      (groupLens (sequenceLens (prefixedSteps cx.config marks set))) :=
  reads_group hcx (reads_sequence hcx (.cons (reads_sign hcx hT) (.cons (reads_literal hcx hT "0" false)
    (.cons (reads_char hcx hT (.of marks) false) (.cons (reads_chars hcx hT set) .nil))))
    true false) false

/-- The anchored negative zero of the prefixed kinds, on every text. -/
theorem offers_negZero (marks : String) :
    Offers cx T (anchored (literal "-0" + charOf marks + chars "0")) (anchoredEnds T (negZeroSteps cx.config marks)) :=
  offers_sequence hcx (.cons (offers_boundary hcx .stringStart true) (.cons (reads_literal hcx hT "-0" false)
    (.cons (reads_char hcx hT (.of marks) false) (.cons (reads_chars hcx hT "0")
      (.cons (reads_stringEnd hcx true) .nil))))) true false

theorem reads_octalBody :
    Reads cx T (group (optional (literal "-") + literal "0" + optional (charOf "oO") + chars octalDigits))
      (groupLens (sequenceLens (octalSteps cx.config))) :=
  reads_group hcx (reads_sequence hcx (.cons (reads_sign hcx hT) (.cons (reads_literal hcx hT "0" false)
    (.cons (reads_optional hcx (reads_char hcx hT (.of "oO") false) hT false)
      (.cons (reads_chars hcx hT octalDigits) .nil))))
    true false) false

theorem offers_octalNegZero :
    Offers cx T (anchored (literal "-0" + optional (charOf "oO") + chars "0")) (anchoredEnds T (octalNegZeroSteps cx.config)) :=
  offers_sequence hcx (.cons (offers_boundary hcx .stringStart true) (.cons (reads_literal hcx hT "-0" false)
    (.cons (reads_optional hcx (reads_char hcx hT (.of "oO") false) hT false)
      (.cons (reads_chars hcx hT "0") (.cons (reads_stringEnd hcx true) .nil))))) true false

theorem reads_unsigned (hfr : cx.Frames) :
    Reads cx T (nextIsNot (literal "0") + chars digits) (sequenceLens (unsignedSteps cx.config)) :=
  reads_sequence hcx (.cons (reads_notZero hcx hT hfr) (.cons (reads_chars hcx hT digits) .nil)) true false

theorem reads_integerBody (hfr : cx.Frames) :
    Reads cx T (group (literal "0" <|> (optional (literal "-") + nextIsNot (literal "0") + chars digits)))
      (integerLens cx.config) :=
  reads_group hcx (reads_choice hcx (.cons (reads_literal hcx hT "0" false)
    (.cons (reads_sequence hcx (.cons (reads_sign hcx hT) (.cons (reads_notZero hcx hT hfr)
      (.cons (reads_chars hcx hT digits) .nil))) true false) .nil)) true false) false

theorem reads_floatBody (hfr : cx.Frames) :
    Reads cx T (group (optional (literal "-") + (literal "0" <|> (nextIsNot (literal "0") + chars digits)) +
        literal "." + chars digits))
      (groupLens (sequenceLens (floatSteps cx.config))) :=
  reads_group hcx (reads_sequence hcx (.cons (reads_sign hcx hT)
    (.cons (reads_choice hcx (.cons (reads_literal hcx hT "0" false) (.cons (reads_unsigned hcx hT hfr) .nil)) true false)
      (.cons (reads_literal hcx hT "." false) (.cons (reads_chars hcx hT digits) .nil))))
    true false) false

end Bodies

theorem plain_prefixedBody (marks set : String) :
    (optional (literal "-") + literal "0" + charOf marks + chars set).Plain := by
  show Plain (.mk (.sequence [optional (literal "-"), literal "0", charOf marks, chars set] none true) false)
  refine .sequence true fun q hq ↦ ?_
  simp only [List.mem_cons, List.not_mem_nil, or_false] at hq
  rcases hq with rfl | rfl | rfl | rfl
  · exact .repetition 0 (some 1) (.literal "-")
  · exact .literal "0"
  · exact .char _
  · exact .run _

theorem plain_octalBody :
    (optional (literal "-") + literal "0" + optional (charOf "oO") + chars octalDigits).Plain := by
  show Plain (.mk (.sequence [optional (literal "-"), literal "0", optional (charOf "oO"), chars octalDigits] none true) false)
  refine .sequence true fun q hq ↦ ?_
  simp only [List.mem_cons, List.not_mem_nil, or_false] at hq
  rcases hq with rfl | rfl | rfl | rfl
  · exact .repetition 0 (some 1) (.literal "-")
  · exact .literal "0"
  · exact .repetition 0 (some 1) (.char _)
  · exact .run _

theorem plain_integerBody :
    (literal "0" <|> (optional (literal "-") + nextIsNot (literal "0") + chars digits)).Plain := by
  show Plain (.mk (.choice [literal "0",
    .mk (.sequence [optional (literal "-"), nextIsNot (literal "0"), chars digits] none true) false] true) false)
  refine .choice true fun q hq ↦ ?_
  simp only [List.mem_cons, List.not_mem_nil, or_false] at hq
  rcases hq with rfl | rfl
  · exact .literal "0"
  refine .sequence true fun q hq ↦ ?_
  simp only [List.mem_cons, List.not_mem_nil, or_false] at hq
  rcases hq with rfl | rfl | rfl
  · exact .repetition 0 (some 1) (.literal "-")
  · exact .nextIs true _ true
  · exact .run _

theorem plain_floatBody :
    (optional (literal "-") + (literal "0" <|> (nextIsNot (literal "0") + chars digits)) + literal "." +
      chars digits).Plain := by
  show Plain (.mk (.sequence [optional (literal "-"),
    .mk (.choice [literal "0", .mk (.sequence [nextIsNot (literal "0"), chars digits] none true) false] true) false,
    literal ".", chars digits] none true) false)
  refine .sequence true fun q hq ↦ ?_
  simp only [List.mem_cons, List.not_mem_nil, or_false] at hq
  rcases hq with rfl | rfl | rfl | rfl
  · exact .repetition 0 (some 1) (.literal "-")
  · refine .choice true fun q hq ↦ ?_
    simp only [List.mem_cons, List.not_mem_nil, or_false] at hq
    rcases hq with rfl | rfl
    · exact .literal "0"
    refine .sequence true fun q hq ↦ ?_
    simp only [List.mem_cons, List.not_mem_nil, or_false] at hq
    rcases hq with rfl | rfl
    · exact .nextIs true _ true
    · exact .run _
  · exact .literal "."
  · exact .run _

section Grammars

variable {rules : RuleSet} {T : Array Char}

/-- The allowance of checks of a parse, one more than that of the checks it runs. -/
theorem checkAllowance_eq : checkAllowance = (checkAllowance - 1) + 1 := by
  unfold checkAllowance Word.size
  decide

/-- A grammar with a bad pattern, run at any depth with the whole allowance of checks, offers the
first end of its body unless the anchored bad pattern reads the whole stretch of input the body
matched. The body is read in every measured context, so the check's own contexts are covered as
well. -/
theorem offers_checkedAt {body bad : Pattern} (lens : Config → List Char → List Nat)
    (steps : Config → List (List Char → List Nat))
    (hbody : ∀ {cx : Context} {budget : Nat} {T : Array Char}, cx.Measures rules budget → cx.Frames →
      T.size < Word.size → Reads cx T body (lens cx.config))
    (hbad : ∀ {cx : Context} {budget : Nat} {T : Array Char}, cx.Measures rules budget → T.size < Word.size →
      Offers cx T (anchored bad) (anchoredEnds T (steps cx.config)))
    (hplain : body.Plain) (hT : T.size < Word.size) (name : String) (tag depth : Nat) :
    Offers (contextAt rules {} checkAllowance depth) T ((⟨name, body, some bad⟩ : Grammar).toPattern tag)
      (grammarEnds (shifted T (lens {})) fun i e ↦ !(anchoredEnds (T.extract i e) (steps {}) 0).isEmpty) := by
  rw [checkAllowance_eq]
  have hb := hbody (contextAt_measures rules {} (checkAllowance - 1 + 1) depth) (contextAt_frames rules {} _ depth) hT
  rw [contextAt_config] at hb
  -- the check runs one allowance lower, on texts of its own
  have hbad' : ∀ T' : Array Char, T'.size < Word.size →
      Offers (contextAt rules {} (checkAllowance - 1) 0) T' (anchored bad) (anchoredEnds T' (steps {})) := by
    intro T' hT'
    have h := hbad (contextAt_measures rules {} (checkAllowance - 1) 0) hT'
    rwa [contextAt_config] at h
  exact offers_checked hT hb hplain hbad' false

/-- A grammar without a bad pattern, run at any depth, offers the first end of its body. -/
theorem offers_uncheckedAt {body : Pattern} (lens : Config → List Char → List Nat)
    (hbody : ∀ {cx : Context} {budget : Nat} {T : Array Char}, cx.Measures rules budget → cx.Frames →
      T.size < Word.size → Reads cx T body (lens cx.config))
    (hT : T.size < Word.size) (name : String) (tag depth : Nat) :
    Offers (contextAt rules {} checkAllowance depth) T ((⟨name, body, none⟩ : Grammar).toPattern tag)
      (grammarEnds (shifted T (lens {})) fun _ _ ↦ false) := by
  have hb := hbody (contextAt_measures rules {} checkAllowance depth) (contextAt_frames rules {} checkAllowance depth) hT
  rw [contextAt_config] at hb
  exact offers_unchecked (contextAt_measures rules {} checkAllowance depth) hT hb false

end Grammars

/-! ### Reading the steps off the characters -/

section Evaluate

variable {fs : List (List Char → List Nat)} {l : List Char}

theorem signLens_minus (l : List Char) : signLens ('-' :: l) = [1, 0] := by
  have hpre : "-".toList <+: '-' :: l := by simp
  have hlen : "-".length = 1 := by decide
  simp [signLens, optionalLens, literalLens_of_startsWith hpre, hlen]

theorem signLens_of_ne (h : l.head? ≠ some '-') : signLens l = [0] := by
  have hpre : ¬"-".toList <+: l := by
    cases l with
    | nil => simp
    | cons c rest => simpa [eq_comm] using h
  simp [signLens, optionalLens, literalLens_of_not_startsWith hpre]

/-- After a minus sign the search goes on without it, when the later steps read nothing from
the sign itself. -/
theorem firstLen_sign_minus (hfs : firstLen fs ('-' :: l) = none) :
    firstLen (signLens :: fs) ('-' :: l) = (firstLen fs l).map (1 + ·) := by
  rw [firstLen_of_pair (signLens_minus l), hfs, Option.or_none]
  rfl

theorem firstLen_sign_of_ne (h : l.head? ≠ some '-') : firstLen (signLens :: fs) l = firstLen fs l := by
  rw [firstLen_of_single (signLens_of_ne h), List.drop_zero]
  cases firstLen fs l <;> simp

theorem setLens_eq (cfg : Config) (set : String) (l : List Char) :
    setLens cfg set l =
      if spanOf set l = 0 then [] else spanOf set l :: countDown (spanOf set l) (spanOf set l - 1) := by
  simp only [setLens, runLens, count_setRun]
  split_ifs <;> first | rfl | omega

/-- A run as the last step reaches as far as the set allows. -/
theorem firstLen_set (cfg : Config) (set : String) (l : List Char) :
    firstLen [setLens cfg set] l = if spanOf set l = 0 then none else some (spanOf set l) := by
  rw [firstLen, setLens_eq]
  split_ifs
  · rfl
  · simp [firstLen]

/-- A run followed by the end of the text reaches the end exactly when the set covers every
character: the run's first reach is as far as it goes, and every smaller one stops short. -/
theorem firstLen_set_end (cfg : Config) (set : String) (l : List Char) :
    firstLen [setLens cfg set, endLens] l = if Among set l then some l.length else none := by
  have hend : ∀ k, firstLen [endLens] (l.drop k) = if l.length ≤ k then some 0 else none := by
    intro k
    by_cases hk : l.length ≤ k
    · simp [firstLen, endLens, List.drop_eq_nil_iff.mpr hk, hk]
    · have hne : l.drop k ≠ [] := fun h ↦ hk (List.drop_eq_nil_iff.mp h)
      simp [firstLen, endLens, hne, hk]
  have hle : spanOf set l ≤ l.length := spanOf_le l
  rw [firstLen, setLens_eq]
  by_cases h0 : spanOf set l = 0
  · have hA : ¬Among set l := fun h ↦ by
      have := (among_iff.mp h).1
      omega
    simp [h0, hA]
  · simp only [h0, if_false, List.findSome?_cons, hend]
    by_cases hall : spanOf set l = l.length
    · have hA : Among set l := among_iff.mpr ⟨by omega, hall⟩
      simp [hall, hA]
    · -- every shorter reach stops before the end of the text
      have hA : ¬Among set l := fun h ↦ hall (among_iff.mp h).2
      have hshort : ∀ k ∈ countDown (spanOf set l) (spanOf set l - 1),
          (if l.length ≤ k then some 0 else none).map (k + ·) = none := by
        intro k hk
        have := mem_countDown hk
        rw [if_neg (by omega)]
        rfl
      rw [if_neg (by omega), if_neg hA]
      simpa using List.findSome?_eq_none_iff.mpr hshort

/-- The sign is taken when it is there, provided the later steps read nothing from a minus. -/
theorem firstLen_signed (hminus : ∀ l', firstLen fs ('-' :: l') = none) {n : Nat} :
    firstLen (signLens :: fs) l = some n ↔
      ∃ sign rest k, Sign sign ∧ l = sign ++ rest ∧ firstLen fs rest = some k ∧ n = sign.length + k := by
  by_cases hm : l.head? = some '-'
  · obtain ⟨l', rfl⟩ : ∃ l', l = '-' :: l' := by
      rcases l with _ | ⟨c, l'⟩ <;> simp_all
    rw [firstLen_sign_minus (hminus l')]
    constructor
    · intro h
      obtain ⟨k, hk, rfl⟩ := Option.map_eq_some_iff.mp h
      exact ⟨['-'], l', k, Or.inr rfl, rfl, hk, rfl⟩
    · rintro ⟨sign, rest, k, rfl | rfl, hl, hk, rfl⟩
      · rw [List.nil_append] at hl
        rw [← hl, hminus] at hk
        cases hk
      · simp only [List.singleton_append, List.cons.injEq, true_and] at hl
        rw [hl, hk]
        rfl
  · rw [firstLen_sign_of_ne hm]
    constructor
    · intro h
      exact ⟨[], l, n, Or.inl rfl, rfl, h, by simp⟩
    · rintro ⟨sign, rest, k, rfl | rfl, rfl, hk, rfl⟩
      · simpa using hk
      · simp at hm

/-- A step list that starts with the digit `0` reads nothing from a minus. -/
theorem firstLen_zero_minus (l' : List Char) : firstLen (literalLens "0" :: fs) ('-' :: l') = none :=
  firstLen_of_nil (literalLens_of_not_startsWith (by simp))

theorem firstLen_set_eq_some {cfg : Config} {set : String} {n : Nat} :
    firstLen [setLens cfg set] l = some n ↔ 0 < spanOf set l ∧ n = spanOf set l := by
  rw [firstLen_set]
  split_ifs with h
  · simp [h]
  · simp only [Option.some.injEq]
    omega

variable {cfg : Config} {marks set : String} {n : Nat}

/-- After the sign of a prefixed kind: `0`, a mark, and as many characters of the set as follow. -/
theorem firstLen_radix :
    firstLen [literalLens "0", charLens (.of marks), setLens cfg set] l = some n ↔
      ∃ r rest, l = '0' :: r :: rest ∧ r ∈ marks.toList ∧ 0 < spanOf set rest ∧ n = 2 + spanOf set rest := by
  have hlen : "0".length = 1 := by decide
  simp only [firstLen_literal, firstLen_char, firstLen_set_eq_some, CharClass.accepts_of, decide_eq_true_eq, hlen]
  constructor
  · rintro ⟨_, _, rfl, ⟨r, rest, _, rfl, hr, ⟨hs, rfl⟩, rfl⟩, rfl⟩
    exact ⟨r, rest, by simp, hr, hs, by omega⟩
  · rintro ⟨r, rest, rfl, hr, hs, rfl⟩
    exact ⟨_, _, by simp, ⟨r, rest, _, rfl, hr, ⟨hs, rfl⟩, rfl⟩, by omega⟩

/-- The body of a prefixed kind reaches the end exactly on `-?0[marks][set]+`. -/
theorem prefixed_complete :
    (groupLens (sequenceLens (prefixedSteps cfg marks set)) l).head? = some l.length ↔
      ∃ sign r ds, Sign sign ∧ r ∈ marks.toList ∧ Among set ds ∧ l = sign ++ '0' :: r :: ds := by
  rw [head_groupLens_sequenceLens, prefixedSteps, firstLen_signed firstLen_zero_minus]
  constructor
  · rintro ⟨sign, rest, k, hsign, rfl, hk, hn⟩
    obtain ⟨r, ds, rfl, hr, hs, rfl⟩ := firstLen_radix.mp hk
    have hall : spanOf set ds = ds.length := by
      simp at hn
      omega
    exact ⟨sign, r, ds, hsign, hr, among_iff.mpr ⟨hs, hall⟩, rfl⟩
  · rintro ⟨sign, r, ds, hsign, hr, hds, rfl⟩
    obtain ⟨hpos, hall⟩ := among_iff.mp hds
    exact ⟨sign, _, _, hsign, rfl, firstLen_radix.mpr ⟨r, ds, rfl, hr, hpos, rfl⟩, by simp [hall]; omega⟩

/-- The anchored negative zero reads a text exactly when it is `-0[marks]0+`. -/
theorem negZero_isSome (cfg : Config) :
    (firstLen (negZeroSteps cfg marks) l).isSome ↔
      ∃ r zs, r ∈ marks.toList ∧ Among "0" zs ∧ l = '-' :: '0' :: r :: zs := by
  have hlen : "-0".length = 2 := by decide
  rw [Option.isSome_iff_exists, negZeroSteps]
  simp only [firstLen_literal, firstLen_char, firstLen_set_end, CharClass.accepts_of, decide_eq_true_eq, hlen]
  constructor
  · rintro ⟨_, _, rest, rfl, ⟨r, zs, k, rfl, hr, hk, -⟩, -⟩
    have hz : Among "0" zs := by
      by_contra hz
      simp [hz] at hk
    exact ⟨r, zs, hr, hz, by simp⟩
  · rintro ⟨r, zs, hr, hz, rfl⟩
    exact ⟨_, r :: zs, 1 + zs.length, by simp, ⟨r, zs, zs.length, rfl, hr, by simp [hz], rfl⟩, rfl⟩

/-! #### The octal kind -/

theorem mem_octalMarks {c : Char} : c ∈ "oO".toList ↔ c = 'o' ∨ c = 'O' := by
  simp

theorem octalMark_singleton {c : Char} : OctalMark [c] ↔ c ∈ "oO".toList := by
  simp [OctalMark]

/-- The optional mark of an octal literal is taken when it is there, provided the later steps
read nothing from a mark. -/
theorem firstLen_octalMark {gs : List (List Char → List Nat)}
    (hmark : ∀ c rest, c ∈ "oO".toList → firstLen gs (c :: rest) = none) {k : Nat} :
    firstLen (octalMarkLens :: gs) l = some k ↔
      ∃ o rest k', OctalMark o ∧ l = o ++ rest ∧ firstLen gs rest = some k' ∧ k = o.length + k' := by
  by_cases hm : ∃ c rest, l = c :: rest ∧ c ∈ "oO".toList
  · obtain ⟨c, rest, rfl, hc⟩ := hm
    have hpair : octalMarkLens (c :: rest) = [1, 0] := by
      simp [octalMarkLens, optionalLens, charLens_cons, CharClass.accepts_of, mem_octalMarks.mp hc]
    rw [firstLen_of_pair hpair, hmark c rest hc, Option.or_none, List.drop_one, List.tail_cons]
    constructor
    · intro h
      obtain ⟨k', hk', rfl⟩ := Option.map_eq_some_iff.mp h
      exact ⟨[c], rest, k', octalMark_singleton.mpr hc, rfl, hk', rfl⟩
    · rintro ⟨o, rest', k', ho, hl, hk', rfl⟩
      rcases ho with rfl | rfl | rfl
      · -- leaving the mark out, the later steps would start at it
        rw [List.nil_append] at hl
        rw [← hl, hmark c rest hc] at hk'
        cases hk'
      all_goals
        obtain ⟨rfl, rfl⟩ : c = _ ∧ rest = rest' := by simpa using hl
        simp [hk']
  · have hsingle : octalMarkLens l = [0] := by
      rcases l with _ | ⟨c, rest⟩
      · rfl
      · have hc : ¬(c = 'o' ∨ c = 'O') := fun hc ↦ hm ⟨c, rest, rfl, mem_octalMarks.mpr hc⟩
        simp [octalMarkLens, optionalLens, charLens_cons, CharClass.accepts_of, hc]
    rw [firstLen_of_single hsingle, List.drop_zero]
    constructor
    · intro h
      obtain ⟨k', hk', rfl⟩ := Option.map_eq_some_iff.mp h
      exact ⟨[], l, k', Or.inl rfl, rfl, hk', rfl⟩
    · rintro ⟨o, rest, k', ho, rfl, hk', rfl⟩
      rcases ho with rfl | rfl | rfl
      · simp [hk']
      all_goals exact absurd ⟨_, rest, rfl, by simp⟩ hm

/-- After the sign of an octal literal: `0`, the mark if digits follow it, and the digits. -/
theorem firstLen_octalRadix :
    firstLen [literalLens "0", octalMarkLens, setLens cfg octalDigits] l = some n ↔
      ∃ o rest, OctalMark o ∧ l = '0' :: (o ++ rest) ∧ 0 < spanOf octalDigits rest ∧
        n = 1 + o.length + spanOf octalDigits rest := by
  have hlen : "0".length = 1 := by decide
  have hmark : ∀ c rest, c ∈ "oO".toList → firstLen [setLens cfg octalDigits] (c :: rest) = none := by
    intro c rest hc
    have hc' : c ∉ octalDigits.toList := by
      rcases mem_octalMarks.mp hc with rfl | rfl <;> decide
    rw [firstLen_set, spanOf_cons_of_not_mem hc', if_pos rfl]
  simp only [firstLen_literal, firstLen_octalMark hmark, firstLen_set_eq_some, hlen]
  constructor
  · rintro ⟨_, _, rfl, ⟨o, rest, _, ho, rfl, ⟨hs, rfl⟩, rfl⟩, rfl⟩
    exact ⟨o, rest, ho, by simp, hs, by omega⟩
  · rintro ⟨o, rest, ho, rfl, hs, rfl⟩
    exact ⟨_, _, by simp, ⟨o, rest, _, ho, rfl, ⟨hs, rfl⟩, rfl⟩, by omega⟩

/-- The body of `octalInteger` reaches the end exactly on `-?0[oO]?[0-7]+`. -/
theorem octal_complete :
    (groupLens (sequenceLens (octalSteps cfg)) l).head? = some l.length ↔
      ∃ sign o ds, Sign sign ∧ OctalMark o ∧ Among octalDigits ds ∧ l = sign ++ '0' :: (o ++ ds) := by
  rw [head_groupLens_sequenceLens, octalSteps, firstLen_signed firstLen_zero_minus]
  constructor
  · rintro ⟨sign, rest, k, hsign, rfl, hk, hn⟩
    obtain ⟨o, ds, ho, rfl, hs, rfl⟩ := firstLen_octalRadix.mp hk
    have hall : spanOf octalDigits ds = ds.length := by
      simp at hn
      omega
    exact ⟨sign, o, ds, hsign, ho, among_iff.mpr ⟨hs, hall⟩, rfl⟩
  · rintro ⟨sign, o, ds, hsign, ho, hds, rfl⟩
    obtain ⟨hpos, hall⟩ := among_iff.mp hds
    exact ⟨sign, _, _, hsign, rfl, firstLen_octalRadix.mpr ⟨o, ds, ho, rfl, hpos, rfl⟩, by simp [hall]; omega⟩

/-- The anchored negative zero of `octalInteger` reads a text exactly when it is `-0[oO]?0+`. -/
theorem octalNegZero_isSome (cfg : Config) :
    (firstLen (octalNegZeroSteps cfg) l).isSome ↔
      ∃ o zs, OctalMark o ∧ Among "0" zs ∧ l = '-' :: '0' :: (o ++ zs) := by
  have hlen : "-0".length = 2 := by decide
  have hmark : ∀ c rest, c ∈ "oO".toList → firstLen [setLens cfg "0", endLens] (c :: rest) = none := by
    intro c rest hc
    have hA : ¬Among "0" (c :: rest) := fun h ↦ by
      have hz := h.2 c List.mem_cons_self
      rcases mem_octalMarks.mp hc with rfl | rfl <;> simp at hz
    rw [firstLen_set_end, if_neg hA]
  rw [Option.isSome_iff_exists, octalNegZeroSteps]
  simp only [firstLen_literal, firstLen_octalMark hmark, firstLen_set_end, hlen]
  constructor
  · rintro ⟨_, _, rest, rfl, ⟨o, zs, k, ho, rfl, hk, -⟩, -⟩
    have hz : Among "0" zs := by
      by_contra hz
      simp [hz] at hk
    exact ⟨o, zs, ho, hz, by simp⟩
  · rintro ⟨o, zs, ho, hz, rfl⟩
    exact ⟨_, o ++ zs, o.length + zs.length, by simp, ⟨o, zs, zs.length, ho, rfl, by simp [hz], rfl⟩, rfl⟩

/-! #### The integer and float kinds -/

theorem zero_prefix_iff : "0".toList <+: l ↔ l.head? = some '0' := by
  rcases l with _ | ⟨c, l⟩ <;> simp [eq_comm]

/-- The lookahead `(?!0)` lets the digits through exactly when the text does not start with `0`. -/
theorem firstLen_unsigned_eq_some :
    firstLen (unsignedSteps cfg) l = some n ↔ l.head? ≠ some '0' ∧ 0 < spanOf digits l ∧ n = spanOf digits l := by
  rw [unsignedSteps]
  by_cases hz : l.head? = some '0'
  · have hlook : lookLens (literalLens "0") true l = [] := by
      simp [lookLens, literalLens_of_startsWith (zero_prefix_iff.mpr hz)]
    simp [firstLen_of_nil hlook, hz]
  · have hlook : lookLens (literalLens "0") true l = [0] := by
      simp [lookLens, literalLens_of_not_startsWith (mt zero_prefix_iff.mp hz)]
    rw [firstLen_of_single hlook, List.drop_zero, Option.map_eq_some_iff]
    simp only [firstLen_set_eq_some, hz, ne_eq, not_false_eq_true, true_and]
    constructor
    · rintro ⟨k, ⟨hpos, rfl⟩, rfl⟩
      exact ⟨hpos, by omega⟩
    · rintro ⟨hpos, rfl⟩
      exact ⟨_, ⟨hpos, rfl⟩, by omega⟩

theorem firstLen_unsigned_minus (l' : List Char) : firstLen (unsignedSteps cfg) ('-' :: l') = none := by
  cases h : firstLen (unsignedSteps cfg) ('-' :: l') with
  | none => rfl
  | some k =>
    have hpos := (firstLen_unsigned_eq_some.mp h).2.1
    rw [spanOf_cons_of_not_mem (by decide)] at hpos
    cases hpos

theorem integerText_zero_cons {l' : List Char} : IntegerText ('0' :: l') ↔ l' = [] := by
  constructor
  · rintro (h | ⟨sign, w, rfl | rfl, -, hw0, hl⟩)
    · simpa using h
    · rw [List.nil_append] at hl
      rw [← hl] at hw0
      simp at hw0
    · simp at hl
  · rintro rfl
    exact Or.inl rfl

/-- The body of `integer` reaches the end exactly on `0|-?[1-9][0-9]*`: a text that starts with
`0` is read as the `0` alone. -/
theorem integer_complete : (integerLens cfg l).head? = some l.length ↔ IntegerText l := by
  rw [integerLens, head_groupLens_choiceLens]
  by_cases hz : l.head? = some '0'
  · obtain ⟨l', rfl⟩ : ∃ l', l = '0' :: l' := by
      rcases l with _ | ⟨c, l'⟩ <;> simp_all
    have hlen : "0".length = 1 := by decide
    have hlit : literalLens "0" ('0' :: l') = [1] := by
      rw [literalLens_of_startsWith (by simp), hlen]
    simp [hlit, integerText_zero_cons]
  · have hlit : literalLens "0" l = [] := literalLens_of_not_startsWith (mt zero_prefix_iff.mp hz)
    have hchoice : [literalLens "0", sequenceLens (signLens :: unsignedSteps cfg)].findSome? (fun f ↦ (f l).head?) =
        firstLen (signLens :: unsignedSteps cfg) l := by
      cases h : firstLen (signLens :: unsignedSteps cfg) l <;> simp [hlit, sequenceLens, h]
    rw [hchoice, firstLen_signed firstLen_unsigned_minus]
    constructor
    · rintro ⟨sign, rest, k, hsign, rfl, hk, hn⟩
      obtain ⟨hne, hpos, rfl⟩ := firstLen_unsigned_eq_some.mp hk
      have hall : spanOf digits rest = rest.length := by
        simp at hn
        omega
      exact Or.inr ⟨sign, rest, hsign, among_iff.mpr ⟨hpos, hall⟩, hne, rfl⟩
    · rintro (rfl | ⟨sign, w, hsign, hw, hw0, rfl⟩)
      · simp at hz
      · obtain ⟨hpos, hall⟩ := among_iff.mp hw
        exact ⟨sign, w, _, hsign, rfl, firstLen_unsigned_eq_some.mpr ⟨hw0, hpos, rfl⟩, by simp [hall]⟩

/-- A run of a set splits the text into the characters it covers and the rest. -/
theorem spanOf_split (set : String) (l : List Char) :
    ∃ w rest, l = w ++ rest ∧ w.length = spanOf set l ∧ ∀ ch ∈ w, ch ∈ set.toList :=
  ⟨_, _, List.takeWhile_append_dropWhile.symm, rfl, fun _ h ↦ by simpa using List.mem_takeWhile_imp h⟩

theorem wholeLens_eq :
    wholeLens cfg l = if l.head? = some '0' then [1] else (firstLen [setLens cfg digits] l).toList := by
  rw [wholeLens, choiceLens]
  by_cases hz : l.head? = some '0'
  · have hlen : "0".length = 1 := by decide
    simp [literalLens_of_startsWith (zero_prefix_iff.mpr hz), hz, hlen]
  · have hunsigned : firstLen (unsignedSteps cfg) l = firstLen [setLens cfg digits] l := by
      cases h : firstLen [setLens cfg digits] l with
      | none =>
        cases h' : firstLen (unsignedSteps cfg) l with
        | none => rfl
        | some k =>
          obtain ⟨-, hpos, rfl⟩ := firstLen_unsigned_eq_some.mp h'
          rw [firstLen_set_eq_some.mpr ⟨hpos, rfl⟩] at h
          cases h
      | some k => exact firstLen_unsigned_eq_some.mpr ⟨hz, firstLen_set_eq_some.mp h⟩
    simp [literalLens_of_not_startsWith (mt zero_prefix_iff.mp hz), hz, sequenceLens, hunsigned]

/-- The integer part of a float, then its point: the integer part is `0` when the text starts
with `0`, else every digit in front, and the point has to follow it. -/
theorem firstLen_wholePoint {gs : List (List Char → List Nat)} :
    firstLen (wholeLens cfg :: literalLens "." :: gs) l = some n ↔
      ∃ w rest k, Whole w ∧ l = w ++ '.' :: rest ∧ firstLen gs rest = some k ∧ n = w.length + 1 + k := by
  have hdot : ".".length = 1 := by decide
  have hpoint : ∀ l' m, firstLen (literalLens "." :: gs) l' = some m ↔
      ∃ rest k, l' = '.' :: rest ∧ firstLen gs rest = some k ∧ m = 1 + k := by
    intro l' m
    simp [firstLen_literal, hdot]
  by_cases hz : l.head? = some '0'
  · obtain ⟨l', rfl⟩ : ∃ l', l = '0' :: l' := by
      rcases l with _ | ⟨c, l'⟩ <;> simp_all
    have hwhole : wholeLens cfg ('0' :: l') = [1] := by rw [wholeLens_eq, if_pos hz]
    rw [firstLen_of_single hwhole, List.drop_one, List.tail_cons, Option.map_eq_some_iff]
    constructor
    · rintro ⟨m, hm, rfl⟩
      obtain ⟨rest, k, rfl, hk, rfl⟩ := (hpoint _ _).mp hm
      exact ⟨['0'], rest, k, Or.inl rfl, rfl, hk, by simp; omega⟩
    · rintro ⟨w, rest, k, hw, hl, hk, rfl⟩
      -- a whole part other than `0` does not start with `0`
      obtain rfl : w = ['0'] := by
        rcases hw with hw | ⟨⟨hne, -⟩, hw0⟩
        · exact hw
        · obtain ⟨c, w', rfl⟩ := List.exists_cons_of_ne_nil hne
          simp only [List.cons_append, List.cons.injEq] at hl
          simp [← hl.1] at hw0
      obtain rfl : l' = '.' :: rest := by simpa using hl
      exact ⟨_, (hpoint _ _).mpr ⟨rest, k, rfl, hk, rfl⟩, by simp; omega⟩
  · obtain ⟨d, tail, hl, hd, hall⟩ := spanOf_split digits l
    -- a whole part other than `0` is a run of digits, and the point stops the run right after it
    have hwhole : ∀ w rest, Whole w → l = w ++ '.' :: rest → w ≠ [] ∧ w = d ∧ tail = '.' :: rest := by
      intro w rest hw hwl
      have hA : Among digits w := by
        rcases hw with rfl | ⟨hA, -⟩
        · simp [hwl] at hz
        · exact hA
      have hlen : w.length = d.length := by
        rw [hd, hwl, spanOf_append_of_not_mem hA.2 (by decide)]
      obtain ⟨rfl, htail⟩ := List.append_inj (hwl.symm.trans hl) hlen
      exact ⟨hA.1, rfl, htail.symm⟩
    have hdrop : l.drop (spanOf digits l) = tail := by
      rw [← hd, hl, List.drop_left]
    by_cases hs : spanOf digits l = 0
    · have hnil : wholeLens cfg l = [] := by
        rw [wholeLens_eq, if_neg hz, firstLen_set, if_pos hs]
        rfl
      rw [firstLen_of_nil hnil]
      simp only [reduceCtorEq, false_iff, not_exists, not_and]
      intro w rest k hw hwl
      obtain ⟨hne, rfl, -⟩ := hwhole w rest hw hwl
      exact absurd (List.length_eq_zero_iff.mp (hd.trans hs)) hne
    · have hone : wholeLens cfg l = [spanOf digits l] := by
        rw [wholeLens_eq, if_neg hz, firstLen_set, if_neg hs]
        rfl
      rw [firstLen_of_single hone, hdrop, Option.map_eq_some_iff]
      constructor
      · rintro ⟨m, hm, rfl⟩
        obtain ⟨rest, k, rfl, hk, rfl⟩ := (hpoint _ _).mp hm
        have hne : d ≠ [] := fun h ↦ hs (by rw [← hd, h]; rfl)
        have hhead : d.head? ≠ some '0' := by
          rwa [hl, List.head?_append_of_ne_nil _ hne] at hz
        exact ⟨d, rest, k, Or.inr ⟨⟨hne, hall⟩, hhead⟩, hl, hk, by omega⟩
      · rintro ⟨w, rest, k, hw, hwl, hk, rfl⟩
        obtain ⟨-, rfl, rfl⟩ := hwhole w rest hw hwl
        exact ⟨1 + k, (hpoint _ _).mpr ⟨rest, k, rfl, hk, rfl⟩, by omega⟩

theorem firstLen_whole_minus {gs : List (List Char → List Nat)} (l' : List Char) :
    firstLen (wholeLens cfg :: literalLens "." :: gs) ('-' :: l') = none := by
  have hnil : wholeLens cfg ('-' :: l') = [] := by
    rw [wholeLens_eq, if_neg (by simp), firstLen_set, spanOf_cons_of_not_mem (by decide), if_pos rfl]
    rfl
  exact firstLen_of_nil hnil

/-- The body of `float` reaches the end exactly on `-?(0|[1-9][0-9]*)\.[0-9]+`. -/
theorem float_complete :
    (groupLens (sequenceLens (floatSteps cfg)) l).head? = some l.length ↔ FloatText l := by
  rw [head_groupLens_sequenceLens, floatSteps, firstLen_signed firstLen_whole_minus]
  constructor
  · rintro ⟨sign, rest, k, hsign, rfl, hk, hn⟩
    obtain ⟨w, f, m, hw, rfl, hm, rfl⟩ := firstLen_wholePoint.mp hk
    obtain ⟨hpos, rfl⟩ := firstLen_set_eq_some.mp hm
    have hall : spanOf digits f = f.length := by
      simp at hn
      omega
    exact ⟨sign, w, f, hsign, hw, among_iff.mpr ⟨hpos, hall⟩, by simp⟩
  · rintro ⟨sign, w, f, hsign, hw, hf, rfl⟩
    obtain ⟨hpos, hall⟩ := among_iff.mp hf
    refine ⟨sign, w ++ '.' :: f, _, hsign, by simp,
      firstLen_wholePoint.mpr ⟨w, f, _, hw, rfl, firstLen_set_eq_some.mpr ⟨hpos, rfl⟩, rfl⟩, ?_⟩
    simp [hall]
    omega

end Evaluate

/-! ### Complete parses -/

section Exact

theorem toList_text_ofString (s : String) : (Cursor.ofString s).text.toList = s.toList := by
  simp [Cursor.ofString]

/-- A grammar of a group with a bad pattern parses exactly the texts that its body reads to the
end and that its anchored bad pattern does not read. -/
theorem parsesExactly_checked {X bad : Pattern} (lens : Config → List Char → List Nat)
    (steps : Config → List (List Char → List Nat))
    (hbody : ∀ {rules : RuleSet} {cx : Context} {budget : Nat} {T : Array Char}, cx.Measures rules budget →
      cx.Frames → T.size < Word.size → Reads cx T (group X) (lens cx.config))
    (hbad : ∀ {rules : RuleSet} {cx : Context} {budget : Nat} {T : Array Char}, cx.Measures rules budget →
      T.size < Word.size → Offers cx T (anchored bad) (anchoredEnds T (steps cx.config)))
    (hplain : X.Plain) {L : List Char → Prop}
    (hL : ∀ l, (lens {} l).head? = some l.length ∧ (!(firstLen (steps {}) l).toList.isEmpty) = false ↔ L l)
    (name : String) :
    (⟨name, group X, some bad⟩ : Grammar).ParsesExactly L := by
  intro rules s hs
  refine ⟨?_, fun p h ↦ parseComplete_group_fragment hplain hs h⟩
  have hT : (Cursor.ofString s).text.size < Word.size := by rwa [size_ofString]
  have hwhole : (Cursor.ofString s).text.extract 0 s.length = (Cursor.ofString s).text :=
    Array.extract_eq_self_of_le (by rw [size_ofString])
  rw [parseComplete_iff_offers (offers_checkedAt lens steps hbody hbad (.group hplain) hT name 0 0), grammarEnds_head?,
    head?_shifted_zero, hwhole, anchoredEnds_zero, toList_text_ofString, ← String.length_toList, hL]

/-- A grammar of a group without a bad pattern parses exactly the texts its body reads to the end. -/
theorem parsesExactly_unchecked {X : Pattern} (lens : Config → List Char → List Nat)
    (hbody : ∀ {rules : RuleSet} {cx : Context} {budget : Nat} {T : Array Char}, cx.Measures rules budget →
      cx.Frames → T.size < Word.size → Reads cx T (group X) (lens cx.config))
    (hplain : X.Plain) {L : List Char → Prop} (hL : ∀ l, (lens {} l).head? = some l.length ↔ L l)
    (name : String) :
    (⟨name, group X, none⟩ : Grammar).ParsesExactly L := by
  intro rules s hs
  refine ⟨?_, fun p h ↦ parseComplete_group_fragment hplain hs h⟩
  have hT : (Cursor.ofString s).text.size < Word.size := by rwa [size_ofString]
  rw [parseComplete_iff_offers (offers_uncheckedAt lens hbody hT name 0 0)]
  simp only [grammarEnds_head?, and_true]
  rw [head?_shifted_zero, toList_text_ofString, ← String.length_toList, hL]

theorem prefixed_parsesExactly (name marks set : String) :
    (⟨name, group (optional (literal "-") + literal "0" + charOf marks + chars set),
      some (literal "-0" + charOf marks + chars "0")⟩ : Grammar).ParsesExactly (PrefixedText marks set) :=
  parsesExactly_checked (fun cfg ↦ groupLens (sequenceLens (prefixedSteps cfg marks set)))
    (fun cfg ↦ negZeroSteps cfg marks) (fun hcx _ hT ↦ reads_prefixedBody hcx hT marks set)
    (fun hcx hT ↦ offers_negZero hcx hT marks)
    (plain_prefixedBody marks set)
    (fun _ ↦ and_congr prefixed_complete (by rw [← negZero_isSome {}]; simp)) name

theorem octal_parsesExactly : octalInteger.ParsesExactly OctalText :=
  parsesExactly_checked (fun cfg ↦ groupLens (sequenceLens (octalSteps cfg))) octalNegZeroSteps
    (fun hcx _ hT ↦ reads_octalBody hcx hT) (fun hcx hT ↦ offers_octalNegZero hcx hT)
    plain_octalBody (fun _ ↦ and_congr octal_complete (by rw [← octalNegZero_isSome {}]; simp)) _

theorem integer_parsesExactly : integer.ParsesExactly IntegerText :=
  parsesExactly_unchecked integerLens (fun hcx hfr hT ↦ reads_integerBody hcx hT hfr) plain_integerBody
    (fun _ ↦ integer_complete) _

theorem float_parsesExactly : float.ParsesExactly FloatText :=
  parsesExactly_unchecked (fun cfg ↦ groupLens (sequenceLens (floatSteps cfg)))
    (fun hcx hfr hT ↦ reads_floatBody hcx hT hfr) plain_floatBody (fun _ ↦ float_complete) _

/-- Each number grammar parses in full exactly the inputs of its language, and yields the input
as one piece of text. -/
theorem number_grammars_parse_exactly :
    integer.ParsesExactly IntegerText ∧ float.ParsesExactly FloatText ∧
      binaryInteger.ParsesExactly (PrefixedText "bB" "01") ∧ octalInteger.ParsesExactly OctalText ∧
      hexadecimalInteger.ParsesExactly (PrefixedText "xX" hexDigits) :=
  ⟨integer_parsesExactly, float_parsesExactly, prefixed_parsesExactly _ _ _, octal_parsesExactly,
    prefixed_parsesExactly _ _ _⟩

end Exact

end Grammar

end Backtrack
