import Backtrack.Proofs.FragmentShapes
import Backtrack.Proofs.NumberGrammars
import Backtrack.Programs.Calculator

/-!
# The numerals of the number grammars and their values

Wherever the number grammar matches, it yields under the name of one of its kinds a numeral of
that kind (`Grammar.number_text`): an optional minus sign, then decimal digits with an optional
fraction, or `0`, a mark and digits of the radix (`Grammar.Numeral`). This is less than the
languages of a complete parse (`Grammar.number_grammars_parse_exactly`): a lookahead and a bad
pattern leave nothing in what a match yields, and nothing more is needed here.

The calculator gives every such numeral a value, except an integer of a prefixed kind too large
for 64 bits (`Calculator.literalValue_settles`): a decimal numeral is read as a double, and the
digits of the other kinds are all digits of their radix.

Main statements: `Grammar.number_text` and `Calculator.literalValue_settles`.
-/

namespace Backtrack

namespace Grammar

open Pattern

variable {rules : RuleSet} {cfg : Config} {m : Matched}

/-! ### What the number grammars yield -/

/-- The numerals that the number grammars yield, by the name of the grammar: an optional minus
sign, then decimal digits with an optional fraction, or `0`, a mark and digits of the radix. -/
inductive Numeral : String → List Char → Prop
  | integer {sign w : List Char} (signed : Sign sign) (whole : Among digits w) : Numeral "Integer" (sign ++ w)
  | float {sign w f : List Char} (signed : Sign sign) (whole : Among digits w) (fraction : Among digits f) :
    Numeral "Float" (sign ++ w ++ '.' :: f)
  | binary {sign ds : List Char} {r : Char} (signed : Sign sign) (mark : r ∈ "bB".toList)
    (body : Among "01" ds) : Numeral "BinaryInteger" (sign ++ '0' :: r :: ds)
  | hexadecimal {sign ds : List Char} {r : Char} (signed : Sign sign) (mark : r ∈ "xX".toList)
    (body : Among hexDigits ds) : Numeral "HexadecimalInteger" (sign ++ '0' :: r :: ds)
  | octal {sign o ds : List Char} (signed : Sign sign) (mark : OctalMark o) (body : Among octalDigits ds) :
    Numeral "OctalInteger" (sign ++ '0' :: (o ++ ds))

/-- No kind of numeral is named like the calculator's grammars or the number grammar. -/
theorem Numeral.kind_ne {kind : String} {t : List Char} (h : Numeral kind t) :
    kind ≠ "Expression" ∧ kind ≠ "Term" ∧ kind ≠ "Factor" ∧ kind ≠ "Number" := by
  cases h <;> decide

theorem sign_text (h : (optional (literal "-")).Yields rules cfg m) : Sign m.fragment.toText.toList := by
  rcases optional_text h with hnone | ⟨r, hr, hsame⟩
  · left
    rw [hnone]
    rfl
  · right
    rw [hsame, Yields.literal_inv hr]
    rfl

theorem charOf_text {marks : String} (h : (charOf marks).Yields rules cfg m) :
    ∃ r ∈ marks.toList, m.fragment.toText = String.singleton r := by
  obtain ⟨ch, hacc, rfl⟩ := Yields.char_inv h
  refine ⟨ch, ?_, rfl⟩
  simpa [CharClass.accepts, CharClass.of] using hacc

theorem octalMark_text (h : (optional (charOf "oO")).Yields rules cfg m) :
    OctalMark m.fragment.toText.toList := by
  rcases optional_text h with hnone | ⟨r, hr, hsame⟩
  · left
    rw [hnone]
    rfl
  · obtain ⟨c, hc, hr'⟩ := charOf_text hr
    rw [hsame, hr', String.toList_singleton]
    exact octalMark_singleton.mpr hc

theorem chars_text {set : String} (h : (chars set).Yields rules cfg m) : Among set m.fragment.toText.toList := by
  obtain ⟨t, pieces, htakes, hmin, rfl⟩ := Yields.run_inv h
  refine ⟨fun hnil ↦ ?_, fun ch hch ↦ ?_⟩
  · -- a run of `chars` takes at least one character
    have hlen : t.length = 0 := by
      rw [← String.length_toList]
      simpa [Fragment.toText] using hnil
    simp [hlen] at hmin
  · simpa [Run.takes, CharClass.accepts, CharClass.of] using htakes ch hch

/-! The bodies of the number grammars, with their sequences and choices spelled out. -/

theorem integer_body : integer.body = group (Pattern.mk (.choice [literal "0",
    Pattern.mk (.sequence [optional (literal "-"), nextIsNot (literal "0"), chars digits] none true) false] true)
      false) := rfl

theorem prefixed_body (marks set : String) :
    group (optional (literal "-") + literal "0" + charOf marks + chars set) =
      group (Pattern.mk (.sequence [optional (literal "-"), literal "0", charOf marks, chars set] none true) false) :=
  rfl

theorem octal_body : octalInteger.body = group (Pattern.mk (.sequence [optional (literal "-"), literal "0",
    optional (charOf "oO"), chars octalDigits] none true) false) := rfl

theorem whole_eq : (literal "0" <|> (nextIsNot (literal "0") + chars digits)) =
    Pattern.mk (.choice [literal "0", Pattern.mk (.sequence [nextIsNot (literal "0"), chars digits] none true) false]
      true) false := rfl

theorem float_body : float.body = group (Pattern.mk (.sequence [optional (literal "-"),
    literal "0" <|> (nextIsNot (literal "0") + chars digits), literal ".", chars digits] none true) false) := rfl

theorem integer_text (h : integer.body.Yields rules cfg m) :
    ∃ t, Numeral "Integer" t ∧ m.fragment = .text (String.ofList t) := by
  rw [integer_body] at h
  obtain ⟨mi, hi, rfl⟩ := Yields.group_inv h
  obtain ⟨q, hq, mq, hmq, rfl⟩ := Yields.choice_inv hi
  simp only [List.mem_cons, List.not_mem_nil, or_false] at hq
  rcases hq with rfl | rfl
  · rw [Yields.literal_inv hmq]
    have hzero : Among digits ['0'] := ⟨by simp, by simp [digits]⟩
    exact ⟨[] ++ ['0'], .integer (.inl rfl) hzero, rfl⟩
  · -- the lookahead is left out of the sequence, and yields no text anyway
    have hquiet : ∀ p ∈ [optional (literal "-"), nextIsNot (literal "0"), chars digits], p.suppressed = true →
        ∀ mp, p.Yields rules cfg mp → mp.fragment.toText = "" := by
      simp only [List.forall_mem_cons, List.not_mem_nil, IsEmpty.forall_iff, implies_true, and_true]
      exact ⟨(fun hs ↦ nomatch hs), fun _ _ ↦ Yields.nextIs_text, (fun hs ↦ nomatch hs)⟩
    obtain ⟨ms, hms, htext⟩ := sequence_text hquiet hmq
    simp only [List.forall₂_cons_left_iff, List.forall₂_nil_left_iff] at hms
    obtain ⟨m1, _, h1, ⟨m2, _, h2, ⟨m3, _, h3, rfl, rfl⟩, rfl⟩, rfl⟩ := hms
    refine ⟨_, .integer (sign_text h1) (chars_text h3), ?_⟩
    simp [htext, Fragment.listText, Yields.nextIs_inv h2, Matched.fixed, Fragment.toText]

theorem prefixed_text {marks set : String}
    (h : (group (optional (literal "-") + literal "0" + charOf marks + chars set)).Yields rules cfg m) :
    ∃ sign r ds, Sign sign ∧ r ∈ marks.toList ∧ Among set ds ∧
      m.fragment = .text (String.ofList (sign ++ '0' :: r :: ds)) := by
  rw [prefixed_body] at h
  obtain ⟨mi, hi, rfl⟩ := Yields.group_inv h
  obtain ⟨ms, hms, htext⟩ := sequence_text (quiet_of_unsuppressed (by rfl)) hi
  simp only [List.forall₂_cons_left_iff, List.forall₂_nil_left_iff] at hms
  obtain ⟨m1, _, h1, ⟨m2, _, h2, ⟨m3, _, h3, ⟨m4, _, h4, rfl, rfl⟩, rfl⟩, rfl⟩, rfl⟩ := hms
  obtain ⟨r, hr, hr'⟩ := charOf_text h3
  refine ⟨_, r, _, sign_text h1, hr, chars_text h4, ?_⟩
  simp [htext, Fragment.listText, Yields.literal_inv h2, hr', Matched.fixed, Fragment.toText]

theorem binary_text (h : binaryInteger.body.Yields rules cfg m) :
    ∃ t, Numeral "BinaryInteger" t ∧ m.fragment = .text (String.ofList t) := by
  obtain ⟨sign, r, ds, hs, hr, hds, hfrag⟩ := prefixed_text h
  exact ⟨_, .binary hs hr hds, hfrag⟩

theorem hexadecimal_text (h : hexadecimalInteger.body.Yields rules cfg m) :
    ∃ t, Numeral "HexadecimalInteger" t ∧ m.fragment = .text (String.ofList t) := by
  obtain ⟨sign, r, ds, hs, hr, hds, hfrag⟩ := prefixed_text h
  exact ⟨_, .hexadecimal hs hr hds, hfrag⟩

theorem octal_text (h : octalInteger.body.Yields rules cfg m) :
    ∃ t, Numeral "OctalInteger" t ∧ m.fragment = .text (String.ofList t) := by
  rw [octal_body] at h
  obtain ⟨mi, hi, rfl⟩ := Yields.group_inv h
  obtain ⟨ms, hms, htext⟩ := sequence_text (quiet_of_unsuppressed (by rfl)) hi
  simp only [List.forall₂_cons_left_iff, List.forall₂_nil_left_iff] at hms
  obtain ⟨m1, _, h1, ⟨m2, _, h2, ⟨m3, _, h3, ⟨m4, _, h4, rfl, rfl⟩, rfl⟩, rfl⟩, rfl⟩ := hms
  refine ⟨_, .octal (sign_text h1) (octalMark_text h3) (chars_text h4), ?_⟩
  simp [htext, Fragment.listText, Yields.literal_inv h2, Matched.fixed, Fragment.toText]

/-- The whole part of a float: `0`, or digits that do not start with `0`. -/
theorem whole_text (h : (literal "0" <|> (nextIsNot (literal "0") + chars digits)).Yields rules cfg m) :
    Among digits m.fragment.toText.toList := by
  rw [whole_eq] at h
  obtain ⟨q, hq, mq, hmq, rfl⟩ := Yields.choice_inv h
  simp only [List.mem_cons, List.not_mem_nil, or_false] at hq
  rcases hq with rfl | rfl
  · rw [Yields.literal_inv hmq]
    exact ⟨by simp [Matched.fixed, Fragment.toText], by simp [Matched.fixed, Fragment.toText, digits]⟩
  · have hquiet : ∀ p ∈ [nextIsNot (literal "0"), chars digits], p.suppressed = true →
        ∀ mp, p.Yields rules cfg mp → mp.fragment.toText = "" := by
      simp only [List.forall_mem_cons, List.not_mem_nil, IsEmpty.forall_iff, implies_true, and_true]
      exact ⟨fun _ _ ↦ Yields.nextIs_text, (fun hs ↦ nomatch hs)⟩
    obtain ⟨ms, hms, htext⟩ := sequence_text hquiet hmq
    simp only [List.forall₂_cons_left_iff, List.forall₂_nil_left_iff] at hms
    obtain ⟨m1, _, h1, ⟨m2, _, h2, rfl, rfl⟩, rfl⟩ := hms
    simpa [Matched.fixed, htext, Fragment.listText, Yields.nextIs_inv h1, Fragment.toText] using chars_text h2

theorem float_text (h : float.body.Yields rules cfg m) :
    ∃ t, Numeral "Float" t ∧ m.fragment = .text (String.ofList t) := by
  rw [float_body] at h
  obtain ⟨mi, hi, rfl⟩ := Yields.group_inv h
  obtain ⟨ms, hms, htext⟩ := sequence_text (quiet_of_unsuppressed (by rfl)) hi
  simp only [List.forall₂_cons_left_iff, List.forall₂_nil_left_iff] at hms
  obtain ⟨m1, _, h1, ⟨m2, _, h2, ⟨m3, _, h3, ⟨m4, _, h4, rfl, rfl⟩, rfl⟩, rfl⟩, rfl⟩ := hms
  refine ⟨_, .float (sign_text h1) (whole_text h2) (chars_text h4), ?_⟩
  simp [htext, Fragment.listText, Yields.literal_inv h3, Matched.fixed, Fragment.toText]

/-- A grammar whose body yields numerals of its name yields them under its name. -/
theorem embedded_numeral {g : Grammar} {tag : Nat}
    (hg : ∀ {m}, g.body.Yields rules cfg m → ∃ t, Numeral g.name t ∧ m.fragment = .text (String.ofList t))
    (h : (g.toPattern tag).Yields rules cfg m) :
    ∃ kind t, Numeral kind t ∧ m.fragment = .named kind (.text (String.ofList t)) := by
  obtain ⟨mg, hmg, rfl⟩ := Yields.grammar_inv h
  obtain ⟨t, ht, hfrag⟩ := hg hmg
  exact ⟨g.name, t, ht, by rw [Matched.fixed, hfrag]⟩

/-- Wherever the number grammar matches, it yields a numeral under the name of its kind. -/
theorem number_text {tag : Nat} (h : (number.toPattern tag).Yields rules cfg m) :
    ∃ kind t, Numeral kind t ∧ m.fragment = .named "Number" (.named kind (.text (String.ofList t))) := by
  obtain ⟨mb, hb, rfl⟩ := Yields.grammar_inv h
  obtain ⟨q, hq, mq, hmq, rfl⟩ := Yields.choice_inv hb
  have hkind : ∃ kind t, Numeral kind t ∧ mq.fragment = .named kind (.text (String.ofList t)) := by
    simp only [List.mem_cons, List.not_mem_nil, or_false] at hq
    rcases hq with rfl | rfl | rfl | rfl | rfl
    · exact embedded_numeral binary_text hmq
    · exact embedded_numeral hexadecimal_text hmq
    · exact embedded_numeral float_text hmq
    · exact embedded_numeral octal_text hmq
    · exact embedded_numeral integer_text hmq
  obtain ⟨kind, t, ht, hfrag⟩ := hkind
  exact ⟨kind, t, ht, by rw [Matched.fixed, Matched.fixed, hfrag]; rfl⟩

end Grammar

namespace Calculator

open Grammar

/-! ### Settling -/

/-- An evaluation that settles: it gives a value, or it stops at a division by zero or at an
integer literal too large for 64 bits. -/
def Settles (r : Except String Binary64) : Prop :=
  ∀ e, r = .error e → e = "division by zero" ∨ e = "number too large to fit in target type"

theorem settles_ok (v : Binary64) : Settles (.ok v) := by
  intro e h
  cases h

theorem Settles.bind {r : Except String Binary64} {f : Binary64 → Except String Binary64} (hr : Settles r)
    (hf : ∀ v, Settles (f v)) : Settles (r >>= f) := by
  cases r with
  | error e =>
    intro e' h
    cases h
    exact hr e rfl
  | ok v => exact hf v

theorem Settles.map {r : Except String Binary64} {f : Binary64 → Binary64} (hr : Settles r) :
    Settles (r.map f) := by
  cases r with
  | error e =>
    intro e' h
    cases h
    exact hr e rfl
  | ok v => exact settles_ok _

/-! ### Decimal numerals -/

theorem isDigit_of_mem_digits {c : Char} (h : c ∈ digits.toList) : c.isDigit = true := by
  simp only [digits, String.reduceToList, List.mem_cons, List.not_mem_nil, or_false] at h
  rcases h with rfl | rfl | rfl | rfl | rfl | rfl | rfl | rfl | rfl | rfl <;> decide

theorem span_isDigit {w tail : List Char} (hw : ∀ x ∈ w, x.isDigit = true)
    (htail : ∀ x ∈ tail.head?, x.isDigit = false) : (w ++ tail).span Char.isDigit = (w, tail) := by
  have hstop : tail.takeWhile Char.isDigit = [] ∧ tail.dropWhile Char.isDigit = tail := by
    cases tail with
    | nil => exact ⟨rfl, rfl⟩
    | cons x more =>
      have hx : x.isDigit = false := htail x rfl
      simp [hx]
  rw [List.span_eq_takeWhile_dropWhile, List.takeWhile_append_of_pos hw, List.dropWhile_append_of_pos hw,
    hstop.1, hstop.2, List.append_nil]

theorem ofDecimal?_digits {w tail : List Char} (hw : Among digits w)
    (htail : tail = [] ∨ ∃ f, Among digits f ∧ tail = '.' :: f) :
    ∃ v, Binary64.ofDecimal? (String.ofList (w ++ tail)) = .ok v := by
  have hdigits : ∀ x ∈ w, x.isDigit = true := fun x hx ↦ isDigit_of_mem_digits (hw.2 x hx)
  obtain ⟨c, w', rfl⟩ := List.exists_cons_of_ne_nil hw.1
  have hc : c.isDigit = true := hdigits c (List.mem_cons_self ..)
  have hpoint : ∀ x ∈ tail.head?, x.isDigit = false := by
    rcases htail with rfl | ⟨f, -, rfl⟩ <;> simp
  unfold Binary64.ofDecimal?
  simp only [String.toList_ofList]
  rw [if_neg (by simp)]
  -- a digit is no sign
  split
  · rename_i heq
    obtain ⟨rfl, -⟩ := List.cons.inj heq
    nomatch hc
  · rename_i heq
    obtain ⟨rfl, -⟩ := List.cons.inj heq
    nomatch hc
  · dsimp only
    -- the infinities and `nan` are values as well
    split
    · exact ⟨_, rfl⟩
    split
    · exact ⟨_, rfl⟩
    rw [span_isDigit hdigits hpoint]
    rcases htail with rfl | ⟨f, hf, rfl⟩
    · simp only
      rw [if_neg (by simp)]
      split <;> exact ⟨_, rfl⟩
    · have hfd : ∀ x ∈ f, x.isDigit = true := fun x hx ↦ isDigit_of_mem_digits (hf.2 x hx)
      have hspan : (f ++ []).span Char.isDigit = (f, []) := span_isDigit hfd (by simp)
      rw [List.append_nil] at hspan
      simp only [hspan]
      rw [if_neg (by simp)]
      split <;> exact ⟨_, rfl⟩

/-! ### Integers of a radix -/

/-- Digits of the radix, unsigned, read as a 64-bit integer: the value fits or is too large. -/
theorem parseSigned_digits {ds : List Char} {radix : Nat} (hne : ds ≠ [])
    (hd : ∀ c ∈ ds, ∃ d, digitValue c = some d ∧ d < radix) :
    (∃ n, parseSigned (String.ofList ds) radix = .ok n) ∨
      parseSigned (String.ofList ds) radix = .error "number too large to fit in target type" := by
  have hvalues : (ds.map fun c ↦ (digitValue c).filter (· < radix)).any Option.isNone = false := by
    rw [List.any_eq_false]
    intro x hx
    obtain ⟨c, hc, rfl⟩ := List.mem_map.mp hx
    obtain ⟨d, hdc, hlt⟩ := hd c hc
    simp [hdc, hlt]
  obtain ⟨c, rest, rfl⟩ := List.exists_cons_of_ne_nil hne
  obtain ⟨d, hdc, -⟩ := hd c (List.mem_cons_self ..)
  unfold parseSigned
  simp only [String.toList_ofList]
  rw [if_neg (by simp)]
  split
  · rename_i heq
    obtain ⟨rfl, -⟩ := List.cons.inj heq
    simp [digitValue] at hdc
  · rename_i heq
    obtain ⟨rfl, -⟩ := List.cons.inj heq
    simp [digitValue] at hdc
  · dsimp only
    rw [if_neg (by simp), if_neg (by rw [hvalues]; exact Bool.false_ne_true)]
    simp only [Bool.false_eq_true, if_false]
    split
    · exact .inr rfl
    · exact .inl ⟨_, rfl⟩

theorem radixValue_settles {ds : List Char} {radix : Nat}
    (hd : ∀ c ∈ ds, ∃ d, digitValue c = some d ∧ d < radix) :
    Settles (radixValue (String.ofList ds) radix) := by
  unfold radixValue
  by_cases hne : ds = []
  · subst hne
    exact settles_ok _
  · rw [if_neg (by simpa using hne)]
    rcases parseSigned_digits hne hd with ⟨n, hn⟩ | hn <;> rw [hn]
    · exact settles_ok _
    · intro e he
      cases he
      exact .inr rfl

/-! ### Numerals -/

theorem splitSign_minus (body : List Char) :
    splitSign (String.ofList ('-' :: body)) = (true, String.ofList body) := by
  simp [splitSign]

theorem splitSign_of_head {body : List Char} (hb : body.head? ≠ some '-') :
    splitSign (String.ofList body) = (false, String.ofList body) := by
  unfold splitSign
  simp only [String.toList_ofList]
  split
  · exact absurd rfl hb
  · rfl

/-- A numeral settles when its digits do, with or without a minus sign. -/
theorem literalValue_signed {kind : String} {sign body : List Char} (hs : Sign sign)
    (hb : body.head? ≠ some '-') (h : Settles (magnitude kind (String.ofList body))) :
    Settles (literalValue kind (String.ofList (sign ++ body))) := by
  rcases hs with rfl | rfl
  · simp only [literalValue, List.nil_append, splitSign_of_head hb]
    exact h.bind fun _ ↦ settles_ok _
  · simp only [literalValue, List.singleton_append, splitSign_minus]
    exact h.bind fun _ ↦ settles_ok _

theorem digitValue_of_below {c : Char} {radix : Nat} (h : (digitValue c).any (· < radix) = true) :
    ∃ d, digitValue c = some d ∧ d < radix := by
  cases hc : digitValue c with
  | none => simp [hc] at h
  | some d => exact ⟨d, rfl, by simpa [hc] using h⟩

theorem binary_below : ∀ c ∈ "01".toList, (digitValue c).any (· < 2) = true := by
  simp only [String.reduceToList, List.forall_mem_cons, List.not_mem_nil, IsEmpty.forall_iff, implies_true,
    and_true]
  and_intros <;> decide

theorem octal_below : ∀ c ∈ octalDigits.toList, (digitValue c).any (· < 8) = true := by
  simp only [octalDigits, String.reduceToList, List.forall_mem_cons, List.not_mem_nil, IsEmpty.forall_iff,
    implies_true, and_true]
  and_intros <;> decide

theorem hexadecimal_below : ∀ c ∈ hexDigits.toList, (digitValue c).any (· < 16) = true := by
  simp only [hexDigits, String.reduceToList, List.forall_mem_cons, List.not_mem_nil, IsEmpty.forall_iff,
    implies_true, and_true]
  and_intros <;> decide

theorem magnitude_decimal {kind : String} (hk : kind = "Integer" ∨ kind = "Float") {w tail : List Char}
    (hw : Among digits w) (htail : tail = [] ∨ ∃ f, Among digits f ∧ tail = '.' :: f) :
    Settles (magnitude kind (String.ofList (w ++ tail))) := by
  obtain ⟨v, hv⟩ := ofDecimal?_digits hw htail
  rcases hk with rfl | rfl <;>
  · simp only [magnitude, hv]
    exact settles_ok v

theorem magnitude_binary {r : Char} {ds : List Char} (hds : Among "01" ds) :
    Settles (magnitude "BinaryInteger" (String.ofList ('0' :: r :: ds))) := by
  simp only [magnitude, String.toList_ofList, List.drop_succ_cons, List.drop_zero]
  exact radixValue_settles fun c hc ↦ digitValue_of_below (binary_below c (hds.2 c hc))

theorem magnitude_hexadecimal {r : Char} {ds : List Char} (hds : Among hexDigits ds) :
    Settles (magnitude "HexadecimalInteger" (String.ofList ('0' :: r :: ds))) := by
  simp only [magnitude, String.toList_ofList, List.drop_succ_cons, List.drop_zero]
  exact radixValue_settles fun c hc ↦ digitValue_of_below (hexadecimal_below c (hds.2 c hc))

theorem magnitude_octal {o ds : List Char} (ho : OctalMark o) (hds : Among octalDigits ds) :
    Settles (magnitude "OctalInteger" (String.ofList ('0' :: (o ++ ds)))) := by
  have hdrop : ('0' :: (o ++ ds)).dropWhile (fun c ↦ c = '0' || c = 'o' || c = 'O') =
      ds.dropWhile (fun c ↦ c = '0' || c = 'o' || c = 'O') := by
    rcases ho with rfl | rfl | rfl <;> simp
  simp only [magnitude, String.toList_ofList, hdrop]
  refine radixValue_settles fun c hc ↦ digitValue_of_below (octal_below c (hds.2 c ?_))
  exact (List.dropWhile_suffix _).subset hc

theorem head_ne_minus {w : List Char} (hw : Among digits w) : w.head? ≠ some '-' := by
  obtain ⟨c, w', rfl⟩ := List.exists_cons_of_ne_nil hw.1
  intro h
  simp only [List.head?_cons, Option.some.injEq] at h
  subst h
  nomatch isDigit_of_mem_digits (hw.2 '-' (List.mem_cons_self ..))

/-- Every numeral that the number grammars yield has a value, unless it is an integer too large
for 64 bits. -/
theorem literalValue_settles {kind : String} {t : List Char} (h : Numeral kind t) :
    Settles (literalValue kind (String.ofList t)) := by
  cases h with
  | integer hs hw =>
    have hdec := magnitude_decimal (.inl rfl) hw (.inl rfl)
    rw [List.append_nil] at hdec
    exact literalValue_signed hs (head_ne_minus hw) hdec
  | float hs hw hf =>
    rw [List.append_assoc]
    refine literalValue_signed hs ?_ (magnitude_decimal (.inr rfl) hw (.inr ⟨_, hf, rfl⟩))
    rw [List.head?_append_of_ne_nil _ hw.1]
    exact head_ne_minus hw
  | binary hs _ hds => exact literalValue_signed hs (by simp) (magnitude_binary hds)
  | hexadecimal hs _ hds => exact literalValue_signed hs (by simp) (magnitude_hexadecimal hds)
  | octal hs ho hds => exact literalValue_signed hs (by simp) (magnitude_octal ho hds)

end Calculator

end Backtrack
