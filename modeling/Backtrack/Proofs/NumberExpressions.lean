import Backtrack.Proofs.ExpressionTrees
import Backtrack.Proofs.StockChoices

/-!
# Numbers are expressions

An input in which no operator, no opening parenthesis and no blank occurs leaves the calculator
nothing to read but numbers: every operator token and every parenthesised or negated factor
fails where it starts, and a chain whose first operand is followed by no operator is that
operand. Such an input is therefore a complete expression exactly when it is a complete number
(`expression_iff_number`). In particular complete parses of an expression exist, and
`expressions_evaluate` speaks of real parses: `1` is one (`expression_one_evaluates`).

The proof reads what each grammar offers from each position of the text (`Engine.Offers`): the
number grammar at every depth, a token of it, the choice of a factor, and the chains of terms
and of expressions, each one rule level above the level it refers to. Each of them offers what
the number grammar offers.

Main statement: `expression_iff_number`.
-/

namespace Backtrack

namespace Calculator

open Pattern Grammar Engine

/-- The characters that begin something other than a number in the calculator: the operators,
the opening parenthesis and the blanks of the default configuration. -/
def nonNumberStarts : List Char := ['+', '-', '*', '/', '(', ' ', '\t', '\r', '\n']

/-- An input in which none of them occurs. -/
def OperatorFree (s : String) : Prop := ∀ ch ∈ s.toList, ch ∉ nonNumberStarts

instance (s : String) : Decidable (OperatorFree s) :=
  inferInstanceAs (Decidable (∀ ch ∈ s.toList, ch ∉ nonNumberStarts))

/-- What the number grammar offers from each position of `T`: the first end of the first of its
alternatives that offers one. -/
def numberEnds (T : Array Char) : Nat → List Nat := choiceEnds ((numberAlternatives T).map Prod.snd)

theorem numberEnds_single (T : Array Char) (i : Nat) : (numberEnds T i).head?.toList = numberEnds T i := by
  unfold numberEnds choiceEnds
  cases firstHead ((numberAlternatives T).map Prod.snd) i <;> rfl

/-- The number grammar, at any depth and under any tag, offers what its alternatives offer
first. -/
theorem offers_number (rules : RuleSet) {T : Array Char} (hT : T.size < Word.size) (tag depth : Nat) :
    Offers (contextAt rules {} checkAllowance depth) T (number.toPattern tag) (numberEnds T) := by
  have hcx := contextAt_measures rules {} checkAllowance depth
  have hcs : List.Forall₂ (Offers (contextAt rules {} checkAllowance depth) T)
      ((numberAlternatives T).map fun a ↦ a.1.toPattern 0) ((numberAlternatives T).map Prod.snd) := by
    rw [List.forall₂_map_left_iff, List.forall₂_map_right_iff]
    exact List.forall₂_same.mpr (offers_numberAlternatives hT depth)
  refine (offers_unchecked hcx hT (offers_choice hcx hcs false false) false).congr fun i _ ↦ ?_
  rw [grammarEnds_unchecked]
  exact numberEnds_single T i

section OperatorFree

variable {T : Array Char} (hT : T.size < Word.size) (hfree : ∀ ch ∈ T.toList, ch ∉ nonNumberStarts)
  {depth : Nat}

include hfree in
/-- No one-character literal that begins something other than a number is found anywhere. -/
theorem literalEnds_of_start {t : String} {c : Char} (ht : t.toList = [c]) (hc : c ∈ nonNumberStarts)
    (i : Nat) : literalEnds T t i = [] := by
  unfold literalEnds
  rw [if_neg]
  intro hpre
  rw [ht] at hpre
  exact hfree c (List.mem_of_mem_drop (hpre.subset (List.mem_singleton_self c))) hc

include hfree in
/-- No blank is skipped anywhere. -/
theorem blankEnd_eq (i : Nat) : blankEnd T {} i = i := by
  unfold blankEnd
  cases h : T.toList.drop i with
  | nil => rfl
  | cons c rest =>
    have hc : c ∈ T.toList := List.mem_of_mem_drop (by rw [h]; exact List.mem_cons_self ..)
    -- the blanks are among the characters that begin something other than a number
    have hblanks : ∀ ch ∈ ({} : Config).whitespace.toList, ch ∈ nonNumberStarts := by
      have hws : ({} : Config).whitespace.toList = [' ', '\t', '\r', '\n'] := by decide
      simp [hws, nonNumberStarts]
    have hblank : ({} : Config).isWhitespace c = false := by
      have hnot : c ∉ ({} : Config).whitespace.toList := fun h ↦ hfree c hc (hblanks c h)
      simpa [Config.isWhitespace] using hnot
    simp [hblank]

include hT hfree in
/-- A token of a one-character literal that begins something other than a number fails
everywhere, suppressed or not. -/
theorem offers_token_start {t : String} {c : Char} (ht : t.toList = [c]) (hc : c ∈ nonNumberStarts)
    (b : Bool) :
    Offers (contextAt ruleSet {} checkAllowance depth) T (.mk (.token (literal t)) b) fun _ ↦ [] := by
  have hcx := contextAt_measures ruleSet {} checkAllowance depth
  refine (offers_token hcx hT (offers_literal hcx hT t false) b).congr fun i _ ↦ ?_
  rw [tokenEnds, literalEnds_of_start hfree ht hc]
  rfl

include hT hfree in
/-- An operator token of a chain fails everywhere, and so does every round of the chain. -/
theorem offers_chainRound {op op' : String} {c d : Char} (hop : op.toList = [c]) (hop' : op'.toList = [d])
    (hc : c ∈ nonNumberStarts) (hd : d ∈ nonNumberStarts) (operand : Pattern) :
    Offers (contextAt ruleSet {} checkAllowance depth) T
      (mk (.sequence [token (mk (.choice [literal op, literal op'] true) false), operand] none true) false)
      fun _ ↦ [] := by
  have hcx := contextAt_measures ruleSet {} checkAllowance depth
  have hchoice := offers_choice hcx (.cons (offers_literal hcx hT op false)
    (.cons (offers_literal hcx hT op' false) .nil)) true false
  have htoken : Offers (contextAt ruleSet {} checkAllowance depth) T
      (token (mk (.choice [literal op, literal op'] true) false)) fun _ ↦ [] :=
    (offers_token hcx hT hchoice false).congr fun i _ ↦ by
      rw [tokenEnds, choiceEnds, firstHead, List.findSome?_cons, List.findSome?_cons,
        literalEnds_of_start hfree hop hc, literalEnds_of_start hfree hop' hd]
      rfl
  exact offers_sequence_of_head hcx htoken true false

include hT hfree in
/-- A factor offers what the number grammar offers: the parenthesised and the negated factor
fail at their first token. -/
theorem offers_factor (tag : Nat) :
    Offers (contextAt ruleSet {} checkAllowance depth) T (Level.factor.grammar.toPattern tag) (numberEnds T) := by
  have hcx := contextAt_measures ruleSet {} checkAllowance depth
  have hblank : blankEnd T {} = id := funext (blankEnd_eq hfree)
  have hnumber : Offers (contextAt ruleSet {} checkAllowance depth) T (token (number.toPattern 2)) (numberEnds T) :=
    (offers_token hcx hT (offers_number ruleSet hT 2 depth) false).congr fun i _ ↦ by
      rw [tokenEnds, contextAt_config, hblank, id, Option.map_id]
      exact numberEnds_single T i
  have hparen : Offers (contextAt ruleSet {} checkAllowance depth) T
      (mk (.sequence [(token (literal "(")).suppress, Level.expression.ref, (token (literal ")")).suppress] none true)
        false) fun _ ↦ [] :=
    offers_sequence_of_head hcx (offers_token_start hT hfree rfl (by decide) true) true false
  have hneg : Offers (contextAt ruleSet {} checkAllowance depth) T
      (mk (.sequence [token (literal "-"), Level.factor.ref] none true) false) fun _ ↦ [] :=
    offers_sequence_of_head hcx (offers_token_start hT hfree rfl (by decide) false) true false
  have hbody := offers_choice hcx (.cons hnumber (.cons hparen (.cons hneg .nil))) false false
  refine (offers_unchecked hcx hT hbody false).congr fun i _ ↦ ?_
  rw [grammarEnds_unchecked, choiceEnds, firstHead, List.findSome?_cons, List.findSome?_cons,
    List.findSome?_cons, List.findSome?_nil, ← numberEnds_single T i]
  cases (numberEnds T i).head? <;> rfl

include hT hfree in
/-- A chain whose operand offers what the number grammar offers offers the same: its rounds
fail at their operator, so the repetition ends where it starts. -/
theorem offers_chain {name op op' : String} {c d : Char} (hop : op.toList = [c]) (hop' : op'.toList = [d])
    (hc : c ∈ nonNumberStarts) (hd : d ∈ nonNumberStarts) (k : Level)
    (hk : Offers (contextAt ruleSet {} checkAllowance depth) T k.ref (numberEnds T)) (tag : Nat) :
    Offers (contextAt ruleSet {} checkAllowance depth) T ((chainGrammar name op op' k).toPattern tag)
      (numberEnds T) := by
  have hcx := contextAt_measures ruleSet {} checkAllowance depth
  have hrounds := (offers_repetition hcx (offers_chainRound hT hfree hop hop' hc hd k.ref) hT 0 none false).congr
    fun i _ ↦ repetitionEnds_of_head?_none rfl
  have hbody := offers_sequence hcx (.cons hk (.cons hrounds .nil)) true false
  rw [← chainGrammar_body] at hbody
  refine (offers_unchecked hcx hT hbody false).congr fun i _ ↦ ?_
  rw [grammarEnds_unchecked, sequenceEnds, firstEnd, ← numberEnds_single T i]
  cases (numberEnds T i).head? <;> rfl

/-- A reference to a level, below the depth limit, offers what the level's grammar offers one
level deeper. -/
theorem offers_ref (l : Level) (hd : depth < 1000)
    (h : Offers (contextAt ruleSet {} checkAllowance (depth + 1)) T (l.grammar.toPattern l.tag) (numberEnds T)) :
    Offers (contextAt ruleSet {} checkAllowance depth) T l.ref (numberEnds T) :=
  offers_rule (target?_ref l) hd h false

include hT hfree in
/-- An expression, at the top, offers what the number grammar offers, two rule levels deeper
through its terms and their factors. -/
theorem offers_expression (tag : Nat) :
    Offers (contextAt ruleSet {} checkAllowance 0) T (Level.expression.grammar.toPattern tag) (numberEnds T) := by
  have hfactor : Offers (contextAt ruleSet {} checkAllowance 1) T Level.factor.ref (numberEnds T) :=
    offers_ref .factor (by decide) (offers_factor hT hfree _)
  have hterm : Offers (contextAt ruleSet {} checkAllowance 0) T Level.term.ref (numberEnds T) :=
    offers_ref .term (by decide)
      (offers_chain hT hfree (c := '*') (d := '/') rfl rfl (by decide) (by decide) .factor hfactor _)
  exact offers_chain hT hfree (c := '+') (d := '-') rfl rfl (by decide) (by decide) .term hterm tag

end OperatorFree

/-- An input with no operator, no opening parenthesis and no blank is a complete expression
exactly when it is a complete number. -/
theorem expression_iff_number (rules : RuleSet) {s : String} (hs : s.length < Word.size) (hfree : OperatorFree s) :
    (∃ p, (Level.expression.grammar.parseComplete ruleSet s).1 = .ok p) ↔
      ∃ p, (number.parseComplete rules s).1 = .ok p := by
  have hT : (Cursor.ofString s).text.size < Word.size := by rw [size_ofString]; exact hs
  have hfree' : ∀ ch ∈ (Cursor.ofString s).text.toList, ch ∉ nonNumberStarts := by
    rw [toList_text_ofString]
    exact hfree
  rw [parseComplete_iff_offers (offers_expression hT hfree' 0), parseComplete_iff_offers (offers_number rules hT 0 0)]

/-- The input `1` is a complete expression, and it evaluates. -/
theorem expression_one_evaluates :
    ∃ p, (Level.expression.grammar.parseComplete ruleSet "1").1 = .ok p ∧ Settles (evaluate p.toNamed) := by
  obtain ⟨gs, hgs, g, hg, hsettles⟩ := expressions_evaluate
  rw [grammars_eq] at hgs
  cases hgs
  have hg' : g = Level.expression.grammar := by
    cases hg
    rfl
  subst hg'
  have hlen : "1".length < Word.size := by decide
  -- `1` is an integer, so a number, so an expression
  have hinteger : ∃ p, (integer.parseComplete ruleSet "1").1 = .ok p :=
    ((integer_parsesExactly ruleSet "1" hlen).1).mpr (.inr ⟨[], ['1'], .inl rfl, ⟨by simp, by simp [digits]⟩, by decide, rfl⟩)
  have hnumber : ∃ p, (number.parseComplete ruleSet "1").1 = .ok p :=
    (number_choosesAmong ruleSet "1" hlen).1.mpr ⟨integer, by simp, hinteger⟩
  obtain ⟨p, hp⟩ := (expression_iff_number ruleSet hlen (by simp [OperatorFree, nonNumberStarts])).mpr hnumber
  exact ⟨p, hp, hsettles "1" hlen p hp⟩

end Calculator

end Backtrack
