import Backtrack.Proofs.NumeralValues

/-!
# The trees of the calculator and their values

The calculator's three grammars refer to each other through one rule set (`ruleSet`, the set
that `grammars` builds). What each of them yields is a tree of its level (`Tree`): an
expression is a chain of terms joined by `+` and `-`, a term a chain of factors joined by `*`
and `/`, and a factor a number, an expression whose parentheses are suppressed, or a minus sign
and a factor. This is read off the shapes of the grammars by induction on the size of the
fragment (`grammar_tree`), each level taking the trees of the levels it refers to from smaller
matches.

The evaluator settles on every tree (`Tree.settles`): a chain folds its pairs from the left,
and the only errors left are a division by zero and an integer literal too large for 64 bits.
So every complete parse of an expression evaluates to a value or to one of these two errors
(`expressions_evaluate`).

Main statements: `grammar_tree`, `Tree.settles` and `expressions_evaluate`.
-/

namespace Backtrack

namespace Calculator

open Pattern Grammar

variable {rules : RuleSet} {cfg : Config} {m : Matched}

/-! ### Levels and grammars -/

/-- The levels of the calculator's grammars, from the loosest binding. -/
inductive Level where
  | expression
  | term
  | factor

namespace Level

/-- The name of the grammar of a level. -/
def name : Level → String
  | expression => "Expression"
  | term => "Term"
  | factor => "Factor"

/-- The level a chain is made of: expressions are chains of terms, terms chains of factors. -/
def below : Level → Option Level
  | expression => some term
  | term => some factor
  | factor => none

/-- The operators that join a chain of the level. -/
def operators : Level → List String
  | expression => ["+", "-"]
  | term => ["*", "/"]
  | factor => []

end Level

/-- The reference to the rule of a level. -/
def Level.ref (l : Level) : Pattern := new (.rule ⟨l.name, 1⟩)

/-- A chain of operands of one level joined by either of two operators. -/
def chainGrammar (name op op' : String) (operand : Level) : Grammar :=
  ⟨name, operand.ref + zeroOrMore (token (literal op <|> literal op') + operand.ref), none⟩

/-- A number, a parenthesised expression whose parentheses are suppressed, or a minus sign and
a factor. -/
def factorGrammar : Grammar :=
  ⟨"Factor", anyOf [token (Grammar.number.toPattern 2),
    (token (literal "(")).suppress + Level.expression.ref + (token (literal ")")).suppress,
    token (literal "-") + Level.factor.ref], none⟩

def Level.grammar : Level → Grammar
  | expression => chainGrammar "Expression" "+" "-" .term
  | term => chainGrammar "Term" "*" "/" .factor
  | factor => factorGrammar

/-- The tag each grammar is defined under. -/
def Level.tag : Level → Nat
  | expression => 5
  | term => 4
  | factor => 3

/-- The rules that the calculator's grammars define. -/
def ruleSet : RuleSet :=
  ⟨1, [("Expression", some (Level.expression.grammar.toPattern 5)), ("Term", some (Level.term.grammar.toPattern 4)),
    ("Factor", some (Level.factor.grammar.toPattern 3))]⟩

theorem grammars_eq : grammars = .ok ⟨ruleSet, [factorGrammar, Level.term.grammar, Level.expression.grammar]⟩ := rfl

theorem target?_ref (l : Level) : ruleSet.target? ⟨l.name, 1⟩ = some (l.grammar.toPattern l.tag) := by
  cases l <;> rfl

/-- The fragments of the calculator's grammars, level by level: a chain is a first operand and
a list of operator and operand pairs, and a factor is a number, a parenthesised expression (the
parentheses are suppressed) or a minus sign and a factor. -/
inductive Tree : Level → Fragment → Prop
  | chain {l k : Level} {first : Fragment} {pairs : List (String × Fragment)} (below : l.below = some k)
    (head : Tree k first) (ops : ∀ x ∈ pairs, x.1 ∈ l.operators) (operands : ∀ x ∈ pairs, Tree k x.2) :
    Tree l (.named l.name (.list [first, .list (pairs.map fun x ↦ .list [.text x.1, x.2])]))
  | number {kind : String} {t : List Char} (numeral : Numeral kind t) :
    Tree .factor (.named "Factor" (.named "Number" (.named kind (.text (String.ofList t)))))
  | parenthesized {e : Fragment} (inner : Tree .expression e) : Tree .factor (.named "Factor" (.list [e]))
  | negated {f : Fragment} (inner : Tree .factor f) : Tree .factor (.named "Factor" (.list [.text "-", f]))

theorem Tree.named {l : Level} {f : Fragment} (h : Tree l f) : ∃ inner, f = .named l.name inner := by
  cases h <;> exact ⟨_, rfl⟩

/-! ### Trees evaluate -/

theorem combine_settles {l : Level} {op : String} (hop : op ∈ l.operators) (a b : Binary64) :
    Settles (combine op a b) := by
  cases l <;> simp only [Level.operators, List.mem_cons, List.not_mem_nil, or_false] at hop
  · rcases hop with rfl | rfl <;> exact settles_ok _
  · rcases hop with rfl | rfl
    · exact settles_ok _
    · -- the one operator that can fail
      show Settles (if b.isZero then .error "division by zero" else .ok (a / b))
      split
      · intro e he
        cases he
        exact .inl rfl
      · exact settles_ok _

theorem applyPairs_settles {l : Level} {pairs : List (String × Fragment)} (hops : ∀ x ∈ pairs, x.1 ∈ l.operators)
    (hvals : ∀ x ∈ pairs, Settles (evaluate x.2)) (v : Binary64) :
    Settles (applyPairs v (pairs.map fun x ↦ .list [.text x.1, x.2])) := by
  induction pairs generalizing v with
  | nil =>
    rw [List.map_nil, applyPairs]
    exact settles_ok v
  | cons x more ih =>
    rw [List.map_cons, applyPairs]
    have hx : x ∈ x :: more := List.mem_cons_self ..
    refine (hvals x hx).bind fun w ↦ (combine_settles (hops x hx) v w).bind ?_
    exact ih (fun y hy ↦ hops y (List.mem_cons_of_mem _ hy)) (fun y hy ↦ hvals y (List.mem_cons_of_mem _ hy))

/-- Every tree evaluates to a value, a division by zero or an integer literal too large for
64 bits, and never to a malformed tree. -/
theorem Tree.settles {l : Level} {f : Fragment} (h : Tree l f) : Settles (evaluate f) := by
  induction h with
  | @chain l k first pairs below head ops operands ihHead ihOperands =>
    have hname : l.name = "Expression" ∨ l.name = "Term" := by
      cases l
      · exact .inl rfl
      · exact .inr rfl
      · nomatch below
    rw [evaluate, if_pos hname, fold]
    exact ihHead.bind (applyPairs_settles ops ihOperands)
  | number numeral =>
    obtain ⟨hE, hT, hF, hN⟩ := numeral.kind_ne
    -- a number is no list, so `factor` evaluates it as it is
    rw [evaluate, if_neg (by decide), if_pos rfl, factor]
    · rw [evaluate, if_neg (by decide), if_neg (by decide), if_pos rfl, evaluate, if_neg (by simp [hE, hT]),
        if_neg hF, if_neg hN]
      exact literalValue_settles numeral
    -- the side conditions of that case of `factor`: a labelled fragment is no list
    all_goals simp
  | parenthesized inner ih =>
    rw [evaluate, if_neg (by decide), if_pos rfl, factor]
    exact ih
  | negated inner ih =>
    rw [evaluate, if_neg (by decide), if_pos rfl, factor]
    exact ih.map

/-! ### The grammars yield trees -/

theorem ref_yields {l : Level} (h : l.ref.Yields ruleSet cfg m) : (l.grammar.toPattern l.tag).Yields ruleSet cfg m := by
  obtain ⟨t, ht, hy⟩ := Yields.rule_inv h
  rw [target?_ref] at ht
  cases ht
  exact hy

theorem isNothing_of_grammar {g : Grammar} {tag : Nat} (h : (g.toPattern tag).Yields rules cfg m) :
    m.fragment.isNothing = false := by
  obtain ⟨mb, -, rfl⟩ := Yields.grammar_inv h
  rfl

theorem chainGrammar_body (name op op' : String) (k : Level) :
    (chainGrammar name op op' k).body = mk (.sequence [k.ref, mk (.repetition (mk (.sequence
      [token (mk (.choice [literal op, literal op'] true) false), k.ref] none true) false) 0 none) false] none true) false :=
  rfl

/-- A round of a chain yields an operator and what the level below yields. -/
theorem chainRound_yields {k : Level} {op op' : String}
    (h : (mk (.sequence [token (mk (.choice [literal op, literal op'] true) false), k.ref] none true) false).Yields
      ruleSet cfg m) :
    ∃ o mo, (o = op ∨ o = op') ∧ (k.grammar.toPattern k.tag).Yields ruleSet cfg mo ∧
      m.fragment = .list [.text o, mo.fragment] := by
  obtain ⟨ms, hms, rfl⟩ := Yields.sequence_inv h
  simp only [sequenceSteps, List.forall₂_cons_left_iff, List.forall₂_nil_left_iff] at hms
  obtain ⟨m1, _, h1, ⟨m2, _, h2, rfl, rfl⟩, rfl⟩ := hms
  obtain ⟨mc, hc, rfl⟩ := Yields.token_inv h1
  obtain ⟨q, hq, mq, hmq, rfl⟩ := Yields.choice_inv hc
  have hop : ∃ o, (o = op ∨ o = op') ∧ mq = .fixed (.text o) := by
    simp only [List.mem_cons, List.not_mem_nil, or_false] at hq
    rcases hq with rfl | rfl
    · exact ⟨op, .inl rfl, Yields.literal_inv hmq⟩
    · exact ⟨op', .inr rfl, Yields.literal_inv hmq⟩
  obtain ⟨o, ho, rfl⟩ := hop
  have h2' := ref_yields h2
  refine ⟨o, m2, ho, h2', ?_⟩
  simp only [sequenceSteps, List.zip_cons_cons, List.zip_nil_left, Matched.fixed]
  rw [sequenceItems_cons_of_kept rfl rfl, sequenceItems_cons_of_kept rfl (isNothing_of_grammar h2')]
  rfl

/-- A chain yields what the level below yields, then a list of its rounds. -/
theorem chain_yields {name op op' : String} {k : Level} (h : (chainGrammar name op op' k).body.Yields ruleSet cfg m) :
    ∃ (first : Matched) (rounds : List Matched), (k.grammar.toPattern k.tag).Yields ruleSet cfg first ∧
      (∀ r ∈ rounds, ∃ o mo, (o = op ∨ o = op') ∧ (k.grammar.toPattern k.tag).Yields ruleSet cfg mo ∧
        r.fragment = .list [.text o, mo.fragment]) ∧
      m.fragment = .list [first.fragment, .list (rounds.map (·.fragment))] := by
  rw [chainGrammar_body] at h
  obtain ⟨ms, hms, rfl⟩ := Yields.sequence_inv h
  simp only [sequenceSteps, List.forall₂_cons_left_iff, List.forall₂_nil_left_iff] at hms
  obtain ⟨m1, _, h1, ⟨m2, _, h2, rfl, rfl⟩, rfl⟩ := hms
  obtain ⟨rounds, pieces, -, heach, rfl⟩ := Yields.repetition_inv h2
  have h1' := ref_yields h1
  refine ⟨m1, rounds, h1', fun r hr ↦ chainRound_yields (heach r hr), ?_⟩
  simp only [sequenceSteps, List.zip_cons_cons, List.zip_nil_left, Matched.fixed]
  rw [sequenceItems_cons_of_kept rfl (isNothing_of_grammar h1'), sequenceItems_cons_of_kept rfl rfl]
  rfl

theorem sizeOf_lt_of_mem_items {f : Fragment} {items : List Fragment} (h : f ∈ items) :
    sizeOf f < sizeOf (Fragment.list items) := by
  have := List.sizeOf_lt_of_mem h
  simp only [Fragment.list.sizeOf_spec]
  omega

theorem sizeOf_lt_named (name : String) {f : Fragment} {items : List Fragment} (h : f ∈ items) :
    sizeOf f < sizeOf (Fragment.named name (.list items)) := by
  have := sizeOf_lt_of_mem_items h
  simp only [Fragment.named.sizeOf_spec] at this ⊢
  omega

/-- Operator and operand pairs, chosen round by round. -/
theorem exists_pairs {rounds : List Matched} {P : String × Fragment → Prop}
    (h : ∀ r ∈ rounds, ∃ x, P x ∧ r.fragment = .list [.text x.1, x.2]) :
    ∃ pairs : List (String × Fragment), (∀ x ∈ pairs, P x) ∧
      rounds.map (·.fragment) = pairs.map fun x ↦ .list [.text x.1, x.2] := by
  induction rounds with
  | nil => exact ⟨[], by simp, rfl⟩
  | cons r rs ih =>
    obtain ⟨x, hx, hr⟩ := h r (List.mem_cons_self ..)
    obtain ⟨ps, hps, hrs⟩ := ih fun r' hr' ↦ h r' (List.mem_cons_of_mem _ hr')
    refine ⟨x :: ps, ?_, by simp [hr, hrs]⟩
    simp only [List.mem_cons, forall_eq_or_imp]
    exact ⟨hx, hps⟩

/-- A chain grammar yields a chain of the trees of the level below, given that level's trees
for every smaller match. -/
theorem chainGrammar_tree {l k : Level} {op op' : String} {tag : Nat} (hk : l.below = some k)
    (hops : l.operators = [op, op'])
    (ih : ∀ m' : Matched, sizeOf m'.fragment < sizeOf m.fragment →
      (k.grammar.toPattern k.tag).Yields ruleSet cfg m' → Tree k m'.fragment)
    (h : ((chainGrammar l.name op op' k).toPattern tag).Yields ruleSet cfg m) : Tree l m.fragment := by
  obtain ⟨mb, hb, rfl⟩ := Yields.grammar_inv h
  obtain ⟨first, rounds, hfirst, hrounds, hmb⟩ := chain_yields hb
  simp only [Matched.fixed, hmb] at ih ⊢
  -- every operand lies inside the chain's fragment, so its tree is at hand
  have hpairs : ∀ r ∈ rounds, ∃ x : String × Fragment, (x.1 ∈ l.operators ∧ Tree k x.2) ∧
      r.fragment = .list [.text x.1, x.2] := by
    intro r hr
    obtain ⟨o, mo, ho, hmo, hfrag⟩ := hrounds r hr
    have hinside : sizeOf mo.fragment < sizeOf (Fragment.list (rounds.map (·.fragment))) := calc
      sizeOf mo.fragment < sizeOf r.fragment := by
        rw [hfrag]
        exact sizeOf_lt_of_mem_items (by simp)
      _ < _ := sizeOf_lt_of_mem_items (List.mem_map_of_mem hr)
    refine ⟨(o, mo.fragment), ⟨?_, ih mo (hinside.trans (sizeOf_lt_named _ (by simp))) hmo⟩, hfrag⟩
    rw [hops]
    rcases ho with rfl | rfl <;> simp
  obtain ⟨pairs, hps, hmap⟩ := exists_pairs hpairs
  rw [hmap]
  exact .chain hk (ih first (sizeOf_lt_named _ (by simp)) hfirst) (fun x hx ↦ (hps x hx).1) fun x hx ↦ (hps x hx).2

theorem factorGrammar_body : factorGrammar.body = anyOf [token (Grammar.number.toPattern 2),
    mk (.sequence [(token (literal "(")).suppress, Level.expression.ref, (token (literal ")")).suppress] none true) false,
    mk (.sequence [token (literal "-"), Level.factor.ref] none true) false] := rfl

/-- The factor grammar yields a number, a parenthesised expression or a negated factor, given
the trees of every smaller match. -/
theorem factorGrammar_tree {tag : Nat}
    (ih : ∀ (l : Level) (m' : Matched), sizeOf m'.fragment < sizeOf m.fragment →
      (l.grammar.toPattern l.tag).Yields ruleSet cfg m' → Tree l m'.fragment)
    (h : (factorGrammar.toPattern tag).Yields ruleSet cfg m) : Tree .factor m.fragment := by
  obtain ⟨mb, hb, rfl⟩ := Yields.grammar_inv h
  rw [factorGrammar_body] at hb
  obtain ⟨q, hq, mq, hmq, rfl⟩ := Yields.choice_inv hb
  simp only [List.mem_cons, List.not_mem_nil, or_false] at hq
  rcases hq with rfl | rfl | rfl
  · obtain ⟨mn, hmn, rfl⟩ := Yields.token_inv hmq
    obtain ⟨kind, t, ht, hfrag⟩ := number_text hmn
    simp only [Matched.fixed, hfrag]
    exact .number ht
  · obtain ⟨ms, hms, rfl⟩ := Yields.sequence_inv hmq
    simp only [sequenceSteps, List.forall₂_cons_left_iff, List.forall₂_nil_left_iff] at hms
    obtain ⟨m1, _, -, ⟨m2, _, h2, ⟨m3, _, -, rfl, rfl⟩, rfl⟩, rfl⟩ := hms
    have h2' := ref_yields h2
    -- the parentheses are suppressed, so the factor holds the expression alone
    have hitems : sequenceItems ([(token (literal "(")).suppress, Level.expression.ref, (token (literal ")")).suppress].zip
        [m1, m2, m3]) = [m2.fragment] := by
      simp only [List.zip_cons_cons, List.zip_nil_left]
      rw [sequenceItems_cons_of_suppressed rfl, sequenceItems_cons_of_kept rfl (isNothing_of_grammar h2'),
        sequenceItems_cons_of_suppressed rfl]
      rfl
    simp only [sequenceSteps, Matched.fixed, hitems] at ih ⊢
    exact .parenthesized (ih .expression m2 (sizeOf_lt_named _ (by simp)) h2')
  · obtain ⟨ms, hms, rfl⟩ := Yields.sequence_inv hmq
    simp only [sequenceSteps, List.forall₂_cons_left_iff, List.forall₂_nil_left_iff] at hms
    obtain ⟨m1, _, h1, ⟨m2, _, h2, rfl, rfl⟩, rfl⟩ := hms
    obtain ⟨mc, hc, rfl⟩ := Yields.token_inv h1
    have h2' := ref_yields h2
    have hitems : sequenceItems ([token (literal "-"), Level.factor.ref].zip [Matched.fixed mc.fragment, m2]) =
        [.text "-", m2.fragment] := by
      simp only [List.zip_cons_cons, List.zip_nil_left, Yields.literal_inv hc]
      rw [sequenceItems_cons_of_kept rfl rfl, sequenceItems_cons_of_kept rfl (isNothing_of_grammar h2')]
      rfl
    simp only [sequenceSteps] at ih ⊢
    rw [hitems] at ih ⊢
    exact .negated (ih .factor m2 (sizeOf_lt_named _ (by simp)) h2')

/-- Every match of a calculator grammar, at any tag, yields a tree of its level: by induction on
the size of the fragment, each grammar reading the smaller matches of the levels it refers to. -/
theorem grammar_tree (l : Level) {tag : Nat} {m : Matched} (h : (l.grammar.toPattern tag).Yields ruleSet cfg m) :
    Tree l m.fragment := by
  induction hn : sizeOf m.fragment using Nat.strong_induction_on generalizing l tag m with
  | _ n ih =>
    have ih' : ∀ (k : Level) (m' : Matched), sizeOf m'.fragment < sizeOf m.fragment →
        (k.grammar.toPattern k.tag).Yields ruleSet cfg m' → Tree k m'.fragment :=
      fun k m' hlt h' ↦ ih _ (hn ▸ hlt) k h' rfl
    cases l with
    | expression => exact chainGrammar_tree rfl rfl (ih' .term) h
    | term => exact chainGrammar_tree rfl rfl (ih' .factor) h
    | factor => exact factorGrammar_tree ih' h

/-! ### Complete parses -/

/-- Evaluating the tree of a complete parse of an expression gives a value, or stops at a
division by zero or at an integer literal too large for 64 bits: never at a tree of the wrong
shape, an unknown operator or an unknown kind of numeral. -/
theorem expressions_evaluate :
    ∃ gs, grammars = .ok gs ∧ ∃ g, gs.get? "Expression" = some g ∧
      ∀ input : String, input.length < Word.size → ∀ p, (g.parseComplete gs.rules input).1 = .ok p →
        Settles (evaluate p.toNamed) := by
  refine ⟨_, grammars_eq, Level.expression.grammar, ?_, ?_⟩
  · rfl
  intro input hlen p hp
  obtain ⟨m, s', hc, hfrag, -⟩ := parseComplete_ok hp
  have hsize : (⟨Cursor.ofString input, #[]⟩ : MatchState).cursor.size < Word.size := by
    rw [Cursor.size, size_ofString]
    exact hlen
  have htree := grammar_tree .expression (consumeAt_yields hsize (by rw [consumeAt]; exact hc))
  obtain ⟨inner, hinner⟩ := htree.named
  have hnamed : p.toNamed = m.fragment := by
    rw [Parsed.toNamed, parseComplete_name hp, hfrag, hinner]
    rfl
  rw [hnamed]
  exact htree.settles

end Calculator

end Backtrack
