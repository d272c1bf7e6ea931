import Backtrack.Proofs.Primitives
import Backtrack.Grammar.Set

/-!
# Rule sets after any history of operations

A rule set changes only when a name is declared or defined; taking a reference and checking
that every name is defined only read it, and a definition that fails leaves it as it was.
Whatever the history, the set holds one entry per name that a declaration or a definition
mentioned, in order of first mention, each with the first definition given to it
(`RuleSet.entries_performAll`). Everything the set answers follows from that: its names
and its size, which references and definitions succeed, what `resolve` reports, and what a
reference matches. A reference carries the identity of its set and its name only, so a
reference handed out before the definition matches just as one handed out after it.

A grammar set keeps, beside its rules, the grammars that its definitions gave. It tracks
exactly the names defined so far, each with the first grammar given to it
(`GrammarSet.performAll_follows`).

Main statement: `histories_follow`.
-/

namespace Backtrack

namespace RuleSet

/-- An operation on a rule set. -/
inductive Op where
  | declare (name : String)
  | define (name : String) (p : Pattern)
  | reference (name : String)
  | resolve

namespace Op

/-- The name that the operation declares or defines. -/
def mentioned? : Op → Option String
  | declare n | define n _ => some n
  | reference _ | resolve => none

/-- The pattern that the operation gives to `name`. -/
def definitionOf? (name : String) : Op → Option Pattern
  | define n p => if n = name then some p else none
  | declare _ | reference _ | resolve => none

end Op

/-- The set after an operation: an operation that fails, or only reads the set, leaves it as
it was. -/
def perform (rs : RuleSet) : Op → RuleSet
  | .declare n => (rs.declare n).1
  | .define n p =>
    match rs.define n p with
    | .ok rs' => rs'
    | .error _ => rs
  | .reference _ | .resolve => rs

/-- The set after the operations, in order. -/
def performAll (rs : RuleSet) (ops : List Op) : RuleSet := ops.foldl perform rs

/-- The names that declarations and definitions mention, each once, in order of first
mention. -/
def mentions (ops : List Op) : List String := (ops.filterMap Op.mentioned?).eraseDups

/-- The first definition that the operations give to `name`. -/
def firstDefinition (ops : List Op) (name : String) : Option Pattern :=
  ops.findSome? (Op.definitionOf? name)

/-- The names mentioned but never defined, in order of first mention. -/
def undefinedNames (ops : List Op) : List String :=
  (mentions ops).filter fun n ↦ (firstDefinition ops n).isNone

/-- The entries a history leads to: each mentioned name with its first definition. -/
def entriesOf (ops : List Op) : List (String × Option Pattern) :=
  (mentions ops).map fun n ↦ (n, firstDefinition ops n)

/-! ### The history -/

theorem performAll_snoc (rs : RuleSet) (ops : List Op) (op : Op) :
    rs.performAll (ops ++ [op]) = (rs.performAll ops).perform op := by
  simp [performAll, List.foldl_append]

theorem scope_declare (rs : RuleSet) (name : String) : (rs.declare name).1.scope = rs.scope := by
  unfold declare
  split <;> rfl

theorem scope_define {rs rs' : RuleSet} {name : String} {p : Pattern} (h : rs.define name p = .ok rs') :
    rs'.scope = rs.scope := by
  unfold define at h
  split at h <;> cases h <;> rfl

theorem scope_perform (rs : RuleSet) (op : Op) : (rs.perform op).scope = rs.scope := by
  cases op with
  | declare n => exact scope_declare rs n
  | define n p =>
    rw [perform]
    split
    · rename_i rs' h
      exact scope_define h
    · rfl
  | reference _ | resolve => rfl

/-- No operation changes the identity of a set, so every reference it hands out stays a
reference into it. -/
theorem scope_performAll (rs : RuleSet) (ops : List Op) : (rs.performAll ops).scope = rs.scope := by
  induction ops using List.reverseRecOn with
  | nil => rfl
  | append_singleton ops op ih => rw [performAll_snoc, scope_perform, ih]

/-- A name appended to a list without repeats is new unless it was there. -/
theorem eraseDups_snoc (l : List String) (n : String) :
    (l ++ [n]).eraseDups = if n ∈ l then l.eraseDups else l.eraseDups ++ [n] := by
  rw [List.eraseDups_append]
  by_cases h : n ∈ l <;> simp [List.removeAll, List.eraseDups_cons, h]

theorem mentions_snoc_of_none {ops : List Op} {op : Op} (h : op.mentioned? = none) :
    mentions (ops ++ [op]) = mentions ops := by
  simp [mentions, List.filterMap_append, h]

theorem mentions_snoc_of_some {ops : List Op} {op : Op} {name : String} (h : op.mentioned? = some name) :
    mentions (ops ++ [op]) = if name ∈ mentions ops then mentions ops else mentions ops ++ [name] := by
  unfold mentions
  rw [List.filterMap_append, List.filterMap_cons, h, List.filterMap_nil, eraseDups_snoc]
  simp only [List.mem_eraseDups]

theorem nodup_mentions (ops : List Op) : (mentions ops).Nodup := by
  induction ops using List.reverseRecOn with
  | nil => simp [mentions]
  | append_singleton ops op ih =>
    cases hop : op.mentioned? with
    | none => rwa [mentions_snoc_of_none hop]
    | some n =>
      rw [mentions_snoc_of_some hop]
      by_cases hn : n ∈ mentions ops
      · rwa [if_pos hn]
      · rw [if_neg hn]
        refine List.nodup_append.mpr ⟨ih, List.nodup_singleton n, fun a ha b hb hab ↦ hn ?_⟩
        rw [List.mem_singleton] at hb
        rwa [← hb, ← hab]

theorem firstDefinition_snoc (ops : List Op) (op : Op) (name : String) :
    firstDefinition (ops ++ [op]) name = (firstDefinition ops name).or (op.definitionOf? name) := by
  simp [firstDefinition]

/-- A name with a definition was mentioned. -/
theorem mem_mentions_of_isSome {ops : List Op} {name : String}
    (h : (firstDefinition ops name).isSome) : name ∈ mentions ops := by
  obtain ⟨op, hop, hdef⟩ := List.findSome?_isSome_iff.mp h
  cases op with
  | define n p =>
    by_cases hn : n = name
    · subst hn
      simp only [mentions, List.mem_eraseDups, List.mem_filterMap]
      exact ⟨_, hop, rfl⟩
    · simp [Op.definitionOf?, hn] at hdef
  | declare _ | reference _ | resolve => simp [Op.definitionOf?] at hdef

theorem firstDefinition_of_not_mem {ops : List Op} {name : String} (h : name ∉ mentions ops) :
    firstDefinition ops name = none := by
  cases hd : firstDefinition ops name with
  | none => rfl
  | some _ => exact absurd (mem_mentions_of_isSome (by simp [hd])) h

/-! ### Reading the entries -/

/-- Looking a name up among entries of distinct names. -/
theorem find?_entries (ops : List Op) (name : String) :
    ((entriesOf ops).find? (·.1 == name)).map (·.2) =
      if name ∈ mentions ops then some (firstDefinition ops name) else none := by
  unfold entriesOf
  induction mentions ops with
  | nil => rfl
  | cons m ms ih =>
    simp only [List.map_cons, List.find?_cons, List.mem_cons]
    by_cases h : m = name
    · subst h
      simp
    · have hne : (m == name) = false := beq_eq_false_iff_ne.mpr h
      simp only [hne, ih]
      by_cases hm : name ∈ ms <;> simp [hm, Ne.symm h]

section Entries

variable {rs : RuleSet} {ops : List Op}

theorem names_of_entries (h : rs.entries = entriesOf ops) : rs.names = mentions ops := by
  simp [names, h, entriesOf, Function.comp_def]

theorem find?_of_entries (h : rs.entries = entriesOf ops) (name : String) :
    rs.find? name = if name ∈ mentions ops then some (firstDefinition ops name) else none := by
  rw [find?, h, find?_entries]

theorem contains_of_entries (h : rs.entries = entriesOf ops) (name : String) :
    rs.contains name = decide (name ∈ mentions ops) := by
  unfold contains
  rw [find?_of_entries h]
  by_cases hm : name ∈ mentions ops <;> simp [hm]

theorem get?_of_entries (h : rs.entries = entriesOf ops) (name : String) :
    rs.get? name = firstDefinition ops name := by
  unfold get?
  rw [find?_of_entries h]
  by_cases hm : name ∈ mentions ops
  · simp [hm]
  · simp [hm, firstDefinition_of_not_mem hm]

theorem undefined_of_entries (h : rs.entries = entriesOf ops) : rs.undefined = undefinedNames ops := by
  simp [undefined, h, entriesOf, undefinedNames, List.filter_map, Function.comp_def]

/-- A definition fails exactly when the name has one, and it fails as a duplicate. -/
theorem define_error_of_entries (h : rs.entries = entriesOf ops) (name : String) (p : Pattern)
    (e : PatternError) :
    rs.define name p = .error e ↔ e = .duplicateRule name ∧ (firstDefinition ops name).isSome := by
  unfold define
  rw [find?_of_entries h]
  cases hd : firstDefinition ops name with
  | some q =>
    have hm := @mem_mentions_of_isSome ops name (by simp [hd])
    simp only [hm, if_true, Option.isSome_some, and_true, Except.error.injEq]
    exact eq_comm
  | none =>
    by_cases hm : name ∈ mentions ops <;> simp [hm]

end Entries

/-! ### One operation -/

/-- An operation that mentions nothing new and defines nothing leaves the entries alone. -/
theorem entriesOf_snoc_of_none {ops : List Op} {op : Op}
    (hm : ∀ n, op.mentioned? = some n → n ∈ mentions ops) (hd : ∀ n, op.definitionOf? n = none) :
    entriesOf (ops ++ [op]) = entriesOf ops := by
  have hmen : mentions (ops ++ [op]) = mentions ops := by
    cases hop : op.mentioned? with
    | none => exact mentions_snoc_of_none hop
    | some n => rw [mentions_snoc_of_some hop, if_pos (hm n hop)]
  simp [entriesOf, hmen, firstDefinition_snoc, hd]

section Perform

variable {rs : RuleSet} {ops : List Op}

theorem entries_declare (h : rs.entries = entriesOf ops) (name : String) :
    (rs.perform (.declare name)).entries = entriesOf (ops ++ [.declare name]) := by
  by_cases hm : name ∈ mentions ops
  · rw [entriesOf_snoc_of_none (fun n hn ↦ Option.some.inj hn ▸ hm) (fun _ ↦ rfl), ← h]
    simp [perform, declare, contains_of_entries h, hm]
  · simp only [perform, declare, contains_of_entries h, hm, decide_false, Bool.false_eq_true,
      if_false, h, entriesOf, mentions_snoc_of_some (rfl : (Op.declare name).mentioned? = _),
      List.map_append, List.map_cons, List.map_nil, firstDefinition_snoc, Op.definitionOf?,
      Option.or_none, firstDefinition_of_not_mem hm]

theorem entries_define (h : rs.entries = entriesOf ops) (name : String) (p : Pattern) :
    (rs.perform (.define name p)).entries = entriesOf (ops ++ [.define name p]) := by
  have hfind := find?_of_entries h name
  have hmen := @mentions_snoc_of_some ops (.define name p) name rfl
  have hdef : ∀ n, firstDefinition (ops ++ [.define name p]) n =
      (firstDefinition ops n).or (if name = n then some p else none) := fun n ↦
    firstDefinition_snoc ops _ n
  unfold perform define
  cases hd : firstDefinition ops name with
  | some q =>
    -- a second definition fails and the first one stays
    have hm := @mem_mentions_of_isSome ops name (by simp [hd])
    simp only [hfind, hm, if_true, hd]
    rw [h]
    simp only [entriesOf, hmen, hm, if_true]
    congr 1
    funext n
    by_cases hn : name = n
    · subst hn
      simp [hdef, hd]
    · simp [hdef, hn]
  | none =>
    by_cases hm : name ∈ mentions ops
    · simp only [hfind, hm, if_true, hd]
      simp only [h, entriesOf, hmen, hm, if_true, List.map_map]
      apply List.map_congr_left
      intro n _
      by_cases hn : n = name
      · subst hn
        simp [hdef, hd]
      · simp [hdef, Ne.symm hn, hn]
    · simp only [hfind, hm, if_false]
      simp only [h, entriesOf, hmen, hm, if_false, List.map_append, List.map_cons, List.map_nil]
      congr 1
      · apply List.map_congr_left
        intro n hn
        have hne : name ≠ n := fun he ↦ hm (he ▸ hn)
        simp [hdef, hne]
      · simp [hdef, hd]

theorem entries_perform (h : rs.entries = entriesOf ops) (op : Op) :
    (rs.perform op).entries = entriesOf (ops ++ [op]) := by
  cases op with
  | declare n => exact entries_declare h n
  | define n p => exact entries_define h n p
  | reference n | resolve =>
    rw [entriesOf_snoc_of_none (by simp [Op.mentioned?]) (fun _ ↦ rfl)]
    exact h

end Perform

/-- A set built by any history holds each mentioned name once, in order of first mention,
with its first definition. -/
theorem entries_performAll (scope : Nat) (ops : List Op) :
    ((empty scope).performAll ops).entries = entriesOf ops := by
  induction ops using List.reverseRecOn with
  | nil => rfl
  | append_singleton ops op ih => rw [performAll_snoc, entries_perform ih]

/-! ### What the set answers -/

/-- What a rule set answers after the history `ops`. -/
structure Follows (rs : RuleSet) (ops : List Op) : Prop where
  /-- The names, each once, in order of first mention. -/
  names : rs.names = mentions ops
  nodup : rs.names.Nodup
  size : rs.size = (mentions ops).length
  /-- A reference succeeds exactly for a mentioned name. -/
  reference : ∀ name, rs.reference name =
    if name ∈ mentions ops then .ok (rs.refTo name) else .error (.unknownRule name)
  /-- A definition fails exactly for a name defined before, as a duplicate. -/
  define_error : ∀ name p e, rs.define name p = .error e ↔
    e = .duplicateRule name ∧ (firstDefinition ops name).isSome
  /-- A defined name keeps its first definition. -/
  get : ∀ name, rs.get? name = firstDefinition ops name
  /-- The check fails exactly when a mentioned name is undefined, and lists those names. -/
  resolve : rs.resolve =
    if undefinedNames ops = [] then .ok () else .error (.undefinedRules (undefinedNames ops))
  /-- A reference into the set whose name has a definition matches that definition one level
  deeper, or stops at the nesting limit. -/
  enter : ∀ name t b config checks depth, firstDefinition ops name = some t →
    Engine.step (contextAt rs config checks depth) (.mk (.rule ⟨name, rs.scope⟩) b) = fun s ↦
      if depth < config.maxDepth then consumeAt rs config checks (depth + 1) t s
      else .error (.depthExceeded config.maxDepth s.cursor.pos) s
  /-- A reference into the set whose name has no definition leads nowhere. -/
  enter_undefined : ∀ name b config checks depth, firstDefinition ops name = none →
    Engine.step (contextAt rs config checks depth) (.mk (.rule ⟨name, rs.scope⟩) b) = fun s ↦
      .error (.unresolvedRule name) s

theorem follows_of_entries {rs : RuleSet} {ops : List Op} (h : rs.entries = entriesOf ops) :
    rs.Follows ops where
  names := names_of_entries h
  nodup := names_of_entries h ▸ nodup_mentions ops
  size := by simp [size, h, entriesOf]
  reference name := by
    unfold reference
    rw [contains_of_entries h]
    by_cases hm : name ∈ mentions ops <;> simp [hm]
  define_error := define_error_of_entries h
  get := get?_of_entries h
  resolve := by
    unfold resolve
    rw [undefined_of_entries h]
    split <;> simp_all
  enter name t b config checks depth ht := by
    funext s
    rw [Engine.step]
    simp only [contextAt, target?, if_true, get?_of_entries h, ht]
  enter_undefined name b config checks depth ht := by
    funext s
    rw [Engine.step]
    simp only [contextAt, target?, if_true, get?_of_entries h, ht]

theorem performAll_follows (scope : Nat) (ops : List Op) :
    ((empty scope).performAll ops).Follows ops :=
  follows_of_entries (entries_performAll scope ops)

end RuleSet

namespace GrammarSet

/-- An operation on a grammar set. -/
inductive Op where
  | declare (name : String)
  /-- Defines a grammar; `tag` identifies the node that the rule of its name becomes. -/
  | define (g : Grammar) (tag : Nat)
  | reference (name : String)
  | resolve

namespace Op

/-- The operation on the rules of the set. -/
def toRuleOp : Op → RuleSet.Op
  | declare n => .declare n
  | define g tag => .define g.name (g.toPattern tag)
  | reference n => .reference n
  | resolve => .resolve

/-- The grammar that the operation defines under `name`. -/
def grammarOf? (name : String) : Op → Option Grammar
  | define g _ => if g.name = name then some g else none
  | declare _ | reference _ | resolve => none

end Op

/-- The set after an operation: only declarations and definitions that succeed change it. -/
def perform (gs : GrammarSet) : Op → GrammarSet
  | .declare n => { gs with rules := (gs.rules.declare n).1 }
  | .define g tag =>
    match ((gs.define g tag).run #[]).1 with
    | .ok gs' => gs'
    | .error _ => gs
  | .reference _ | .resolve => gs

/-- The set after the operations, in order. -/
def performAll (gs : GrammarSet) (ops : List Op) : GrammarSet := ops.foldl perform gs

/-- The first grammar that the operations define under `name`. -/
def firstGrammar (ops : List Op) (name : String) : Option Grammar := ops.findSome? (Op.grammarOf? name)

/-- The names that have a grammar, in order of first mention. -/
def definedNames (ops : List Op) : List String :=
  (RuleSet.mentions (ops.map Op.toRuleOp)).filter fun n ↦ (firstGrammar ops n).isSome

theorem performAll_snoc (gs : GrammarSet) (ops : List Op) (op : Op) :
    gs.performAll (ops ++ [op]) = (gs.performAll ops).perform op := by
  simp [performAll, List.foldl_append]

theorem firstGrammar_snoc (ops : List Op) (op : Op) (name : String) :
    firstGrammar (ops ++ [op]) name = (firstGrammar ops name).or (op.grammarOf? name) := by
  simp [firstGrammar]

/-- The rule of a name is defined exactly when the name has a grammar. -/
theorem isSome_firstDefinition (ops : List Op) (name : String) :
    (RuleSet.firstDefinition (ops.map Op.toRuleOp) name).isSome = (firstGrammar ops name).isSome := by
  induction ops using List.reverseRecOn with
  | nil => rfl
  | append_singleton ops op ih =>
    rw [List.map_append, List.map_singleton, RuleSet.firstDefinition_snoc, firstGrammar_snoc,
      Option.isSome_or, Option.isSome_or, ih]
    cases op with
    | define g tag =>
      by_cases hn : g.name = name <;> simp [Op.toRuleOp, RuleSet.Op.definitionOf?, Op.grammarOf?, hn]
    | declare _ | reference _ | resolve => rfl

theorem define_run_error {gs : GrammarSet} {g : Grammar} {tag : Nat} {e : PatternError}
    (h : gs.rules.define g.name (g.toPattern tag) = .error e) :
    ((gs.define g tag).run #[]).1 = .error e := by
  unfold define RuleSet.defineNoted
  simp only [h]
  rfl

/-- Defining a grammar defines the rule of its name and replaces any grammar of that name by
the new one. -/
theorem define_run_ok {gs : GrammarSet} {g : Grammar} {tag : Nat} {rules : RuleSet}
    (h : gs.rules.define g.name (g.toPattern tag) = .ok rules) :
    ((gs.define g tag).run #[]).1 = .ok ⟨rules, gs.grammars.filter (·.name != g.name) ++ [g]⟩ := by
  unfold define RuleSet.defineNoted
  simp only [h]
  rfl

/-- The grammars a history leaves: one per defined name, the first given to it, beside the
rules the history leaves. -/
structure Tracks (gs : GrammarSet) (ops : List Op) : Prop where
  rules : gs.rules.entries = RuleSet.entriesOf (ops.map Op.toRuleOp)
  get : ∀ name, gs.get? name = firstGrammar ops name
  nodup : (gs.grammars.map Grammar.name).Nodup

/-- Replacing the grammar of a name keeps the names distinct. -/
theorem nodup_names_replace {l : List Grammar} (h : (l.map Grammar.name).Nodup) (g : Grammar) :
    ((l.filter (·.name != g.name) ++ [g]).map Grammar.name).Nodup := by
  rw [List.map_append, List.map_singleton]
  refine List.nodup_append.mpr ⟨((List.filter_sublist).map _).nodup h, List.nodup_singleton _, ?_⟩
  simp only [List.mem_map, List.mem_filter, bne_iff_ne, ne_eq, List.mem_singleton]
  rintro a ⟨x, ⟨-, hx⟩, rfl⟩ b rfl
  exact hx

/-- After replacing the grammar of `g`'s name, a name finds `g` or what it found before. -/
theorem find?_replace (l : List Grammar) (g : Grammar) (name : String) :
    (l.filter (·.name != g.name) ++ [g]).find? (·.name == name) =
      if g.name = name then some g else l.find? (·.name == name) := by
  rw [List.find?_append, List.find?_filter]
  by_cases hn : g.name = name
  · have hnone : l.find? (fun a ↦ (a.name != g.name) = true ∧ (a.name == name) = true) = none := by
      simp [List.find?_eq_none, hn]
    rw [hnone]
    simp [hn]
  · have hsame : (fun a : Grammar ↦ decide ((a.name != g.name) = true ∧ (a.name == name) = true)) =
        (·.name == name) := by
      funext a
      by_cases ha : a.name = name
      · simp [ha, Ne.symm hn]
      · simp [ha]
    rw [hsame, if_neg hn]
    cases l.find? (·.name == name) <;> simp [hn]

theorem Tracks.perform {gs : GrammarSet} {ops : List Op} (h : gs.Tracks ops) (op : Op) :
    (gs.perform op).Tracks (ops ++ [op]) := by
  have hrule := RuleSet.entries_perform h.rules op.toRuleOp
  rw [← List.map_singleton, ← List.map_append] at hrule
  cases op with
  | declare n =>
    refine ⟨hrule, fun name ↦ ?_, h.nodup⟩
    simp [GrammarSet.perform, get?, firstGrammar_snoc, Op.grammarOf?, ← h.get]
  | define g tag =>
    have hiff := RuleSet.define_error_of_entries h.rules g.name (g.toPattern tag)
    simp only [Op.toRuleOp, RuleSet.perform] at hrule
    rw [GrammarSet.perform]
    cases hd : gs.rules.define g.name (g.toPattern tag) with
    | error e =>
      -- the name had a grammar already, which stays
      have hsome := ((hiff e).mp hd).2
      rw [isSome_firstDefinition] at hsome
      rw [hd] at hrule
      rw [define_run_error hd]
      refine ⟨hrule, fun name ↦ ?_, h.nodup⟩
      rw [h.get, firstGrammar_snoc]
      by_cases hn : g.name = name
      · subst hn
        obtain ⟨g', hg'⟩ := Option.isSome_iff_exists.mp hsome
        simp [hg']
      · simp [Op.grammarOf?, hn]
    | ok rules =>
      have hnone : firstGrammar ops g.name = none := by
        cases hf : firstGrammar ops g.name with
        | none => rfl
        | some _ =>
          have hs : (firstGrammar ops g.name).isSome := by simp [hf]
          rw [← isSome_firstDefinition] at hs
          have := (hiff (.duplicateRule g.name)).mpr ⟨rfl, hs⟩
          rw [hd] at this
          cases this
      rw [hd] at hrule
      rw [define_run_ok hd]
      refine ⟨hrule, fun name ↦ ?_, nodup_names_replace h.nodup g⟩
      simp only [get?]
      rw [find?_replace, firstGrammar_snoc]
      by_cases hn : g.name = name
      · subst hn
        simp [hnone, Op.grammarOf?]
      · rw [if_neg hn, ← get?, h.get]
        simp [Op.grammarOf?, hn]
  | reference n | resolve =>
    refine ⟨hrule, fun name ↦ ?_, h.nodup⟩
    simp [GrammarSet.perform, firstGrammar_snoc, Op.grammarOf?, h.get]

theorem tracks_performAll (scope : Nat) (ops : List Op) : ((empty scope).performAll ops).Tracks ops := by
  induction ops using List.reverseRecOn with
  | nil => exact ⟨rfl, fun _ ↦ rfl, List.nodup_nil⟩
  | append_singleton ops op ih => rw [performAll_snoc]; exact ih.perform op

/-- What a grammar set answers after the history `ops`. -/
structure Follows (gs : GrammarSet) (ops : List Op) : Prop where
  /-- Its rules answer as the rules after the same history. -/
  rules : gs.rules.Follows (ops.map Op.toRuleOp)
  /-- A defined name keeps its first grammar. -/
  get : ∀ name, gs.get? name = firstGrammar ops name
  /-- Only defined names count as contained. -/
  contains : ∀ name, gs.contains name = (firstGrammar ops name).isSome
  /-- The size counts the defined names. -/
  size : gs.size = (definedNames ops).length
  /-- A definition fails exactly for a name defined before, as a duplicate. -/
  define_error : ∀ g tag e, ((gs.define g tag).run #[]).1 = .error e ↔
    e = .duplicateRule g.name ∧ (firstGrammar ops g.name).isSome
  /-- Parsing with an undefined name fails as such. -/
  parse_undefined : ∀ name input, firstGrammar ops name = none →
    gs.parse name input = (.error (.unknownGrammar name), #[])
  /-- Parsing with a defined name parses with its first grammar. -/
  parse : ∀ name g input, firstGrammar ops name = some g →
    gs.parse name input = ((g.parse gs.rules input).1.mapError .matching, (g.parse gs.rules input).2)

theorem define_error_of_tracks {gs : GrammarSet} {ops : List Op} (h : gs.Tracks ops) (g : Grammar)
    (tag : Nat) (e : PatternError) :
    ((gs.define g tag).run #[]).1 = .error e ↔
      e = .duplicateRule g.name ∧ (firstGrammar ops g.name).isSome := by
  rw [← isSome_firstDefinition, ← RuleSet.define_error_of_entries h.rules]
  cases hd : gs.rules.define g.name (g.toPattern tag) with
  | error e' => simp [define_run_error hd]
  | ok rules => simp [define_run_ok hd]

/-- The names of the grammars are the defined names, so they are as many. -/
theorem size_of_tracks {gs : GrammarSet} {ops : List Op} (h : gs.Tracks ops) :
    gs.size = (definedNames ops).length := by
  have hmem : ∀ name, name ∈ gs.grammars.map Grammar.name ↔ name ∈ definedNames ops := by
    intro name
    have hget := h.get name
    simp only [get?] at hget
    constructor
    · intro hn
      obtain ⟨g, hg, rfl⟩ := List.mem_map.mp hn
      obtain ⟨g', hg'⟩ : ∃ g', gs.grammars.find? (·.name == g.name) = some g' := by
        cases hf : gs.grammars.find? (·.name == g.name) with
        | some g' => exact ⟨g', rfl⟩
        | none => simp [List.find?_eq_none] at hf; exact absurd rfl (hf g hg)
      have hsome : (firstGrammar ops g.name).isSome := by rw [← hget, hg']; rfl
      refine List.mem_filter.mpr ⟨RuleSet.mem_mentions_of_isSome ?_, hsome⟩
      rwa [isSome_firstDefinition]
    · intro hn
      obtain ⟨-, hsome⟩ := List.mem_filter.mp hn
      obtain ⟨g, hg⟩ := Option.isSome_iff_exists.mp hsome
      rw [hg] at hget
      have hname : g.name = name := by simpa using List.find?_some hget
      exact List.mem_map.mpr ⟨g, List.mem_of_find?_eq_some hget, hname⟩
  have hperm := (List.perm_ext_iff_of_nodup h.nodup
    ((RuleSet.nodup_mentions _).filter _)).mpr hmem
  simpa [size, definedNames] using hperm.length_eq

theorem Tracks.follows {gs : GrammarSet} {ops : List Op} (h : gs.Tracks ops) : gs.Follows ops where
  rules := RuleSet.follows_of_entries h.rules
  get := h.get
  contains name := by simp [contains, h.get]
  size := size_of_tracks h
  define_error := define_error_of_tracks h
  parse_undefined name input hn := by simp [parse, h.get, hn]
  parse name g input hg := by simp [parse, h.get, hg]

theorem performAll_follows (scope : Nat) (ops : List Op) :
    ((empty scope).performAll ops).Follows ops :=
  (tracks_performAll scope ops).follows

end GrammarSet

/-- A rule set and a grammar set after any history of operations: each answers as its
history says, and a reference handed out at any point of the history is a reference into
the final set. -/
theorem histories_follow (scope : Nat) (ops : List RuleSet.Op) (gops : List GrammarSet.Op) :
    ((RuleSet.empty scope).performAll ops).Follows ops ∧
      (∀ pre, ((RuleSet.empty scope).performAll pre).scope = scope) ∧
      ((GrammarSet.empty scope).performAll gops).Follows gops :=
  ⟨RuleSet.performAll_follows scope ops, fun pre ↦ RuleSet.scope_performAll _ pre,
    GrammarSet.performAll_follows scope gops⟩

end Backtrack
