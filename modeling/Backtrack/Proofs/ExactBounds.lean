import Backtrack.Proofs.Bounds

/-!
# Length bounds against exact arithmetic

`Pattern.exactMin` and `Pattern.exactMax` are the recursions of `minLength` and `maxLength`
computed in unbounded arithmetic: the sum over the steps of a sequence, the least or the largest
alternative, products for repetitions and separated lists, with the same conventions for zero and
for no ceiling.

Upper bounds saturate at every step, and capping at the largest word commutes with each
operation of the recursion (`Limit.cap_plus`, `Limit.cap_mul`, `Limit.cap_larger`), so
`maxLength` is the exact maximum capped. Lower bounds saturate only in repetitions: a sequence
adds the minimums of its steps, and a separated list its terms, modulo `2 ^ 64`
(`minLength_sequence_mod`, `minLength_separated_mod`). A wrapped sum lies below both the largest
word and the exact sum, so `minLength` never exceeds the capped exact minimum, and it equals it
when no sequence or separated list of the pattern has an exact minimum beyond the largest word
(`Pattern.noWrap`). Two repetitions whose minimums saturated, in one sequence, wrap around to one
less than the largest word (`minLength_wraps_in_sequence`).

The statements hold of patterns whose literals and run bounds are words (`Pattern.wordSized`),
as every number of a pattern is a word in the matcher.

Main statement: `length_bounds_exact`.
-/

namespace Backtrack

namespace Word

theorem size_pos : 0 < size := Nat.two_pow_pos 64

theorem top_add_one : top + 1 = size := by
  have := size_pos
  unfold top
  omega

theorem top_lt_size : top < size := by
  have := top_add_one
  omega

theorem one_le_top : 1 ≤ top := by decide

/-- A sum that wraps around is the sum modulo `2 ^ 64`. -/
theorem wrapSum_eq_mod (xs : List Nat) : wrapSum xs = xs.sum % size := by
  -- the fold keeps its accumulator below `2 ^ 64`
  suffices h : ∀ acc, acc < size → xs.foldl wrapAdd acc = (acc + xs.sum) % size by
    simpa [wrapSum] using h 0 size_pos
  induction xs with
  | nil => intro acc hacc; simp [Nat.mod_eq_of_lt hacc]
  | cons x xs ih =>
    intro acc _
    rw [List.foldl_cons, ih (wrapAdd acc x) (Nat.mod_lt (acc + x) size_pos), wrapAdd, Nat.mod_add_mod, List.sum_cons,
      Nat.add_assoc]

/-- Saturating a capped value is saturating the value. -/
theorem satMul_min_top (n c : Nat) : satMul (min n top) c = min (n * c) top := by
  unfold satMul
  rcases Nat.eq_zero_or_pos c with rfl | hc
  · simp
  · rcases Nat.le_total n top with h | h
    · rw [Nat.min_eq_left h]
    · have h1 : top ≤ top * c := Nat.le_mul_of_pos_right top hc
      have h2 : top ≤ n * c := Nat.le_trans h (Nat.le_mul_of_pos_right n hc)
      rw [Nat.min_eq_right h, Nat.min_eq_right h1, Nat.min_eq_right h2]

/-- A product that is a word does not see a cap on its factor. -/
theorem min_top_mul_of_le {a x : Nat} (h : a * x ≤ top) : min a top * x = a * x := by
  rcases Nat.eq_zero_or_pos x with rfl | hx
  · simp
  · rw [Nat.min_eq_left (Nat.le_trans (Nat.le_mul_of_pos_right a hx) h)]

end Word

namespace Limit

/-- The sum of two limits in unbounded arithmetic. -/
def plus : Limit → Limit → Limit
  | finite a, finite b => finite (a + b)
  | _, _ => unbounded

/-- `times` in unbounded arithmetic, with its conventions for zero and for no ceiling. -/
def mul : Limit → Option Nat → Limit
  | finite n, some c => finite (n * c)
  | finite 0, none => finite 0
  | _, _ => unbounded

/-- A limit as a word: a finite limit beyond the largest word becomes the largest word. -/
def cap : Limit → Limit
  | finite n => finite (min n Word.top)
  | unbounded => unbounded

@[simp] theorem cap_finite (n : Nat) : (finite n).cap = finite (min n Word.top) := rfl

@[simp] theorem cap_unbounded : unbounded.cap = unbounded := rfl

theorem cap_of_le {n : Nat} (h : n ≤ Word.top) : (finite n).cap = finite n := by
  rw [cap_finite, Nat.min_eq_left h]

/-- Saturating sums are capped exact sums. -/
theorem cap_plus (a b : Limit) : (a.plus b).cap = a.cap + b.cap := by
  cases a <;> cases b <;> simp [plus, Word.satAdd]
  omega

/-- Saturating multiples are capped exact multiples. -/
theorem cap_mul (a : Limit) (c : Option Nat) : (a.mul c).cap = a.cap.times c := by
  cases a with
  | unbounded => cases c <;> rfl
  | finite n =>
    cases c with
    | some c => simp [mul, times, Word.satMul_min_top]
    | none =>
      cases n with
      | zero => rfl
      | succ n =>
        -- a positive limit stays positive under the cap, and has no multiple without ceiling
        obtain ⟨k, hk⟩ : ∃ k, min (n + 1) Word.top = k + 1 :=
          ⟨min (n + 1) Word.top - 1, by have := Word.one_le_top; omega⟩
        rw [cap_finite, hk]
        rfl

/-- Capping keeps the larger of two limits. -/
theorem cap_larger (a b : Limit) : (if a ≤ b then b else a).cap = if a.cap ≤ b.cap then b.cap else a.cap := by
  cases a with
  | unbounded => cases b <;> simp
  | finite x =>
    cases b with
    | unbounded => simp
    | finite y =>
      by_cases hxy : x ≤ y
      · have hcap : min x Word.top ≤ min y Word.top := by omega
        simp [hxy, hcap]
      · by_cases hcap : min x Word.top ≤ min y Word.top
        · have heq : min y Word.top = min x Word.top := by omega
          simp [hxy, heq]
        · simp [hxy, hcap]

/-- Capping carries a fold of an operation that capping respects over to the capped values. -/
theorem cap_foldl {f g : Limit → Limit → Limit} (hfg : ∀ a b, (f a b).cap = g a.cap b.cap)
    (acc : Limit) (ls : List Limit) : (ls.foldl f acc).cap = (ls.map cap).foldl g acc.cap := by
  rw [List.foldl_map]
  exact (List.foldl_hom cap fun x y ↦ (hfg x y).symm).symm

end Limit

namespace Shape

/-- The patterns a node holds: its children and separator, its inner pattern, the body and the
bad pattern of an embedded grammar. -/
def subpatterns : Shape → List Pattern
  | nextIs _ inner | prevIs _ inner | repetition inner _ _ | group inner | flatten inner
  | select inner _ | token inner => [inner]
  | sequence cs sep _ => cs ++ sep.toList
  | choice cs _ => cs
  | separated sep elem _ _ => [sep, elem]
  | embed _ (.grammar _ body bad) => body :: bad.toList
  | embed _ (.shared inner) => [inner]
  | char _ | run _ | whitespace _ | literal _ | regex _ | boundary _ | rule _
  | embed _ .broken | embed _ .unbalanced => []

theorem mem_subpatterns_of_mem_sequenceSteps {q : Pattern} {cs : List Pattern} {sep : Option Pattern}
    {auto : Bool} (h : q ∈ sequenceSteps cs sep) : q ∈ (sequence cs sep auto).subpatterns := by
  rcases mem_sequenceSteps h with h | rfl <;> simp [subpatterns, h]

end Shape

namespace Pattern

theorem sizeOf_lt_of_mem_subpatterns {q : Pattern} {s : Shape} {b : Bool} (h : q ∈ s.subpatterns) :
    sizeOf q < sizeOf (mk s b) := by
  cases s with
  | sequence cs sep auto =>
    simp only [Shape.subpatterns, List.mem_append] at h
    rcases h with h | h
    · have := List.sizeOf_lt_of_mem h
      simp only [mk.sizeOf_spec, Shape.sequence.sizeOf_spec]
      omega
    · cases sep with
      | none => simp at h
      | some sep =>
        simp only [Option.toList_some, List.mem_singleton] at h
        subst h
        simp only [mk.sizeOf_spec, Shape.sequence.sizeOf_spec, Option.some.sizeOf_spec]
        omega
  | choice cs auto =>
    have := List.sizeOf_lt_of_mem (show q ∈ cs from h)
    simp only [mk.sizeOf_spec, Shape.choice.sizeOf_spec]
    omega
  | embed tag m =>
    cases m with
    | grammar name body bad =>
      simp only [Shape.subpatterns, List.mem_cons] at h
      rcases h with rfl | h
      · simp only [mk.sizeOf_spec, Shape.embed.sizeOf_spec, Embedded.grammar.sizeOf_spec]
        omega
      · cases bad with
        | none => simp at h
        | some bad =>
          simp only [Option.toList_some, List.mem_singleton] at h
          subst h
          simp only [mk.sizeOf_spec, Shape.embed.sizeOf_spec, Embedded.grammar.sizeOf_spec,
            Option.some.sizeOf_spec]
          omega
    | shared inner =>
      simp only [Shape.subpatterns, List.mem_singleton] at h
      subst h
      simp only [mk.sizeOf_spec, Shape.embed.sizeOf_spec, Embedded.shared.sizeOf_spec]
      omega
    | broken | unbalanced => simp [Shape.subpatterns] at h
  | separated sep elem lo hi =>
    simp only [Shape.subpatterns, List.mem_cons, List.not_mem_nil, or_false] at h
    rcases h with rfl | rfl <;> simp only [mk.sizeOf_spec, Shape.separated.sizeOf_spec] <;> omega
  | nextIs _ inner | prevIs _ inner | repetition inner _ _ | group inner | flatten inner
  | select inner _ | token inner =>
    simp only [Shape.subpatterns, List.mem_singleton] at h
    subst h
    simp only [mk.sizeOf_spec, Shape.nextIs.sizeOf_spec, Shape.prevIs.sizeOf_spec, Shape.repetition.sizeOf_spec,
      Shape.group.sizeOf_spec, Shape.flatten.sizeOf_spec, Shape.select.sizeOf_spec, Shape.token.sizeOf_spec]
    omega
  | char _ | run _ | whitespace _ | literal _ | regex _ | boundary _ | rule _ => simp [Shape.subpatterns] at h

/-- Induction over patterns: a property holds of every pattern if it holds of each node whose
subpatterns all have it. -/
theorem induction_subpatterns {motive : Pattern → Prop}
    (step : ∀ s b, (∀ q ∈ s.subpatterns, motive q) → motive (mk s b)) (p : Pattern) : motive p := by
  -- strong induction on the size of the pattern
  suffices h : ∀ n, ∀ p : Pattern, sizeOf p < n → motive p from h _ p (Nat.lt_succ_self _)
  intro n
  induction n with
  | zero => intro p hp; exact absurd hp (Nat.not_lt_zero _)
  | succ n ih =>
    intro p hp
    cases p with
    | mk s b =>
      exact step s b fun q hq ↦ ih q (Nat.lt_of_lt_of_le (sizeOf_lt_of_mem_subpatterns hq) (Nat.le_of_lt_succ hp))

/-! ### Every node -/

mutual
/-- Whether `f` holds of every node of the pattern, the pattern itself included. -/
def everyNode (f : Pattern → Bool) : Pattern → Bool
  | mk s b => f (mk s b) && shapeEveryNode f s

/-- `everyNode` below a node of the given shape. -/
def shapeEveryNode (f : Pattern → Bool) : Shape → Bool
  | .nextIs _ inner | .prevIs _ inner | .repetition inner _ _ | .group inner | .flatten inner
  | .select inner _ | .token inner => everyNode f inner
  | .sequence cs none _ | .choice cs _ => allEveryNode f cs
  | .sequence cs (some sep) _ => allEveryNode f cs && everyNode f sep
  | .separated sep elem _ _ => everyNode f sep && everyNode f elem
  | .embed _ m => embeddedEveryNode f m
  | .char _ | .run _ | .whitespace _ | .literal _ | .regex _ | .boundary _ | .rule _ => true

/-- `everyNode` below an embedded matcher. -/
def embeddedEveryNode (f : Pattern → Bool) : Embedded → Bool
  | .grammar _ body none => everyNode f body
  | .grammar _ body (some bad) => everyNode f body && everyNode f bad
  | .shared inner => everyNode f inner
  | .broken | .unbalanced => true

/-- `everyNode` of every pattern of a list. -/
def allEveryNode (f : Pattern → Bool) : List Pattern → Bool
  | [] => true
  | p :: ps => everyNode f p && allEveryNode f ps
end

section EveryNode

variable {f : Pattern → Bool}

theorem allEveryNode_iff {ps : List Pattern} : allEveryNode f ps = true ↔ ∀ q ∈ ps, everyNode f q = true := by
  induction ps with
  | nil => simp [allEveryNode]
  | cons p ps ih => simp [allEveryNode, ih]

theorem everyNode_mk_iff {s : Shape} {b : Bool} :
    everyNode f (mk s b) = true ↔ f (mk s b) = true ∧ ∀ q ∈ s.subpatterns, everyNode f q = true := by
  rw [everyNode, Bool.and_eq_true]
  apply and_congr_right fun _ ↦ ?_
  cases s with
  | sequence cs sep auto => cases sep <;> simp [shapeEveryNode, Shape.subpatterns, allEveryNode_iff, or_imp, forall_and]
  | choice cs auto => simp [shapeEveryNode, Shape.subpatterns, allEveryNode_iff]
  | separated sep elem lo hi => simp [shapeEveryNode, Shape.subpatterns]
  | embed tag m =>
    cases m with
    | grammar name body bad => cases bad <;> simp [shapeEveryNode, embeddedEveryNode, Shape.subpatterns]
    | shared inner => simp [shapeEveryNode, embeddedEveryNode, Shape.subpatterns]
    | broken | unbalanced => simp [shapeEveryNode, embeddedEveryNode, Shape.subpatterns]
  | nextIs _ inner | prevIs _ inner | repetition inner _ _ | group inner | flatten inner
  | select inner _ | token inner => simp [shapeEveryNode, Shape.subpatterns]
  | char _ | run _ | whitespace _ | literal _ | regex _ | boundary _ | rule _ =>
    simp [shapeEveryNode, Shape.subpatterns]

theorem everyNode_self {s : Shape} {b : Bool} (h : everyNode f (mk s b) = true) : f (mk s b) = true :=
  (everyNode_mk_iff.mp h).1

theorem everyNode_of_mem {s : Shape} {b : Bool} (h : everyNode f (mk s b) = true) {q : Pattern}
    (hq : q ∈ s.subpatterns) : everyNode f q = true :=
  (everyNode_mk_iff.mp h).2 q hq

end EveryNode

/-! ### Exact bounds -/

/-- The sum of limits in unbounded arithmetic, from zero and left to right. -/
def sumPlus (ms : List Limit) : Limit := ms.foldl Limit.plus (.finite 0)

mutual
/-- The fewest characters a match consumes, in unbounded arithmetic. -/
def exactMin : Pattern → Nat
  | mk s _ => shapeExactMin s

/-- `exactMin` by shape. -/
def shapeExactMin : Shape → Nat
  | .char _ => 1
  | .run r | .whitespace r => r.min
  | .literal t => t.length
  | .regex _ | .boundary _ | .nextIs .. | .prevIs .. => 0
  | .sequence cs none _ => (exactMins cs).sum
  | .sequence [] (some _) _ => 0
  | .sequence (c :: cs) (some sep) _ => exactMin sep * cs.length + (exactMin c + (exactMins cs).sum)
  | .choice cs _ => (exactMins cs).min?.getD 0
  | .repetition inner lo _ => exactMin inner * lo
  | .separated sep elem lo _ => if lo = 0 then 0 else exactMin elem * lo + exactMin sep * (lo - 1)
  | .group inner | .flatten inner | .token inner | .select inner _ => exactMin inner
  | .rule _ => 0
  | .embed _ m => embeddedExactMin m

/-- `exactMin` of an embedded matcher. -/
def embeddedExactMin : Embedded → Nat
  | .grammar _ body _ => exactMin body
  | .shared inner => exactMin inner
  | .broken | .unbalanced => 0

/-- `exactMin` of every pattern of a list. -/
def exactMins : List Pattern → List Nat
  | [] => []
  | p :: ps => exactMin p :: exactMins ps
end

mutual
/-- The most characters a match consumes, in unbounded arithmetic. -/
def exactMax : Pattern → Limit
  | mk s _ => shapeExactMax s

/-- `exactMax` by shape. -/
def shapeExactMax : Shape → Limit
  | .char _ => .finite 1
  | .run r | .whitespace r => Limit.ofOption r.max
  | .literal t => .finite t.length
  | .boundary _ | .nextIs .. | .prevIs .. => .finite 0
  | .sequence cs none _ => sumPlus (exactMaxs cs)
  | .sequence [] (some _) _ => .finite 0
  | .sequence (c :: cs) (some sep) _ =>
    sumPlus (exactMax c :: (exactMaxs cs).flatMap fun m ↦ [exactMax sep, m])
  | .choice cs _ => (exactMaxs cs).foldl (fun acc m ↦ if acc ≤ m then m else acc) (.finite 0)
  | .repetition inner _ hi => (exactMax inner).mul hi
  | .separated sep elem _ hi =>
    match hi with
    | some 0 => .finite 0
    | some n => ((exactMax elem).mul (some n)).plus ((exactMax sep).mul (some (n - 1)))
    | none => .unbounded
  | .group inner | .flatten inner | .select inner _ => exactMax inner
  | .regex _ | .token _ | .rule _ => .unbounded
  | .embed _ m => embeddedExactMax m

/-- `exactMax` of an embedded matcher. -/
def embeddedExactMax : Embedded → Limit
  | .grammar _ body _ => exactMax body
  | .shared inner => exactMax inner
  | .broken | .unbalanced => .unbounded

/-- `exactMax` of every pattern of a list. -/
def exactMaxs : List Pattern → List Limit
  | [] => []
  | p :: ps => exactMax p :: exactMaxs ps
end

theorem exactMins_eq_map (ps : List Pattern) : exactMins ps = ps.map exactMin := by
  induction ps with
  | nil => simp [exactMins]
  | cons p ps ih => simp [exactMins, ih]

theorem exactMaxs_eq_map (ps : List Pattern) : exactMaxs ps = ps.map exactMax := by
  induction ps with
  | nil => simp [exactMaxs]
  | cons p ps ih => simp [exactMaxs, ih]

/-- The literals and run bounds of a node are words. -/
def wordNode : Pattern → Bool
  | mk (.literal t) _ => decide (t.length ≤ Word.top)
  | mk (.run r) _ | mk (.whitespace r) _ => decide (r.min ≤ Word.top) && r.max.all fun n ↦ decide (n ≤ Word.top)
  | _ => true

/-- Every literal of the pattern is shorter than `2 ^ 64` and every run bound is a word. -/
def wordSized (p : Pattern) : Bool := p.everyNode wordNode

/-- A node whose lower bound is a sum, a sequence or a separated list, has an exact minimum
that is a word. -/
def sumNode (p : Pattern) : Bool :=
  match p.shape with
  | .sequence .. | .separated .. => decide (p.exactMin ≤ Word.top)
  | _ => true

/-- No sum of lower bounds in the pattern goes beyond the largest word. -/
def noWrap (p : Pattern) : Bool := p.everyNode sumNode

/-! ### Sums over the steps of a sequence -/

/-- Each later child of a separated sequence brings a separator with it. -/
theorem sum_map_sequenceSteps (g : Pattern → Nat) (c sep : Pattern) (cs : List Pattern) :
    ((sequenceSteps (c :: cs) (some sep)).map g).sum = g sep * cs.length + (g c + (cs.map g).sum) := by
  have hpairs : ((cs.flatMap fun d ↦ [sep, d]).map g).sum = (cs.map g).sum + g sep * cs.length := by
    induction cs with
    | nil => simp
    | cons d ds ih => simp only [List.flatMap_cons, List.map_append, List.sum_append, ih]; simp; ring
  simp only [sequenceSteps, List.map_cons, List.sum_cons, hpairs]
  ring

/-- The lower bound of a sequence is the sum of the lower bounds of its steps modulo `2 ^ 64`. -/
theorem minLength_sequence_mod (cs : List Pattern) (sep : Option Pattern) (auto b : Bool) :
    (mk (.sequence cs sep auto) b).minLength = ((sequenceSteps cs sep).map minLength).sum % Word.size := by
  cases sep with
  | none => simp [minLength, shapeMin, sequenceSteps, minLengths_eq_map, Word.wrapSum_eq_mod]
  | some sep =>
    cases cs with
    | nil => simp [minLength, shapeMin, sequenceSteps]
    | cons c cs =>
      rw [sum_map_sequenceSteps]
      simp only [minLength, shapeMin, minLengths_eq_map, Word.wrapAdd, Word.wrapMul, Word.wrapSum_eq_mod,
        Nat.add_mod_mod, Nat.mod_add_mod]

theorem exactMin_sequence (cs : List Pattern) (sep : Option Pattern) (auto b : Bool) :
    (mk (.sequence cs sep auto) b).exactMin = ((sequenceSteps cs sep).map exactMin).sum := by
  cases sep with
  | none => simp [exactMin, shapeExactMin, sequenceSteps, exactMins_eq_map]
  | some sep =>
    cases cs with
    | nil => simp [exactMin, shapeExactMin, sequenceSteps]
    | cons c cs =>
      rw [sum_map_sequenceSteps]
      simp only [exactMin, shapeExactMin, exactMins_eq_map]

/-- The lower bound of a separated list is the sum of its terms modulo `2 ^ 64`. -/
theorem minLength_separated_mod (sep elem : Pattern) (lo : Nat) (hi : Option Nat) (b : Bool) :
    (mk (.separated sep elem lo hi) b).minLength =
      if lo = 0 then 0 else (elem.minLength * lo + sep.minLength * (lo - 1)) % Word.size := by
  simp only [minLength, shapeMin, Word.wrapAdd, Word.wrapMul]
  split_ifs
  · rfl
  · rw [← Nat.add_mod]

theorem exactMax_sequence (cs : List Pattern) (sep : Option Pattern) (auto b : Bool) :
    (mk (.sequence cs sep auto) b).exactMax = sumPlus ((sequenceSteps cs sep).map exactMax) := by
  cases sep with
  | none => simp [exactMax, shapeExactMax, sequenceSteps, exactMaxs_eq_map]
  | some sep =>
    cases cs with
    | nil => rfl
    | cons c cs =>
      simp [exactMax, shapeExactMax, sequenceSteps, exactMaxs_eq_map, List.map_flatMap, List.flatMap_map]

/-! ### Least of a list -/

/-- The least of numbers capped at `t` is their least, capped. -/
theorem least_map_capped (t : Nat) (xs : List Nat) :
    (xs.map (min · t)).min?.getD 0 = min (xs.min?.getD 0) t := by
  cases xs with
  | nil => simp
  | cons x xs =>
    simp only [List.map_cons, List.min?_cons', Option.getD_some, List.foldl_map]
    exact List.foldl_hom (min · t) fun a y ↦ by omega

/-- Taking the least keeps two accumulators in order when the values come in order. -/
theorem foldl_min_le {α : Type} {f g : α → Nat} {cs : List α} (h : ∀ c ∈ cs, f c ≤ g c) {a a' : Nat}
    (ha : a ≤ a') : cs.foldl (fun m x ↦ min m (f x)) a ≤ cs.foldl (fun m x ↦ min m (g x)) a' := by
  induction cs generalizing a a' with
  | nil => exact ha
  | cons x xs ih =>
    have hx := h x List.mem_cons_self
    exact ih (fun y hy ↦ h y (List.mem_cons_of_mem x hy)) (show min a (f x) ≤ min a' (g x) by omega)

/-- The least of numbers is monotone in each of them. -/
theorem least_map_le {α : Type} {f g : α → Nat} {cs : List α} (h : ∀ c ∈ cs, f c ≤ g c) :
    (cs.map f).min?.getD 0 ≤ (cs.map g).min?.getD 0 := by
  cases cs with
  | nil => simp
  | cons c cs =>
    simp only [List.map_cons, List.min?_cons', Option.getD_some, List.foldl_map]
    exact foldl_min_le (fun x hx ↦ h x (List.mem_cons_of_mem c hx)) (h c List.mem_cons_self)

/-! ### Upper bounds -/

/-- Saturating upper bounds are the exact upper bounds capped at the largest word. -/
theorem maxLength_eq_cap (p : Pattern) (hw : p.wordSized) : p.maxLength = p.exactMax.cap := by
  induction p using induction_subpatterns with
  | step s b ih =>
    have hsub : ∀ q ∈ s.subpatterns, q.maxLength = q.exactMax.cap := fun q hq ↦ ih q hq (everyNode_of_mem hw hq)
    have hnode : wordNode (mk s b) = true := everyNode_self hw
    cases s with
    | char cls => exact (Limit.cap_of_le Word.one_le_top).symm
    | run r | whitespace r =>
      simp only [wordNode, Bool.and_eq_true, decide_eq_true_eq] at hnode
      show Limit.ofOption r.max = (Limit.ofOption r.max).cap
      cases hmax : r.max with
      | none => rfl
      | some n => simp only [hmax, Option.all_some, decide_eq_true_eq] at hnode; exact (Limit.cap_of_le hnode.2).symm
    | literal t =>
      simp only [wordNode, decide_eq_true_eq] at hnode
      exact (Limit.cap_of_le hnode).symm
    | regex rx => rfl
    | boundary k | nextIs neg inner | prevIs neg inner => simp [maxLength, shapeMax, exactMax, shapeExactMax]
    | sequence cs sep auto =>
      have hsteps : (sequenceSteps cs sep).map maxLength = ((sequenceSteps cs sep).map exactMax).map Limit.cap := by
        rw [List.map_map]
        exact List.map_congr_left fun q hq ↦ hsub q (Shape.mem_subpatterns_of_mem_sequenceSteps hq)
      rw [maxLength_sequence, exactMax_sequence, sumPlus, Limit.cap_foldl Limit.cap_plus, hsteps, sumMax]
      rfl
    | choice cs auto =>
      have hcs : cs.map maxLength = (cs.map exactMax).map Limit.cap := by
        rw [List.map_map]
        exact List.map_congr_left fun q hq ↦ hsub q hq
      simp only [maxLength, shapeMax, exactMax, shapeExactMax, maxLengths_eq_map, exactMaxs_eq_map,
        Limit.cap_foldl (f := fun a b ↦ if a ≤ b then b else a) (g := fun a b ↦ if a ≤ b then b else a)
          Limit.cap_larger, hcs]
      rfl
    | repetition inner lo hi =>
      rw [show (mk (.repetition inner lo hi) b).maxLength = inner.maxLength.times hi from rfl,
        hsub inner (by simp [Shape.subpatterns]), ← Limit.cap_mul]
      rfl
    | separated sep elem lo hi =>
      have hsep := hsub sep (by simp [Shape.subpatterns])
      have helem := hsub elem (by simp [Shape.subpatterns])
      rcases hi with _ | _ | n
      · rfl
      · simp [maxLength, shapeMax, exactMax, shapeExactMax]
      · simp only [maxLength, shapeMax, exactMax, shapeExactMax] at hsep helem ⊢
        rw [Limit.cap_plus, Limit.cap_mul, Limit.cap_mul, hsep, helem]
    | group inner | flatten inner | select inner _ => exact hsub inner (by simp [Shape.subpatterns])
    | token inner => rfl
    | rule ref => rfl
    | embed tag m =>
      cases m with
      | grammar name body bad => exact hsub body (by simp [Shape.subpatterns])
      | shared inner => exact hsub inner (by simp [Shape.subpatterns])
      | broken | unbalanced => rfl

/-! ### Lower bounds -/

/-- Lower bounds in word arithmetic never exceed the exact lower bounds capped at the largest
word: a wrapped sum is below both. -/
theorem minLength_le_exactMin (p : Pattern) (hw : p.wordSized) : p.minLength ≤ min p.exactMin Word.top := by
  induction p using induction_subpatterns with
  | step s b ih =>
    have hsub : ∀ q ∈ s.subpatterns, q.minLength ≤ min q.exactMin Word.top :=
      fun q hq ↦ ih q hq (everyNode_of_mem hw hq)
    have hnode : wordNode (mk s b) = true := everyNode_self hw
    cases s with
    | char cls => exact Nat.le_min.mpr ⟨Nat.le_refl 1, Word.one_le_top⟩
    | run r | whitespace r =>
      simp only [wordNode, Bool.and_eq_true, decide_eq_true_eq] at hnode
      exact Nat.le_min.mpr ⟨Nat.le_refl r.min, hnode.1⟩
    | literal t =>
      simp only [wordNode, decide_eq_true_eq] at hnode
      exact Nat.le_min.mpr ⟨Nat.le_refl t.length, hnode⟩
    | regex _ | boundary _ | nextIs _ _ | prevIs _ _ | rule _ => exact Nat.zero_le _
    | sequence cs sep auto =>
      have hsum : ((sequenceSteps cs sep).map minLength).sum ≤ ((sequenceSteps cs sep).map exactMin).sum :=
        List.sum_le_sum fun q hq ↦
          Nat.le_trans (hsub q (Shape.mem_subpatterns_of_mem_sequenceSteps hq)) (Nat.min_le_left _ _)
      rw [minLength_sequence_mod, exactMin_sequence]
      have hmod := Nat.mod_le ((sequenceSteps cs sep).map minLength).sum Word.size
      have hlt := Nat.mod_lt ((sequenceSteps cs sep).map minLength).sum Word.size_pos
      have := Word.top_add_one
      omega
    | choice cs auto =>
      simp only [minLength, shapeMin, exactMin, shapeExactMin, minLengths_eq_map, exactMins_eq_map]
      rw [← least_map_capped, List.map_map]
      exact least_map_le fun q hq ↦ hsub q hq
    | repetition inner lo hi =>
      have hinner := hsub inner (by simp [Shape.subpatterns])
      simp only [minLength, shapeMin, exactMin, shapeExactMin, Word.satMul] at hinner ⊢
      have hmul : inner.minLength * lo ≤ inner.exactMin * lo :=
        Nat.mul_le_mul_right lo (Nat.le_trans hinner (Nat.min_le_left _ _))
      omega
    | separated sep elem lo hi =>
      have hsep := hsub sep (by simp [Shape.subpatterns])
      have helem := hsub elem (by simp [Shape.subpatterns])
      rw [minLength_separated_mod]
      simp only [exactMin, shapeExactMin]
      split_ifs with hlo
      · exact Nat.zero_le _
      · have h1 : elem.minLength * lo ≤ elem.exactMin * lo :=
          Nat.mul_le_mul_right lo (Nat.le_trans helem (Nat.min_le_left _ _))
        have h2 : sep.minLength * (lo - 1) ≤ sep.exactMin * (lo - 1) :=
          Nat.mul_le_mul_right (lo - 1) (Nat.le_trans hsep (Nat.min_le_left _ _))
        have hmod := Nat.mod_le (elem.minLength * lo + sep.minLength * (lo - 1)) Word.size
        have hlt := Nat.mod_lt (elem.minLength * lo + sep.minLength * (lo - 1)) Word.size_pos
        have := Word.top_add_one
        omega
    | group inner | flatten inner | select inner _ | token inner => exact hsub inner (by simp [Shape.subpatterns])
    | embed tag m =>
      cases m with
      | grammar name body bad => exact hsub body (by simp [Shape.subpatterns])
      | shared inner => exact hsub inner (by simp [Shape.subpatterns])
      | broken | unbalanced => exact Nat.zero_le _

/-- Where no sum of lower bounds goes beyond the largest word, lower bounds in word arithmetic
are the exact lower bounds capped at the largest word. -/
theorem minLength_eq_of_noWrap (p : Pattern) (hw : p.wordSized) (hn : p.noWrap) :
    p.minLength = min p.exactMin Word.top := by
  induction p using induction_subpatterns with
  | step s b ih =>
    have hsub : ∀ q ∈ s.subpatterns, q.minLength = min q.exactMin Word.top :=
      fun q hq ↦ ih q hq (everyNode_of_mem hw hq) (everyNode_of_mem hn hq)
    have hnode : wordNode (mk s b) = true := everyNode_self hw
    have hsum : sumNode (mk s b) = true := everyNode_self hn
    cases s with
    | char cls => exact (Nat.min_eq_left Word.one_le_top).symm
    | run r | whitespace r =>
      simp only [wordNode, Bool.and_eq_true, decide_eq_true_eq] at hnode
      exact (Nat.min_eq_left hnode.1).symm
    | literal t =>
      simp only [wordNode, decide_eq_true_eq] at hnode
      exact (Nat.min_eq_left hnode).symm
    | regex _ | boundary _ | nextIs _ _ | prevIs _ _ | rule _ => simp [minLength, shapeMin, exactMin, shapeExactMin]
    | sequence cs sep auto =>
      simp only [sumNode, shape_mk, decide_eq_true_eq] at hsum
      rw [exactMin_sequence] at hsum
      -- every step fits in the sum, so none of them is capped and the sum does not wrap
      have hsteps : (sequenceSteps cs sep).map minLength = (sequenceSteps cs sep).map exactMin := by
        refine List.map_congr_left fun q hq ↦ ?_
        have hle : q.exactMin ≤ Word.top :=
          Nat.le_trans (List.le_sum_of_mem (List.mem_map_of_mem hq)) hsum
        rw [hsub q (Shape.mem_subpatterns_of_mem_sequenceSteps hq), Nat.min_eq_left hle]
      rw [minLength_sequence_mod, exactMin_sequence, hsteps,
        Nat.mod_eq_of_lt (Nat.lt_of_le_of_lt hsum Word.top_lt_size), Nat.min_eq_left hsum]
    | choice cs auto =>
      simp only [minLength, shapeMin, exactMin, shapeExactMin, minLengths_eq_map, exactMins_eq_map]
      rw [← least_map_capped, List.map_map]
      exact congrArg (fun l : List Nat ↦ l.min?.getD 0) (List.map_congr_left fun q hq ↦ hsub q hq)
    | repetition inner lo hi =>
      have hinner := hsub inner (by simp [Shape.subpatterns])
      simp only [minLength, shapeMin, exactMin, shapeExactMin] at hinner ⊢
      rw [hinner, Word.satMul_min_top]
    | separated sep elem lo hi =>
      have hsep := hsub sep (by simp [Shape.subpatterns])
      have helem := hsub elem (by simp [Shape.subpatterns])
      simp only [sumNode, shape_mk, decide_eq_true_eq] at hsum
      rw [minLength_separated_mod]
      simp only [exactMin, shapeExactMin] at hsum ⊢
      split_ifs with hlo
      · simp
      · rw [if_neg hlo] at hsum
        -- each term fits in the sum, so its factor is not capped
        rw [helem, hsep, Word.min_top_mul_of_le (by omega), Word.min_top_mul_of_le (by omega),
          Nat.mod_eq_of_lt (Nat.lt_of_le_of_lt hsum Word.top_lt_size), Nat.min_eq_left hsum]
    | group inner | flatten inner | select inner _ | token inner => exact hsub inner (by simp [Shape.subpatterns])
    | embed tag m =>
      cases m with
      | grammar name body bad => exact hsub body (by simp [Shape.subpatterns])
      | shared inner => exact hsub inner (by simp [Shape.subpatterns])
      | broken | unbalanced => rfl

end Pattern

open Pattern

/-- For every pattern whose literals and run bounds are words: the upper bound is the exact
upper bound capped at the largest word; the lower bound is at most the exact lower bound capped
at the largest word, and equal to it when no sequence or separated list of the pattern has an
exact lower bound beyond the largest word. -/
theorem length_bounds_exact (p : Pattern) (hw : p.wordSized) :
    p.maxLength = p.exactMax.cap ∧ p.minLength ≤ min p.exactMin Word.top ∧
      (p.noWrap → p.minLength = min p.exactMin Word.top) :=
  ⟨maxLength_eq_cap p hw, minLength_le_exactMin p hw, minLength_eq_of_noWrap p hw⟩

/-- A comma-separated sequence of a literal and two to three letters. -/
theorem length_bounds_exact_separated :
    (sequenceSep [literal "ab", nMatches (charOf "c") 2 (some 3)] (literal ",")).wordSized ∧
      (sequenceSep [literal "ab", nMatches (charOf "c") 2 (some 3)] (literal ",")).noWrap ∧
      (sequenceSep [literal "ab", nMatches (charOf "c") 2 (some 3)] (literal ",")).minLength =
        min (sequenceSep [literal "ab", nMatches (charOf "c") 2 (some 3)] (literal ",")).exactMin Word.top :=
  ⟨by decide, by decide, (length_bounds_exact _ (by decide)).2.2 (by decide)⟩

/-- Two repetitions whose lower bounds saturated at the largest word, in one sequence: the sum
of the lower bounds wraps around to one less than the largest word, where the exact lower bound,
capped, is the largest word. -/
theorem minLength_wraps_in_sequence :
    (sequence [nMatches (chars "a") Word.top none, nMatches (chars "a") Word.top none]).wordSized ∧
      (sequence [nMatches (chars "a") Word.top none, nMatches (chars "a") Word.top none]).minLength =
        Word.top - 1 ∧
      min (sequence [nMatches (chars "a") Word.top none, nMatches (chars "a") Word.top none]).exactMin
        Word.top = Word.top := by
  refine ⟨by decide, by decide, by decide⟩

end Backtrack
