import Backtrack.Proofs.Primitives

/-!
# Lengths within the bounds of a pattern

`Pattern.Fits p d` says that `d` characters lie between the fewest and the most that a match
of `p` consumes. The bounds of a combinator are computed from those of its parts in word
arithmetic: lower bounds wrap around or saturate, upper bounds saturate. Either way a bound
only loses length, so a length made of parts that fit their patterns fits the combinator, as
long as the length is itself a word.

`Sized give bound m d` follows a match of `d` characters through giving back: `d` is within
the bound, and each piece that `give` hands back is at most what is left and leaves a match
sized again for the rest.

Main statements: `fits_sequence`, `fits_choice`, `fits_repetition` and `fits_separated` (the
bounds of the combinators, from the bounds of their parts) and `sized_of_pieces` (giving back
whole pieces keeps a match sized, as long as what is left of its pieces fits).
-/

namespace Backtrack

namespace Word

theorem wrapAdd_le (a b : Nat) : wrapAdd a b ≤ a + b := Nat.mod_le _ _

theorem wrapMul_le (a b : Nat) : wrapMul a b ≤ a * b := Nat.mod_le _ _

/-- A sum that wraps around is at most the sum. -/
theorem wrapSum_le (xs : List Nat) : wrapSum xs ≤ xs.sum := by
  -- the fold starts from any accumulator, which the sum carries along
  suffices h : ∀ acc, xs.foldl wrapAdd acc ≤ acc + xs.sum by simpa [wrapSum] using h 0
  induction xs with
  | nil => intro acc; simp
  | cons x xs ih =>
    intro acc
    have hstep := ih (wrapAdd acc x)
    have hwrap := wrapAdd_le acc x
    simp only [List.foldl_cons, List.sum_cons]
    omega

end Word

namespace Limit

theorem le_refl (a : Limit) : a ≤ a := by
  cases a <;> simp

theorem le_trans {a b c : Limit} (hab : a ≤ b) (hbc : b ≤ c) : a ≤ c := by
  cases a <;> cases b <;> cases c <;> simp_all
  omega

theorem finite_zero_le (a : Limit) : finite 0 ≤ a := by
  cases a <;> simp

/-- Two lengths within two limits add up to within their sum, as long as the total is a word. -/
theorem finite_add_le {a b : Nat} {x y : Limit} (ha : finite a ≤ x) (hb : finite b ≤ y)
    (htop : a + b ≤ Word.top) : finite (a + b) ≤ x + y := by
  cases x with
  | unbounded => simp
  | finite x =>
    cases y with
    | unbounded => simp
    | finite y =>
      simp only [finite_add_finite, finite_le_finite, Word.satAdd] at *
      omega

/-- Lengths each within `l`, no more of them than `count` allows, add up to within
`l.times count`, as long as the total is a word. -/
theorem finite_sum_le_times {l : Limit} {count : Option Nat} {ds : List Nat}
    (hds : ∀ d ∈ ds, finite d ≤ l) (hcount : ∀ c, count = some c → ds.length ≤ c)
    (htop : ds.sum ≤ Word.top) : finite ds.sum ≤ l.times count := by
  cases l with
  | unbounded => cases count <;> simp [times]
  | finite n =>
    have hsum : ds.sum ≤ ds.length * n := by
      simpa using List.sum_le_card_nsmul ds n fun d hd ↦ (finite_le_finite d n).mp (hds d hd)
    cases count with
    | some c =>
      have hmul : ds.length * n ≤ n * c := by
        rw [Nat.mul_comm]
        exact Nat.mul_le_mul_left n (hcount c rfl)
      simp only [times, finite_le_finite, Word.satMul]
      omega
    | none =>
      cases n with
      | zero => simpa [times] using hsum
      | succ n => simp [times]

/-- The larger of an accumulator and a limit, as a choice folds its upper bounds. -/
theorem le_foldl_larger (acc : Limit) (ls : List Limit) :
    acc ≤ ls.foldl (fun acc m ↦ if acc ≤ m then m else acc) acc := by
  induction ls generalizing acc with
  | nil => exact le_refl acc
  | cons m ms ih =>
    refine le_trans ?_ (ih _)
    dsimp only
    split
    · assumption
    · exact le_refl acc

theorem mem_le_foldl_larger {l : Limit} {ls : List Limit} (acc : Limit) (hl : l ∈ ls) :
    l ≤ ls.foldl (fun acc m ↦ if acc ≤ m then m else acc) acc := by
  induction ls generalizing acc with
  | nil => cases hl
  | cons m ms ih =>
    rcases List.mem_cons.mp hl with rfl | hl
    · refine le_trans ?_ (le_foldl_larger _ ms)
      dsimp only
      split
      · exact le_refl l
      · exact (le_total acc l).resolve_left ‹_›
    · exact ih _ hl

end Limit

namespace Pattern

theorem minLengths_eq_map (ps : List Pattern) : minLengths ps = ps.map minLength := by
  induction ps with
  | nil => simp [minLengths]
  | cons p ps ih => simp [minLengths, ih]

theorem maxLengths_eq_map (ps : List Pattern) : maxLengths ps = ps.map maxLength := by
  induction ps with
  | nil => simp [maxLengths]
  | cons p ps ih => simp [maxLengths, ih]

/-- `d` characters lie within the length bounds of `p`. -/
def Fits (p : Pattern) (d : Nat) : Prop := p.minLength ≤ d ∧ Limit.finite d ≤ p.maxLength

/-! ### The bounds of a sequence -/

/-- The lower bound of a sequence is at most the sum of the lower bounds of its steps. -/
theorem minLength_sequence_le (cs : List Pattern) (sep : Option Pattern) (auto b : Bool) :
    (mk (.sequence cs sep auto) b).minLength ≤ ((sequenceSteps cs sep).map minLength).sum := by
  cases sep with
  | none =>
    simpa [minLength, shapeMin, sequenceSteps, minLengths_eq_map] using
      Word.wrapSum_le (cs.map minLength)
  | some sep =>
    cases cs with
    | nil => simp [minLength, shapeMin]
    | cons c cs =>
      -- every later child comes with a separator before it
      have hsteps : ∀ ds : List Pattern, ((ds.flatMap fun d ↦ [sep, d]).map minLength).sum =
          (ds.map minLength).sum + sep.minLength * ds.length := by
        intro ds
        induction ds with
        | nil => simp
        | cons d ds ih => simp only [List.flatMap_cons, List.map_append, List.sum_append, ih]; simp; ring
      have hsteps' := hsteps cs
      simp only [sequenceSteps, List.map_cons, List.sum_cons, hsteps']
      have hsum := Word.wrapSum_le (cs.map minLength)
      have h1 := Word.wrapAdd_le c.minLength (Word.wrapSum (cs.map minLength))
      have h2 := Word.wrapAdd_le (Word.wrapMul sep.minLength cs.length)
        (Word.wrapAdd c.minLength (Word.wrapSum (cs.map minLength)))
      have h3 := Word.wrapMul_le sep.minLength cs.length
      simp only [minLength, shapeMin, minLengths_eq_map] at h2 ⊢
      omega

/-- The upper bound of a sequence is the sum of the upper bounds of its steps. -/
theorem maxLength_sequence (cs : List Pattern) (sep : Option Pattern) (auto b : Bool) :
    (mk (.sequence cs sep auto) b).maxLength = sumMax ((sequenceSteps cs sep).map maxLength) := by
  cases sep with
  | none => simp [maxLength, shapeMax, sequenceSteps, maxLengths_eq_map]
  | some sep =>
    cases cs with
    | nil => rfl
    | cons c cs =>
      simp [maxLength, shapeMax, sequenceSteps, maxLengths_eq_map, List.map_flatMap, List.flatMap_map]

/-- Lengths within limits, one by one, add up to within their sum. -/
theorem finite_sum_le_sumMax {ds : List Nat} {ls : List Limit}
    (h : List.Forall₂ (fun d l ↦ Limit.finite d ≤ l) ds ls) (htop : ds.sum ≤ Word.top) :
    Limit.finite ds.sum ≤ sumMax ls := by
  -- the fold starts from any accumulator that bounds what was added so far
  suffices hacc : ∀ a acc, Limit.finite a ≤ acc → a + ds.sum ≤ Word.top →
      Limit.finite (a + ds.sum) ≤ ls.foldl (· + ·) acc by
    simpa [sumMax] using hacc 0 (.finite 0) (Limit.le_refl _) (by simpa using htop)
  clear htop
  induction h with
  | nil => intro a acc ha _; simpa using ha
  | @cons d l ds ls hd _ ih =>
    intro a acc ha htop
    have hsum : a + (d :: ds).sum = (a + d) + ds.sum := by simp; omega
    rw [hsum, List.foldl_cons]
    exact ih (a + d) (acc + l) (Limit.finite_add_le ha hd (by simp at htop; omega)) (by omega)

/-- Lengths that fit patterns one by one add up to at least the sum of their lower bounds. -/
theorem sum_minLength_le {ps : List Pattern} {ds : List Nat} (h : List.Forall₂ Fits ps ds) :
    (ps.map minLength).sum ≤ ds.sum := by
  induction h with
  | nil => simp
  | cons hd _ ih => simp only [List.map_cons, List.sum_cons]; have := hd.1; omega

theorem forall₂_maxLength {ps : List Pattern} {ds : List Nat} (h : List.Forall₂ Fits ps ds) :
    List.Forall₂ (fun d l ↦ Limit.finite d ≤ l) ds (ps.map maxLength) := by
  induction h with
  | nil => exact .nil
  | cons hd _ ih => exact .cons hd.2 ih

/-- Lengths that fit the steps of a sequence one by one fit the sequence. -/
theorem fits_sequence {cs : List Pattern} {sep : Option Pattern} {auto b : Bool} {ds : List Nat}
    (hds : List.Forall₂ Fits (sequenceSteps cs sep) ds) (htop : ds.sum ≤ Word.top) :
    (mk (.sequence cs sep auto) b).Fits ds.sum := by
  constructor
  · exact Nat.le_trans (minLength_sequence_le cs sep auto b) (sum_minLength_le hds)
  · rw [maxLength_sequence]
    exact finite_sum_le_sumMax (forall₂_maxLength hds) htop

/-! ### The bounds of a choice, a repetition and a separated list -/

/-- A length that fits one alternative fits the choice. -/
theorem fits_choice {cs : List Pattern} {auto b : Bool} {q : Pattern} (hq : q ∈ cs) {d : Nat}
    (hd : q.Fits d) : (mk (.choice cs auto) b).Fits d := by
  constructor
  · have hmin : (cs.map minLength).min?.getD 0 ≤ q.minLength :=
      List.min?_getD_le_of_mem (List.mem_map_of_mem hq)
    simp only [minLength, shapeMin, minLengths_eq_map]
    exact Nat.le_trans hmin hd.1
  · have hmax : q.maxLength ≤ (cs.map maxLength).foldl (fun acc m ↦ if acc ≤ m then m else acc)
        (.finite 0) := Limit.mem_le_foldl_larger _ (List.mem_map_of_mem hq)
    simp only [maxLength, shapeMax, maxLengths_eq_map]
    exact Limit.le_trans hd.2 hmax

/-- Rounds that each fit the inner pattern, at least `lo` of them and no more than `hi`
allows, fit the repetition. -/
theorem fits_repetition {inner : Pattern} {lo : Nat} {hi : Option Nat} {b : Bool} {ds : List Nat}
    (hlo : lo ≤ ds.length) (hhi : ∀ c, hi = some c → ds.length ≤ c) (hds : ∀ d ∈ ds, inner.Fits d)
    (htop : ds.sum ≤ Word.top) : (mk (.repetition inner lo hi) b).Fits ds.sum := by
  constructor
  · have hsum : ds.length * inner.minLength ≤ ds.sum := by
      simpa using List.card_nsmul_le_sum ds inner.minLength fun d hd ↦ (hds d hd).1
    have hmul : inner.minLength * lo ≤ ds.length * inner.minLength := by
      rw [Nat.mul_comm]
      exact Nat.mul_le_mul_right _ hlo
    simp only [minLength, shapeMin, Word.satMul]
    omega
  · exact Limit.finite_sum_le_times (fun d hd ↦ (hds d hd).2) hhi htop

/-- The lengths of the rounds of a separated list: the first is an element, each later one a
separator and an element. -/
def SepRounds (sep elem : Pattern) : List Nat → Prop
  | [] => True
  | e :: rest => elem.Fits e ∧ ∀ d ∈ rest, ∃ a c, d = a + c ∧ sep.Fits a ∧ elem.Fits c

/-- The rounds of a separated list without its last round are rounds of it. -/
theorem SepRounds.dropLast {sep elem : Pattern} {ds : List Nat} (h : SepRounds sep elem ds) :
    SepRounds sep elem ds.dropLast := by
  cases ds with
  | nil => trivial
  | cons e rest =>
    cases rest with
    | nil => trivial
    | cons d rest =>
      rw [List.dropLast_cons_cons]
      exact ⟨h.1, fun x hx ↦ h.2 x (List.mem_of_mem_dropLast hx)⟩

/-- A round more: an element first, a separator and an element after that. -/
theorem SepRounds.append {sep elem : Pattern} {ds : List Nat} (h : SepRounds sep elem ds) {d : Nat}
    (hfirst : ds = [] → elem.Fits d) (hnext : ds ≠ [] → ∃ a c, d = a + c ∧ sep.Fits a ∧ elem.Fits c) :
    SepRounds sep elem (ds ++ [d]) := by
  cases ds with
  | nil => exact ⟨hfirst rfl, by simp⟩
  | cons e rest =>
    refine ⟨h.1, fun x hx ↦ ?_⟩
    rcases List.mem_append.mp hx with hx | hx
    · exact h.2 x hx
    · rw [List.mem_singleton.mp hx]
      exact hnext (List.cons_ne_nil _ _)

/-- Rounds of a separated list, at least `lo` of them and no more than `hi` allows, fit the
list. -/
theorem fits_separated {sep elem : Pattern} {lo : Nat} {hi : Option Nat} {b : Bool} {ds : List Nat}
    (hds : SepRounds sep elem ds) (hlo : lo ≤ ds.length) (hhi : ∀ c, hi = some c → ds.length ≤ c)
    (htop : ds.sum ≤ Word.top) : (mk (.separated sep elem lo hi) b).Fits ds.sum := by
  cases ds with
  | nil =>
    have hlo0 : lo = 0 := by simpa using hlo
    refine ⟨by simp [minLength, shapeMin, hlo0], ?_⟩
    simp only [List.sum_nil, maxLength, shapeMax]
    split <;> exact Limit.finite_zero_le _
  | cons e rest =>
    obtain ⟨he, hrest⟩ := hds
    have hpair : ∀ d ∈ rest, sep.minLength + elem.minLength ≤ d := by
      intro d hd
      obtain ⟨a, c, rfl, ha, hc⟩ := hrest d hd
      have := ha.1
      have := hc.1
      omega
    constructor
    · -- each later round is at least a separator and an element long
      have hsum : rest.length * (sep.minLength + elem.minLength) ≤ rest.sum := by
        simpa using List.card_nsmul_le_sum rest _ hpair
      have he1 := he.1
      have hm1 := Word.wrapMul_le elem.minLength lo
      have hm2 := Word.wrapMul_le sep.minLength (lo - 1)
      have ha := Word.wrapAdd_le (Word.wrapMul elem.minLength lo) (Word.wrapMul sep.minLength (lo - 1))
      have hlo' : lo - 1 ≤ rest.length := by simp at hlo; omega
      have hmul1 : elem.minLength * lo ≤ elem.minLength * (rest.length + 1) :=
        Nat.mul_le_mul_left _ (by simpa using hlo)
      have hmul2 : sep.minLength * (lo - 1) ≤ sep.minLength * rest.length :=
        Nat.mul_le_mul_left _ hlo'
      have hexp : elem.minLength * (rest.length + 1) + sep.minLength * rest.length =
          elem.minLength + rest.length * (sep.minLength + elem.minLength) := by ring
      simp only [minLength, shapeMin, List.sum_cons]
      split <;> omega
    · obtain ⟨n, rfl⟩ | hnone : (∃ n, hi = some n) ∨ hi = none := by cases hi <;> simp
      · have hn : rest.length + 1 ≤ n := by simpa using hhi n rfl
        obtain ⟨n, rfl⟩ : ∃ n', n = n' + 1 := ⟨n - 1, by omega⟩
        simp only [maxLength, shapeMax, Nat.add_sub_cancel]
        -- the elements and the separators are bounded apart, then added
        cases hE : elem.maxLength with
        | unbounded => simp [Limit.times]
        | finite E =>
          cases hS : sep.maxLength with
          | unbounded => cases E <;> simp [Limit.times]
          | finite S =>
            have hpairmax : ∀ d ∈ rest, d ≤ S + E := by
              intro d hd
              obtain ⟨a, c, rfl, ha, hc⟩ := hrest d hd
              have h1 := ha.2
              have h2 := hc.2
              rw [hS] at h1
              rw [hE] at h2
              simp only [Limit.finite_le_finite] at h1 h2
              omega
            have hsum : rest.sum ≤ rest.length * (S + E) := by
              simpa using List.sum_le_card_nsmul rest _ hpairmax
            have he2 := he.2
            rw [hE] at he2
            simp only [Limit.finite_le_finite] at he2
            have hmul1 : rest.length * (S + E) ≤ n * S + n * E :=
              calc rest.length * (S + E) ≤ n * (S + E) := Nat.mul_le_mul_right _ (by omega)
                _ = n * S + n * E := Nat.mul_add n S E
            have hmul2 : n * E + E = E * (n + 1) := by ring
            have htop' : e + rest.sum ≤ Word.top := by simpa using htop
            simp only [Limit.times, Limit.finite_add_finite, Limit.finite_le_finite, Word.satAdd,
              Word.satMul, List.sum_cons, Nat.mul_comm S n]
            omega
      · subst hnone
        simp [maxLength, shapeMax]

end Pattern

/-! ### Giving back -/

/-- A match of `d` characters that stays within `bound` however far it is given back: `d` is
within the bound, and each piece that `give` hands back is at most `d` long and leaves a match
sized for the rest. -/
inductive Sized (give : Matched → Option (Matched × Nat)) (bound : Nat → Prop) : Matched → Nat → Prop
  | intro {m : Matched} {d : Nat} (within : bound d)
      (le : ∀ m' g, give m = some (m', g) → g ≤ d)
      (back : ∀ m' g, give m = some (m', g) → Sized give bound m' (d - g)) : Sized give bound m d

namespace Sized

variable {give : Matched → Option (Matched × Nat)} {bound : Nat → Prop} {m : Matched} {d : Nat}

theorem bound_of (h : Sized give bound m d) : bound d := by
  cases h with
  | intro within _ _ => exact within

theorem le_of_give (h : Sized give bound m d) {m' : Matched} {g : Nat} (hg : give m = some (m', g)) :
    g ≤ d := by
  cases h with
  | intro _ le _ => exact le m' g hg

theorem back_of_give (h : Sized give bound m d) {m' : Matched} {g : Nat} (hg : give m = some (m', g)) :
    Sized give bound m' (d - g) := by
  cases h with
  | intro _ _ back => exact back m' g hg

/-- A match that gives nothing back is sized by its length alone. -/
theorem of_none (hb : bound d) (hg : give m = none) : Sized give bound m d :=
  .intro hb (fun m' g h ↦ by rw [hg] at h; cases h) fun m' g h ↦ by rw [hg] at h; cases h

/-- A weaker bound keeps a match sized. -/
theorem mono {bound' : Nat → Prop} (hmono : ∀ d, bound d → bound' d) (h : Sized give bound m d) :
    Sized give bound' m d := by
  induction h with
  | intro within le _ ih => exact .intro (hmono _ within) le ih

end Sized

/-- How giving back whole pieces works: it needs more than `lo` pieces, drops the last one and
hands back its length. -/
def DropsLast (give : Matched → Option (Matched × Nat)) (lo : Nat) : Prop :=
  ∀ m m' g, give m = some (m', g) →
    lo < m.pieces.length ∧ m'.pieces = m.pieces.dropLast ∧ m.pieces.getLast?.map Piece.len = some g

theorem dropLastChar_dropsLast (lo : Nat) : DropsLast (Matched.dropLastChar lo) lo := by
  intro m m' g h
  unfold Matched.dropLastChar at h
  split at h
  · contradiction
  · split at h
    · rename_i last _ hlast _
      split at h
      · contradiction
      · cases h
        exact ⟨by omega, rfl, by simp [hlast]⟩
    · contradiction

theorem dropLastPiece_dropsLast (lo : Nat) : DropsLast (Matched.dropLastPiece lo) lo := by
  intro m m' g h
  unfold Matched.dropLastPiece at h
  split at h
  · contradiction
  · split at h
    · rename_i last _ hlast _
      cases h
      exact ⟨by omega, rfl, by simp [hlast]⟩
    · contradiction

/-- Giving back whole pieces keeps a match sized when its pieces are good, being good survives
dropping the last piece, and the lengths of good pieces, at least `lo` of them, are within
the bound. The induction is on the number of pieces. -/
theorem sized_of_pieces {give : Matched → Option (Matched × Nat)} {lo : Nat} (hgive : DropsLast give lo)
    {bound : Nat → Prop} (good : List Piece → Prop) (hgood : ∀ ps, good ps → good ps.dropLast)
    (hbound : ∀ ps, good ps → lo ≤ ps.length → bound (ps.map Piece.len).sum) :
    ∀ m : Matched, good m.pieces → lo ≤ m.pieces.length → Sized give bound m m.span := by
  suffices h : ∀ n (m : Matched), m.pieces.length = n → good m.pieces → lo ≤ m.pieces.length →
      Sized give bound m m.span from fun m ↦ h _ m rfl
  intro n
  induction n with
  | zero =>
    intro m hn hm hlo
    refine .of_none (hbound _ hm hlo) ?_
    cases hg : give m with
    | none => rfl
    | some r => have := (hgive m r.1 r.2 hg).1; omega
  | succ n ih =>
    intro m hn hm hlo
    refine .intro (hbound _ hm hlo) (fun m' g hg ↦ ?_) fun m' g hg ↦ ?_
    · obtain ⟨-, -, hlast⟩ := hgive m m' g hg
      obtain ⟨last, hl, rfl⟩ := Option.map_eq_some_iff.mp hlast
      have := Matched.span_dropLast hl
      omega
    · obtain ⟨hlt, hpieces, hlast⟩ := hgive m m' g hg
      obtain ⟨last, hl, rfl⟩ := Option.map_eq_some_iff.mp hlast
      -- the rest is the match without its last piece, whose length is what was handed back
      have hspan : m'.span = m.span - last.len := by
        have := Matched.span_dropLast hl
        simp only [Matched.span, hpieces] at this ⊢
        omega
      rw [← hspan]
      refine ih m' (by simp [hpieces]; omega) (hpieces ▸ hgood _ hm) (by simp [hpieces]; omega)

end Backtrack
