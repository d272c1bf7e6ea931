import Backtrack.Selection

/-!
# Reshaping fragments

Three combinators reshape the fragment of the pattern inside them: flatten lists its leaves,
group collapses it into one piece of text, and select keeps some of its items.

Flattening keeps the text, yields only leaves (pieces of text and labelled fragments, whose
inside is kept), and changes nothing on a list of leaves, so flattening twice is flattening
once. Grouping always yields the text of the fragment.

A selection indexes and slices as Python does (`pyIndex`, `pySlice`): a negative index or
bound counts from the end, an index out of range selects nothing, and slice bounds are
clamped into the list, so a slice whose start lies past its end is empty. This holds for
every integer, the most negative word and bounds far outside the list included.

Main statements: `flatten_laws` and `selection_indexes_as_python`.
-/

namespace Backtrack

namespace Fragment

/-- A leaf of flattening: a piece of text or a labelled fragment. -/
def isLeaf : Fragment → Bool
  | text _ | named _ _ => true
  | _ => false

theorem flatten_of_isLeaf {g : Fragment} (h : g.isLeaf) : g.flatten = [g] := by
  cases g with
  | empty | list _ => simp [isLeaf] at h
  | text s => simp [flatten]
  | named n inner => simp [flatten]

mutual
theorem isLeaf_of_mem_flatten (f : Fragment) : ∀ g ∈ f.flatten, g.isLeaf := by
  match f with
  | empty => simp [flatten]
  | text s => simp [flatten, isLeaf]
  | list items => simpa [flatten] using isLeaf_of_mem_flattenList items
  | named n inner => simp [flatten, isLeaf]

theorem isLeaf_of_mem_flattenList (items : List Fragment) : ∀ g ∈ flattenList items, g.isLeaf := by
  match items with
  | [] => simp [flattenList]
  | f :: fs =>
    intro g hg
    rcases List.mem_append.mp hg with hf | hfs
    · exact isLeaf_of_mem_flatten f g hf
    · exact isLeaf_of_mem_flattenList fs g hfs
end

/-- A list of leaves flattens to itself. -/
theorem flattenList_of_leaves {xs : List Fragment} (h : ∀ g ∈ xs, g.isLeaf) : flattenList xs = xs := by
  induction xs with
  | nil => rfl
  | cons g gs ih =>
    have hg : g.flatten = [g] := flatten_of_isLeaf (h g (List.mem_cons_self ..))
    rw [flattenList, hg, ih fun x hx ↦ h x (List.mem_cons_of_mem _ hx)]
    rfl

theorem flatten_flatten (f : Fragment) : (list f.flatten).flatten = f.flatten :=
  flattenList_of_leaves (isLeaf_of_mem_flatten f)

theorem grouped_eq_text (f : Fragment) : f.grouped = text f.toText := by
  cases f <;> rfl

/-- Flattening keeps the text, yields leaves only and is idempotent; grouping yields the
text. -/
theorem flatten_laws (f : Fragment) :
    (list f.flatten).toText = f.toText ∧ (∀ g ∈ f.flatten, g.isLeaf) ∧
      (list f.flatten).flatten = f.flatten ∧ f.grouped = text f.toText :=
  ⟨text_flatten f, isLeaf_of_mem_flatten f, flatten_flatten f, grouped_eq_text f⟩

/-- A labelled fragment nested in lists is a leaf of the flattened list. -/
theorem flatten_laws_nested :
    named "N" (text "b") ∈ (list [empty, text "a", list [named "N" (text "b"), list []]]).flatten ∧
      (named "N" (text "b")).isLeaf := by
  have hmem : named "N" (text "b") ∈ (list [empty, text "a", list [named "N" (text "b"), list []]]).flatten := by
    simp [flatten, flattenList]
  exact ⟨hmem, (flatten_laws _).2.1 _ hmem⟩

end Fragment

namespace Selection

/-! ### Python's indexing -/

/-- The position that a Python index names in a list of `n` items: a negative index counts
from the end. -/
def pyPosition (i : Int) (n : Nat) : Int := if i < 0 then i + n else i

/-- Python's `xs[i]`, or nothing when the index is out of range. -/
def pyIndex {α : Type} (xs : List α) (i : Int) : Option α :=
  if 0 ≤ pyPosition i xs.length then xs[(pyPosition i xs.length).toNat]? else none

/-- A bound of a Python slice of a list of `n` items: a negative bound counts from the end, and
the position is clamped into `0..n`. -/
def pyBound (b : Int) (n : Nat) : Nat := (max 0 (min (pyPosition b n) n)).toNat

/-- Python's `xs[a:b]`, where `none` leaves that end open. -/
def pySlice {α : Type} (xs : List α) (a b : Option Int) : List α :=
  let lo := (a.map (pyBound · xs.length)).getD 0
  let hi := (b.map (pyBound · xs.length)).getD xs.length
  (xs.drop lo).take (hi - lo)

example : pySlice [1, 2, 3, 4] (some 1) (some (-1)) = [2, 3] := by decide

example : pySlice [1, 2, 3, 4] (some (-9)) (some 9) = [1, 2, 3, 4] ∧ pySlice [1, 2, 3, 4] (some 3) (some 1) = [] := by
  decide

/-! ### Selections index as Python does -/

theorem resolve_bind_getElem? {α : Type} (xs : List α) (i : Int) :
    (resolve i xs.length).bind (xs[·]?) = pyIndex xs i := by
  unfold resolve pyIndex pyPosition
  by_cases hi : i < 0
  · by_cases hn : i.natAbs ≤ xs.length
    · have hlt : xs.length - i.natAbs < xs.length := by omega
      have hpos : (i + xs.length).toNat = xs.length - i.natAbs := by omega
      simp [hi, hn, hlt, hpos, show (0 : Int) ≤ i + xs.length by omega]
    · simp [hi, hn, show ¬ (0 : Int) ≤ i + xs.length by omega]
  · by_cases hlt : i.toNat < xs.length
    · simp [hi, hlt, show (0 : Int) ≤ i by omega]
    · simp [hi, hlt, show (0 : Int) ≤ i by omega]

theorem clamp_eq_pyBound (b : Int) (n : Nat) : clamp b n = pyBound b n := by
  unfold clamp pyBound pyPosition
  split <;> omega

theorem itemsOf_list (xs : List Fragment) : itemsOf (.list xs) = xs := rfl

theorem apply_index (i : Int) (xs : List Fragment) :
    apply (index i) (.list xs) = (pyIndex xs i).getD .empty := by
  simp only [apply, itemsOf_list, resolve_bind_getElem?]

theorem apply_range (a b : Option Int) (xs : List Fragment) :
    apply (range a b) (.list xs) = .list (pySlice xs a b) := by
  have hbound : ∀ o : Option Int, o.map (clamp · xs.length) = o.map (pyBound · xs.length) :=
    fun o ↦ Option.map_congr fun b _ ↦ clamp_eq_pyBound b xs.length
  simp only [apply, itemsOf_list, pySlice, hbound, List.drop_take]

theorem apply_indices (is : List Int) (xs : List Fragment) :
    apply (indices is) (.list xs) = .list (is.filterMap (pyIndex xs)) := by
  simp only [apply, itemsOf_list, resolve_bind_getElem?]

theorem apply_empty (sel : Selection) : apply sel .empty = apply sel (.list []) := rfl

theorem apply_text (sel : Selection) (s : String) : apply sel (.text s) = apply sel (.list [.text s]) :=
  rfl

theorem apply_named (sel : Selection) (n : String) (g : Fragment) :
    apply sel (.named n g) = apply sel (.list [.named n g]) := rfl

/-- A selection indexes and slices a list fragment as Python does, and treats the empty
fragment as the empty list and any other leaf as a list of itself. -/
theorem selection_indexes_as_python :
    (∀ (i : Int) (xs : List Fragment), apply (index i) (.list xs) = (pyIndex xs i).getD .empty) ∧
    (∀ (a b : Option Int) (xs : List Fragment), apply (range a b) (.list xs) = .list (pySlice xs a b)) ∧
    (∀ (is : List Int) (xs : List Fragment),
      apply (indices is) (.list xs) = .list (is.filterMap (pyIndex xs))) ∧
    (∀ sel : Selection, apply sel .empty = apply sel (.list [])) ∧
    (∀ (sel : Selection) (s : String), apply sel (.text s) = apply sel (.list [.text s])) ∧
    (∀ (sel : Selection) (n : String) (g : Fragment),
      apply sel (.named n g) = apply sel (.list [.named n g])) :=
  ⟨apply_index, apply_range, apply_indices, apply_empty, apply_text, apply_named⟩

end Selection
end Backtrack
