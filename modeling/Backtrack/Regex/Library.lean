import Backtrack.Proofs.RegexGroups

/-!
# The machine as a regular expression library

The compiler and the matching machine of this library make one regular expression library
(`RegexLibrary`): an expression is built by compiling its source under the flags, and its
groups in a haystack are the spans of the machine's leftmost-first match, each end turned from
a count of characters into the bytes those characters take.

A built expression keeps both promises that the library makes. Group zero takes part in every
match, since the compiler wraps every expression in it (`Program.wrapsZero_of_compile`); and
every offset falls on a character boundary, since it counts the bytes of whole characters.
-/

namespace Backtrack
namespace Regex
namespace Program

/-- The groups of the machine's leftmost-first match in a haystack, as spans of bytes. -/
def byteCaptures (prog : Program) (h : String) : Option (Nat → Option (Nat × Nat)) :=
  (prog.search h.toList.toArray).map fun slots g ↦
    (span? slots g).map fun se ↦ (byteLength (h.toList.take se.1), byteLength (h.toList.take se.2))

theorem byteCaptures_eq_some {prog : Program} {h : String} {caps : Nat → Option (Nat × Nat)}
    (hc : prog.byteCaptures h = some caps) :
    ∃ slots, prog.search h.toList.toArray = some slots ∧ ∀ g, caps g =
      (span? slots g).map fun se ↦ (byteLength (h.toList.take se.1), byteLength (h.toList.take se.2)) := by
  unfold byteCaptures at hc
  obtain ⟨slots, hs, rfl⟩ := Option.map_eq_some_iff.mp hc
  exact ⟨slots, hs, fun _ ↦ rfl⟩

/-- The bytes of the first characters of a text end at one of its character boundaries. -/
theorem isValid_byteLength_take (h : String) (k : Nat) :
    (String.Pos.Raw.mk (byteLength (h.toList.take k))).IsValid h := by
  have hv := (isValid_ofList_iff (l := h.toList)).mpr ⟨k, rfl⟩
  rwa [String.ofList_toList] at hv

/-- A compiled program as a built expression. -/
def toCompiled (prog : Program) (hz : prog.WrapsZero) : CompiledRegex where
  groupCount := prog.groups
  captures := prog.byteCaptures
  whole := by
    intro h caps hc
    obtain ⟨slots, hs, hcaps⟩ := byteCaptures_eq_some hc
    obtain ⟨s, e, hse⟩ := hz.span?_zero hs
    simp [hcaps, hse]
  boundaries := by
    intro h caps g s e hc hg
    obtain ⟨slots, -, hcaps⟩ := byteCaptures_eq_some hc
    rw [hcaps] at hg
    obtain ⟨⟨i, j⟩, -, hij⟩ := Option.map_eq_some_iff.mp hg
    cases hij
    exact ⟨isValid_byteLength_take h i, isValid_byteLength_take h j⟩

end Program

/-- The compiler and the machine as a regular expression library; an expression that does not
compile is refused with the words of its failure. -/
def library : RegexLibrary where
  build source flags :=
    match hc : compile source flags with
    | .ok prog => .ok (prog.toCompiled (Program.wrapsZero_of_compile hc))
    | .error f => .error f.render

end Regex
end Backtrack
