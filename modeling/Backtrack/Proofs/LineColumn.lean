import Mathlib
import Backtrack.Failure

/-!
# Lines and columns

`Position.locate text o` walks the first `o` characters of `text` one at a time: a line feed
moves to the next line at column one, any other character one column to the right. This
module says what the walk computes without running it. The line is one more than the number
of line feeds before the offset, the column one more than the number of characters after the
last of them (all of them on the first line), and the offset is the number of characters
walked, which stops at the end of the text. So every offset past the end has the position of
the end, and a failure made at an offset into a text is written with that line and column.

Main statements: `Position.start_walk` (the walk from the start of a text, by induction on
the text's last character) and `locate_counts_lines`.
-/

namespace Backtrack
namespace Text

/-- The characters after the last line feed of `cs`, or all of `cs` if it has none. -/
def lastLine (cs : List Char) : List Char := (cs.reverse.takeWhile (· != '\n')).reverse

@[simp] theorem lastLine_nil : lastLine [] = [] := rfl

@[simp] theorem lastLine_concat_newline (cs : List Char) : lastLine (cs ++ ['\n']) = [] := by
  simp [lastLine]

theorem lastLine_concat_of_ne (cs : List Char) {c : Char} (hc : c ≠ '\n') :
    lastLine (cs ++ [c]) = lastLine cs ++ [c] := by
  simp [lastLine, hc]

/-- `lastLine cs` is the part of `cs` after its last line feed: it holds no line feed, and
what comes before it is empty or ends with one. -/
theorem lastLine_spec (cs : List Char) :
    '\n' ∉ lastLine cs ∧
      ∃ before, cs = before ++ lastLine cs ∧ (before = [] ∨ before.getLast? = some '\n') := by
  induction cs using List.reverseRecOn with
  | nil => exact ⟨List.not_mem_nil, [], rfl, .inl rfl⟩
  | append_singleton cs c ih =>
    obtain ⟨hfree, before, hsplit, hend⟩ := ih
    by_cases hc : c = '\n'
    · subst hc
      exact ⟨by simp, cs ++ ['\n'], by simp, .inr (by simp)⟩
    · rw [lastLine_concat_of_ne cs hc]
      refine ⟨by simp [hfree, Ne.symm hc], before, ?_, hend⟩
      conv_lhs => rw [hsplit]
      simp

namespace Position

theorem walk_concat (p : Position) (cs : List Char) (c : Char) :
    p.walk (cs ++ [c]) = (p.walk cs).next c := by
  simp [walk]

/-- The walk from the start of a text, said without the walk: the line counts the line feeds
passed, the column the characters after the last of them. -/
theorem start_walk (cs : List Char) :
    start.walk cs = ⟨1 + cs.count '\n', 1 + (lastLine cs).length, cs.length⟩ := by
  -- on the last character, since `walk` folds from the left
  induction cs using List.reverseRecOn with
  | nil => rfl
  | append_singleton cs c ih =>
    rw [walk_concat, ih]
    by_cases hc : c = '\n'
    · subst hc
      simp [next, List.count_append]
      omega
    · simp [next, hc, lastLine_concat_of_ne cs hc, List.count_append]
      omega

/-- `locate` reads the characters before the offset, all of them when it is past the end. -/
theorem locate_eq (text : List Char) (o : Nat) :
    locate text o = ⟨1 + (text.take (min o text.length)).count '\n',
      1 + (lastLine (text.take (min o text.length))).length, min o text.length⟩ := by
  rw [← List.take_eq_take_min, locate, start_walk, List.length_take]

theorem locate_of_length_le {text : List Char} {o : Nat} (h : text.length ≤ o) :
    locate text o = locate text text.length := by
  rw [locate, locate, List.take_of_length_le h, List.take_length]

end Position

/-- Where `locate` puts an offset into a text: at offset `min o n`, on the line after the
line feeds among the first `min o n` characters, at the column after the characters that
follow the last of them. An offset past the end is placed at the end, and a failure made at
offset `o` into the text is written `message at line:column` with these values. -/
theorem locate_counts_lines (text : List Char) (o : Nat) :
    (Position.locate text o).offset = min o text.length ∧
      (Position.locate text o).line = 1 + (text.take (min o text.length)).count '\n' ∧
      (Position.locate text o).column = 1 + (lastLine (text.take (min o text.length))).length ∧
      (text.length < o → Position.locate text o = Position.locate text text.length) ∧
      ∀ e : Expectation, (Failure.mk e (.within text.toArray o)).render =
        (Failure.mk e (.within text.toArray o)).message ++ " at " ++
          toString (1 + (text.take (min o text.length)).count '\n') ++ ":" ++
          toString (1 + (lastLine (text.take (min o text.length))).length) := by
  have hloc := Position.locate_eq text o
  refine ⟨by rw [hloc], by rw [hloc], by rw [hloc],
    fun h ↦ Position.locate_of_length_le (Nat.le_of_lt h), fun e ↦ ?_⟩
  -- the failure keeps the text it was made in, so its position is `locate text o`
  have hpos : (Failure.mk e (.within text.toArray o)).position = Position.locate text o := rfl
  rw [Failure.render, hpos, hloc, Position.render]
  simp only [String.append_assoc]
  rfl

-- offsets count characters, not bytes
example : Position.locate "あい\nう".toList 4 = ⟨2, 2, 4⟩ := by decide

end Text
end Backtrack
