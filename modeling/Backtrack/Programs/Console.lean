/-!
# Console output

What a command-line program writes: its standard output and its standard error, each as the
text written so far, and the status it exits with. Programs here are pure functions to this
record; only the executable writes it out.
-/

namespace Backtrack

/-- The two output streams of a program and its exit status. -/
structure Console where
  out : String := ""
  err : String := ""
  status : Nat := 0
  deriving DecidableEq, Repr

namespace Console

/-- Writes a line to standard output. -/
def say (c : Console) (line : String) : Console := { c with out := c.out ++ line ++ "\n" }

/-- Writes a line to standard error. -/
def complain (c : Console) (line : String) : Console := { c with err := c.err ++ line ++ "\n" }

/-- `s` followed by spaces up to `width` characters; longer text stays as it is. -/
def padRight (s : String) (width : Nat) : String :=
  s ++ String.ofList (List.replicate (width - s.length) ' ')

theorem say_err (c : Console) (line : String) : (c.say line).err = c.err := rfl

theorem padRight_length (s : String) (width : Nat) : (padRight s width).length = max s.length width := by
  simp [padRight, String.length_append]
  omega

end Console
end Backtrack
