import Backtrack.Programs.NumberKinds
import Backtrack.Programs.Calculator

/-!
# The command line

`backtrack number-grammar [NUMERAL]...` classifies numerals, and `backtrack calc-grammar`
runs the calculator on its fixed expressions. Each program is a pure function to a
`Console`; this module only writes the console out and exits with its status.
-/

namespace Backtrack

/-- How to call the executable. -/
def usage : String := "usage: backtrack number-grammar [NUMERAL]... | backtrack calc-grammar"

/-- The program that the command-line arguments ask for. -/
def command : List String → Console
  | "number-grammar" :: numerals => NumberKinds.run numerals
  | "calc-grammar" :: _ => Calculator.run
  | _ => { err := usage ++ "\n", status := 2 }

end Backtrack

def main (args : List String) : IO UInt32 := do
  let c := Backtrack.command args
  IO.print c.out
  IO.eprint c.err
  pure c.status.toUInt32
