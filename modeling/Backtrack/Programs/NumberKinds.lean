import Backtrack.Grammar.Stock
import Backtrack.Programs.Console

/-!
# Classifying numerals

Each numeral is parsed in full with the stock `number` grammar. A numeral it accepts is
reported with the kind of number it is (the grammar that matched inside `number`); any other
text is reported with the reason it is not a number. With no numerals given, a fixed list
of samples that covers every kind and a few near misses is classified instead.

Every line starts with the numeral padded to ten characters.
-/

namespace Backtrack
namespace NumberKinds

/-- The numerals classified when none are given. -/
def samples : List String :=
  ["0", "42", "-17", "3.14", "-0.5", "0b1010", "0o755", "0644", "0xff", "-0x0000", "-0", "1.", "abc"]

/-- The report line of one numeral. -/
def classify (input : String) : String :=
  let head := Console.padRight input 10 ++ " "
  match (Grammar.number.parseComplete (.empty 0) input).1 with
  | .ok p => head ++ (p.fragment.name?.getD "Number")
  | .error e => head ++ "not a number (" ++ e.render ++ ")"

/-- Classifies the numerals `args`, or the samples when there are none. -/
def run (args : List String) : Console :=
  (if args.isEmpty then samples else args).foldl (fun c input ↦ c.say (classify input)) {}

theorem run_err (args : List String) : (run args).err = "" := by
  unfold run
  generalize (if args.isEmpty then samples else args) = inputs
  suffices h : ∀ c : Console, (inputs.foldl (fun c input ↦ c.say (classify input)) c).err = c.err from h {}
  induction inputs with
  | nil => intro c; rfl
  | cons x xs ih => intro c; simp only [List.foldl_cons]; rw [ih]; rfl

end NumberKinds
end Backtrack
