import Backtrack.Rules

/-!
# Regular expression patterns

A regular expression pattern matches its expression at the cursor. The library builds the
expression as `\A(?:source)`, so that it is anchored at the cursor, and its errors point into
that text. The options choose the flags in force from the start, which groups make up the
fragment, and the group whose end the cursor moves to; every group they name must exist, group
zero being the whole match.
-/

namespace Backtrack
namespace Pattern

/-- The text that is built for `source`: the expression, anchored at the start. -/
def anchoredSource (source : String) : String := "\\A(?:" ++ source ++ ")"

end Pattern

/-- The groups that the options name: those of the fragment, then the one to advance to. -/
def RegexOptions.named (o : RegexOptions) : List Nat :=
  (match o.groups with
    | .one g => [g]
    | .many gs => gs) ++ [o.advance]

/-- The flags that the options set. -/
def RegexOptions.flags (o : RegexOptions) : RegexFlags := ⟨o.caseInsensitive, o.multiLine, o.dotAll⟩

namespace Pattern

/-- A regular expression with options, built by the library `lib`, or why there is none. -/
def regexWith (lib : RegexLibrary) (source : String) (o : RegexOptions) : Except PatternError Pattern := do
  let compiled ← (lib.build (anchoredSource source) o.flags).mapError .regex
  match o.named.find? (· ≥ compiled.groupCount) with
  | some g => throw (PatternError.noSuchGroup source g)
  | none => pure (new (.regex ⟨source, o, compiled⟩))

/-- A regular expression with the default options. -/
def regex (lib : RegexLibrary) (source : String) : Except PatternError Pattern := regexWith lib source {}

end Pattern
end Backtrack
