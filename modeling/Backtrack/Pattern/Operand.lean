import Backtrack.Pattern.Build

/-!
# Operands of the pattern operators

Besides two patterns, `+` and `<|>` join a pattern with literal text or with a named grammar,
on either side, and two named grammars. Such an operand is first turned into a pattern: text
into a literal, a grammar into the embedded matcher of its construction. The operator then
joins the two patterns.

A sequence built by `+` stays open to later `+` as long as it has no separator and is not
suppressed: it gives its children to the operator, while any other node is kept whole.
-/

namespace Backtrack

/-- What the operators accept: a pattern, literal text, or a named grammar with the tag of
its construction. -/
inductive Operand where
  | pattern (p : Pattern)
  | text (t : String)
  | grammar (g : Grammar) (tag : Nat)

namespace Operand

/-- The pattern an operand stands for. -/
def toPattern : Operand → Pattern
  | pattern p => p
  | text t => Pattern.literal t
  | grammar g tag => g.toPattern tag

end Operand

namespace Pattern

/-- Whether `+` splices the children of this node instead of nesting it: a sequence built by
`+`, without separator, not suppressed. -/
def isOpenSequence : Pattern → Bool
  | mk (.sequence _ none true) false => true
  | _ => false

end Pattern
end Backtrack
