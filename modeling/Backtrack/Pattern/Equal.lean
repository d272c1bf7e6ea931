import Backtrack.Pattern.Basic

/-!
# Equality of patterns

Two patterns are the same when they have the same shape with the same parts and the same
suppression. Whether a sequence or choice was built by `+` or `<|>` does not matter, so
`a + b` is the same as the explicit sequence of `a` and `b`. A regular expression is judged by
its source and options. Embedded matchers are the same only as copies of one construction,
which their tags identify; two grammars built alike are still different.
-/

namespace Backtrack

mutual
/-- Whether two patterns are the same. -/
def Pattern.same : Pattern → Pattern → Bool
  | .mk s b, .mk t c => b == c && Shape.same s t

/-- Whether two shapes are the same. -/
def Shape.same : Shape → Shape → Bool
  | .char a, .char b => a == b
  | .run a, .run b => a == b
  | .whitespace a, .whitespace b => a == b
  | .literal a, .literal b => a == b
  | .regex a, .regex b => a.source == b.source && a.options == b.options
  | .boundary a, .boundary b => a == b
  | .nextIs n p, .nextIs m q => n == m && p.same q
  | .prevIs n p, .prevIs m q => n == m && p.same q
  | .sequence cs s _, .sequence ds t _ => Pattern.sameList cs ds && Pattern.sameOption s t
  | .choice cs _, .choice ds _ => Pattern.sameList cs ds
  | .repetition p a b, .repetition q c d => p.same q && a == c && b == d
  | .separated s e a b, .separated t f c d => s.same t && e.same f && a == c && b == d
  | .group p, .group q => p.same q
  | .flatten p, .flatten q => p.same q
  | .select p s, .select q t => p.same q && s == t
  | .token p, .token q => p.same q
  | .rule a, .rule b => a == b
  | .embed a _, .embed b _ => a == b
  | _, _ => false

/-- Whether two lists of patterns are the same item by item. -/
def Pattern.sameList : List Pattern → List Pattern → Bool
  | [], [] => true
  | p :: ps, q :: qs => p.same q && Pattern.sameList ps qs
  | _, _ => false

/-- Whether two optional patterns are both absent or the same. -/
def Pattern.sameOption : Option Pattern → Option Pattern → Bool
  | none, none => true
  | some p, some q => p.same q
  | _, _ => false
end

end Backtrack
