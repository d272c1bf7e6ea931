import Backtrack.Pattern.Basic
import Backtrack.Limit

/-!
# Length bounds of patterns

`Pattern.minLength` is the fewest characters a match consumes and `Pattern.maxLength` the
most. Rules count as zero to unbounded, since their definitions may recurse; a regular
expression and a token (which skips whitespace) have no upper bound.

The bounds are 64-bit words. Upper bounds saturate. Among lower bounds a repetition
saturates, while the sum over the steps of a sequence and the lower bound of a separated
list wrap around, as plain word arithmetic does.
-/

namespace Backtrack

/-- The steps of a sequence: the children, with the separator between each two. -/
def sequenceSteps (children : List Pattern) : Option Pattern → List Pattern
  | none => children
  | some sep => match children with
    | [] => []
    | c :: cs => c :: cs.flatMap fun d ↦ [sep, d]

namespace Pattern

/-- The sum of limits, from zero and left to right. -/
def sumMax (ms : List Limit) : Limit := ms.foldl (· + ·) (.finite 0)

mutual
/-- The fewest characters a match consumes. -/
def minLength : Pattern → Nat
  | mk s _ => shapeMin s

/-- `minLength` by shape. -/
def shapeMin : Shape → Nat
  | .char _ => 1
  | .run r | .whitespace r => r.min
  | .literal t => t.length
  | .regex _ | .boundary _ | .nextIs .. | .prevIs .. => 0
  | .sequence cs none _ => Word.wrapSum (minLengths cs)
  | .sequence [] (some _) _ => 0
  | .sequence (c :: cs) (some sep) _ =>
    Word.wrapAdd (minLength c) (Word.wrapSum (minLengths cs)) |>
      Word.wrapAdd (Word.wrapMul (minLength sep) cs.length)
  | .choice cs _ => (minLengths cs).min?.getD 0
  | .repetition inner lo _ => Word.satMul (minLength inner) lo
  | .separated sep elem lo _ =>
    if lo = 0 then 0
    else Word.wrapAdd (Word.wrapMul (minLength elem) lo) (Word.wrapMul (minLength sep) (lo - 1))
  | .group inner | .flatten inner | .token inner | .select inner _ => minLength inner
  | .rule _ => 0
  | .embed _ m => embeddedMin m

/-- `minLength` of an embedded matcher. -/
def embeddedMin : Embedded → Nat
  | .grammar _ body _ => minLength body
  | .shared inner => minLength inner
  | .broken | .unbalanced => 0

/-- `minLength` of every pattern of a list. -/
def minLengths : List Pattern → List Nat
  | [] => []
  | p :: ps => minLength p :: minLengths ps
end

mutual
/-- The most characters a match consumes. -/
def maxLength : Pattern → Limit
  | mk s _ => shapeMax s

/-- `maxLength` by shape. -/
def shapeMax : Shape → Limit
  | .char _ => .finite 1
  | .run r | .whitespace r => Limit.ofOption r.max
  | .literal t => .finite t.length
  | .boundary _ | .nextIs .. | .prevIs .. => .finite 0
  | .sequence cs none _ => sumMax (maxLengths cs)
  | .sequence [] (some _) _ => .finite 0
  | .sequence (c :: cs) (some sep) _ =>
    sumMax (maxLength c :: (maxLengths cs).flatMap fun m ↦ [maxLength sep, m])
  | .choice cs _ => (maxLengths cs).foldl (fun acc m ↦ if acc ≤ m then m else acc) (.finite 0)
  | .repetition inner _ hi => (maxLength inner).times hi
  | .separated sep elem _ hi =>
    match hi with
    | some 0 => .finite 0
    | some n => (maxLength elem).times (some n) + (maxLength sep).times (some (n - 1))
    | none => .unbounded
  | .group inner | .flatten inner | .select inner _ => maxLength inner
  | .regex _ | .token _ | .rule _ => .unbounded
  | .embed _ m => embeddedMax m

/-- `maxLength` of an embedded matcher. -/
def embeddedMax : Embedded → Limit
  | .grammar _ body _ => maxLength body
  | .shared inner => maxLength inner
  | .broken | .unbalanced => .unbounded

/-- `maxLength` of every pattern of a list. -/
def maxLengths : List Pattern → List Limit
  | [] => []
  | p :: ps => maxLength p :: maxLengths ps
end

end Pattern
end Backtrack
