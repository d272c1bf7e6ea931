import Backtrack.Grammar.Set
import Backtrack.Grammar.Stock
import Backtrack.Number.Binary64
import Backtrack.Programs.Console

/-!
# A calculator

Three grammars that refer to each other through one grammar set read arithmetic:

* `Expression := Term (("+" | "-") Term)*`
* `Term := Factor (("*" | "/") Factor)*`
* `Factor := Number | "(" Expression ")" | "-" Factor`

Every piece is a token, so blanks may surround it; the parentheses are suppressed, so a
parenthesised factor holds only its expression. The value of a parse is computed in
double precision from the tree: a chain of operators of one precedence is folded from the
left, so `8 - 2 - 1` is `5`. Dividing by zero is an error rather than an infinity.

The program parses a fixed list of expressions and prints, for each, its tree and its value
or the reason it has none.
-/

namespace Backtrack
namespace Calculator

open Pattern

/-- Defines a grammar of the set, dropping the report of the definition. -/
def defineIn (gs : GrammarSet) (g : Grammar) (tag : Nat) : Except PatternError GrammarSet :=
  ((gs.define g tag).run #[]).1

/-- The calculator's grammars, defined and resolved. -/
def grammars : Except PatternError GrammarSet := do
  let gs := GrammarSet.empty 1
  let (rules, expression) := gs.rules.declare "Expression"
  let (rules, term) := rules.declare "Term"
  let (rules, factor) := rules.declare "Factor"
  let gs := { gs with rules }
  let parenthesized := (token (literal "(")).suppress + expression + (token (literal ")")).suppress
  let negated := token (literal "-") + factor
  let gs ← defineIn gs ⟨"Factor", anyOf [token (Grammar.number.toPattern 2), parenthesized, negated], none⟩ 3
  let mulOp := token (literal "*" <|> literal "/")
  let gs ← defineIn gs ⟨"Term", factor + zeroOrMore (mulOp + factor), none⟩ 4
  let addOp := token (literal "+" <|> literal "-")
  let gs ← defineIn gs ⟨"Expression", term + zeroOrMore (addOp + term), none⟩ 5
  gs.rules.resolve
  pure gs

/-- The value of a digit in the bases up to 36: `0` to `9`, then the letters in either case. -/
def digitValue (c : Char) : Option Nat :=
  if c.isDigit then some (c.toNat - '0'.toNat)
  else if c.isLower then some (c.toNat - 'a'.toNat + 10)
  else if c.isUpper then some (c.toNat - 'A'.toNat + 10)
  else none

/-- The value of digits in base `radix`, as a 64-bit signed integer: the digits may follow a
sign, and the value must fit. -/
def parseSigned (digits : String) (radix : Nat) : Except String Int :=
  let cs := digits.toList
  let (negative, body) := match cs with
    | '-' :: rest => (true, rest)
    | '+' :: rest => (false, rest)
    | _ => (false, cs)
  if cs.isEmpty then .error "cannot parse integer from empty string"
  else if body.isEmpty then .error "invalid digit found in string"
  else
    let values := body.map fun c ↦ (digitValue c).filter (· < radix)
    if values.any Option.isNone then .error "invalid digit found in string"
    else
      let magnitude := (values.filterMap id).foldl (fun acc d ↦ acc * radix + d) 0
      if negative then
        if magnitude > Nat.pow 2 63 then .error "number too small to fit in target type"
        else .ok (-(magnitude : Int))
      else if magnitude ≥ Nat.pow 2 63 then .error "number too large to fit in target type"
      else .ok magnitude

/-- The value of digits in base `radix`; no digits at all count as zero. -/
def radixValue (digits : String) (radix : Nat) : Except String Binary64 :=
  if digits.isEmpty then .ok (.zero false) else (parseSigned digits radix).map Binary64.ofInt

/-- Whether a numeral starts with a minus sign, and its text without it. -/
def splitSign (text : String) : Bool × String :=
  match text.toList with
  | '-' :: rest => (true, String.ofList rest)
  | _ => (false, text)

/-- The value of the unsigned digits of a numeral of kind `kind` (the name of the number
grammar that read it): after the prefix of a binary or hexadecimal numeral, after the leading
zeros and the mark of an octal one. -/
def magnitude (kind : String) (digits : String) : Except String Binary64 :=
  let afterPrefix := String.ofList (digits.toList.drop 2)
  match kind with
  | "Integer" | "Float" => Binary64.ofDecimal? digits
  | "BinaryInteger" => radixValue afterPrefix 2
  | "HexadecimalInteger" => radixValue afterPrefix 16
  | "OctalInteger" => radixValue (String.ofList (digits.toList.dropWhile fun c ↦ c = '0' || c = 'o' || c = 'O')) 8
  | other => .error ("unknown literal kind " ++ other)

/-- The value of a numeral of kind `kind`. -/
def literalValue (kind : String) (text : String) : Except String Binary64 := do
  let (negative, digits) := splitSign text
  let value ← magnitude kind digits
  pure (if negative then value.neg else value)

/-- One operator applied to two values. -/
def combine (op : String) (a b : Binary64) : Except String Binary64 :=
  match op with
  | "+" => .ok (a + b)
  | "-" => .ok (a - b)
  | "*" => .ok (a * b)
  | "/" => if b.isZero then .error "division by zero" else .ok (a / b)
  | other => .error ("unknown operator " ++ Text.quote other)

mutual
/-- The value of a labelled fragment: expressions and terms fold their operator chains,
factors are numbers, parenthesised expressions or negations, and the number grammars give
the value of their numeral. -/
def evaluate : Fragment → Except String Binary64
  | .named name inner =>
    if name = "Expression" ∨ name = "Term" then fold inner
    else if name = "Factor" then factor inner
    else if name = "Number" then evaluate inner
    else literalValue name inner.toText
  | other => .error ("unexpected fragment " ++ other.debug)
termination_by f => 2 * sizeOf f

/-- The value of `[first, [[op, operand], ...]]`, folded from the left. -/
def fold : Fragment → Except String Binary64
  | .list (first :: rest) => do
    let v ← evaluate first
    match rest with
    | .list pairs :: _ => applyPairs v pairs
    | _ => pure v
  | _ => .error "missing operand"
termination_by f => 2 * sizeOf f + 1

/-- Applies each `[op, operand]` in turn to the value so far. -/
def applyPairs (v : Binary64) : List Fragment → Except String Binary64
  | [] => pure v
  | .list (.text op :: x :: _) :: more => do applyPairs (← combine op v (← evaluate x)) more
  | .list [.text _] :: _ => .error "missing operand"
  | _ :: _ => .error "missing operator"
termination_by pairs => 2 * sizeOf pairs + 1

/-- The value of a factor: one item is a parenthesised expression, two are a minus sign and
the factor it negates, and a fragment that is no list is a number. -/
def factor : Fragment → Except String Binary64
  | .list [inner] => evaluate inner
  | .list [_, inner] => (evaluate inner).map Binary64.neg
  | .list items => .error ("malformed factor " ++ (Fragment.list items).debug)
  | f => evaluate f
termination_by f => 2 * sizeOf f + 1
end

/-- The expressions the program works through. -/
def inputs : List String :=
  ["3 + 4", "2 * 3.14", "(1 + 2) * 3", "8 - 2 - 1", "-(0x10 + 0b11) / 0o7", "10 / (5 - 5)", "3 + "]

/-- The report on one expression: the tree and the value, or why there is none. -/
def describe (gs : GrammarSet) (expression : Grammar) (c : Console) (input : String) : Console :=
  let c := c.say ("Expression: " ++ input)
  let c := match (expression.parseComplete gs.rules input).1 with
    | .ok p =>
      let c := c.say ("  Tree:  " ++ p.fragment.debug)
      match evaluate p.toNamed with
      | .ok v => c.say ("  Value: " ++ v.render)
      | .error e => c.say ("  Error: " ++ e)
    | .error e => c.say ("  Parse error: " ++ e.render)
  c.say ""

/-- Builds the grammars and reports on every expression of `inputs`. -/
def run : Console :=
  match grammars with
  | .error e => Console.complain {} ("failed to build grammar: " ++ e.render)
  | .ok gs =>
    match gs.get? "Expression" with
    | none => Console.complain {} "Expression grammar missing"
    | some expression => inputs.foldl (describe gs expression) {}

end Calculator
end Backtrack
