import Backtrack.Trace

/-!
# Rule sets

A rule set names patterns so that patterns can refer to them, and to themselves, before
they are defined. Declaring a name gives a rule reference at once; defining it later fills
in its pattern, once. A reference resolves only in the set it was made in, and only when its
rule is defined: when a set is replaced, the references into it dangle.

Every set has an identity, `scope`. Names are kept in the order they were first mentioned.

Main statement: `declare_names` (a declaration adds a new name at the end and keeps a known
one in place).
-/

namespace Backtrack

/-- Why a pattern could not be built. -/
inductive PatternError where
  | regex (message : String)
  | noSuchGroup (source : String) (group : Nat)
  | duplicateRule (name : String)
  | unknownRule (name : String)
  | undefinedRules (names : List String)

namespace PatternError

/-- The error in words. -/
def render : PatternError → String
  | regex message => "invalid regular expression: " ++ message
  | noSuchGroup src g => "regular expression `" ++ src ++ s!"` has no capture group {g}"
  | duplicateRule n => "rule `" ++ n ++ "` is already defined"
  | unknownRule n => "rule `" ++ n ++ "` was never declared"
  | undefinedRules ns => "rules declared but never defined: " ++ ", ".intercalate ns

/-- The name of the kind of error. -/
def kind : PatternError → String
  | regex _ => "Regex"
  | noSuchGroup .. => "NoSuchGroup"
  | duplicateRule _ => "DuplicateRule"
  | unknownRule _ => "UnknownRule"
  | undefinedRules _ => "UndefinedRules"

end PatternError

/-- Named patterns, in the order their names were first mentioned; a name declared but not
yet defined has no pattern. -/
structure RuleSet where
  scope : Nat
  entries : List (String × Option Pattern)

namespace RuleSet

/-- An empty rule set with identity `scope`. -/
def empty (scope : Nat) : RuleSet := ⟨scope, []⟩

/-- The entry of `name`: `none` if never mentioned, `some none` if declared only. -/
def find? (rs : RuleSet) (name : String) : Option (Option Pattern) :=
  (rs.entries.find? (·.1 == name)).map (·.2)

/-- Whether `name` was mentioned. -/
def contains (rs : RuleSet) (name : String) : Bool := (rs.find? name).isSome

/-- The names, in the order they were first mentioned. -/
def names (rs : RuleSet) : List String := rs.entries.map (·.1)

/-- How many names were mentioned. -/
def size (rs : RuleSet) : Nat := rs.entries.length

/-- The pattern of `name`, once defined. -/
def get? (rs : RuleSet) (name : String) : Option Pattern := (rs.find? name).bind id

/-- A reference to `name` in this set. -/
def refTo (rs : RuleSet) (name : String) : Pattern := Pattern.new (.rule ⟨name, rs.scope⟩)

/-- Mentions `name`, adding it at the end if it is new, and gives a reference to it. -/
def declare (rs : RuleSet) (name : String) : RuleSet × Pattern :=
  (if rs.contains name then rs else { rs with entries := rs.entries ++ [(name, none)] }, rs.refTo name)

/-- Gives the pattern of `name`; a name can be defined once. -/
def define (rs : RuleSet) (name : String) (p : Pattern) : Except PatternError RuleSet :=
  match rs.find? name with
  | some (some _) => .error (.duplicateRule name)
  | some none => .ok { rs with entries := rs.entries.map fun e ↦ if e.1 == name then (name, some p) else e }
  | none => .ok { rs with entries := rs.entries ++ [(name, some p)] }

/-- A reference to a name that was mentioned before. -/
def reference (rs : RuleSet) (name : String) : Except PatternError Pattern :=
  if rs.contains name then .ok (rs.refTo name) else .error (.unknownRule name)

/-- The names declared but not defined, in order. -/
def undefined (rs : RuleSet) : List String := (rs.entries.filter (·.2.isNone)).map (·.1)

/-- Checks that every mentioned name is defined. -/
def resolve (rs : RuleSet) : Except PatternError Unit :=
  match rs.undefined with
  | [] => .ok ()
  | ns => .error (.undefinedRules ns)

/-- The pattern a reference leads to: only references into this set to defined rules lead
anywhere. -/
def target? (rs : RuleSet) (r : RuleRef) : Option Pattern :=
  if r.scope = rs.scope then rs.get? r.name else none

/-- Whether a reference leads to a pattern. -/
def resolves (rs : RuleSet) (r : RuleRef) : Bool := (rs.target? r).isSome

/-- `{"a": pattern, "b": <undefined>}`. -/
def debug (rs : RuleSet) : String :=
  "\x7b" ++ ", ".intercalate (rs.entries.map fun (n, p) ↦
    Text.quote n ++ ": " ++ ((p.map Pattern.render).getD "<undefined>")) ++ "\x7d"

/-- `define`, reporting the definition. -/
def defineNoted (rs : RuleSet) (name : String) (p : Pattern) : Logged (Except PatternError RuleSet) := do
  let r := rs.define name p
  if r matches .ok _ then note (.ruleDefined name)
  pure r

/-- `resolve`, reporting how many rules were resolved. -/
def resolveNoted (rs : RuleSet) : Logged (Except PatternError Unit) := do
  let r := rs.resolve
  if r matches .ok _ then note (.rulesResolved rs.size)
  pure r

theorem declare_names (rs : RuleSet) (name : String) :
    (rs.declare name).1.names = if rs.contains name then rs.names else rs.names ++ [name] := by
  unfold declare names
  split <;> simp

end RuleSet
end Backtrack
