import Backtrack.Pattern.Basic

/-!
# Written form of patterns

A pattern is written in constructor form, with only the options that differ from their
defaults: `Chars("aeiou", min=2)`, `Optional(Literal("x"))`, `StringStart(suppress=false)`.
A sequence built by `+` writes its children joined by ` + `, a choice built by `<|>` by
` | `; as the argument of another node such an open sequence or choice drops its own
wrapper. An embedded matcher is written as its own name: a grammar by its name, a shared
pattern as that pattern.
-/

namespace Backtrack

namespace Boundary

/-- The constructor name of a boundary. -/
def name : Boundary → String
  | stringStart => "StringStart"
  | stringEnd => "StringEnd"
  | lineStart => "LineStart"
  | lineEnd => "LineEnd"
  | wordStart => "WordStart"
  | wordEnd => "WordEnd"

end Boundary

namespace CharClass

/-- The class as constructor arguments: nothing for the class of every character, else the
quoted characters, followed by `inverse=true` for an inverted class. -/
def renderArgs (c : CharClass) : String :=
  if c.isAny then ""
  else Text.quote c.chars ++ (if c.inverse then ", inverse=true" else "")

end CharClass

/-- A list of numbers as `[1, 2]`. -/
def renderNats (ns : List Nat) : String := "[" ++ ", ".intercalate (ns.map toString) ++ "]"

namespace RegexNode

/-- The quoted source, then the options that differ from their defaults. -/
def renderArgs (rx : RegexNode) : String :=
  let o := rx.options
  Text.quote rx.source
    ++ (match o.groups with
        | .one 0 => ""
        | .one g => s!", group={g}"
        | .many gs => ", group=" ++ renderNats gs)
    ++ (if o.advance ≠ 0 then s!", advance={o.advance}" else "")
    ++ (if o.caseInsensitive then ", case_insensitive=true" else "")
    ++ (if o.multiLine then ", multi_line=true" else "")
    ++ (if o.dotAll then ", dot_matches_new_line=true" else "")

end RegexNode

namespace Run

/-- Arguments of a run of a class: the class, then `min` unless it is one, then `max`. -/
def renderCharsArgs (r : Run) : String :=
  let comma := if r.cls.isAny then "" else ", "
  let (minPart, comma) := if r.min ≠ 1 then (comma ++ s!"min={r.min}", ", ") else ("", comma)
  r.cls.renderArgs ++ minPart ++ (match r.max with | some m => comma ++ s!"max={m}" | none => "")

/-- Arguments of a whitespace run: its characters unless configured, then `min` unless it is
zero, then `max`. -/
def renderWhitespaceArgs (r : Run) : String :=
  let (chars, comma) := if r.configured then ("", "") else (Text.quote r.cls.chars, ", ")
  let (minPart, comma) := if r.min ≠ 0 then (comma ++ s!"min={r.min}", ", ") else ("", comma)
  chars ++ minPart ++ (match r.max with | some m => comma ++ s!"max={m}" | none => "")

end Run

/-- The constructor name of a repetition with these bounds. -/
def repetitionName : Nat → Option Nat → String
  | 0, some 1 => "Optional"
  | 0, none => "ZeroOrMore"
  | 1, none => "OneOrMore"
  | _, _ => "NMatches"

/-- `name(args)`, with `suppress=...` added when the flag differs from the default. -/
def wrapNode (name args : String) (quiet suppressed : Bool) : String :=
  let note := if suppressed != quiet then
      (if args.isEmpty then "" else ", ") ++ s!"suppress={suppressed}" else ""
  name ++ "(" ++ args ++ note ++ ")"

namespace Pattern

mutual
/-- The written form of a pattern. -/
def render : Pattern → String
  | mk s b => renderNode s b

/-- The written form of a pattern as the argument of another node: an open sequence or
choice writes only its children. -/
def renderArg : Pattern → String
  | mk (.sequence cs none true) false => renderJoined " + " cs
  | mk (.choice cs true) false => renderJoined " | " cs
  | mk s b => renderNode s b

/-- The written form of a node with shape `s` and suppression `b`. -/
def renderNode : Shape → Bool → String
  | .char cls, b => wrapNode "Char" cls.renderArgs false b
  | .run r, b => wrapNode "Chars" r.renderCharsArgs false b
  | .whitespace r, b => wrapNode "Whitespace" r.renderWhitespaceArgs true b
  | .literal t, b => wrapNode "Literal" (Text.quote t) false b
  | .regex rx, b => wrapNode "Regex" rx.renderArgs false b
  | .boundary k, b => wrapNode k.name "" true b
  | .nextIs neg inner, b => wrapNode (if neg then "NextIsNot" else "NextIs") (renderArg inner) true b
  | .prevIs neg inner, b => wrapNode (if neg then "PrevIsNot" else "PrevIs") (renderArg inner) true b
  | .sequence cs sep auto, b =>
    wrapNode "Sequence" (renderJoined (if auto then " + " else ", ") cs ++ renderSep sep) false b
  | .choice cs auto, b => wrapNode "Any" (renderJoined (if auto then " | " else ", ") cs) false b
  | .repetition inner lo hi, b =>
    let name := repetitionName lo hi
    let bounds := if name = "NMatches" then
        s!", min={lo}" ++ (match hi with | some m => s!", max={m}" | none => "") else ""
    wrapNode name (renderArg inner ++ bounds) false b
  | .separated sep elem lo hi, b =>
    wrapNode "SeparatedBy" (render sep ++ ", " ++ render elem
      ++ (if lo ≠ 1 then s!", min={lo}" else "")
      ++ (match hi with | some m => s!", max={m}" | none => "")) false b
  | .group inner, b => wrapNode "Group" (renderArg inner) false b
  | .flatten inner, b => wrapNode "Flatten" (renderArg inner) false b
  | .select inner sel, b => wrapNode "Select" (renderArg inner ++ ", " ++ sel.render) false b
  | .token inner, b => wrapNode "Token" (renderArg inner) false b
  | .rule ref, b => wrapNode "Rule" (Text.quote ref.name) false b
  | .embed _ m, _ => renderEmbedded m

/-- The name an embedded matcher goes by. -/
def renderEmbedded : Embedded → String
  | .grammar name _ _ => name
  | .shared inner => render inner
  | .broken => "Broken"
  | .unbalanced => "Unbalanced"

/-- `, sep=...` for a sequence with a separator. -/
def renderSep : Option Pattern → String
  | none => ""
  | some q => ", sep=" ++ render q

/-- The written forms of the patterns, joined by `sep`. -/
def renderJoined (sep : String) : List Pattern → String
  | [] => ""
  | [p] => render p
  | p :: ps => render p ++ sep ++ renderJoined sep ps
end

end Pattern
end Backtrack
