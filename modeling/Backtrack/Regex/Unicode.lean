import Backtrack.Regex.Ast
import Backtrack.Regex.CharSet
import Backtrack.Regex.WordChars
import Backtrack.Regex.Tables.Category
import Backtrack.Regex.Tables.Script
import Backtrack.Regex.Tables.Property
import Backtrack.Regex.Tables.Names
import Backtrack.Regex.Tables.ScriptExtension
import Backtrack.Regex.Tables.Age
import Backtrack.Regex.Tables.Break

/-!
# Unicode classes

The sets that `\p{..}` names, and the Perl classes `\d`, `\s` and `\w` in the Unicode sense.

Names are compared loosely: case, spaces, underscores, hyphens and a leading `is` do not
matter (`\p{Greek}`, `\p{isgreek}` and `\p{GREEK}` agree). A single name is tried as a property,
which must then be binary, then as a general category, then as a script; `cf`, `sc` and `lc`
skip the first step, since they are general categories there although they abbreviate
properties too. A `name=value` pair looks the name up among the property names.

Looking a value up has two steps: its name gives a canonical value, and the canonical value
gives a table. A name that no value has means the value is not found, and so does a value
without characters, such as the category of surrogates or the script `Unknown`.
-/

namespace Backtrack
namespace Regex

open Text

/-- Why a Unicode class does not exist. -/
inductive LookupError where
  | propertyNotFound
  | propertyValueNotFound
  deriving DecidableEq, Repr

/-- A name with case, spaces, underscores, hyphens, anything outside ASCII and a leading
`is` removed; the exception is `isc`, which stays as it is. -/
def looseName (name : String) : String :=
  let cs := name.toList
  let (prefixed, rest) := match cs with
    | a :: b :: rest => if a.toLower = 'i' && b.toLower = 's' then (true, rest) else (false, cs)
    | _ => (false, cs)
  let kept := rest.filterMap fun c ↦
    if c = ' ' || c = '_' || c = '-' || c.toNat ≥ 0x80 then none else some c.toLower
  if prefixed && kept = ['c'] then "isc" else String.ofList kept

/-- The set of a range table. -/
def CharSet.ofTable (t : RangeTable) : CharSet := ⟨t.ranges.toList⟩

/-- The canonical name of the entry whose aliases hold the loose name `name`. -/
def canonical? (entries : List (String × List String)) (name : String) : Option String :=
  (entries.find? fun e ↦ e.2.contains name).map (·.1)

/-- The characters that a table lists under a canonical name; a value that the table does not
list names no class. -/
def tableSet (tables : List (String × RangeTable)) (name : String) : Except LookupError CharSet :=
  match tables.find? (·.1 == name) with
  | some e => .ok (CharSet.ofTable e.2)
  | none => .error .propertyValueNotFound

/-- The names and aliases of a table whose entries carry them. -/
def valueNames (tables : List (String × List String × RangeTable)) : List (String × List String) :=
  tables.map fun e ↦ (e.1, e.2.1)

/-- A table whose entries carry aliases, without them. -/
def plainTables (tables : List (String × List String × RangeTable)) : List (String × RangeTable) :=
  tables.map fun e ↦ (e.1, e.2.2)

/-! ## General categories -/

/-- The general categories that group others: their names, aliases and members. -/
def categoryGroups : List (String × List String × List String) :=
  [("Letter", ["l", "letter"], ["Lu", "Ll", "Lt", "Lm", "Lo"]),
   ("Cased_Letter", ["lc", "casedletter"], ["Lu", "Ll", "Lt"]),
   ("Mark", ["m", "mark", "combiningmark"], ["Mn", "Mc", "Me"]),
   ("Number", ["n", "number"], ["Nd", "Nl", "No"]),
   ("Punctuation", ["p", "punctuation", "punct"], ["Pc", "Pd", "Ps", "Pe", "Pi", "Pf", "Po"]),
   ("Symbol", ["s", "symbol"], ["Sm", "Sc", "Sk", "So"]),
   ("Separator", ["z", "separator"], ["Zs", "Zl", "Zp"]),
   ("Other", ["c", "other"], ["Cc", "Cf", "Cs", "Co", "Cn"])]

/-- The canonical general category of a loose name, with `Any`, `Assigned` and `ASCII`
besides the values of the property. -/
def canonicalCategory? (name : String) : Option String :=
  match name with
  | "any" => some "Any"
  | "assigned" => some "Assigned"
  | "ascii" => some "ASCII"
  | _ => canonical? (valueNames categoryTables ++ categoriesWithoutChars ++
      categoryGroups.map fun g ↦ (g.1, g.2.1)) name

/-- The code points of a single general category. The surrogates have no table of their own,
but a group of categories counts them, so that its ranges run across them as the group's table
does. -/
def leafCategory (short : String) : CharSet :=
  if short = "Cs" then .range 0xD800 0xDFFF
  else ((tableSet (plainTables categoryTables) short).toOption).getD .empty

/-- The characters of a canonical general category. -/
def categorySet (name : String) : Except LookupError CharSet :=
  match name with
  | "Any" => .ok .all
  | "Assigned" => .ok (leafCategory "Cn").negate
  | "ASCII" => .ok (.range 0 0x7F)
  | _ =>
    match categoryGroups.find? (·.1 == name) with
    | some g => .ok (g.2.2.foldl (fun acc short ↦ acc.union (leafCategory short)) .empty)
    | none => tableSet (plainTables categoryTables) name

/-! ## Scripts, ages and break properties -/

/-- The canonical script of a loose name, whether or not the script has characters. -/
def canonicalScript? (name : String) : Option String :=
  canonical? (valueNames scriptTables ++ scriptsWithoutChars) name

/-- The characters of a canonical script. -/
def scriptSet (name : String) : Except LookupError CharSet := tableSet (plainTables scriptTables) name

/-- The characters used with a canonical script. -/
def scriptExtensionSet (name : String) : Except LookupError CharSet := tableSet scriptExtensionTables name

/-- The characters assigned by a version and every earlier one; `Unassigned` is no version. -/
def ageSet (name : String) : Except LookupError CharSet :=
  match ageTables.findIdx? (·.1 == name) with
  | some i => .ok ((ageTables.take (i + 1)).foldl (fun acc e ↦ acc.union (CharSet.ofTable e.2)) .empty)
  | none => .error .propertyValueNotFound

/-- The class of a value of a property that lists its values: the value's aliases, and the
class of its canonical name. -/
def valueClass (values : List (String × List String)) (set : String → Except LookupError CharSet)
    (value : String) : Except LookupError CharSet :=
  match canonical? values value with
  | some v => set v
  | none => .error .propertyValueNotFound

/-! ## Classes -/

/-- The property of a loose name. -/
def propertyName? (name : String) : Option String := canonical? propertyNames name

/-- The binary property of a property name. -/
def binaryProperty? (canonical : String) : Option CharSet :=
  (propertyTables.find? (·.1 == canonical)).map fun e ↦ CharSet.ofTable e.2

/-- The class that a single name stands for: a property, which must be binary, or else a
general category, or else a script. -/
def namedClass (name : String) : Except LookupError CharSet :=
  let loose := looseName name
  let asProperty := if ["cf", "sc", "lc"].contains loose then none else propertyName? loose
  match asProperty with
  | some canonical => (binaryProperty? canonical).elim (.error .propertyNotFound) .ok
  | none =>
    match canonicalCategory? loose with
    | some c => categorySet c
    | none =>
      match canonicalScript? loose with
      | some s => scriptSet s
      | none => .error .propertyNotFound

/-- The class that a Unicode class asks for, before negation. A `name=value` pair supports
the general category, the script, the script extensions, the age and the three break
properties; a value is looked up among the aliases of its property first. -/
def unicodeClass : UnicodeQuery → Except LookupError CharSet
  | .oneLetter c => namedClass (String.singleton c)
  | .named name => namedClass name
  | .byValue name value =>
    let v := looseName value
    match propertyName? (looseName name) with
    | none => .error .propertyNotFound
    | some "General_Category" => (canonicalCategory? v).elim (.error .propertyValueNotFound) categorySet
    | some "Script" => (canonicalScript? v).elim (.error .propertyValueNotFound) scriptSet
    | some "Script_Extensions" => (canonicalScript? v).elim (.error .propertyValueNotFound) scriptExtensionSet
    | some "Age" => valueClass ageValues ageSet v
    | some "Grapheme_Cluster_Break" =>
      valueClass graphemeClusterBreakValues (tableSet graphemeClusterBreakTables) v
    | some "Word_Break" => valueClass wordBreakValues (tableSet wordBreakTables) v
    | some "Sentence_Break" => valueClass sentenceBreakValues (tableSet sentenceBreakTables) v
    | some _ => .error .propertyValueNotFound

/-- The Perl classes in the Unicode sense: decimal digits, white space, and word characters. -/
def perlUnicode : PerlClass → CharSet
  | .digit => leafCategory "Nd"
  | .space => (binaryProperty? "White_Space").getD .empty
  | .word => CharSet.ofTable wordChars

/-- The Perl classes in the ASCII sense. -/
def perlAscii : PerlClass → CharSet
  | .digit => .range 0x30 0x39
  | .space => .ofRanges [(0x09, 0x0D), (0x20, 0x20)]
  | .word => .ofRanges [(0x30, 0x39), (0x41, 0x5A), (0x5F, 0x5F), (0x61, 0x7A)]

/-- The ASCII classes `[:name:]`. -/
def asciiClass : AsciiClass → CharSet
  | .alnum => .ofRanges [(0x30, 0x39), (0x41, 0x5A), (0x61, 0x7A)]
  | .alpha => .ofRanges [(0x41, 0x5A), (0x61, 0x7A)]
  | .ascii => .range 0 0x7F
  | .blank => .ofRanges [(0x09, 0x09), (0x20, 0x20)]
  | .cntrl => .ofRanges [(0, 0x1F), (0x7F, 0x7F)]
  | .digit => .range 0x30 0x39
  | .graph => .range 0x21 0x7E
  | .lower => .range 0x61 0x7A
  | .print => .range 0x20 0x7E
  | .punct => .ofRanges [(0x21, 0x2F), (0x3A, 0x40), (0x5B, 0x60), (0x7B, 0x7E)]
  | .space => .ofRanges [(0x09, 0x0D), (0x20, 0x20)]
  | .upper => .range 0x41 0x5A
  | .word => .ofRanges [(0x30, 0x39), (0x41, 0x5A), (0x5F, 0x5F), (0x61, 0x7A)]
  | .xdigit => .ofRanges [(0x30, 0x39), (0x41, 0x46), (0x61, 0x66)]

end Regex
end Backtrack
