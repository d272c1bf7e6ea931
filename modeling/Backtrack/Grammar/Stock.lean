import Backtrack.Grammar.Basic

/-!
# Stock grammars

Grammars for the literals that most languages share.

* Numbers: a decimal integer without leading zeros, binary `0b1010`, octal `0o755` or
  `0644`, hexadecimal `0xff`, each optionally negative (a negative zero of the prefixed kinds
  is rejected), and a decimal float with digits on both sides of the point. `number` tries
  them in the order binary, hexadecimal, float, octal, integer.
* Strings: single- and double-quoted strings with backslash escapes and no line break, and
  their triple-quoted forms, which may span lines.
* Words: operators, identifiers, reserved words followed by a word end, and an identifier
  that is not a reserved word of Python.

The grammars nested inside `number`, `string` and `pythonVariable` are embedded with tag
zero; they are never compared with anything.
-/

namespace Backtrack
namespace Grammar

open Pattern

def digits : String := "0123456789"
def octalDigits : String := "01234567"
def hexDigits : String := "0123456789abcdefABCDEF"
def letters : String := "abcdefghijklmnopqrstuvwxyzABCDEFGHIJKLMNOPQRSTUVWXYZ"

/-- Operators, longer ones after the shorter ones they start with, as an ordered choice
tries them. -/
def defaultOperators : List String :=
  ["+", "-", "/", "*", "%", "<", ">", "==", "!=", "&&", "||", "&", "|"]

/-- The reserved words of Python. -/
def pythonReservedWords : List String :=
  ["False", "None", "True", "and", "as", "assert", "async", "await", "break", "class",
    "continue", "def", "del", "elif", "else", "except", "finally", "for", "from", "global", "if",
    "import", "in", "is", "lambda", "nonlocal", "not", "or", "pass", "raise", "return", "try",
    "while", "with", "yield"]

/-- The characters that may follow a backslash in a quoted string. -/
def escapedChars : String := "nrtabfv'\"\n\\"

/-- A decimal integer: `0`, or digits not starting with `0`, optionally negative. -/
def integer : Grammar :=
  ⟨"Integer", group (literal "0" <|> (optional (literal "-") + nextIsNot (literal "0") + chars digits)), none⟩

/-- `0b` or `0B` and binary digits, optionally negative; negative zero is rejected. -/
def binaryInteger : Grammar :=
  ⟨"BinaryInteger", group (optional (literal "-") + literal "0" + charOf "bB" + chars "01"),
    some (literal "-0" + charOf "bB" + chars "0")⟩

/-- `0`, an optional `o` or `O`, and octal digits, optionally negative; negative zero is
rejected. -/
def octalInteger : Grammar :=
  ⟨"OctalInteger", group (optional (literal "-") + literal "0" + optional (charOf "oO") + chars octalDigits),
    some (literal "-0" + optional (charOf "oO") + chars "0")⟩

/-- `0x` or `0X` and hexadecimal digits, optionally negative; negative zero is rejected. -/
def hexadecimalInteger : Grammar :=
  ⟨"HexadecimalInteger", group (optional (literal "-") + literal "0" + charOf "xX" + chars hexDigits),
    some (literal "-0" + charOf "xX" + chars "0")⟩

/-- An integer part (`0` or digits not starting with `0`), a point and digits, optionally
negative. -/
def float : Grammar :=
  let whole := literal "0" <|> (nextIsNot (literal "0") + chars digits)
  ⟨"Float", group (optional (literal "-") + whole + literal "." + chars digits), none⟩

/-- Any of the number grammars, in the order binary, hexadecimal, float, octal, integer. -/
def number : Grammar :=
  ⟨"Number", anyOf [binaryInteger.toPattern 0, hexadecimalInteger.toPattern 0, float.toPattern 0,
    octalInteger.toPattern 0, integer.toPattern 0], none⟩

/-- A backslash and one escapable character. -/
def escapeSequence : Grammar := ⟨"EscapeSequence", group (literal "\\" + charOf escapedChars), none⟩

/-- A string between two `quote`s, of escapes and of characters other than the quote, the
backslash and the line feed. -/
def quoted (name quote : String) : Grammar :=
  let plain := charsNot (quote ++ "\\\n")
  let body := zeroOrMore (escapeSequence.toPattern 0 <|> plain)
  ⟨name, group (literal quote + body + literal quote), none⟩

/-- A string between two triple quotes, of escapes, of characters other than the quote and
the backslash, and of quotes not followed by two more. -/
def tripleQuoted (name quote : String) : Grammar :=
  let fence := quote ++ quote ++ quote
  let plain := charsNot (quote ++ "\\")
  let loneQuote := literal quote + nextIsNot (literal (quote ++ quote))
  let body := zeroOrMore (escapeSequence.toPattern 0 <|> plain <|> loneQuote)
  ⟨name, group (literal fence + body + literal fence), none⟩

def singleQuotedString : Grammar := quoted "SingleQuotedString" "'"
def doubleQuotedString : Grammar := quoted "DoubleQuotedString" "\""
def tripleSingleQuotedString : Grammar := tripleQuoted "TripleSingleQuotedString" "'"
def tripleDoubleQuotedString : Grammar := tripleQuoted "TripleDoubleQuotedString" "\""

/-- Any string, triple-quoted forms first. -/
def string : Grammar :=
  ⟨"String", anyOf [tripleSingleQuotedString.toPattern 0, tripleDoubleQuotedString.toPattern 0,
    singleQuotedString.toPattern 0, doubleQuotedString.toPattern 0], none⟩

/-- The first of the operators that matches. -/
def operatorOf (name : String) (ops : List String) : Grammar := ⟨name, anyOf (ops.map literal), none⟩

def operator : Grammar := operatorOf "Operator" defaultOperators

/-- A start pattern followed by an end pattern, as one piece of text. -/
def variableOf (name : String) (start stop : Pattern) : Grammar := ⟨name, group (start + stop), none⟩

/-- A letter or underscore, then letters, digits and underscores. -/
def identifier : Grammar :=
  variableOf "Variable" (charOf (letters ++ "_")) (charsBounded (letters ++ digits ++ "_") 0 none)

/-- The first of the words that matches and ends a word. -/
def reservedWord (name : String) (words : List String) : Grammar :=
  ⟨name, group (anyOf (words.map fun w ↦ literal w + wordEnd)), none⟩

def pythonReservedWord : Grammar := reservedWord "PythonReservedWord" pythonReservedWords

/-- An identifier that is not a reserved word of Python. -/
def pythonVariable : Grammar := ⟨"PythonVariable", identifier.body, some (pythonReservedWord.toPattern 0)⟩

end Grammar
end Backtrack
