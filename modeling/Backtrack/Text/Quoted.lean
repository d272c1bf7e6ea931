import Backtrack.Text.Escaped

/-!
# Quoted text

Diagnostics show text between double quotes. Inside the quotes a backslash, a double quote,
the null character, tab, carriage return and line feed are written as two-character
escapes, every character of `escapedChars` as `\u` followed by its code point in lowercase
hexadecimal between braces, and everything else as itself. A single quote needs no escape.

Main statement: `escape_append` (quoting works character by character).
-/

namespace Backtrack
namespace Text

/-- Lowercase hexadecimal digits of `n`, without leading zeros. -/
def hexDigits (n : Nat) : String := String.ofList (Nat.toDigits 16 n)

/-- The written form of one character inside quotes. -/
def escapeChar (c : Char) : String :=
  if c = '\x00' then "\\0"
  else if c = '\t' then "\\t"
  else if c = '\r' then "\\r"
  else if c = '\n' then "\\n"
  else if c = '\\' then "\\\\"
  else if c = '"' then "\\\""
  else if escapedChars.containsChar c then "\\u\x7b" ++ hexDigits c.toNat ++ "\x7d"
  else String.singleton c

/-- The characters of `s` in written form, without the quotes. -/
def escape (s : String) : String := String.ofList (s.toList.flatMap fun c ↦ (escapeChar c).toList)

/-- `s` between double quotes, with escapes. -/
def quote (s : String) : String := "\"" ++ escape s ++ "\""

theorem escape_append (s t : String) : escape (s ++ t) = escape s ++ escape t := by
  simp [escape, String.toList_append, List.flatMap_append, String.ofList_append]

theorem quote_append (s t : String) :
    quote (s ++ t) = "\"" ++ escape s ++ escape t ++ "\"" := by
  simp [quote, escape_append, String.append_assoc]

end Text
end Backtrack
