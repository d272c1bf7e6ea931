/-!
# UTF-8 sequences of a range of characters

Written in UTF-8, the characters of a range form a set of byte strings that a few sequences of
byte ranges describe exactly, such as `[00-7F]`, `[C2-DF][80-BF]` or `[E0][A0-BF][80-BF]`.
The range is cut until every piece has a single encoded length and, at every byte position,
either covers all continuation bytes or shares its prefix; a piece is then the sequence of
ranges between the encodings of its two ends. Surrogates, which are not characters, are cut
out first.

The pieces come out in increasing order. The work list holds the pieces still to be cut,
nearest first.
-/

namespace Backtrack
namespace Regex

/-- A range of bytes, both ends included. -/
abbrev ByteRange := UInt8 × UInt8

/-- The largest code point whose encoding takes `n` bytes, for `n` from one to three. -/
def maxScalar (n : Nat) : Nat :=
  if n = 1 then 0x7F else if n = 2 then 0x7FF else 0xFFFF

/-- The encoding of a code point that is a character. -/
def encode (c : Nat) : List UInt8 := String.utf8EncodeChar (Char.ofNat c)

/-- The first cut that a range needs, if any: where it crosses a change of encoded length, or
a boundary of continuation bytes that it does not cover completely. The result is the part
to go on with and the part to put back on the work list. -/
def cut (lo hi : Nat) : Option ((Nat × Nat) × (Nat × Nat)) :=
  let byLength := [1, 2, 3].find? fun n ↦ lo ≤ maxScalar n && maxScalar n < hi
  match byLength with
  | some n => some ((lo, maxScalar n), (maxScalar n + 1, hi))
  | none =>
    if hi ≤ 0x7F then none else
    let step := fun (n : Nat) ↦
      let block := Nat.pow 2 (6 * n)
      if lo / block ≠ hi / block then
        if lo % block ≠ 0 then some ((lo, lo - lo % block + block - 1), (lo - lo % block + block, hi))
        else if hi % block ≠ block - 1 then some ((lo, hi - hi % block - 1), (hi - hi % block, hi))
        else none
      else none
    match step 1 with
    | some r => some r
    | none =>
      match step 2 with
      | some r => some r
      | none => step 3

/-- The byte-range sequences of the characters from `lo` to `hi`, in increasing order. -/
def utf8Sequences (lo hi : Nat) : List (List ByteRange) :=
  let rec go : Nat → Option (Nat × Nat) → List (Nat × Nat) → List (List ByteRange)
    | 0, _, _ => []
    | _ + 1, none, [] => []
    | fuel + 1, none, r :: rest => go fuel (some r) rest
    | fuel + 1, some (a, b), rest =>
      if a < 0xE000 && b > 0xD7FF then go fuel (some (a, 0xD7FF)) ((0xE000, b) :: rest)
      else if a > b then go fuel none rest
      else
        match cut a b with
        | some (now, later) => go fuel (some now) (later :: rest)
        | none =>
          let piece := if b ≤ 0x7F then [(UInt8.ofNat a, UInt8.ofNat b)] else (encode a).zip (encode b)
          piece :: go fuel none rest
  go 1000 (some (lo, hi)) []

end Regex
end Backtrack
