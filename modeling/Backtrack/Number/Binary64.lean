/-!
# Double-precision numbers

The numbers of the IEEE 754 binary64 format, modelled exactly: a finite nonzero number is
`± m · 2 ^ e` with `0 < m < 2 ^ 53` and `-1074 ≤ e ≤ 971`; zero keeps its sign; and there are
the two infinities and NaN.

Every operation computes its exact result as a fraction and rounds it once, to the nearest
number with ties to an even mantissa, which is what the format prescribes. A result too large
for the format becomes an infinity, one too small becomes a zero of the right sign.

Numbers are written the shortest way that reads back as the same number, in plain decimal
notation without exponent (`7`, `6.28`, `-2.7142857142857144`, `0.001`). When two such
decimals are equally short, the one nearer the number is chosen, and of two equally near the
one with an even last digit.
-/

namespace Backtrack

/-- A double-precision floating-point number. -/
inductive Binary64 where
  | zero (negative : Bool)
  /-- `± m · 2 ^ e`, with `0 < m < 2 ^ 53` and `-1074 ≤ e ≤ 971`. -/
  | finite (negative : Bool) (m : Nat) (e : Int)
  | infinite (negative : Bool)
  | nan
  deriving DecidableEq, Repr

namespace Binary64

/-- `n / d` rounded to the nearest integer, ties to even. -/
def roundHalfEven (n d : Nat) : Nat :=
  let q := n / d
  let r := n % d
  if 2 * r > d then q + 1 else if 2 * r < d then q else if q % 2 = 0 then q else q + 1

/-- Whether `n / d ≥ 2 ^ k`. -/
def atLeastPow2 (n d : Nat) (k : Int) : Bool :=
  if k ≥ 0 then n ≥ d * Nat.pow 2 k.toNat else n * Nat.pow 2 (-k).toNat ≥ d

/-- `⌊log₂ (n / d)⌋` for positive `n` and `d`: the logarithms of `n` and `d` bound it to two
neighbouring values. -/
def log2Ratio (n d : Nat) : Int :=
  let k : Int := (n.log2 : Int) - d.log2
  if atLeastPow2 n d k then k else k - 1

/-- The number nearest to `n / d`, with the sign `negative`. -/
def ofRatio (negative : Bool) (n d : Nat) : Binary64 :=
  if n = 0 then .zero negative
  else if d = 0 then .infinite negative
  else
    let e := max (log2Ratio n d - 52) (-1074)
    let m := if e ≥ 0 then roundHalfEven n (d * Nat.pow 2 e.toNat) else roundHalfEven (n * Nat.pow 2 (-e).toNat) d
    let (m, e) := if m = Nat.pow 2 53 then (Nat.pow 2 52, e + 1) else (m, e)
    if m = 0 then .zero negative
    else if e > 971 then .infinite negative
    else .finite negative m e

/-- The exact value of a finite number as a sign and a fraction. -/
def ratio? : Binary64 → Option (Bool × Nat × Nat)
  | zero s => some (s, 0, 1)
  | finite s m e => some (s, if e ≥ 0 then m * Nat.pow 2 e.toNat else m, if e ≥ 0 then 1 else Nat.pow 2 (-e).toNat)
  | _ => none

def isNegative : Binary64 → Bool
  | zero s | finite s _ _ | infinite s => s
  | nan => false

def neg : Binary64 → Binary64
  | zero s => zero !s
  | finite s m e => finite (!s) m e
  | infinite s => infinite !s
  | nan => nan

def ofNat (n : Nat) : Binary64 := ofRatio false n 1

def ofInt (i : Int) : Binary64 := ofRatio (i < 0) i.natAbs 1

/-- Whether the number is a zero of either sign. -/
def isZero : Binary64 → Bool
  | zero _ => true
  | _ => false

def add (a b : Binary64) : Binary64 :=
  match a, b with
  | nan, _ | _, nan => nan
  | infinite s, infinite t => if s = t then infinite s else nan
  | infinite s, _ => infinite s
  | _, infinite t => infinite t
  | zero s, zero t => zero (s && t)
  | zero _, x => x
  | x, zero _ => x
  | x, y =>
    match x.ratio?, y.ratio? with
    | some (s, n, d), some (t, n', d') =>
      let total : Int := (if s then -1 else 1) * (n * d' : Nat) + (if t then -1 else 1) * (n' * d : Nat)
      if total = 0 then zero false else ofRatio (total < 0) total.natAbs (d * d')
    | _, _ => nan

def sub (a b : Binary64) : Binary64 := add a b.neg

def mul (a b : Binary64) : Binary64 :=
  let s := a.isNegative != b.isNegative
  match a, b with
  | nan, _ | _, nan => nan
  | infinite _, zero _ | zero _, infinite _ => nan
  | infinite _, _ | _, infinite _ => infinite s
  | zero _, _ | _, zero _ => zero s
  | x, y =>
    match x.ratio?, y.ratio? with
    | some (_, n, d), some (_, n', d') => ofRatio s (n * n') (d * d')
    | _, _ => nan

def div (a b : Binary64) : Binary64 :=
  let s := a.isNegative != b.isNegative
  match a, b with
  | nan, _ | _, nan => nan
  | infinite _, infinite _ | zero _, zero _ => nan
  | infinite _, _ => infinite s
  | _, infinite _ => zero s
  | _, zero _ => infinite s
  | zero _, _ => zero s
  | x, y =>
    match x.ratio?, y.ratio? with
    | some (_, n, d), some (_, n', d') => ofRatio s (n * d') (d * n')
    | _, _ => nan

instance : Add Binary64 := ⟨add⟩
instance : Sub Binary64 := ⟨sub⟩
instance : Mul Binary64 := ⟨mul⟩
instance : Div Binary64 := ⟨div⟩
instance : Neg Binary64 := ⟨neg⟩

/-! Reading decimals. -/

/-- The value of decimal digits. -/
def digitsValue (ds : List Char) : Nat := ds.foldl (fun acc c ↦ acc * 10 + (c.toNat - '0'.toNat)) 0

/-- Reads a decimal number: an optional sign, digits with an optional point, at least one
digit in all, and an optional exponent; or `inf`, `infinity` or `nan` in any case. -/
def ofDecimal? (text : String) : Except String Binary64 :=
  if text.isEmpty then .error "cannot parse float from empty string" else
  let cs := text.toList
  let (negative, cs) := match cs with
    | '-' :: rest => (true, rest)
    | '+' :: rest => (false, rest)
    | _ => (false, cs)
  let word := String.ofList (cs.map Char.toLower)
  if word = "inf" || word = "infinity" then .ok (.infinite negative)
  else if word = "nan" then .ok .nan
  else
    let (whole, rest) := cs.span Char.isDigit
    let (fraction, rest) := match rest with
      | '.' :: more => more.span Char.isDigit
      | _ => ([], rest)
    let exponent? : Option Int := match rest with
      | [] => some 0
      | c :: more =>
        if c = 'e' || c = 'E' then
          let (sign, ds) := match more with
            | '-' :: ds => (-1, ds)
            | '+' :: ds => (1, ds)
            | ds => (1, ds)
          if !ds.isEmpty && ds.all Char.isDigit then some (sign * (digitsValue ds : Int)) else none
        else none
    match exponent? with
    | none => .error "invalid float literal"
    | some x =>
      if whole.isEmpty && fraction.isEmpty then .error "invalid float literal" else
      let n := digitsValue (whole ++ fraction)
      let k := x - fraction.length
      if k ≥ 0 then .ok (ofRatio negative (n * Nat.pow 10 k.toNat) 1)
      else .ok (ofRatio negative n (Nat.pow 10 (-k).toNat))

/-! Writing decimals. -/

/-- The number of decimal digits of `n`, at least one. -/
def decimalLength (n : Nat) : Nat := (Nat.toDigits 10 n).length

/-- `⌊log₁₀ (n / d)⌋` for positive `n` and `d`, found like `log2Ratio`. -/
def log10Ratio (n d : Nat) : Int :=
  let k : Int := (decimalLength n : Int) - decimalLength d
  let atLeast := fun (k : Int) ↦ if k ≥ 0 then n ≥ d * Nat.pow 10 k.toNat else n * Nat.pow 10 (-k).toNat ≥ d
  if atLeast k then k else k - 1

/-- The fraction `a / b` is at most (or, when not `inclusive`, below) `c / d`. -/
def fracLe (inclusive : Bool) (a b c d : Nat) : Bool :=
  if inclusive then a * d ≤ c * b else a * d < c * b

/-- `2 ^ k` as a fraction. -/
def pow2 (k : Int) : Nat × Nat := if k ≥ 0 then (Nat.pow 2 k.toNat, 1) else (1, Nat.pow 2 (-k).toNat)

/-- `D · 10 ^ k` as a fraction. -/
def scaled (D : Nat) (k : Int) : Nat × Nat := if k ≥ 0 then (D * Nat.pow 10 k.toNat, 1) else (D, Nat.pow 10 (-k).toNat)

/-- The shortest decimal `D · 10 ^ k` that reads back as `m · 2 ^ e`: the decimals that do are
those strictly inside the halfway points to the neighbouring numbers, or on them when `m`
is even. The shortest is found by trying one significant digit, then two, and so on;
seventeen always suffice. -/
def shortest (m : Nat) (e : Int) : Nat × Int :=
  let (vn, vd) := pow2 e
  let vn := m * vn
  let (hn, hd) := pow2 (e - 1)
  let hn := (2 * m + 1) * hn
  let (ln, ld) := if m = Nat.pow 2 52 && e > -1074 then
      let (a, b) := pow2 (e - 2)
      ((4 * m - 1) * a, b)
    else
      let (a, b) := pow2 (e - 1)
      ((2 * m - 1) * a, b)
  let inclusive := m % 2 = 0
  let inside := fun (D : Nat) (k : Int) ↦
    let (cn, cd) := scaled D k
    fracLe inclusive ln ld cn cd && fracLe inclusive cn cd hn hd
  let top := log10Ratio vn vd
  let rec search : Nat → Nat → Nat × Int
    | 0, _ => (m, e)
    | fuel + 1, p =>
      let k := top - p + 1
      let D := if k ≥ 0 then vn / (vd * Nat.pow 10 k.toNat) else vn * Nat.pow 10 (-k).toNat / vd
      let below := inside D k
      let above := inside (D + 1) k
      if below && above then
        let (an, ad) := scaled D k
        let (bn, bd) := scaled (D + 1) k
        let distBelow := vn * ad - an * vd
        let distAbove := bn * vd - vn * bd
        let cmp := compare (distBelow * bd) (distAbove * ad)
        if cmp = .lt || (cmp = .eq && D % 2 = 0) then (D, k) else (D + 1, k)
      else if below then (D, k)
      else if above then (D + 1, k)
      else search fuel (p + 1)
  search 20 1

/-- Drops trailing zeros of the digits into the exponent. -/
def trimZeros (D : Nat) (k : Int) : Nat × Int :=
  let rec go : Nat → Nat → Int → Nat × Int
    | 0, D, k => (D, k)
    | fuel + 1, D, k => if D ≠ 0 && D % 10 = 0 then go fuel (D / 10) (k + 1) else (D, k)
  go (decimalLength D) D k

/-- `D · 10 ^ k` in plain decimal notation. -/
def plain (D : Nat) (k : Int) : String :=
  let ds := toString D
  if k ≥ 0 then ds ++ String.ofList (List.replicate k.toNat '0')
  else
    let point : Int := ds.length + k
    if point > 0 then
      String.ofList (ds.toList.take point.toNat) ++ "." ++ String.ofList (ds.toList.drop point.toNat)
    else "0." ++ String.ofList (List.replicate (-point).toNat '0') ++ ds

/-- The number written the shortest way that reads back as it. -/
def render : Binary64 → String
  | nan => "NaN"
  | infinite s => (if s then "-" else "") ++ "inf"
  | zero s => (if s then "-" else "") ++ "0"
  | finite s m e =>
    let (D, k) := shortest m e
    let (D, k) := trimZeros D k
    (if s then "-" else "") ++ plain D k

end Binary64
end Backtrack
