/-!
# Numbers of double precision

A number of double precision is kept exactly: its sign, its mantissa and its binary exponent.
`ofDecimal` rounds a decimal number to the nearest one, a tie to the even mantissa; `text` writes
the fewest digits that read back as the same number.
-/

namespace StructSchema

/-- A number of double precision; a finite one is `mantissa * 2 ^ exponent`. -/
inductive Binary64 where
  | nan
  | infinity (negative : Bool)
  | finite (negative : Bool) (mantissa : Nat) (exponent : Int)
  deriving DecidableEq, Repr

namespace Binary64

/-- The least binary exponent, that of the subnormal numbers. -/
def minExponent : Int := -1074

/-- The greatest binary exponent. -/
def maxExponent : Int := 971

/-- The least mantissa of full precision, of 53 binary digits. -/
def leastFull : Nat := 0x10000000000000

/-- The number of decimal digits of a number; one for zero. -/
def decimalLength (n : Nat) : Nat := (Nat.toDigits 10 n).length

/-- The quotient rounded to the nearest integer, a tie to the even one. -/
def roundQuotient (num den : Nat) : Nat :=
  let q := num / den
  let r := num % den
  if 2 * r < den then q
  else if den < 2 * r then q + 1
  else if q % 2 = 0 then q else q + 1

/-- The fraction `num / den` times a power of the base. -/
def scale (base : Nat) (num den : Nat) (power : Int) : Nat × Nat :=
  if 0 ≤ power then (num * Nat.pow base power.toNat, den)
  else (num, den * Nat.pow base (-power).toNat)

/-- The binary exponent of the number nearest to the positive fraction `num / den`. -/
def exponentOf (num den : Nat) : Int :=
  let e : Int := (num.log2 : Int) - den.log2 - 53
  let (n, d) := scale 2 num den (-e)
  max minExponent (if 2 * leastFull ≤ n / d then e + 1 else e)

/-- The number nearest to the positive fraction `num / den`. -/
def ofFraction (negative : Bool) (num den : Nat) : Binary64 :=
  let e := exponentOf num den
  let (n, d) := scale 2 num den (-e)
  let m := roundQuotient n d
  let (m, e) := if m = 2 * leastFull then (leastFull, e + 1) else (m, e)
  if maxExponent < e then .infinity negative else .finite negative m e

/-- The number nearest to `digits * 10 ^ power`. -/
def ofDecimal (negative : Bool) (digits : Nat) (power : Int) : Binary64 :=
  let size := decimalLength digits + power
  if digits = 0 ∨ size < -330 then .finite negative 0 minExponent
  else if 330 < size then .infinity negative
  else
    let (n, d) := scale 10 digits 1 power
    ofFraction negative n d

/-- Whether the fraction `num / den` rounds to the positive number `m * 2 ^ e`: it is at most half
the distance to either neighbour away, and at exactly half only when `m` is even. -/
def roundsTo (m : Nat) (e : Int) (num den : Nat) : Bool :=
  let (n, d) := scale 2 num den (2 - e)
  let low := if m = leastFull ∧ minExponent < e then 4 * m - 1 else 4 * m - 2
  let high := 4 * m + 2
  if m % 2 = 0 then low * d ≤ n && n ≤ high * d else low * d < n && n < high * d

/-- The decimal exponent of the positive fraction `num / den`. -/
def decimalExponent (num den : Nat) : Int :=
  let e : Int := (decimalLength num : Int) - decimalLength den
  let (n, d) := scale 10 num den (-e)
  if d ≤ n then e else e - 1

/-- The nearest of the two neighbours of `m * 2 ^ e` on the grid of `count` decimal digits, if one
of them rounds to that number: its digits and the power of ten. -/
def onGrid? (m : Nat) (e : Int) (count : Nat) : Option (Nat × Int) :=
  let (num, den) := scale 2 m 1 e
  let power := decimalExponent num den - count + 1
  let (n, d) := scale 10 num den (-power)
  let fits (c : Nat) : Bool :=
    let (cn, cd) := scale 10 c 1 power
    roundsTo m e cn cd
  let near := roundQuotient n d
  let other := if near * d ≤ n then near + 1 else near - 1
  if fits near then some (near, power) else if fits other then some (other, power) else none

/-- The shortest decimal number that rounds to the positive number `m * 2 ^ e`. -/
def shortest (m : Nat) (e : Int) : Nat × Int :=
  ((List.range 17).findSome? fun i => onGrid? m e (i + 1)).getD (m, 0)

/-- The digits of a number without the zeros at its end. -/
def significantDigits (n : Nat) : List Char :=
  ((Nat.toDigits 10 n).reverse.dropWhile (· == '0')).reverse

/-- The exponent part of scientific notation: a sign and at least two digits. -/
def exponentText (e : Int) : List Char :=
  let digits := Nat.toDigits 10 e.natAbs
  'e' :: (if e < 0 then '-' else '+') :: (if digits.length < 2 then '0' :: digits else digits)

/-- Digits with the point after the first one, at decimal exponent `e`: positional from the
fourth place after the point to the sixteenth before it, else scientific. -/
def layout (digits : List Char) (e : Int) : List Char :=
  if -4 ≤ e ∧ e < 0 then
    '0' :: '.' :: (List.replicate (-e - 1).toNat '0' ++ digits)
  else if 0 ≤ e ∧ e < 16 then
    let whole := e.toNat + 1
    if digits.length ≤ whole then
      digits ++ List.replicate (whole - digits.length) '0' ++ ['.', '0']
    else digits.take whole ++ '.' :: digits.drop whole
  else
    match digits with
    | [] => exponentText e
    | [d] => d :: exponentText e
    | d :: more => d :: '.' :: (more ++ exponentText e)

/-- The shortest text that reads back as the number. -/
def text : Binary64 → String
  | nan => "nan"
  | infinity negative => if negative then "-inf" else "inf"
  | finite negative m e =>
    let body :=
      if m = 0 then ['0', '.', '0']
      else
        let (digits, power) := shortest m e
        layout (significantDigits digits) (power + decimalLength digits - 1)
    String.ofList (if negative then '-' :: body else body)

/-- Whether the number is zero. -/
def isZero : Binary64 → Bool
  | finite _ m _ => m == 0
  | _ => false

end Binary64

end StructSchema
