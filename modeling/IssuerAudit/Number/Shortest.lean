import IssuerAudit.Number.Binary64
/-!
Decimal text of a binary64 number: the fewest digits that still name the number, and
among those the digits nearest to it.

A decimal names the number if it lies in the interval of reals that round to it.  The
two ends of that interval belong to it exactly if the mantissa is even.
-/

namespace IssuerAudit.Number

/-- The decimal `digits * 10 ^ exponent`. -/
structure Decimal where
  digits : Nat
  exponent : Int
  deriving DecidableEq, Repr

def Decimal.fraction (d : Decimal) : Nat × Nat :=
  match d.exponent with
  | .ofNat k => (d.digits * Nat.pow 10 k, 1)
  | .negSucc k => (d.digits, Nat.pow 10 (k + 1))

namespace Binary64

/-- Four times the lower end, the value and the upper end of the interval of reals that
round to the number, all over the same denominator, which comes last.  Below a power of
two the numbers lie twice as close, so there the lower end is at half the distance. -/
def interval (x : Binary64) : Nat × Nat × Nat × Nat :=
  let lower := if x.mantissa = leastFull ∧ x.exponent > leastExponent then 1 else 2
  let (unit, den) := shift 1 1 x.exponent
  (4 * x.mantissa * unit - lower * unit, 4 * x.mantissa * unit,
    4 * x.mantissa * unit + 2 * unit, den)

def isNamedBy (x : Binary64) (d : Decimal) : Bool :=
  let (low, _, high, den) := x.interval
  let (n, m) := d.fraction
  let here := 4 * n * den
  if x.mantissa % 2 = 0 then low * m ≤ here && here ≤ high * m
  else low * m < here && here < high * m

/-- The distance of a decimal from the number, as a numerator over a denominator that
depends on the exponent of the decimal alone. -/
def distance (x : Binary64) (d : Decimal) : Nat :=
  let (_, value, _, den) := x.interval
  let (n, m) := d.fraction
  let here := 4 * n * den
  let there := value * m
  (here - there) + (there - here)

/-- The greatest decimal with the given exponent that is not above the number. -/
def floorOn (x : Binary64) (exponent : Int) : Decimal :=
  let (n, d) := x.fraction
  match exponent with
  | .ofNat k => ⟨n / (d * Nat.pow 10 k), exponent⟩
  | .negSucc k => ⟨n * Nat.pow 10 (k + 1) / d, exponent⟩

/-- The decimal with the given exponent that names the number, if there is one; of two
neighbours the nearer, and on a tie the one with an even last digit. -/
def onGrid? (x : Binary64) (exponent : Int) : Option Decimal :=
  let below := x.floorOn exponent
  let above : Decimal := ⟨below.digits + 1, exponent⟩
  match x.isNamedBy below && below.digits != 0, x.isNamedBy above with
  | true, true =>
      if x.distance below < x.distance above then some below
      else if x.distance above < x.distance below then some above
      else if below.digits % 2 = 0 then some below else some above
  | true, false => some below
  | false, true => some above
  | false, false => none

/-- The exponent of the greatest power of ten that is not above the number, which is
positive. -/
def decimalMagnitude (x : Binary64) : Int :=
  let (n, d) := x.fraction
  if n ≥ d then (((Nat.toDigits 10 (n / d)).length : Nat) : Int) - 1
  else
    let places := ((List.range 330).find? fun k => n * Nat.pow 10 k ≥ d).getD 330
    Int.negOfNat places

/-- The shortest decimal that names the number: the coarsest of the grids for one to
seventeen digits on which a decimal names it. -/
def shortest (x : Binary64) : Decimal :=
  let top := x.decimalMagnitude
  ((List.range 17).findSome? fun k => x.onGrid? (top - (k : Nat))).getD
    (x.floorOn (top - 16))

end Binary64

/-- A decimal whose last digit is not zero, unless it is zero itself; `fuel` bounds the
number of zeros taken away. -/
def Decimal.strip (fuel : Nat) (d : Decimal) : Decimal :=
  match fuel with
  | 0 => d
  | fuel + 1 =>
      if d.digits ≠ 0 ∧ d.digits % 10 = 0 then strip fuel ⟨d.digits / 10, d.exponent + 1⟩
      else d

/-- The text of a number.  Numbers from `10 ^ -5` up to below `10 ^ 16` are written out,
always with a point; the others with one digit before the point and a power of ten. -/
def floatText (negative : Bool) (x : Binary64) : List Char :=
  let sign := if negative then ['-'] else []
  if x.isZero then sign ++ ['0', '.', '0']
  else
    let d := x.shortest.strip 17
    let ds := Nat.toDigits 10 d.digits
    -- The number is below ten to the power of `point`.
    let point : Int := ds.length + d.exponent
    if 0 ≤ d.exponent ∧ point ≤ 16 then
      sign ++ ds ++ List.replicate d.exponent.toNat '0' ++ ['.', '0']
    else if 0 < point ∧ point ≤ 16 then
      sign ++ ds.take point.toNat ++ '.' :: ds.drop point.toNat
    else if -5 < point ∧ point ≤ 0 then
      sign ++ ['0', '.'] ++ List.replicate (-point).toNat '0' ++ ds
    else
      let power := point - 1
      let fractional := if ds.length = 1 then [] else '.' :: ds.drop 1
      let powerSign := if power < 0 then '-' else '+'
      sign ++ ds.take 1 ++ fractional ++ 'e' :: powerSign :: Nat.toDigits 10 power.natAbs

end IssuerAudit.Number
