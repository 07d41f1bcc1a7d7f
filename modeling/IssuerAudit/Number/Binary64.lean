/-!
Numbers of the binary64 format without sign: a whole mantissa below `2 ^ 53` times a
power of two.  All arithmetic is done exactly on natural numbers and then rounded once,
to the nearest number of the format and on a tie to the one with an even mantissa.
-/

namespace IssuerAudit.Number

/-- The value `mantissa * 2 ^ exponent`. -/
structure Binary64 where
  mantissa : Nat
  exponent : Int
  deriving DecidableEq, Repr

namespace Binary64

def leastExponent : Int := -1074

def greatestExponent : Int := 971

/-- The least mantissa with all its fifty-three binary places. -/
def leastFull : Nat := 0x10000000000000

def zero : Binary64 := ⟨0, leastExponent⟩

def isZero (x : Binary64) : Bool := x.mantissa == 0

/-- A fraction `(numerator, denominator)` times `2 ^ e`, again as a fraction. -/
def shift (num den : Nat) (e : Int) : Nat × Nat :=
  match e with
  | .ofNat k => (num * Nat.pow 2 k, den)
  | .negSucc k => (num, den * Nat.pow 2 (k + 1))

/-- The quotient rounded to the nearest whole number, on a tie to the even one. -/
def roundQuotient (num den : Nat) : Nat :=
  let q := num / den
  let twice := 2 * (num % den)
  if twice < den then q
  else if twice > den then q + 1
  else if q % 2 = 0 then q else q + 1

/-- The exponent of the greatest power of two that is not above the fraction; both parts
of the fraction are positive. -/
def magnitude (num den : Nat) : Int :=
  let e : Int := (num.log2 : Int) - (den.log2 : Int)
  let (n, d) := shift num den (-e)
  if n ≥ d then e else e - 1

/-- The number of the format nearest to a fraction, or nothing if the fraction is too
great. -/
def ofFraction? (num den : Nat) : Option Binary64 :=
  if num = 0 then some zero
  else
    let e := max leastExponent (magnitude num den - 52)
    let (n, d) := shift num den (-e)
    let m := roundQuotient n d
    let (m, e) := if m = 2 * leastFull then (leastFull, e + 1) else (m, e)
    if e > greatestExponent then none else some ⟨m, e⟩

def fraction (x : Binary64) : Nat × Nat :=
  shift x.mantissa 1 x.exponent

/-- The number nearest to `10 ^ k`, for `k` at most 308. -/
def powerOfTen (k : Nat) : Binary64 :=
  (ofFraction? (Nat.pow 10 k) 1).getD zero

def mul? (x y : Binary64) : Option Binary64 :=
  ofFraction? (x.fraction.1 * y.fraction.1) (x.fraction.2 * y.fraction.2)

/-- The quotient, rounded.  A quotient by a number of at least one is never too great. -/
def div (x y : Binary64) : Binary64 :=
  (ofFraction? (x.fraction.1 * y.fraction.2) (x.fraction.2 * y.fraction.1)).getD zero

/-- Divides by `10 ^ k` in steps of at most `10 ^ 308`, rounding after each. -/
def scaleDown (x : Binary64) (k : Nat) : Binary64 :=
  if k ≤ 308 then x.div (powerOfTen k)
  else if x.isZero then x
  else scaleDown (x.div (powerOfTen 308)) (k - 308)
termination_by k
decreasing_by omega

/-- The number read from a significand and a power of ten.  The significand is rounded
first and the product or quotient once more, so the result may be off by a unit from the
nearest number; nothing if it is too great. -/
def ofDecimal? (significand : Nat) (exponent : Int) : Option Binary64 :=
  let x := (ofFraction? significand 1).getD zero
  match exponent with
  | .ofNat k =>
      if k ≤ 308 then x.mul? (powerOfTen k)
      else if x.isZero then some x
      else none
  | .negSucc k => some (x.scaleDown (k + 1))

end Binary64

end IssuerAudit.Number
