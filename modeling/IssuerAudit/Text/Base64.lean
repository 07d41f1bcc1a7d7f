/-!
Bytes written in base 64: three bytes become four digits of six bits, the high bits
first.  At the end one byte becomes two digits and two bytes become three, and equal
signs fill up the four places.  The digits are characters of ASCII and stand here as
bytes.
-/

namespace IssuerAudit.Text.Base64

/-- The sign that fills up the last four places. -/
def pad : UInt8 := 0x3D

def value? (b : UInt8) : Option Nat :=
  let n := b.toNat
  if 0x41 ≤ n ∧ n ≤ 0x5A then some (n - 0x41)
  else if 0x61 ≤ n ∧ n ≤ 0x7A then some (n - 0x61 + 26)
  else if 0x30 ≤ n ∧ n ≤ 0x39 then some (n - 0x30 + 52)
  else if n = 0x2B then some 62
  else if n = 0x2F then some 63
  else none

def digit (n : Nat) : UInt8 :=
  if n < 26 then UInt8.ofNat (n + 0x41)
  else if n < 52 then UInt8.ofNat (n - 26 + 0x61)
  else if n < 62 then UInt8.ofNat (n - 52 + 0x30)
  else if n = 62 then 0x2B
  else 0x2F

def isDigit (b : UInt8) : Bool :=
  (value? b).isSome

/-- The bytes that four places stand for.  Bits that belong to no byte have to be zero. -/
def quad? (a b c d : UInt8) : Option (List UInt8) := do
  let a ← value? a
  let b ← value? b
  let first := UInt8.ofNat (a * 4 + b / 16)
  if c = pad then
    if d = pad ∧ b % 16 = 0 then some [first] else none
  else
    let c ← value? c
    let second := UInt8.ofNat (b % 16 * 16 + c / 4)
    if d = pad then
      if c % 4 = 0 then some [first, second] else none
    else
      let d ← value? d
      some [first, second, UInt8.ofNat (c % 4 * 64 + d)]

/-- The bytes that a text stands for, if it is made up of whole fours. -/
def decode? : List UInt8 → Option (List UInt8)
  | [] => some []
  | a :: b :: c :: d :: rest =>
      match quad? a b c d with
      | none => none
      | some bytes => (decode? rest).map (bytes ++ ·)
  | _ => none

def encode : List UInt8 → List UInt8
  | [] => []
  | [x] =>
      let n := x.toNat
      [digit (n / 4), digit (n % 4 * 16), pad, pad]
  | [x, y] =>
      let n := x.toNat
      let m := y.toNat
      [digit (n / 4), digit (n % 4 * 16 + m / 16), digit (m % 16 * 4), pad]
  | x :: y :: z :: rest =>
      let n := x.toNat
      let m := y.toNat
      let k := z.toNat
      digit (n / 4) :: digit (n % 4 * 16 + m / 16) :: digit (m % 16 * 4 + k / 64) ::
        digit (k % 64) :: encode rest

theorem value?_digit {n : Nat} (h : n < 64) : value? (digit n) = some n := by
  have all : ∀ k : Fin 64, value? (digit k.val) = some k.val := by decide
  exact all ⟨n, h⟩

theorem digit_ne_pad {n : Nat} (h : n < 64) : digit n ≠ pad := by
  have all : ∀ k : Fin 64, digit k.val ≠ pad := by decide
  exact all ⟨n, h⟩

private theorem ofNat_eq_of_toNat {x : UInt8} {n : Nat} (h : n = x.toNat) :
    UInt8.ofNat n = x := by
  subst h
  exact UInt8.ofNat_toNat

/-- Every byte string is read back from the text that stands for it. -/
theorem decode?_encode (bytes : List UInt8) : decode? (encode bytes) = some bytes := by
  fun_induction encode bytes with
  | case1 => rfl
  | case2 x n =>
      have hx : n < 256 := x.toNat_lt
      have first := value?_digit (show n / 4 < 64 by omega)
      have second := value?_digit (show n % 4 * 16 < 64 by omega)
      simp [decode?, quad?, first, second, -UInt8.ofNat_add, -UInt8.ofNat_mul]
      exact ofNat_eq_of_toNat (by omega)
  | case3 x y n m =>
      have hx : n < 256 := x.toNat_lt
      have hy : m < 256 := y.toNat_lt
      have first := value?_digit (show n / 4 < 64 by omega)
      have second := value?_digit (show n % 4 * 16 + m / 16 < 64 by omega)
      have third := value?_digit (show m % 16 * 4 < 64 by omega)
      have notPad := digit_ne_pad (show m % 16 * 4 < 64 by omega)
      simp [decode?, quad?, first, second, third, notPad, -UInt8.ofNat_add,
        -UInt8.ofNat_mul]
      exact ⟨ofNat_eq_of_toNat (by omega), ofNat_eq_of_toNat (by omega)⟩
  | case4 x y z rest n m k ih =>
      have hx : n < 256 := x.toNat_lt
      have hy : m < 256 := y.toNat_lt
      have hz : k < 256 := z.toNat_lt
      have first := value?_digit (show n / 4 < 64 by omega)
      have second := value?_digit (show n % 4 * 16 + m / 16 < 64 by omega)
      have third := value?_digit (show m % 16 * 4 + k / 64 < 64 by omega)
      have fourth := value?_digit (show k % 64 < 64 by omega)
      have thirdNotPad := digit_ne_pad (show m % 16 * 4 + k / 64 < 64 by omega)
      have fourthNotPad := digit_ne_pad (show k % 64 < 64 by omega)
      simp [decode?, quad?, first, second, third, fourth, thirdNotPad, fourthNotPad, ih,
        -UInt8.ofNat_add, -UInt8.ofNat_mul]
      exact ⟨ofNat_eq_of_toNat (by omega), ofNat_eq_of_toNat (by omega),
        ofNat_eq_of_toNat (by omega)⟩

end IssuerAudit.Text.Base64
