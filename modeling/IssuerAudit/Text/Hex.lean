/-!
Bytes written in hexadecimal, two digits a byte, the high half first.
-/

namespace IssuerAudit.Text

/-- The digit of a value below sixteen, with the letters `a` to `f`. -/
def lowerDigit (n : Nat) : Char :=
  if n < 10 then Char.ofNat (0x30 + n) else Char.ofNat (0x57 + n)

def upperDigit (n : Nat) : Char :=
  if n < 10 then Char.ofNat (0x30 + n) else Char.ofNat (0x37 + n)

def lowerHex (bytes : List UInt8) : List Char :=
  bytes.flatMap fun b => [lowerDigit (b.toNat / 16), lowerDigit (b.toNat % 16)]

def upperHex (bytes : List UInt8) : List Char :=
  bytes.flatMap fun b => [upperDigit (b.toNat / 16), upperDigit (b.toNat % 16)]

/-- The value of a hexadecimal digit of either case. -/
def hexValue? (c : Char) : Option Nat :=
  let n := c.toNat
  if 0x30 ≤ n ∧ n ≤ 0x39 then some (n - 0x30)
  else if 0x61 ≤ n ∧ n ≤ 0x66 then some (n - 0x57)
  else if 0x41 ≤ n ∧ n ≤ 0x46 then some (n - 0x37)
  else none

/-- The digits of a number in base sixteen with small letters and no leading zero. -/
def hexNat (n : Nat) : List Char :=
  Nat.toDigits 16 n

theorem length_upperHex (bytes : List UInt8) :
    (upperHex bytes).length = 2 * bytes.length := by
  induction bytes with
  | nil => rfl
  | cons b rest ih =>
      have step : upperHex (b :: rest) =
          upperDigit (b.toNat / 16) :: upperDigit (b.toNat % 16) :: upperHex rest := rfl
      rw [step, List.length_cons, List.length_cons, ih, List.length_cons]
      omega

theorem hexValue?_upperDigit {n : Nat} (h : n < 16) :
    hexValue? (upperDigit n) = some n := by
  have all : ∀ k : Fin 16, hexValue? (upperDigit k.val) = some k.val := by decide
  exact all ⟨n, h⟩

theorem hexValue?_lowerDigit {n : Nat} (h : n < 16) :
    hexValue? (lowerDigit n) = some n := by
  have all : ∀ k : Fin 16, hexValue? (lowerDigit k.val) = some k.val := by decide
  exact all ⟨n, h⟩

end IssuerAudit.Text
