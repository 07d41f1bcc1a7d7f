/-!
Reading fields off the front of a byte string.  A reader gives the field and the bytes
behind it, or nothing if the field is not there or not allowed.
-/

namespace IssuerAudit.OpenPgp

abbrev Bytes : Type := List UInt8

/-- Takes a field off the front of a byte string. -/
abbrev Reader (α : Type) : Type :=
  Bytes → Option (α × Bytes)

/-- The number that bytes write in base 256, the greatest place first. -/
def natOfBytes (bytes : Bytes) : Nat :=
  bytes.foldl (fun n b => n * 256 + b.toNat) 0

/-- The last `k` places of a number in base 256, the greatest first. -/
def bytesOfNat : Nat → Nat → Bytes
  | 0, _ => []
  | k + 1, n => bytesOfNat k (n / 256) ++ [UInt8.ofNat n]

def takeByte : Reader UInt8
  | [] => none
  | b :: rest => some (b, rest)

def takeBytes (n : Nat) : Reader Bytes := fun bytes =>
  let field := bytes.take n
  if field.length = n then some (field, bytes.drop n) else none

def takeNat (k : Nat) : Reader Nat := fun bytes =>
  (takeBytes k bytes).map fun (field, rest) => (natOfBytes field, rest)

def takeEach {α : Type} (read : Reader α) : Nat → Reader (List α)
  | 0, bytes => some ([], bytes)
  | n + 1, bytes =>
      match read bytes with
      | none => none
      | some (x, rest) => (takeEach read n rest).map fun (xs, rest) => (x :: xs, rest)

theorem length_bytesOfNat (k n : Nat) : (bytesOfNat k n).length = k := by
  induction k generalizing n with
  | zero => rfl
  | succ k ih =>
      have step : bytesOfNat (k + 1) n = bytesOfNat k (n / 256) ++ [UInt8.ofNat n] := rfl
      rw [step, List.length_append, ih]
      rfl

theorem natOfBytes_append (xs : Bytes) (b : UInt8) :
    natOfBytes (xs ++ [b]) = natOfBytes xs * 256 + b.toNat := by
  simp [natOfBytes]

theorem natOfBytes_bytesOfNat {k n : Nat} (h : n < Nat.pow 256 k) :
    natOfBytes (bytesOfNat k n) = n := by
  induction k generalizing n with
  | zero =>
      have zero : n = 0 := by simpa using h
      rw [zero]
      rfl
  | succ k ih =>
      have step : bytesOfNat (k + 1) n = bytesOfNat k (n / 256) ++ [UInt8.ofNat n] := rfl
      have high : n / 256 < Nat.pow 256 k := by
        have power : Nat.pow 256 (k + 1) = Nat.pow 256 k * 256 := rfl
        rw [power] at h
        exact Nat.div_lt_of_lt_mul (by omega)
      have low : (UInt8.ofNat n).toNat = n % 256 := by simp
      rw [step, natOfBytes_append, ih high, low]
      omega

theorem takeBytes_append (xs rest : Bytes) :
    takeBytes xs.length (xs ++ rest) = some (xs, rest) := by
  simp [takeBytes]

end IssuerAudit.OpenPgp
