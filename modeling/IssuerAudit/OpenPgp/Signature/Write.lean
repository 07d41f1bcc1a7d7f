import IssuerAudit.OpenPgp.Signature
/-!
Writing signatures of version 4.  The length of a subpacket can be written in up to
three ways, which all read back as the same length (`readSubpacketLength_write?`).
-/

namespace IssuerAudit.OpenPgp

inductive LengthForm where
  | one
  | two
  | five
  deriving DecidableEq, Repr

/-- A length as it is written, if the form has room for it. -/
def LengthForm.write? (form : LengthForm) (n : Nat) : Option Bytes :=
  match form with
  | .one => if n < 192 then some [UInt8.ofNat n] else none
  | .two =>
      if 192 ≤ n ∧ n < 16320 then
        some [UInt8.ofNat ((n - 192) / 256 + 192), UInt8.ofNat (n - 192)]
      else none
  | .five => if n < 0x100000000 then some (255 :: bytesOfNat 4 n) else none

/-- The byte that tells the kind of a subpacket and whether it is critical. -/
def Subpacket.kindByte (p : Subpacket) : UInt8 :=
  UInt8.ofNat (if p.critical then p.kind + 128 else p.kind)

def Subpacket.write? (form : LengthForm) (p : Subpacket) : Option Bytes :=
  (form.write? (p.body.length + 1)).map fun length => length ++ p.kindByte :: p.body

/-- Subpackets as they are written, each with a form of its own. -/
def writeArea? (ps : List (LengthForm × Subpacket)) : Option Bytes :=
  match ps with
  | [] => some []
  | (form, p) :: rest => do
    let bytes ← p.write? form
    let more ← writeArea? rest
    some (bytes ++ more)

/-- The body of a signature of version 4, with areas that are written already and with
its numbers. -/
def Signature.write (s : Signature) (hashed unhashed numbers : Bytes) : Bytes :=
  4 :: s.sort :: UInt8.ofNat s.keyAlgorithm :: UInt8.ofNat s.hashAlgorithm ::
    (bytesOfNat 2 hashed.length ++ hashed ++ bytesOfNat 2 unhashed.length ++ unhashed ++
      s.digest.1 :: s.digest.2 :: numbers)

/-- Every form of a length reads back as that length. -/
theorem readSubpacketLength_write? {form : LengthForm} {n : Nat} {bytes : Bytes}
    (h : form.write? n = some bytes) (rest : Bytes) :
    readSubpacketLength (bytes ++ rest) = some (n, rest) := by
  cases form with
  | one =>
      obtain ⟨hn, rfl⟩ : n < 192 ∧ [UInt8.ofNat n] = bytes := by
        simpa [LengthForm.write?] using h
      have size : (UInt8.ofNat n).toNat = n := by
        simp
        omega
      simp only [List.cons_append, List.nil_append, readSubpacketLength, size, hn,
        if_true]
  | two =>
      obtain ⟨⟨hlow, hhigh⟩, rfl⟩ : (192 ≤ n ∧ n < 16320) ∧
          [UInt8.ofNat ((n - 192) / 256 + 192), UInt8.ofNat (n - 192)] = bytes := by
        simpa [LengthForm.write?] using h
      have first : (UInt8.ofNat ((n - 192) / 256 + 192)).toNat =
          (n - 192) / 256 + 192 := by
        simp
        omega
      have second : (UInt8.ofNat (n - 192)).toNat = (n - 192) % 256 := by simp
      have short : ¬ (n - 192) / 256 + 192 < 192 := by omega
      have two : (n - 192) / 256 + 192 < 255 := by omega
      have value : ((n - 192) / 256 + 192 - 192) * 256 + (n - 192) % 256 + 192 = n := by
        omega
      simp only [List.cons_append, List.nil_append, readSubpacketLength, first, second,
        short, two, takeByte, Option.map_some, value, if_true, if_false]
  | five =>
      obtain ⟨hn, rfl⟩ : n < 0x100000000 ∧ 255 :: bytesOfNat 4 n = bytes := by
        simpa [LengthForm.write?] using h
      have taken := takeBytes_append (bytesOfNat 4 n) rest
      rw [length_bytesOfNat] at taken
      simp [readSubpacketLength, takeNat, taken, natOfBytes_bytesOfNat (k := 4) hn]

end IssuerAudit.OpenPgp
