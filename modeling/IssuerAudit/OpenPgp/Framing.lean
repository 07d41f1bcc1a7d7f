import IssuerAudit.OpenPgp.Header
/-!
Writing packet headers.  A body of a definite length can be framed in up to six ways,
and each of them reads back as the same kind and length (`readHeader_write?`).
-/

namespace IssuerAudit.OpenPgp

/-- A way to frame a body of a definite length: a format, and how many bytes tell the
length. -/
inductive Framing where
  | newOne
  | newTwo
  | newFive
  | oldOne
  | oldTwo
  | oldFour
  deriving DecidableEq, Repr

namespace Framing

def newLead (tag : Nat) : UInt8 := UInt8.ofNat (0xC0 + tag)

def oldLead (tag kind : Nat) : UInt8 := UInt8.ofNat (0x80 + tag * 4 + kind)

/-- The header of a body with `n` bytes, if the framing has room for the number of the
kind and for the length. -/
def write? (f : Framing) (tag n : Nat) : Option Bytes :=
  match f with
  | .newOne => if tag < 64 ∧ n < 192 then some [newLead tag, UInt8.ofNat n] else none
  | .newTwo =>
      if tag < 64 ∧ 192 ≤ n ∧ n < 8384 then
        some [newLead tag, UInt8.ofNat ((n - 192) / 256 + 192), UInt8.ofNat (n - 192)]
      else none
  | .newFive =>
      if tag < 64 ∧ n < 0x100000000 then some (newLead tag :: 255 :: bytesOfNat 4 n)
      else none
  | .oldOne =>
      if tag < 16 ∧ n < 0x100 then some (oldLead tag 0 :: bytesOfNat 1 n) else none
  | .oldTwo =>
      if tag < 16 ∧ n < 0x10000 then some (oldLead tag 1 :: bytesOfNat 2 n) else none
  | .oldFour =>
      if tag < 16 ∧ n < 0x100000000 then some (oldLead tag 2 :: bytesOfNat 4 n) else none

end Framing

theorem takeNat_append {k n : Nat} (h : n < Nat.pow 256 k) (rest : Bytes) :
    takeNat k (bytesOfNat k n ++ rest) = some (n, rest) := by
  have taken := takeBytes_append (bytesOfNat k n) rest
  rw [length_bytesOfNat] at taken
  simp [takeNat, taken, natOfBytes_bytesOfNat h]

theorem readHeader_newLead {tag : Nat} (h : tag < 64) (bytes : Bytes) :
    readHeader (Framing.newLead tag :: bytes) =
      (readNewExtent bytes).map fun (e, rest) => (⟨.ofNat tag, e⟩, rest) := by
  have lead : (Framing.newLead tag).toNat = 0xC0 + tag := by
    simp [Framing.newLead]
    omega
  have low : (0xC0 + tag) % 64 = tag := by omega
  have high : ¬ 0xC0 + tag < 0x80 := by omega
  have new : ¬ 0xC0 + tag < 0xC0 := by omega
  simp only [readHeader, lead, high, new, low, if_false]

theorem readHeader_oldLead {tag kind : Nat} (htag : tag < 16) (hkind : kind < 4)
    (bytes : Bytes) :
    readHeader (Framing.oldLead tag kind :: bytes) =
      (readOldExtent kind bytes).map fun (e, rest) => (⟨.ofNat tag, e⟩, rest) := by
  have lead : (Framing.oldLead tag kind).toNat = 0x80 + tag * 4 + kind := by
    simp [Framing.oldLead]
    omega
  have low : (0x80 + tag * 4 + kind) % 4 = kind := by omega
  have middle : (0x80 + tag * 4 + kind) / 4 % 16 = tag := by omega
  have high : ¬ 0x80 + tag * 4 + kind < 0x80 := by omega
  have old : 0x80 + tag * 4 + kind < 0xC0 := by omega
  simp only [readHeader, lead, high, old, low, middle, if_false, if_true]

/-- Every framing of a kind and a length reads back as that kind and that length. -/
theorem readHeader_write? {f : Framing} {tag n : Nat} {header : Bytes}
    (h : f.write? tag n = some header) (rest : Bytes) :
    readHeader (header ++ rest) = some (⟨.ofNat tag, .definite n⟩, rest) := by
  cases f with
  | newOne =>
      obtain ⟨⟨htag, hn⟩, rfl⟩ : (tag < 64 ∧ n < 192) ∧
          [Framing.newLead tag, UInt8.ofNat n] = header := by
        simpa [Framing.write?] using h
      have size : (UInt8.ofNat n).toNat = n := by
        simp
        omega
      rw [List.cons_append, readHeader_newLead htag]
      simp [readNewExtent, size, hn]
  | newTwo =>
      obtain ⟨⟨htag, hlow, hhigh⟩, rfl⟩ : (tag < 64 ∧ 192 ≤ n ∧ n < 8384) ∧
          [Framing.newLead tag, UInt8.ofNat ((n - 192) / 256 + 192),
            UInt8.ofNat (n - 192)] = header := by
        simpa [Framing.write?] using h
      have first : (UInt8.ofNat ((n - 192) / 256 + 192)).toNat =
          (n - 192) / 256 + 192 := by
        simp
        omega
      have second : (UInt8.ofNat (n - 192)).toNat = (n - 192) % 256 := by simp
      have short : ¬ (n - 192) / 256 + 192 < 192 := by omega
      have two : (n - 192) / 256 + 192 < 224 := by omega
      have value : ((n - 192) / 256 + 192 - 192) * 256 + (n - 192) % 256 + 192 = n := by
        omega
      rw [List.cons_append, readHeader_newLead htag]
      simp only [List.cons_append, List.nil_append, readNewExtent, first, second, short,
        two, takeByte, Option.map_some, value, if_true, if_false]
  | newFive =>
      obtain ⟨⟨htag, hn⟩, rfl⟩ : (tag < 64 ∧ n < 0x100000000) ∧
          Framing.newLead tag :: 255 :: bytesOfNat 4 n = header := by
        simpa [Framing.write?] using h
      rw [List.cons_append, readHeader_newLead htag]
      simp [readNewExtent, takeNat_append (k := 4) hn]
  | oldOne =>
      obtain ⟨⟨htag, hn⟩, rfl⟩ : (tag < 16 ∧ n < 0x100) ∧
          Framing.oldLead tag 0 :: bytesOfNat 1 n = header := by
        simpa [Framing.write?] using h
      rw [List.cons_append, readHeader_oldLead htag (by decide)]
      simp [readOldExtent, takeNat_append (k := 1) hn]
  | oldTwo =>
      obtain ⟨⟨htag, hn⟩, rfl⟩ : (tag < 16 ∧ n < 0x10000) ∧
          Framing.oldLead tag 1 :: bytesOfNat 2 n = header := by
        simpa [Framing.write?] using h
      rw [List.cons_append, readHeader_oldLead htag (by decide)]
      simp [readOldExtent, takeNat_append (k := 2) hn]
  | oldFour =>
      obtain ⟨⟨htag, hn⟩, rfl⟩ : (tag < 16 ∧ n < 0x100000000) ∧
          Framing.oldLead tag 2 :: bytesOfNat 4 n = header := by
        simpa [Framing.write?] using h
      rw [List.cons_append, readHeader_oldLead htag (by decide)]
      simp [readOldExtent, takeNat_append (k := 4) hn]

end IssuerAudit.OpenPgp
