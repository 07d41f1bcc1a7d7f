import IssuerAudit.OpenPgp.Armor
/-!
Writing ASCII armor: the opening line, a blank line, the data in base 64 in lines of
sixty-four digits, the checksum, and the closing line.
-/

namespace IssuerAudit.OpenPgp.Armor

def checksumPolynomial : Nat := 0x1864CFB

/-- The checksum of no bytes. -/
def checksumStart : Nat := 0xB704CE

/-- Shifts a checksum by one place and reduces it to twenty-four bits. -/
def shiftChecksum (n : Nat) : Nat :=
  let shifted := n * 2
  if shifted < 0x1000000 then shifted else Nat.xor shifted checksumPolynomial % 0x1000000

def addToChecksum (n : Nat) (b : UInt8) : Nat :=
  Nat.repeat shiftChecksum 8 (Nat.xor n (b.toNat * 0x10000))

def checksumOf (data : Bytes) : Nat :=
  data.foldl addToChecksum checksumStart

/-- The number of digits in a line. -/
def lineSize : Nat := 64

/-- Bytes in lines of at most `lineSize` bytes; `fuel` bounds how many lines there are. -/
def writeLines : Nat → Bytes → Bytes
  | 0, _ => []
  | _, [] => []
  | fuel + 1, b :: bytes =>
      (b :: bytes).take lineSize ++ 0x0A :: writeLines fuel ((b :: bytes).drop lineSize)

def writeBoundary (lead : String) (content : Content) : Bytes :=
  Text.Utf8.bytesOf ("-----" ++ lead ++ content.words ++ "-----\n")

def write (content : Content) (data : Bytes) : Bytes :=
  let digits := Text.Base64.encode data
  writeBoundary "BEGIN PGP " content ++ [0x0A] ++ writeLines digits.length digits ++
    Text.Base64.pad :: Text.Base64.encode (bytesOfNat 3 (checksumOf data)) ++ [0x0A] ++
    writeBoundary "END PGP " content

end IssuerAudit.OpenPgp.Armor
