import IssuerAudit.Text.Hex
import IssuerAudit.Text.Utf8
/-!
Percent encoding: a byte that may not stand in some part of an address is written as a
percent sign and two hexadecimal digits.  Which bytes these are depends on the part.
-/

namespace IssuerAudit.Url.Percent

/-- Holds of the characters that are encoded everywhere: controls and all beyond ASCII. -/
def isControl (c : Char) : Bool :=
  c.toNat < 0x20 || 0x7F ≤ c.toNat

def inFragment (c : Char) : Bool :=
  isControl c || c == ' ' || c == '"' || c == '<' || c == '>' || c.toNat == 0x60

def inPath (c : Char) : Bool :=
  inFragment c || c == '#' || c == '?' || c == '\x7b' || c == '\x7d'

def inUserInfo (c : Char) : Bool :=
  inPath c || ['/', ':', ';', '=', '@', '[', '\\', ']', '^', '|'].contains c

def inQuery (c : Char) : Bool :=
  isControl c || c == ' ' || c == '"' || c == '#' || c == '<' || c == '>' || c == '\''

def encodeByte (b : UInt8) : List Char :=
  '%' :: Text.upperHex [b]

/-- Encodes the characters for which `encoded` holds, byte by byte. -/
def encode (encoded : Char → Bool) (cs : List Char) : List Char :=
  cs.flatMap fun c =>
    if encoded c then (String.utf8EncodeChar c).flatMap encodeByte else [c]

/-- The bytes of a text in which encoded bytes have been put back.  A percent sign
without two digits behind it stands for itself. -/
def decode : List UInt8 → List UInt8
  | [] => []
  | p :: a :: b :: rest =>
      match p == 0x25, Text.hexValue? (Char.ofNat a.toNat),
          Text.hexValue? (Char.ofNat b.toNat) with
      | true, some x, some y => UInt8.ofNat (x * 16 + y) :: decode rest
      | _, _, _ => p :: decode (a :: b :: rest)
  | b :: rest => b :: decode rest

end IssuerAudit.Url.Percent
