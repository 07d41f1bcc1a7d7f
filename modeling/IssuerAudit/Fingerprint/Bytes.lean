import IssuerAudit.Fingerprint
import IssuerAudit.Text.Utf8
/-!
The search for an issuer fingerprint in bytes that were never taken for text.  Marker
and digits are characters of ASCII, so they can be looked for byte by byte.
-/

namespace IssuerAudit.Fingerprint

/-- The lines of bytes, cut at line feeds. -/
def byteLines : List UInt8 → List (List UInt8)
  | [] => [[]]
  | b :: rest =>
      if b = 0x0A then [] :: byteLines rest
      else
        match byteLines rest with
        | [] => [[b]]
        | first :: more => (b :: first) :: more

def occursInBytes (part : List UInt8) : List UInt8 → Bool
  | [] => part.isEmpty
  | b :: rest => part.isPrefixOf (b :: rest) || occursInBytes part rest

/-- The character of a byte of ASCII, as a capital if it is a letter. -/
def upperByte (b : UInt8) : Char :=
  (Char.ofNat b.toNat).toUpper

/-- Holds of the bytes that are hexadecimal digits of either case. -/
def isHexByte (b : UInt8) : Bool :=
  b.toNat < 0x80 && isCapitalHex (upperByte b)

/-- The leftmost block of `n` hexadecimal digits, in capitals. -/
def firstByteRun? (n : Nat) : List UInt8 → Option (List Char)
  | [] => if n = 0 then some [] else none
  | b :: rest =>
      let window := (b :: rest).take n
      if window.length = n && window.all isHexByte then some (window.map upperByte)
      else firstByteRun? n rest

def markerBytes : List UInt8 :=
  Text.Utf8.encode marker

def ofByteLine? (line : List UInt8) : Option (List Char) :=
  if occursInBytes markerBytes line then firstByteRun? digits line else none

def ofBytes? (bytes : List UInt8) : Option (List Char) :=
  (byteLines bytes).findSome? ofByteLine?

end IssuerAudit.Fingerprint
