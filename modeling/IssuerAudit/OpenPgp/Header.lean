import IssuerAudit.OpenPgp.Bytes
import IssuerAudit.OpenPgp.Tag
/-!
Packet headers: what kind of packet follows and how long its body is.  There are two
formats, told apart by the second highest bit of the first byte; the highest bit is
always set.
-/

namespace IssuerAudit.OpenPgp

inductive Extent where
  | definite (n : Nat)
  /-- The body comes in chunks, of which the first has that many bytes; a length stands
  in front of each of the others. -/
  | chunked (first : Nat)
  /-- The body takes all that is left. -/
  | endless
  deriving DecidableEq, Repr

structure Header where
  tag : Tag
  extent : Extent
  deriving DecidableEq, Repr

/-- Reads a length of the new format, which has one, two or five bytes, or is that of a
chunk. -/
def readNewExtent : Reader Extent
  | [] => none
  | b :: rest =>
      let n := b.toNat
      if n < 192 then some (.definite n, rest)
      else if n < 224 then
        (takeByte rest).map fun (c, rest) =>
          (.definite ((n - 192) * 256 + c.toNat + 192), rest)
      else if n < 255 then some (.chunked (Nat.pow 2 (n - 224)), rest)
      else (takeNat 4 rest).map fun (n, rest) => (.definite n, rest)

/-- Reads a length of the old format, whose size is told by `kind`. -/
def readOldExtent (kind : Nat) : Reader Extent := fun bytes =>
  match kind with
  | 0 => (takeNat 1 bytes).map fun (n, rest) => (.definite n, rest)
  | 1 => (takeNat 2 bytes).map fun (n, rest) => (.definite n, rest)
  | 2 => (takeNat 4 bytes).map fun (n, rest) => (.definite n, rest)
  | _ => some (.endless, bytes)

def readHeader : Reader Header
  | [] => none
  | b :: rest =>
      let n := b.toNat
      if n < 0x80 then none
      else if n < 0xC0 then
        (readOldExtent (n % 4) rest).map fun (e, rest) => (⟨.ofNat (n / 4 % 16), e⟩, rest)
      else (readNewExtent rest).map fun (e, rest) => (⟨.ofNat (n % 64), e⟩, rest)

/-- The lengths that a body of a kind may have; a packet that comes first in a stream is
looked at more closely. -/
def lengthAllowed (leads : Bool) (tag : Tag) (n : Nat) : Bool :=
  match tag with
  | .signature => 10 ≤ n && n < 196618
  | .symmetricEncrypted => 3 ≤ n && n < 10240
  | .publicEncrypted => 10 < n && n < 10240
  | .onePass => if leads then n == 13 else n < 1024
  | .publicKey | .publicSubkey | .secretKey | .secretSubkey => 6 < n && n < 1048576
  | .userId => n < 32768
  | .userAttribute => 2 ≤ n
  | .modificationCode => n == 20
  | .marker => n == 3
  | .literal => 6 ≤ n
  | .compressed => 1 ≤ n
  | .encrypted => 16 ≤ n
  | .encryptedIntegrity => 37 ≤ n
  | _ => true

def leastChunk : Nat := 512

/-- The greatest length of a body that does not hold data. -/
def greatestLength : Nat := 1048576

/-- Holds if a packet may have a header.  Only kinds that hold data may come in chunks
or without a length. -/
def Header.isValid (leads : Bool) (h : Header) : Bool :=
  match h.tag with
  | .reserved => false
  | .unassigned _ | .privateUse _ =>
      !leads && (match h.extent with | .definite _ => true | _ => false)
  | tag =>
      match h.extent with
      | .definite n => lengthAllowed leads tag n
      | .chunked first => tag.holdsData && leastChunk ≤ first
      | .endless => tag.holdsData

def Header.isModest (h : Header) : Bool :=
  match h.extent with
  | .definite n => h.tag.holdsData || n ≤ greatestLength
  | _ => true

/-- A body taken off a stream. -/
structure Framed where
  body : Bytes
  complete : Bool
  rest : Bytes
  deriving DecidableEq, Repr

def Framed.ofLength (n : Nat) (bytes : Bytes) : Framed :=
  let body := bytes.take n
  ⟨body, body.length == n, bytes.drop n⟩

def Framed.prepend (chunk : Bytes) (f : Framed) : Framed :=
  { f with body := chunk ++ f.body }

/-- Takes a body that comes in chunks; `size` is that of the next chunk, and `fuel`
bounds how many there are. -/
def Framed.ofChunks (fuel size : Nat) (bytes : Bytes) : Framed :=
  match fuel with
  | 0 => ⟨bytes, false, []⟩
  | fuel + 1 =>
      let chunk := bytes.take size
      if chunk.length < size then ⟨bytes, false, []⟩
      else
        match readNewExtent (bytes.drop size) with
        | none => ⟨chunk, false, []⟩
        | some (.definite n, rest) => (ofLength n rest).prepend chunk
        | some (.chunked n, rest) => (ofChunks fuel n rest).prepend chunk
        | some (.endless, rest) => ⟨chunk ++ rest, true, []⟩

def Framed.take (e : Extent) (bytes : Bytes) : Framed :=
  match e with
  | .definite n => .ofLength n bytes
  | .chunked n => .ofChunks (bytes.length + 1) n bytes
  | .endless => ⟨bytes, true, []⟩

end IssuerAudit.OpenPgp
