import IssuerAudit.OpenPgp.Bytes
import IssuerAudit.Text.Utf8
/-!
Signatures and their subpackets.

A subpacket is kept with its body as it stands; whether a body has the form that its
kind asks for is checked while it is read, so a signature that has been read has only
well-formed subpackets.
-/

namespace IssuerAudit.OpenPgp

structure Subpacket where
  /-- Whether a reader has to understand it. -/
  critical : Bool
  /-- The number of its kind, below 128. -/
  kind : Nat
  body : Bytes
  deriving DecidableEq, Repr

/-- The kind of a subpacket that tells when the signature was made. -/
def createdKind : Nat := 2

def issuerKind : Nat := 16

/-- The kind of a subpacket that holds a signature of its own. -/
def embeddedKind : Nat := 32

def issuerFingerprintKind : Nat := 33

structure Signature where
  version : Nat
  sort : UInt8
  keyAlgorithm : Nat
  hashAlgorithm : Nat
  /-- The subpackets that are signed themselves. -/
  hashed : List Subpacket
  unhashed : List Subpacket
  /-- The first two bytes of the digest. -/
  digest : UInt8 × UInt8
  deriving DecidableEq, Repr

/-- Reads a number of any size: a count of bits and the bytes that hold them.  The bits
of the first byte beyond the count are zero and the highest bit counted is one. -/
def readMpi : Reader Bytes := fun bytes =>
  match takeNat 2 bytes with
  | none => none
  | some (bits, rest) =>
      match takeBytes ((bits + 7) / 8) rest with
      | none => none
      | some ([], rest) => some ([], rest)
      | some (first :: more, rest) =>
          let used := (bits - 1) % 8
          if Nat.pow 2 used ≤ first.toNat ∧ first.toNat < Nat.pow 2 (used + 1) then
            some (first :: more, rest)
          else none

def cannotSign (algorithm : Nat) : Bool :=
  algorithm == 2 || algorithm == 16 || algorithm == 18

/-- Reads the numbers of a signature.  Of an algorithm that is not known all that is
left is taken. -/
def readSignatureNumbers (algorithm : Nat) : Reader Unit := fun bytes =>
  let numbers (n : Nat) := (takeEach readMpi n bytes).map fun (_, rest) => ((), rest)
  if algorithm = 1 ∨ algorithm = 3 then numbers 1
  else if algorithm = 17 ∨ algorithm = 19 ∨ algorithm = 20 ∨ algorithm = 22 then numbers 2
  else some ((), [])

/-- The size of a digest, for the hash algorithms whose size is known. -/
def digestSize? (algorithm : Nat) : Option Nat :=
  match algorithm with
  | 1 => some 16
  | 2 | 3 => some 20
  | 8 => some 32
  | 9 => some 48
  | 10 => some 64
  | 11 => some 28
  | _ => none

/-- Reads the length of a subpacket, which has one, two or five bytes. -/
def readSubpacketLength : Reader Nat
  | [] => none
  | b :: rest =>
      let n := b.toNat
      if n < 192 then some (n, rest)
      else if n < 255 then
        (takeByte rest).map fun (c, rest) => ((n - 192) * 256 + c.toNat + 192, rest)
      else takeNat 4 rest

/-- Holds of a version byte and a fingerprint of the size that the version asks for. -/
def isFingerprintBody : Bytes → Bool
  | [] => false
  | version :: fingerprint =>
      if version = 4 then fingerprint.length == 20
      else if version = 5 then fingerprint.length == 32
      else true

/-- Holds of a notation: flags, the sizes of name and value, and both, of which the name
is text. -/
def isNotationBody (body : Bytes) : Bool :=
  match takeBytes 4 body with
  | none => false
  | some (_, rest) =>
      match takeNat 2 rest with
      | none => false
      | some (nameSize, rest) =>
          match takeNat 2 rest with
          | none => false
          | some (valueSize, rest) =>
              rest.length == nameSize + valueSize &&
                (Text.Utf8.decode? (rest.take nameSize)).isSome

def isFlagBody (body : Bytes) : Bool :=
  body == [0] || body == [1]

/-- Holds of a body that has the form its kind asks for.  `hash` is the hash algorithm
of the signature and `isSignature` holds of the bodies of signatures. -/
def bodyFits (isSignature : Bytes → Bool) (hash kind : Nat) (body : Bytes) : Bool :=
  match kind with
  | 2 | 3 | 9 => body.length == 4
  | 4 | 7 | 25 => isFlagBody body
  | 5 => body.length == 2
  | 6 => body.getLast? == some 0
  | 12 => 22 ≤ body.length && body.head?.any fun c => 0x80 ≤ c.toNat
  | 20 => isNotationBody body
  | 29 => 1 ≤ body.length
  | 31 => 2 ≤ body.length
  | 32 => isSignature body
  | 33 | 35 => isFingerprintBody body
  | 37 =>
      match digestSize? hash with
      | none => true
      | some size => body.length % size == 0
  | _ => true

/-- Reads the subpackets of an area to its end; `fuel` bounds how many there are. -/
def readArea (isSignature : Bytes → Bool) (hash : Nat) :
    Nat → Bytes → Option (List Subpacket)
  | _, [] => some []
  | 0, _ :: _ => none
  | fuel + 1, b :: area =>
      match readSubpacketLength (b :: area) with
      | none => none
      | some (length, rest) =>
          match takeBytes length rest with
          | none => none
          | some ([], _) => none
          | some (kind :: body, rest) =>
              let number := kind.toNat % 128
              if bodyFits isSignature hash number body then
                (readArea isSignature hash fuel rest).map
                  (⟨kind.toNat ≥ 128, number, body⟩ :: ·)
              else none

def takeArea (isSignature : Bytes → Bool) (hash : Nat) :
    Reader (List Subpacket) := fun bytes =>
  match takeNat 2 bytes with
  | none => none
  | some (size, rest) =>
      match takeBytes size rest with
      | none => none
      | some (area, rest) =>
          (readArea isSignature hash area.length area).map fun ps => (ps, rest)

def readVersion4 (isSignature : Bytes → Bool) : Reader Signature := fun bytes => do
  let (sort, bytes) ← takeByte bytes
  let (keyAlgorithm, bytes) ← takeNat 1 bytes
  let (hashAlgorithm, bytes) ← takeNat 1 bytes
  let (hashed, bytes) ← takeArea isSignature hashAlgorithm bytes
  let (unhashed, bytes) ← takeArea isSignature hashAlgorithm bytes
  let (first, bytes) ← takeByte bytes
  let (second, bytes) ← takeByte bytes
  if cannotSign keyAlgorithm then none
  else
    let (_, bytes) ← readSignatureNumbers keyAlgorithm bytes
    some (⟨4, sort, keyAlgorithm, hashAlgorithm, hashed, unhashed, (first, second)⟩,
      bytes)

/-- Reads a signature of version 3 from behind its version.  It has no subpackets; the
two things that it tells in fixed places are given as subpackets, the time of its making
as a critical hashed one and the key ID of the issuer as one that is not hashed. -/
def readVersion3 : Reader Signature := fun bytes => do
  let (size, bytes) ← takeNat 1 bytes
  if size ≠ 5 then none
  else
    let (sort, bytes) ← takeByte bytes
    let (created, bytes) ← takeBytes 4 bytes
    let (issuer, bytes) ← takeBytes 8 bytes
    let (keyAlgorithm, bytes) ← takeNat 1 bytes
    let (hashAlgorithm, bytes) ← takeNat 1 bytes
    let (first, bytes) ← takeByte bytes
    let (second, bytes) ← takeByte bytes
    if cannotSign keyAlgorithm then none
    else
      let (_, bytes) ← readSignatureNumbers keyAlgorithm bytes
      some (⟨3, sort, keyAlgorithm, hashAlgorithm, [⟨true, createdKind, created⟩],
        [⟨false, issuerKind, issuer⟩], (first, second)⟩, bytes)

/-- Reads the body of a signature, in which signatures may be nested at most `depth`
deep. -/
def readSignature : Nat → Reader Signature
  | 0, _ => none
  | depth + 1, bytes =>
      let isSignature (body : Bytes) : Bool :=
        match readSignature depth body with
        | some (_, []) => true
        | _ => false
      match bytes with
      | [] => none
      | version :: rest =>
          if version = 4 then readVersion4 isSignature rest
          else if version = 3 then readVersion3 rest
          else none

/-- The signature that a body holds.  A signature is shorter than the one that it is
nested in, so the length of the body bounds the depth. -/
def signatureOf? (body : Bytes) : Option Signature :=
  (readSignature (body.length + 1) body).map (·.1)

/-- The subpackets of a signature, the hashed ones first. -/
def Signature.subpackets (s : Signature) : List Subpacket :=
  s.hashed ++ s.unhashed

def Subpacket.issuerFingerprint? (p : Subpacket) : Option Bytes :=
  if p.kind = issuerFingerprintKind then some (p.body.drop 1) else none

def Subpacket.issuer? (p : Subpacket) : Option Bytes :=
  if p.kind = issuerKind then some p.body else none

def Subpacket.created? (p : Subpacket) : Option Nat :=
  if p.kind = createdKind then some (natOfBytes p.body) else none

/-- The key ID that a fingerprint implies: its last eight bytes if it has twenty, and
else all of it. -/
def keyIdOf (fingerprint : Bytes) : Bytes :=
  if fingerprint.length = 20 then fingerprint.drop 12 else fingerprint

/-- The key ID of the issuer: what the first subpacket for it tells, else what the first
fingerprint of an issuer implies, else eight zeros. -/
def Signature.keyId (s : Signature) : Bytes :=
  match s.subpackets.findSome? Subpacket.issuer? with
  | some id => id
  | none =>
      match s.subpackets.findSome? Subpacket.issuerFingerprint? with
      | some fingerprint => keyIdOf fingerprint
      | none => List.replicate 8 0

/-- The time of the making that the first subpacket for it tells, or zero. -/
def Signature.created (s : Signature) : Nat :=
  (s.subpackets.findSome? Subpacket.created?).getD 0

end IssuerAudit.OpenPgp
