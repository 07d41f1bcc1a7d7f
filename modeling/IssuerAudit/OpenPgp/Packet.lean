import IssuerAudit.OpenPgp.Header
import IssuerAudit.OpenPgp.Signature
/-!
Packets and the fields of their bodies.

Of a signature all fields are kept.  Of every other kind the fields are read only to see
that they are there and allowed, for nothing but the kind of such a packet is listed.
-/

namespace IssuerAudit.OpenPgp

inductive Packet where
  | signature (s : Signature)
  | other (tag : Tag)
  deriving DecidableEq, Repr

/-- Why data could not be read as a stream of packets with a signature among them. -/
inductive Fault where
  /-- All packets could be read, and none is a signature. -/
  | noSignature
  /-- A packet of this kind is not usable: its header or its fields are not allowed. -/
  | unusable (tag : Tag)
  /-- The data is no stream of packets at all or ends in the middle of one. -/
  | broken
  deriving DecidableEq, Repr

/-- The text for a fault, in which `words` are those of the reader of packets. -/
def Fault.text (words : String) : Fault → String
  | .noSignature => "no signature packet found"
  | .unusable tag => tag.title ++ " packet: " ++ words
  | .broken => words

/-- Reads `n` numbers of any size. -/
def readMpis (n : Nat) : Reader Unit := fun bytes =>
  (takeEach readMpi n bytes).map fun (_, rest) => ((), rest)

def readByteOf (allowed : Nat → Bool) : Reader Nat := fun bytes =>
  match takeNat 1 bytes with
  | none => none
  | some (n, rest) => if allowed n then some (n, rest) else none

/-- Reads bytes with their count, itself a byte, in front. -/
def readCounted : Reader Bytes := fun bytes =>
  match takeNat 1 bytes with
  | none => none
  | some (n, rest) => takeBytes n rest

/-- Reads the public numbers of a key.  The algorithms over curves name the curve first;
of an algorithm that is not known all that is left is taken. -/
def readPublicNumbers (algorithm : Nat) : Reader Unit := fun bytes =>
  match algorithm with
  | 1 | 2 | 3 => readMpis 2 bytes
  | 16 | 20 => readMpis 3 bytes
  | 17 => readMpis 4 bytes
  | 19 | 22 => do
    let (_, bytes) ← readCounted bytes
    readMpis 1 bytes
  | 18 => do
    let (_, bytes) ← readCounted bytes
    let (_, bytes) ← readMpis 1 bytes
    let (_, bytes) ← readByteOf (· == 3) bytes
    let (_, bytes) ← readByteOf (· == 1) bytes
    let (_, bytes) ← takeBytes 2 bytes
    some ((), bytes)
  | _ => some ((), [])

def secretCount (algorithm : Nat) : Nat :=
  if algorithm = 1 ∨ algorithm = 2 ∨ algorithm = 3 then 4 else 1

/-- The sum of bytes that a secret part in the clear carries behind its numbers. -/
def checksum (bytes : Bytes) : Nat :=
  bytes.foldl (fun n b => n + b.toNat) 0 % 65536

def readSecretNumbers (algorithm : Nat) : Reader Unit := fun bytes => do
  let (_, rest) ← readMpis (secretCount algorithm) bytes
  let numbers := bytes.take (bytes.length - rest.length)
  let (sum, rest) ← takeNat 2 rest
  if sum = checksum numbers then some ((), rest) else none

def readDerivation : Reader Unit := fun bytes => do
  let (kind, bytes) ← takeNat 1 bytes
  let size := match kind with
    | 0 => 1
    | 1 => 9
    | 3 => 10
    | _ => 0
  let (_, bytes) ← takeBytes size bytes
  some ((), bytes)

/-- Reads the secret part of a key from behind the byte that tells how it is protected. -/
def readSecretPart (algorithm usage : Nat) : Reader Unit := fun bytes =>
  if usage = 0 then readSecretNumbers algorithm bytes
  else if usage = 254 ∨ usage = 255 then do
    let (_, bytes) ← takeByte bytes
    let (_, _) ← readDerivation bytes
    some ((), [])
  else some ((), [])

/-- Reads a key; the result says whether it has a secret part, as it has if anything
follows the public numbers. -/
def readKey : Reader Bool := fun bytes => do
  let (_, bytes) ← readByteOf (· == 4) bytes
  let (_, bytes) ← takeBytes 4 bytes
  let (algorithm, bytes) ← takeNat 1 bytes
  let (_, bytes) ← readPublicNumbers algorithm bytes
  match bytes with
  | [] => some (false, [])
  | usage :: bytes =>
      let (_, bytes) ← readSecretPart algorithm usage.toNat bytes
      some (true, bytes)

/-- The size of the starting value of an authenticating cipher mode. -/
def startSize? (mode : Nat) : Option Nat :=
  match mode with
  | 1 => some 16
  | 2 => some 15
  | _ => none

def readSymmetricEncrypted : Reader Unit := fun bytes => do
  let (version, bytes) ← readByteOf (fun n => n == 4 || n == 5) bytes
  let (_, bytes) ← takeByte bytes
  if version = 4 then readDerivation bytes
  else
    let (_, bytes) ← readByteOf (fun n => (startSize? n).isSome) bytes
    readDerivation bytes

def readOnePass : Reader Unit := fun bytes => do
  let (_, bytes) ← readByteOf (· == 3) bytes
  let (_, bytes) ← takeBytes 12 bytes
  some ((), bytes)

def readLiteral : Reader Unit := fun bytes => do
  let (_, bytes) ← takeByte bytes
  let (_, bytes) ← readCounted bytes
  let (_, bytes) ← takeBytes 4 bytes
  some ((), bytes)

/-- The greatest size of a chunk, as a power of two, that authenticated data may have. -/
def greatestChunk : Nat := 56

def readEncryptedAuthenticated : Reader Unit := fun bytes => do
  let (_, bytes) ← readByteOf (· == 1) bytes
  let (_, bytes) ← takeByte bytes
  let (mode, bytes) ← takeNat 1 bytes
  let (_, bytes) ← readByteOf (· ≤ greatestChunk) bytes
  let size ← startSize? mode
  let (_, bytes) ← takeBytes size bytes
  some ((), bytes)

def cannotEncrypt (algorithm : Nat) : Bool :=
  algorithm == 3 || algorithm == 17 || algorithm == 19 || algorithm == 22

def readSessionNumbers (algorithm : Nat) : Reader Unit := fun bytes =>
  match algorithm with
  | 1 | 2 => readMpis 1 bytes
  | 16 | 20 => readMpis 2 bytes
  | 18 => do
    let (_, bytes) ← readMpis 1 bytes
    let (_, bytes) ← readCounted bytes
    some ((), bytes)
  | _ => some ((), [])

/-- Reads the fields of a session key under a public key up to the algorithm. -/
def readSessionHead : Reader Nat := fun bytes => do
  let (_, bytes) ← readByteOf (· == 3) bytes
  let (_, bytes) ← takeBytes 8 bytes
  readByteOf (fun n => !cannotEncrypt n) bytes

/-- Holds of a body whose fields are there and allowed, for the kinds of packets of
which only the kind is listed; session keys under a public key are looked at elsewhere.
-/
def fieldsFit (tag : Tag) (body : Bytes) : Bool :=
  match tag with
  | .publicKey | .publicSubkey => (readKey body).any fun (hasSecret, _) => !hasSecret
  | .secretKey | .secretSubkey => (readKey body).any fun (hasSecret, _) => hasSecret
  | .symmetricEncrypted => (readSymmetricEncrypted body).isSome
  | .onePass => (readOnePass body).isSome
  | .compressed => (takeByte body).isSome
  | .marker => body.take 3 == [0x50, 0x47, 0x50]
  | .literal => (readLiteral body).isSome
  | .trust | .userId | .userAttribute => true
  | .encryptedIntegrity => body.head? == some 1
  | .modificationCode => 20 ≤ body.length
  | .encryptedAuthenticated => (readEncryptedAuthenticated body).isSome
  | _ => false

/-- The packet that a body of a kind makes up, or why it makes up none.  Kinds without a
meaning and data that is encrypted without protection are never usable. -/
def Packet.ofBody (tag : Tag) (body : Bytes) : Except Fault Packet :=
  match tag with
  | .signature =>
      match signatureOf? body with
      | some s => .ok (.signature s)
      | none => .error (.unusable tag)
  | .publicEncrypted =>
      match readSessionHead body with
      | none => .error (.unusable tag)
      | some (algorithm, rest) =>
          if (readSessionNumbers algorithm rest).isSome then .ok (.other tag)
          else .error .broken
  | _ => if fieldsFit tag body then .ok (.other tag) else .error (.unusable tag)

def Packet.isSignature : Packet → Bool
  | .signature _ => true
  | .other _ => false

end IssuerAudit.OpenPgp
