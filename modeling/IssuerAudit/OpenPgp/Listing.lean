import IssuerAudit.OpenPgp.Packet
import IssuerAudit.Text.Hex
/-!
Listings of packets.  A packet is listed in one line, a signature in three and one more
for each of its subpackets.  No line holds text from a packet: contents are shown in
hexadecimal or as a size.
-/

namespace IssuerAudit.OpenPgp

/-- The kind of a subpacket that tells for whom a message is meant. -/
def recipientKind : Nat := 35

/-- The greatest size of a body that is shown in full. -/
def shownSize : Nat := 16

/-- The version that the size of a fingerprint tells, or zero. -/
def fingerprintVersion (fingerprint : Bytes) : Nat :=
  if fingerprint.length = 20 then 4
  else if fingerprint.length = 32 then 5
  else 0

/-- What a listing says of a body that has no words of its own. -/
def Subpacket.dataText (p : Subpacket) : String :=
  if p.kind = recipientKind ∧ fingerprintVersion (p.body.drop 1) = 0 then
    "[unserializable]"
  else if p.body.length ≤ shownSize then String.ofList (Text.lowerHex p.body)
  else "[" ++ toString p.body.length ++ " bytes]"

def Subpacket.text (p : Subpacket) : String :=
  if p.kind = createdKind then "sig created " ++ toString (natOfBytes p.body)
  else if p.kind = issuerKind then
    "issuer key ID " ++ String.ofList (Text.upperHex p.body)
  else if p.kind = issuerFingerprintKind then
    let fingerprint := p.body.drop 1
    "issuer fpr v" ++ toString (fingerprintVersion fingerprint) ++ " " ++
      String.ofList (Text.upperHex fingerprint)
  else "data: " ++ p.dataText

def Subpacket.line (hashed : Bool) (p : Subpacket) : String :=
  "\t" ++ (if p.critical then "critical " else "") ++
    (if hashed then "hashed " else "") ++ "subpkt " ++ toString p.kind ++
    " len " ++ toString p.body.length ++ " (" ++ p.text ++ ")"

/-- The size of the part of a signature that is hashed with the data, which only version
3 tells. -/
def Signature.hashedSize (s : Signature) : Nat :=
  if s.version = 3 then 5 else 0

def Signature.lines (s : Signature) : List String :=
  let hex (b : UInt8) := String.ofList (Text.lowerHex [b])
  [":signature packet: algo " ++ toString s.keyAlgorithm ++ ", keyid " ++
      String.ofList (Text.upperHex s.keyId),
    "\tversion " ++ toString s.version ++ ", created " ++ toString s.created ++
      ", md5len " ++ toString s.hashedSize ++ ", sigclass 0x" ++ hex s.sort,
    "\tdigest algo " ++ toString s.hashAlgorithm ++ ", begin of digest " ++
      hex s.digest.1 ++ " " ++ hex s.digest.2] ++
    s.hashed.map (Subpacket.line true) ++ s.unhashed.map (Subpacket.line false)

def Packet.lines : Packet → List String
  | .signature s => s.lines
  | .other tag => [":" ++ tag.label ++ " packet:"]

/-- The listing of packets; every line ends in a line feed. -/
def listing (packets : List Packet) : String :=
  String.join ((packets.flatMap Packet.lines).map (· ++ "\n"))

end IssuerAudit.OpenPgp
