import IssuerAudit.OpenPgp.Packet
/-!
The issuer that signature packets name: the first fingerprint of the size of version 4
in them, in the order of the packets, and in a packet in the order of its subpackets
with the hashed ones first.
-/

namespace IssuerAudit.OpenPgp

def fingerprintSize : Nat := 20

/-- The fingerprint of the size of version 4 that a subpacket tells of the issuer. -/
def Subpacket.issuerVersion4? (p : Subpacket) : Option Bytes :=
  p.issuerFingerprint?.filter fun fingerprint => fingerprint.length == fingerprintSize

def Packet.issuer? : Packet → Option Bytes
  | .signature s => s.subpackets.findSome? Subpacket.issuerVersion4?
  | .other _ => none

/-- The issuer that the first packet with one names. -/
def issuerOf? (packets : List Packet) : Option Bytes :=
  packets.findSome? Packet.issuer?

end IssuerAudit.OpenPgp
