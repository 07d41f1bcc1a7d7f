import IssuerAudit.OpenPgp.Armor
import IssuerAudit.OpenPgp.Listing
import IssuerAudit.OpenPgp.Stream
/-!
Signature data as it is found in files: a stream of packets, bare or in ASCII armor.
-/

namespace IssuerAudit.OpenPgp

/-- The packets in data.  What does not start like packets is taken for armor.  Of armor
that has no closing line the packets are read all the same, so a fault among them comes
first. -/
def packetsIn (data : Bytes) : Except Fault (List Packet) :=
  if data.isEmpty || startsLikePackets data then packetsOf data
  else
    match Armor.open? data with
    | none => .error .broken
    | some opened =>
        match packetsOf opened.data with
        | .error fault => .error fault
        | .ok packets => if opened.closed then .ok packets else .error .broken

/-- The listing of the packets in data, among which there has to be a signature. -/
def list (data : Bytes) : Except Fault String :=
  match packetsIn data with
  | .error fault => .error fault
  | .ok packets =>
      if packets.any Packet.isSignature then .ok (listing packets)
      else .error .noSignature

end IssuerAudit.OpenPgp
