import IssuerAudit.OpenPgp.Packet
/-!
Streams of packets.  A stream is read packet by packet to its end; the first packet that
cannot be read decides what the fault is.
-/

namespace IssuerAudit.OpenPgp

/-- Takes a packet off the front of a stream, with the rest of the stream behind it.  A
header that cannot be read is `broken` in front of everything else, and the sign of a
packet of kind zero later. -/
def takePacket (first : Bool) (bytes : Bytes) : Except Fault (Packet × Bytes) :=
  match readHeader bytes with
  | none => .error (if first then .broken else .unusable .reserved)
  | some (header, rest) =>
      if header.isValid false && header.isModest then
        let framed := Framed.take header.extent rest
        match Packet.ofBody header.tag framed.body with
        | .error fault => .error fault
        | .ok packet =>
            if framed.complete then .ok (packet, framed.rest) else .error .broken
      else .error (.unusable header.tag)

/-- Reads a stream to its end.  Every packet takes at least one byte, so the length of
the stream is `fuel` enough. -/
def readPackets (fuel : Nat) (first : Bool) (bytes : Bytes) :
    Except Fault (List Packet) :=
  match fuel, bytes with
  | _, [] => .ok []
  | 0, _ :: _ => .error .broken
  | fuel + 1, b :: rest =>
      match takePacket first (b :: rest) with
      | .error fault => .error fault
      | .ok (packet, rest) =>
          match readPackets fuel false rest with
          | .error fault => .error fault
          | .ok packets => .ok (packet :: packets)

def packetsOf (bytes : Bytes) : Except Fault (List Packet) :=
  readPackets bytes.length true bytes

def startsLikePackets (bytes : Bytes) : Bool :=
  match readHeader bytes with
  | none => false
  | some (header, _) => header.isValid true

end IssuerAudit.OpenPgp
