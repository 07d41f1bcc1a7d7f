import IssuerAudit.OpenPgp.Data
import IssuerAudit.Proofs.OpenPgp.SignatureBody
/-!
Streams of packets as they may be written: every packet behind a header of its own
framing.  A stream reads back as its packets, in their order:
`packetsOf_of_stream`.
-/

namespace IssuerAudit.OpenPgp

/-- The kind of a packet. -/
def Packet.tag : Packet → Tag
  | .signature _ => .signature
  | .other tag => tag

/-- Holds of a packet and a body that it is written as.  Of a packet other than a
signature the fields are in the body; a one-pass signature has thirteen bytes, and
what holds no data is not too long.  Data that is encrypted without protection is of
no kind that is read, and so no body is one of it. -/
inductive PacketBody : Packet → Bytes → Prop
  | signature {s : Signature} {body : Bytes} (written : SignatureBody s body)
      (size : lengthAllowed true .signature body.length = true) :
      PacketBody (.signature s) body
  | other {tag : Tag} {body : Bytes}
      (written : Packet.ofBody tag body = .ok (.other tag))
      (size : lengthAllowed true tag body.length = true)
      (modest : tag.holdsData = true ∨ body.length ≤ greatestLength) :
      PacketBody (.other tag) body

/-- The packet is what its body makes up. -/
theorem ofBody_of_body {p : Packet} {body : Bytes} (h : PacketBody p body) :
    Packet.ofBody p.tag body = .ok p := by
  cases h with
  | signature written size =>
      simp [Packet.tag, Packet.ofBody, signatureOf?_of_body written]
  | other written size modest => exact written

/-- A kind of which packets can be read has a meaning. -/
theorem isKnown_of_body {p : Packet} {body : Bytes} (h : PacketBody p body) :
    p.tag.isKnown = true := by
  have read := ofBody_of_body h
  cases hp : p.tag <;> rw [hp] at read <;>
    first | rfl | simp [Packet.ofBody, fieldsFit] at read

theorem ofNat_toNat {tag : Tag} (h : tag.isKnown = true) :
    Tag.ofNat tag.toNat = tag := by
  cases tag <;> first | rfl | cases h

/-- What leads a stream is looked at more closely than what follows. -/
theorem lengthAllowed_of_leads {tag : Tag} {n : Nat}
    (h : lengthAllowed true tag n = true) (leads : Bool) :
    lengthAllowed leads tag n = true := by
  cases leads with
  | true => exact h
  | false =>
      cases tag <;> first | exact h | skip
      simp only [lengthAllowed, if_true, beq_iff_eq] at h
      simp [lengthAllowed, h]

/-- The header of a packet may stand anywhere in a stream. -/
theorem isValid_of_body {p : Packet} {body : Bytes} (h : PacketBody p body)
    (leads : Bool) :
    Header.isValid leads ⟨p.tag, .definite body.length⟩ = true := by
  have known := isKnown_of_body h
  have size : lengthAllowed leads p.tag body.length = true := by
    cases h with
    | signature written size => exact lengthAllowed_of_leads size leads
    | other written size modest => exact lengthAllowed_of_leads size leads
  unfold Header.isValid
  split
  · next reserved => simp_all [Tag.isKnown]
  · next unassigned => simp_all [Tag.isKnown]
  · next privateUse => simp_all [Tag.isKnown]
  · exact size

theorem isModest_of_body {p : Packet} {body : Bytes} (h : PacketBody p body) :
    Header.isModest ⟨p.tag, .definite body.length⟩ = true := by
  cases h with
  | signature written size =>
      simp only [lengthAllowed, Bool.and_eq_true, decide_eq_true_eq] at size
      have short : body.length ≤ greatestLength :=
        Nat.le_trans (Nat.le_of_lt size.2) (by decide)
      simp [Header.isModest, short]
  | other written size modest =>
      simpa [Header.isModest, Packet.tag] using modest

/-- Holds of packets and a stream that they are written as, each behind a header in
any framing that has room for its kind and for the length of its body. -/
inductive StreamOf : List Packet → Bytes → Prop
  | nil : StreamOf [] []
  | cons {p : Packet} {packets : List Packet} {framing : Framing}
      {header body rest : Bytes} (written : PacketBody p body)
      (framed : framing.write? p.tag.toNat body.length = some header)
      (more : StreamOf packets rest) :
      StreamOf (p :: packets) (header ++ (body ++ rest))

/-- The header of a packet reads back in any framing. -/
theorem readHeader_of_framed {p : Packet} {framing : Framing}
    {header body : Bytes} (written : PacketBody p body)
    (framed : framing.write? p.tag.toNat body.length = some header)
    (rest : Bytes) :
    readHeader (header ++ rest) =
      some (⟨p.tag, .definite body.length⟩, rest) := by
  rw [readHeader_write? framed, ofNat_toNat (isKnown_of_body written)]

/-- The first packet of a stream is taken off it, in any framing. -/
theorem takePacket_of_framed {p : Packet} {framing : Framing}
    {header body : Bytes} (written : PacketBody p body)
    (framed : framing.write? p.tag.toNat body.length = some header)
    (first : Bool) (rest : Bytes) :
    takePacket first (header ++ (body ++ rest)) = .ok (p, rest) := by
  simp [takePacket, readHeader_of_framed written framed,
    isValid_of_body written, isModest_of_body written, Framed.take,
    Framed.ofLength, ofBody_of_body written]

/-- No header is empty. -/
theorem header_ne_nil {p : Packet} {framing : Framing} {header body : Bytes}
    (written : PacketBody p body)
    (framed : framing.write? p.tag.toNat body.length = some header) :
    header ≠ [] := by
  rintro rfl
  have read := readHeader_of_framed written framed []
  cases read

/-- A stream reads back as its packets. -/
theorem readPackets_of_stream {packets : List Packet} {bytes : Bytes}
    (h : StreamOf packets bytes) {fuel : Nat} (enough : bytes.length ≤ fuel)
    (first : Bool) : readPackets fuel first bytes = .ok packets := by
  induction h generalizing fuel first with
  | nil => cases fuel <;> rfl
  | @cons p packets framing header body rest written framed more ih =>
      obtain ⟨b, tail, rfl⟩ :=
        List.exists_cons_of_ne_nil (header_ne_nil written framed)
      have taken := takePacket_of_framed written framed first rest
      simp only [List.length_append, List.length_cons] at enough
      obtain ⟨fuel, rfl⟩ : ∃ left, fuel = left + 1 := ⟨fuel - 1, by omega⟩
      have shorter : rest.length ≤ fuel := by omega
      rw [List.cons_append] at taken ⊢
      simp only [readPackets, taken, ih shorter false]

theorem packetsOf_of_stream {packets : List Packet} {bytes : Bytes}
    (h : StreamOf packets bytes) : packetsOf bytes = .ok packets :=
  readPackets_of_stream h (Nat.le_refl _) true

/-- Two streams behind each other are a stream of the packets of both. -/
theorem StreamOf.append {packets more : List Packet} {bytes others : Bytes}
    (h : StreamOf packets bytes) (hmore : StreamOf more others) :
    StreamOf (packets ++ more) (bytes ++ others) := by
  induction h with
  | nil => exact hmore
  | cons written framed _ ih =>
      simp only [List.append_assoc, List.cons_append]
      exact .cons written framed ih

/-- A stream that is not empty starts like packets. -/
theorem startsLikePackets_of_stream {packets : List Packet} {bytes : Bytes}
    (h : StreamOf packets bytes) (some : packets ≠ []) :
    startsLikePackets bytes = true := by
  cases h with
  | nil => exact absurd rfl some
  | cons written framed more =>
      rw [startsLikePackets, readHeader_of_framed written framed]
      exact isValid_of_body written true

end IssuerAudit.OpenPgp
