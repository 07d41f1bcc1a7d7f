import IssuerAudit.Proofs.OpenPgp.ArmorBlock
import IssuerAudit.Proofs.OpenPgp.PacketStream
/-!
Listings do not depend on how packets are framed.  Packets may be written with headers
of either format, with lengths of any form, and bare or in armor; what is listed is
each packet by itself, one behind the other: `list_of_data`.
-/

namespace IssuerAudit.OpenPgp

/-- Holds of packets and data that they may be found in: their stream, bare or in a
block of armor. -/
inductive DataOf (packets : List Packet) : Bytes → Prop
  | bare {stream : Bytes} (written : StreamOf packets stream) :
      DataOf packets stream
  | armored {content : Armor.Content} {stream text : Bytes}
      (written : StreamOf packets stream)
      (block : Armor.Block content stream text) : DataOf packets text

/-- Armor does not start like packets. -/
theorem startsLikePackets_of_block {content : Armor.Content} {data text : Bytes}
    (h : Armor.Block content data text) :
    text.isEmpty = false ∧ startsLikePackets text = false := by
  cases h with
  | mk opened header separated lines summed =>
      obtain ⟨more, hyphen⟩ := Armor.boundary_cons "BEGIN PGP " content
      rw [hyphen]
      exact ⟨rfl, rfl⟩

/-- The packets are found in all data that they are written as. -/
theorem packetsIn_of_data {packets : List Packet} {data : Bytes}
    (some : packets ≠ []) (h : DataOf packets data) :
    packetsIn data = .ok packets := by
  cases h with
  | bare written =>
      simp [packetsIn, startsLikePackets_of_stream written some,
        packetsOf_of_stream written]
  | armored written block =>
      obtain ⟨full, unlike⟩ := startsLikePackets_of_block block
      simp [packetsIn, full, unlike, Armor.open?_of_block block,
        packetsOf_of_stream written]

theorem listing_append (packets more : List Packet) :
    listing (packets ++ more) = listing packets ++ listing more := by
  simp [listing, String.join_append]

/-- What is listed of packets is what is listed of each by itself. -/
theorem listing_eq_join (packets : List Packet) :
    listing packets = String.join (packets.map fun p => listing [p]) := by
  induction packets with
  | nil => rfl
  | cons p rest ih =>
      rw [← List.singleton_append, listing_append, ih, List.map_append]
      simp

/-- What comes of listing packets: what is listed of each, one behind the other, if a
signature is among them. -/
def listed (packets : List Packet) : Except Fault String :=
  if packets.any Packet.isSignature then
    .ok (String.join (packets.map fun p => listing [p]))
  else .error .noSignature

theorem list_eq_listed {packets : List Packet} {data : Bytes}
    (some : packets ≠ []) (h : DataOf packets data) :
    list data = listed packets := by
  rw [list, packetsIn_of_data some h, listed, ← listing_eq_join]

theorem listed_append {packets more : List Packet}
    (signed : packets.any Packet.isSignature = true)
    (signedMore : more.any Packet.isSignature = true) :
    ∃ first second, listed packets = .ok first ∧ listed more = .ok second ∧
      listed (packets ++ more) = .ok (first ++ second) := by
  refine ⟨_, _, if_pos signed, if_pos signedMore, ?_⟩
  have either : (packets ++ more).any Packet.isSignature = true := by
    rw [List.any_append, signed, Bool.true_or]
  rw [listed, if_pos either, List.map_append, String.join_append]

/-- The listing of packets in data is that of the packets, however they are framed:
all data that they are written as is listed alike, and two streams behind each other
are listed one behind the other. -/
theorem list_of_data {packets : List Packet} (some : packets ≠ []) :
    (∀ data, DataOf packets data → list data = listed packets) ∧
      (∀ data other, DataOf packets data → DataOf packets other →
        list data = list other) ∧
      ∀ more stream behind, StreamOf packets stream → StreamOf more behind →
        packets.any Packet.isSignature = true →
        more.any Packet.isSignature = true →
        ∃ first second, list stream = .ok first ∧ list behind = .ok second ∧
          list (stream ++ behind) = .ok (first ++ second) := by
  have alike : ∀ data, DataOf packets data → list data = listed packets :=
    fun data h => list_eq_listed some h
  refine ⟨alike, fun data other h hother => (alike data h).trans
    (alike other hother).symm, ?_⟩
  intro more stream behind h hmore signed signedMore
  have someMore : more ≠ [] := by
    rintro rfl
    cases signedMore
  obtain ⟨first, second, hfirst, hsecond, both⟩ :=
    listed_append signed signedMore
  refine ⟨first, second, (alike _ (.bare h)).trans hfirst,
    (list_eq_listed someMore (.bare hmore)).trans hsecond, ?_⟩
  have joined : packets ++ more ≠ [] := List.append_ne_nil_of_left_ne_nil some more
  exact (list_eq_listed joined (.bare (h.append hmore))).trans both

/-- A subpacket that tells the fingerprint of an issuer. -/
def framedIssuer : Subpacket :=
  ⟨false, issuerFingerprintKind,
    [4, 0xA0, 0xA1, 0xA2, 0xA3, 0xA4, 0xA5, 0xA6, 0xA7, 0xA8, 0xA9,
      0xB0, 0xB1, 0xB2, 0xB3, 0xB4, 0xB5, 0xB6, 0xB7, 0xB8, 0xB9]⟩

/-- A signature with it. -/
def framedSignature : Signature :=
  ⟨4, 0, 22, 8, [framedIssuer], [], (0xAB, 0xCD)⟩

/-- The signature behind the name of a user. -/
def framedPackets : List Packet :=
  [.other .userId, .signature framedSignature]

/-- The stream of these packets in some framing, with some form of the lengths of
subpackets. -/
def framedStream (framing : Framing) (form : LengthForm) : Option Bytes := do
  let area ← writeArea? [(form, framedIssuer)]
  let body := framedSignature.write area [] [0, 1, 1, 0, 1, 1]
  let first ← framing.write? 13 3
  let second ← framing.write? 2 body.length
  some (first ++ ([0x62, 0x6F, 0x62] ++ (second ++ (body ++ []))))

theorem streamOf_framed {framing : Framing} {form : LengthForm} {stream : Bytes}
    (h : framedStream framing form = some stream) :
    StreamOf framedPackets stream := by
  simp only [framedStream, Option.bind_eq_bind, Option.bind_eq_some_iff] at h
  obtain ⟨area, harea, first, hfirst, second, hsecond, hstream⟩ := h
  have size : area.length = 23 ∨ area.length = 27 := by
    cases form with
    | one =>
        cases harea
        exact .inl rfl
    | two => cases harea
    | five =>
        cases harea
        exact .inr rfl
  have numbers : NumbersOf 22 [0, 1, 1, 0, 1, 1] := by
    rintro count hcount
    cases hcount
    exact ⟨[1, 1], rfl, by simp, by simp [writeMpi, bytesOfNat]⟩
  have plain : ∀ p ∈ framedSignature.subpackets, p.kind ≠ embeddedKind := by
    decide
  have signature : SignatureBody framedSignature
      (framedSignature.write area [] [0, 1, 1, 0, 1, 1]) :=
    .version4 (fun _ => framedSignature) rfl (by decide) (by decide)
      (by decide) ⟨_, rfl, harea⟩ (by omega) ⟨[], rfl, rfl⟩ (by decide)
      (by decide) (fun p hp nested => absurd nested (plain p hp)) numbers
  have user : PacketBody (.other .userId) [0x62, 0x6F, 0x62] :=
    .other rfl (by decide) (.inr (by decide))
  have signed : PacketBody (.signature framedSignature)
      (framedSignature.write area [] [0, 1, 1, 0, 1, 1]) := by
    refine .signature signature ?_
    rcases size with size | size <;>
      simp [Signature.write, size, length_bytesOfNat, lengthAllowed]
  obtain rfl := Option.some.inj hstream
  exact .cons user hfirst (.cons signed hsecond .nil)

/-- The listing of these packets. -/
def framedListing : String :=
  ":user ID packet:\n" ++
    ":signature packet: algo 22, keyid B2B3B4B5B6B7B8B9\n" ++
    "\tversion 4, created 0, md5len 0, sigclass 0x00\n" ++
    "\tdigest algo 8, begin of digest ab cd\n" ++
    "\thashed subpkt 33 len 21 " ++
      "(issuer fpr v4 A0A1A2A3A4A5A6A7A8A9B0B1B2B3B4B5B6B7B8B9)\n"

/-- The packets are listed alike behind short headers of the new format, behind long
ones of the old format with long lengths of subpackets, and in armor; and both
streams behind each other give the listing twice. -/
theorem list_of_data_framed :
    ∃ short long, framedStream .newOne .one = some short ∧
      framedStream .oldFour .five = some long ∧
      list short = .ok framedListing ∧ list long = .ok framedListing ∧
      list (Armor.write .signature long) = .ok framedListing ∧
      list (short ++ long) = .ok (framedListing ++ framedListing) := by
  obtain ⟨short, hshort⟩ : ∃ stream,
      framedStream .newOne .one = some stream := ⟨_, rfl⟩
  obtain ⟨long, hlong⟩ : ∃ stream,
      framedStream .oldFour .five = some stream := ⟨_, rfl⟩
  have first := streamOf_framed hshort
  have second := streamOf_framed hlong
  have text : listed framedPackets = .ok framedListing := by decide +kernel
  have some : framedPackets ≠ [] := List.cons_ne_nil _ _
  obtain ⟨alike, -, joined⟩ := list_of_data some
  obtain ⟨_, _, hfirst, hsecond, both⟩ :=
    joined _ _ _ first second (by decide) (by decide)
  have shortText := (alike _ (.bare first)).trans text
  have longText := (alike _ (.bare second)).trans text
  refine ⟨short, long, hshort, hlong, shortText, longText,
    (alike _ (.armored second (Armor.block_write _ _))).trans text, ?_⟩
  cases shortText.symm.trans hfirst
  cases longText.symm.trans hsecond
  exact both

end IssuerAudit.OpenPgp
