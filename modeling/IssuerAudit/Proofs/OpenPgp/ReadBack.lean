import Mathlib.Data.List.Forall2
import IssuerAudit.Proofs.OpenPgp.Rows
/-!
Reading a listing back.  Cut at its line feeds the text of a listing falls into one
entry for each packet, with one line for each subpacket of a signature; and the key
ID and the time in the first lines of a signature are those that its subpackets, and
the lines for them, tell first: `listing_read_back`.
-/

namespace IssuerAudit.OpenPgp

/-- The entry of a packet. -/
def Packet.entry : Packet → Entry
  | .other tag => ⟨(":" ++ tag.label ++ " packet:").toList, []⟩
  | .signature s =>
      ⟨s.keyLine.toList, [s.timeLine.toList, s.digestLine.toList] ++
        (s.hashed.map fun p => (p.line true).toList) ++
        (s.unhashed.map fun p => (p.line false).toList)⟩

theorem Packet.heading_signature (s : Signature) :
    (signature s).entry.heading = s.keyLine.toList :=
  rfl

theorem Packet.under_signature (s : Signature) :
    (signature s).entry.under = [s.timeLine.toList, s.digestLine.toList] ++
      (s.hashed.map fun p => (p.line true).toList) ++
      (s.unhashed.map fun p => (p.line false).toList) :=
  rfl

/-- A packet has one entry. -/
theorem entryOf_iff {p : Packet} {e : Entry} : EntryOf p e ↔ e = p.entry := by
  constructor
  · intro h
    cases h with
    | other tag => rfl
    | signature named told =>
        rw [Signature.namesKey_iff.mp named, Signature.tellsTime_iff.mp told]
        rfl
  · rintro rfl
    cases p with
    | other tag => exact .other tag
    | signature s =>
        exact .signature (Signature.namesKey_iff.mpr rfl)
          (Signature.tellsTime_iff.mpr rfl)

theorem lines_entry (p : Packet) : p.entry.lines = p.lines.map String.toList := by
  cases p with
  | other tag => rfl
  | signature s =>
      simp [Packet.entry, Entry.lines, Packet.lines, s.lines_eq, Function.comp_def]

/-- Cut at its line feeds a listing falls into the lines of its entries. -/
theorem pieces_listing (packets : List Packet) :
    Text.pieces '\n' (listing packets).toList =
      (packets.map Packet.entry).flatMap Entry.lines ++ [[]] := by
  have text : (listing packets).toList =
      ((packets.map Packet.entry).flatMap Entry.lines).flatMap (· ++ ['\n']) := by
    simp [listing, List.flatMap_map, lines_entry, List.flatMap_assoc]
  rw [text]
  apply Text.pieces_flatMap_sep
  intro line mem
  rw [List.flatMap_map, List.mem_flatMap] at mem
  obtain ⟨p, -, mem⟩ := mem
  rw [lines_entry] at mem
  obtain ⟨shown, hshown, rfl⟩ := List.mem_map.mp mem
  exact lacks_breaks_lines p shown hshown '\n' (by decide)

/-- Lines that no colon opens belong to the entry in front of them. -/
theorem cutEntries_append {under : List (List Char)}
    (inside : ∀ line ∈ under, line.head? ≠ some ':') (rest : List (List Char)) :
    cutEntries (under ++ rest) =
      (under ++ (cutEntries rest).1, (cutEntries rest).2) := by
  induction under with
  | nil => rfl
  | cons line under ih =>
      rw [List.forall_mem_cons] at inside
      rw [List.cons_append, cutEntries_inside inside.1, ih inside.2]
      rfl

/-- A text is opened by the first character of its first part. -/
theorem head?_append {a : String} {c : Char} (h : a.toList.head? = some c) (b : String) :
    (a ++ b).toList.head? = some c := by
  rw [String.toList_append, List.head?_append, h, Option.some_or]

theorem head?_line (hashed : Bool) (p : Subpacket) :
    (p.line hashed).toList.head? = some '\t' := by
  unfold Subpacket.line
  repeat apply head?_append
  decide

theorem head?_timeLine (s : Signature) : s.timeLine.toList.head? = some '\t' := by
  unfold Signature.timeLine
  repeat apply head?_append
  decide

theorem head?_digestLine (s : Signature) : s.digestLine.toList.head? = some '\t' := by
  unfold Signature.digestLine
  repeat apply head?_append
  decide

theorem head?_keyLine (s : Signature) : s.keyLine.toList.head? = some ':' := by
  unfold Signature.keyLine
  repeat apply head?_append
  decide

theorem head?_otherLine (tag : Tag) :
    (":" ++ tag.label ++ " packet:").toList.head? = some ':' := by
  repeat apply head?_append
  decide

/-- The lines under a heading are opened by a tab. -/
theorem head?_of_mem_under (p : Packet) :
    ∀ line ∈ p.entry.under, line.head? = some '\t' := by
  cases p with
  | other tag => exact fun line mem => absurd mem List.not_mem_nil
  | signature s =>
      rw [Packet.under_signature, List.forall_mem_append, List.forall_mem_append,
        List.forall_mem_cons, List.forall_mem_singleton, List.forall_mem_map,
        List.forall_mem_map]
      exact ⟨⟨⟨head?_timeLine s, head?_digestLine s⟩, fun p _ => head?_line true p⟩,
        fun p _ => head?_line false p⟩

/-- A heading is opened by a colon. -/
theorem head?_heading (p : Packet) : p.entry.heading.head? = some ':' := by
  cases p with
  | other tag => exact head?_otherLine tag
  | signature s => rw [Packet.heading_signature, head?_keyLine]

/-- Entries are cut from their lines. -/
theorem cutEntries_lines (packets : List Packet) :
    cutEntries ((packets.map Packet.entry).flatMap Entry.lines) =
      ([], packets.map Packet.entry) := by
  induction packets with
  | nil => rfl
  | cons p rest ih =>
      -- a line under the heading cannot be taken for the next heading
      have inside : ∀ line ∈ p.entry.under, line.head? ≠ some ':' := by
        intro line mem
        rw [head?_of_mem_under p line mem]
        decide
      rw [List.map_cons, List.flatMap_cons, Entry.lines, List.cons_append,
        cutEntries_opening (head?_heading p), cutEntries_append inside, ih,
        List.append_nil]

/-- From the text of a listing the entries of the packets are cut. -/
theorem entriesOf_listing (packets : List Packet) :
    entriesOf (listing packets) = packets.map Packet.entry := by
  rw [entriesOf, pieces_listing, List.dropLast_concat, cutEntries_lines]

/-- The rows that are read from the entry of a packet are those for its subpackets. -/
theorem rows_entry (p : Packet) : p.entry.rows = p.rows := by
  cases p with
  | other tag => rfl
  | signature s =>
      have area : ∀ hashed (ps : List Subpacket),
          (ps.map fun p => (p.line hashed).toList).filterMap rowOf? =
            ps.map (Subpacket.row hashed) := by
        intro hashed ps
        induction ps with
        | nil => rfl
        | cons p ps ih =>
            rw [List.map_cons, List.filterMap_cons_some (rowOf?_line hashed p), ih,
              List.map_cons]
      rw [Entry.rows, Packet.under_signature, List.filterMap_append,
        List.filterMap_append, area, area,
        List.filterMap_cons_none (rowOf?_timeLine s),
        List.filterMap_cons_none (rowOf?_digestLine s)]
      rfl

/-- The first lines of a signature tell what the lines for its subpackets do. -/
theorem agrees_entry (s : Signature) : (Packet.signature s).entry.Agrees := by
  constructor
  · rw [rows_entry, keyIn_rows, Packet.heading_signature, lastWord_keyLine]
  · rw [rows_entry, timeIn_rows]
    exact timeWord_timeLine s

/-- Cut at its line feeds a listing falls into one entry for each packet, in the order
of the packets and whatever they hold: one line for a packet that is no signature, and
for a signature three lines of its own, then one for each hashed subpacket and one for
each other.  The first line of a signature ends in the key ID that its first subpacket
for one tells, or else that its first fingerprint of an issuer implies, and the second
line has the time that its first subpacket for it tells.  The text alone shows all of
this: where entries start, which subpackets there are, and that key ID and time are
those of the first lines for them below. -/
theorem listing_read_back (packets : List Packet) :
    let entries := entriesOf (listing packets)
    Text.pieces '\n' (listing packets).toList = entries.flatMap Entry.lines ++ [[]] ∧
      List.Forall₂ EntryOf packets entries ∧
      (∀ others, List.Forall₂ EntryOf packets others → others = entries) ∧
      entries.map Entry.rows = packets.map Packet.rows ∧
      ∀ e ∈ entries, e.under ≠ [] → e.Agrees := by
  intro entries
  have read : entries = packets.map Packet.entry := entriesOf_listing packets
  have entryOf : ∀ others, List.Forall₂ EntryOf packets others ↔ others = entries := by
    intro others
    have each : EntryOf = fun p e => Packet.entry p = e := by
      funext p e
      rw [eq_iff_iff, entryOf_iff, eq_comm]
    rw [each, read, eq_comm, ← List.forall₂_map_left_iff, List.forall₂_eq_eq_eq]
  refine ⟨?_, (entryOf entries).mpr rfl, fun others => (entryOf others).mp, ?_, ?_⟩
  · rw [read, pieces_listing]
  · rw [read, List.map_map]
    congr 1
    funext p
    exact rows_entry p
  · intro e mem some
    rw [read] at mem
    obtain ⟨p, -, rfl⟩ := List.mem_map.mp mem
    cases p with
    | other tag => exact absurd rfl some
    | signature s => exact agrees_entry s

/-- A user ID and a signature.  The signature tells a fingerprint of its issuer before
any key ID, two times and two key IDs, and under a kind without a meaning the start of
a line for a packet. -/
def crowdedPackets : List Packet :=
  [.other .userId, .signature ⟨4, 0x10, 1, 8,
    [⟨false, issuerFingerprintKind, 4 :: List.replicate 20 0xAB⟩,
      ⟨true, createdKind, [0, 0, 0, 7]⟩,
      ⟨false, 100, [0x0A, 0x3A, 0x73, 0x69, 0x67]⟩],
    [⟨false, createdKind, [0, 0, 0, 9]⟩,
      ⟨false, issuerKind, [1, 2, 3, 4, 5, 6, 7, 8]⟩,
      ⟨false, issuerKind, [9, 10, 11, 12, 13, 14, 15, 16]⟩], (0x4F, 0x2A)⟩]

/-- Their listing. -/
def crowdedListing : String :=
  ":user ID packet:\n" ++
    ":signature packet: algo 1, keyid 0102030405060708\n" ++
    "\tversion 4, created 7, md5len 0, sigclass 0x10\n" ++
    "\tdigest algo 8, begin of digest 4f 2a\n" ++
    "\thashed subpkt 33 len 21 " ++
      "(issuer fpr v4 ABABABABABABABABABABABABABABABABABABABAB)\n" ++
    "\tcritical hashed subpkt 2 len 4 (sig created 7)\n" ++
    "\thashed subpkt 100 len 5 (data: 0a3a736967)\n" ++
    "\tsubpkt 2 len 4 (sig created 9)\n" ++
    "\tsubpkt 16 len 8 (issuer key ID 0102030405060708)\n" ++
    "\tsubpkt 16 len 8 (issuer key ID 090A0B0C0D0E0F10)\n"

/-- The two packets are found again, with all subpackets of the signature, and the first
lines of this agree with the others. -/
theorem crowded_read_back :
    listing crowdedPackets = crowdedListing ∧
      List.Forall₂ EntryOf crowdedPackets (entriesOf crowdedListing) ∧
      (entriesOf crowdedListing).map (fun e => e.rows.map (·.kind)) =
        [[], [33, 2, 100, 2, 16, 16]] ∧
      ∀ e ∈ entriesOf crowdedListing, e.under ≠ [] → e.Agrees := by
  have text : listing crowdedPackets = crowdedListing := by decide +kernel
  obtain ⟨-, entries, -, rows, agree⟩ := listing_read_back crowdedPackets
  rw [text] at entries rows agree
  have kinds := congrArg (List.map (List.map Row.kind)) rows
  rw [List.map_map, List.map_map] at kinds
  exact ⟨text, entries, kinds, agree⟩

end IssuerAudit.OpenPgp
