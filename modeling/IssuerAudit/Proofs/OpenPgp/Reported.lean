import IssuerAudit.OpenPgp.Data
import IssuerAudit.OpenPgp.Issuer
import IssuerAudit.Proofs.Fingerprint.Search
import IssuerAudit.Proofs.OpenPgp.Lines
/-!
What a listing reports.  The line of a subpacket reports a fingerprint just if the
subpacket tells one of version 4, and no other line of a listing reports anything;
so the fingerprint found in a listing is the one that the packets name:
`list_reports_issuer`.
-/

namespace IssuerAudit.OpenPgp

open Fingerprint (digits firstRun? isCapitalHex marker occursIn ofLine?)

theorem isCapitalHex_upperDigit {n : Nat} (h : n < 16) :
    isCapitalHex (Text.upperDigit n) = true := by
  have all : ∀ k : Fin 16, isCapitalHex (Text.upperDigit k.val) = true := by
    decide
  exact all ⟨n, h⟩

theorem all_upperHex (bytes : Bytes) :
    (Text.upperHex bytes).all isCapitalHex = true := by
  rw [List.all_eq_true]
  intro c mem
  obtain ⟨n, hn, rfl⟩ := exists_of_mem_hex mem
  exact isCapitalHex_upperDigit hn

/-- What stands in front of the text of a fingerprint of version 4 is shorter than
a fingerprint and ends in a bracket. -/
theorem lead_of_version4 (hashed : Bool) {p : Subpacket}
    (hkind : p.kind = issuerFingerprintKind) (hbody : p.body.length = 21) :
    ∃ before, (p.lead hashed).toList = before ++ ['('] ∧
      before.length < digits := by
  have closed : (p.lead hashed).toList =
        (p.lead hashed).toList.dropLast ++ ['('] ∧
      (p.lead hashed).toList.dropLast.length < digits := by
    unfold Subpacket.lead
    rw [hkind, hbody]
    cases p.critical <;> cases hashed <;> decide
  exact ⟨_, closed⟩

/-- The line of a subpacket for a fingerprint of version 4 reports it. -/
theorem ofLine?_version4 (hashed : Bool) {p : Subpacket}
    (hkind : p.kind = issuerFingerprintKind)
    (hsize : (p.body.drop 1).length = fingerprintSize) :
    ofLine? (p.line hashed).toList =
      some (Text.upperHex (p.body.drop 1)) := by
  have hbody : p.body.length = 21 := by
    rw [List.length_drop, fingerprintSize] at hsize
    omega
  obtain ⟨before, hlead, short⟩ := lead_of_version4 hashed hkind hbody
  have version : fingerprintVersion (p.body.drop 1) = 4 := if_pos hsize
  rw [p.line_issuerFingerprint hashed hkind, version]
  generalize p.body.drop 1 = fingerprint at hsize ⊢
  have words : ("issuer fpr v" ++ toString 4 ++ " ").toList =
      marker ++ [' '] := by decide
  have line : (p.lead hashed ++ ("issuer fpr v" ++ toString 4 ++ " " ++
      String.ofList (Text.upperHex fingerprint)) ++ ")").toList = before ++
        '(' :: (marker ++ ' ' :: (Text.upperHex fingerprint ++ [')'])) := by
    rw [String.toList_append, String.toList_append, hlead,
      String.toList_append, words, String.toList_ofList]
    simp
  have long : (Text.upperHex fingerprint).length = digits := by
    rw [Text.length_upperHex, hsize]
    rfl
  rw [line]
  exact Fingerprint.ofLine?_of_marked short long (all_upperHex _) _

/-- The line of a subpacket for any other fingerprint of the issuer reports
nothing, for its version is another. -/
theorem ofLine?_otherVersion (hashed : Bool) {p : Subpacket}
    (hkind : p.kind = issuerFingerprintKind)
    (hsize : (p.body.drop 1).length ≠ fingerprintSize) :
    ofLine? (p.line hashed).toList = none := by
  rw [p.line_issuerFingerprint hashed hkind]
  generalize p.body.drop 1 = fingerprint at hsize ⊢
  -- the version is one digit, and not the one of the marker
  have digit : ∃ d, toString (fingerprintVersion fingerprint) =
      String.ofList [d] ∧ d ≠ '4' ∧ d ≠ 'v' := by
    have size : fingerprint.length ≠ 20 := hsize
    unfold fingerprintVersion
    rw [if_neg size]
    split
    · exact ⟨'5', by decide⟩
    · exact ⟨'0', by decide⟩
  obtain ⟨d, hd, other, plain⟩ := digit
  have words : "issuer fpr v".toList = "issuer fpr ".toList ++ ['v'] := by
    decide
  have line : (p.lead hashed ++ ("issuer fpr v" ++
      toString (fingerprintVersion fingerprint) ++ " " ++
      String.ofList (Text.upperHex fingerprint)) ++ ")").toList =
        ((p.lead hashed).toList ++ "issuer fpr ".toList) ++ 'v' ::
          (d :: ' ' :: (Text.upperHex fingerprint ++ [')'])) := by
    simp only [String.toList_append, hd, words, String.toList_ofList]
    simp
  have hex : 'v' ∉ Text.upperHex fingerprint := by
    have lacks := lacks_upperHex marks_no_digit fingerprint 'v' (by decide)
    rwa [String.toList_ofList] at lacks
  have before : 'v' ∉ (p.lead hashed).toList ++ "issuer fpr ".toList := by
    rw [List.mem_append, not_or]
    exact ⟨lacks_lead hashed p 'v' (by decide), by decide⟩
  have behind : 'v' ∉ d :: ' ' :: (Text.upperHex fingerprint ++ [')']) := by
    simp [plain.symm, hex]
  have next : (d :: ' ' :: (Text.upperHex fingerprint ++ [')'])).head? ≠
      some '4' := by
    simp [other]
  rw [line]
  exact Fingerprint.ofLine?_of_other_version before behind next

/-- The line of a subpacket reports the fingerprint of version 4 that it tells of
the issuer, and nothing else. -/
theorem ofLine?_line (hashed : Bool) (p : Subpacket) :
    ofLine? (p.line hashed).toList =
      p.issuerVersion4?.map Text.upperHex := by
  unfold Subpacket.issuerVersion4? Subpacket.issuerFingerprint?
  by_cases hkind : p.kind = issuerFingerprintKind
  · rw [if_pos hkind, Option.filter_some]
    by_cases hsize : (p.body.drop 1).length = fingerprintSize
    · rw [ofLine?_version4 hashed hkind hsize, if_pos (beq_iff_eq.mpr hsize)]
      rfl
    · rw [ofLine?_otherVersion hashed hkind hsize,
        if_neg (mt beq_iff_eq.mp hsize)]
      rfl
  · rw [if_neg hkind]
    exact Fingerprint.ofLine?_of_lacks (by decide)
      (lacks_line hashed hkind 'v' (by decide))

/-- What the lines of a packet report. -/
theorem findSome?_lines (p : Packet) :
    (p.lines.map String.toList).findSome? ofLine? =
      p.issuer?.map Text.upperHex := by
  cases p with
  | other tag =>
      have nothing : ofLine? (":" ++ tag.label ++ " packet:").toList = none :=
        Fingerprint.ofLine?_of_lacks (by decide)
          (lacks_otherLine tag 'v' (by decide))
      rw [Packet.lines, List.map_singleton, List.findSome?_singleton, nothing]
      rfl
  | signature s =>
      have key : ofLine? s.keyLine.toList = none :=
        Fingerprint.ofLine?_of_lacks (by decide)
          (lacks_keyLine s 'v' (by decide))
      have time : ofLine? s.timeLine.toList = none :=
        Fingerprint.ofLine?_of_lacks (by decide)
          (lacks_timeLine s 'u' (by decide))
      have digest : ofLine? s.digestLine.toList = none :=
        Fingerprint.ofLine?_of_lacks (by decide)
          (lacks_digestLine s 'v' (by decide))
      have area : ∀ hashed, (ofLine? ∘ String.toList) ∘
          Subpacket.line hashed =
            Option.map Text.upperHex ∘ Subpacket.issuerVersion4? := by
        intro hashed
        funext p
        simp only [Function.comp_apply, ofLine?_line]
      change (s.lines.map String.toList).findSome? ofLine? =
        (s.subpackets.findSome? Subpacket.issuerVersion4?).map Text.upperHex
      rw [List.findSome?_map, s.lines_eq, Signature.subpackets,
        List.map_findSome?, List.findSome?_append, List.findSome?_append,
        List.findSome?_append, List.findSome?_map, List.findSome?_map, area,
        area]
      simp [key, time, digest]

/-- The fingerprint that is found in a listing is the issuer that the packets
name. -/
theorem extract?_listing (packets : List Packet) :
    Fingerprint.extract? (listing packets) =
      (issuerOf? packets).map fun fingerprint =>
        String.ofList (Text.upperHex fingerprint) := by
  have each : ∀ packets : List Packet,
      ((packets.flatMap Packet.lines).map String.toList).findSome? ofLine? =
        (issuerOf? packets).map Text.upperHex := by
    intro packets
    induction packets with
    | nil => rfl
    | cons p rest ih =>
        rw [List.flatMap_cons, List.map_append, List.findSome?_append, ih,
          findSome?_lines, issuerOf?, issuerOf?, List.findSome?_cons]
        cases p.issuer? <;> rfl
  rw [Fingerprint.extract?, Fingerprint.ofListing?, lines_listing, each,
    Option.map_map]
  rfl

theorem issuerVersion4?_eq_none_iff (p : Subpacket) :
    p.issuerVersion4? = none ↔
      (p.kind = issuerFingerprintKind →
        (p.body.drop 1).length ≠ fingerprintSize) := by
  unfold Subpacket.issuerVersion4? Subpacket.issuerFingerprint?
  by_cases hkind : p.kind = issuerFingerprintKind
  · rw [if_pos hkind, Option.filter_some]
    simp [hkind]
  · rw [if_neg hkind]
    simp [hkind]

/-- No issuer is named just if no signature tells a fingerprint of version 4. -/
theorem issuerOf?_eq_none_iff (packets : List Packet) :
    issuerOf? packets = none ↔
      ∀ s, Packet.signature s ∈ packets → ∀ p ∈ s.hashed ++ s.unhashed,
        p.kind = issuerFingerprintKind →
          (p.body.drop 1).length ≠ fingerprintSize := by
  rw [issuerOf?, List.findSome?_eq_none_iff]
  constructor
  · intro none s hs p hp
    have silent := none (.signature s) hs
    rw [Packet.issuer?, List.findSome?_eq_none_iff] at silent
    exact (issuerVersion4?_eq_none_iff p).mp (silent p hp)
  · intro silent packet hpacket
    cases packet with
    | other tag => rfl
    | signature s =>
        rw [Packet.issuer?, List.findSome?_eq_none_iff]
        intro p hp
        exact (issuerVersion4?_eq_none_iff p).mpr (silent s hpacket p hp)

/-- Whatever else data holds, the fingerprint that is found in its listing is the
first one of version 4 that its signatures tell, in the order of the stream and
with the hashed subpackets of each before the others; and none is found just if
there is none. -/
theorem list_reports_issuer {data : Bytes} {listing : String}
    (h : list data = .ok listing) :
    ∃ packets, packetsIn data = .ok packets ∧
      Fingerprint.extract? listing =
        (issuerOf? packets).map (fun fingerprint =>
          String.ofList (Text.upperHex fingerprint)) ∧
      (Fingerprint.extract? listing = none ↔
        ∀ s, Packet.signature s ∈ packets → ∀ p ∈ s.hashed ++ s.unhashed,
          p.kind = issuerFingerprintKind →
            (p.body.drop 1).length ≠ fingerprintSize) := by
  unfold list at h
  split at h
  · cases h
  · next packets hpackets =>
    split at h
    · obtain rfl := Except.ok.inj h
      refine ⟨packets, hpackets, extract?_listing packets, ?_⟩
      rw [extract?_listing, Option.map_eq_none_iff, issuerOf?_eq_none_iff]
    · cases h

/-- A signature that tells, in this order, a key ID, the words of the marker under
a kind without a meaning, and the issuer. -/
def sampleData : Bytes :=
  [0xC2, 64, 4, 0, 22, 8, 0, 25,
    9, 16, 1, 2, 3, 4, 5, 6, 7, 8,
    14, 100, 0x69, 0x73, 0x73, 0x75, 0x65, 0x72, 0x20, 0x66, 0x70, 0x72,
    0x20, 0x76, 0x34,
    0, 23, 22, 33, 4,
    0xA0, 0xA1, 0xA2, 0xA3, 0xA4, 0xA5, 0xA6, 0xA7, 0xA8, 0xA9,
    0xB0, 0xB1, 0xB2, 0xB3, 0xB4, 0xB5, 0xB6, 0xB7, 0xB8, 0xB9,
    0xAB, 0xCD, 0, 1, 1, 0, 1, 1]

/-- Its listing, in which the words of the marker are digits. -/
def sampleDataListing : String :=
  ":signature packet: algo 22, keyid 0102030405060708\n" ++
    "\tversion 4, created 0, md5len 0, sigclass 0x00\n" ++
    "\tdigest algo 8, begin of digest ab cd\n" ++
    "\thashed subpkt 16 len 8 (issuer key ID 0102030405060708)\n" ++
    "\thashed subpkt 100 len 13 (data: 69737375657220667072207634)\n" ++
    "\tsubpkt 33 len 21 " ++
      "(issuer fpr v4 A0A1A2A3A4A5A6A7A8A9B0B1B2B3B4B5B6B7B8B9)\n"

/-- Of this signature the issuer is found, and not what looks like one. -/
theorem list_reports_sample :
    list sampleData = .ok sampleDataListing ∧
      Fingerprint.extract? sampleDataListing =
        some "A0A1A2A3A4A5A6A7A8A9B0B1B2B3B4B5B6B7B8B9" := by
  have listed : list sampleData = .ok sampleDataListing := by
    decide +kernel
  have named : (packetsIn sampleData).toOption.bind issuerOf? =
      some ((sampleData.drop 38).take 20) := by
    decide +kernel
  obtain ⟨packets, hpackets, reported, -⟩ := list_reports_issuer listed
  have issuer : issuerOf? packets = some ((sampleData.drop 38).take 20) := by
    rw [hpackets] at named
    exact named
  refine ⟨listed, ?_⟩
  rw [reported, issuer]
  decide

end IssuerAudit.OpenPgp
