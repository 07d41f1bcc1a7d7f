import IssuerAudit.OpenPgp.Listing
import IssuerAudit.Text.Lines
/-!
The lines of listings.  What a packet holds gets into a listing only as numbers
and hexadecimal digits, so no content can break a line, and the lines of a listing
are those that were put in: `lines_listing`.
-/

namespace IssuerAudit.OpenPgp

/-- Holds of a text in which none of some characters occurs. -/
def Lacks (cs : List Char) (text : String) : Prop :=
  ∀ c ∈ cs, c ∉ text.toList

instance (cs : List Char) (text : String) : Decidable (Lacks cs text) :=
  List.decidableBAll (fun c => c ∉ text.toList) cs

/-- Holds of characters of which none is a hexadecimal digit. -/
def noDigits (cs : List Char) : Bool :=
  cs.all fun c => (Text.hexValue? c).isNone

/-- The characters that end a line. -/
def breaks : List Char := ['\n', '\r']

/-- The characters that end a line, and the one that opens the version in the
words for a fingerprint of the issuer. -/
def marks : List Char := ['\n', '\r', 'v']

theorem lacks_append {cs : List Char} {a b : String} :
    Lacks cs (a ++ b) ↔ Lacks cs a ∧ Lacks cs b := by
  simp only [Lacks, String.toList_append, List.mem_append, not_or]
  constructor
  · intro h
    exact ⟨fun c hc => (h c hc).1, fun c hc => (h c hc).2⟩
  · rintro ⟨ha, hb⟩ c hc
    exact ⟨ha c hc, hb c hc⟩

theorem Lacks.of_subset {cs ds : List Char} {text : String} (h : Lacks ds text)
    (sub : cs ⊆ ds) : Lacks cs text :=
  fun c hc => h c (sub hc)

theorem hexValue?_of_noDigits {cs : List Char} (h : noDigits cs = true)
    {c : Char} (hc : c ∈ cs) : Text.hexValue? c = none :=
  Option.isNone_iff_eq_none.mp (List.all_eq_true.mp h c hc)

theorem hexValue?_of_isDigit {c : Char} (h : c.isDigit = true) :
    Text.hexValue? c ≠ none := by
  have bounds : 0x30 ≤ c.toNat ∧ c.toNat ≤ 0x39 := by
    simp only [Char.isDigit, Bool.and_eq_true, decide_eq_true_eq, ge_iff_le,
      UInt32.le_iff_toNat_le] at h
    exact h
  simp [Text.hexValue?, bounds]

/-- Bytes in hexadecimal are digits, by whatever characters these are written. -/
theorem exists_of_mem_hex {digit : Nat → Char} {bytes : Bytes} {c : Char}
    (h : c ∈ bytes.flatMap fun b =>
      [digit (b.toNat / 16), digit (b.toNat % 16)]) :
    ∃ n < 16, c = digit n := by
  obtain ⟨b, -, mem⟩ := List.mem_flatMap.mp h
  have high : b.toNat / 16 < 16 := by
    have := b.toNat_lt
    omega
  have low : b.toNat % 16 < 16 := Nat.mod_lt _ (by decide)
  simp only [List.mem_cons, List.not_mem_nil, or_false] at mem
  rcases mem with rfl | rfl
  · exact ⟨_, high, rfl⟩
  · exact ⟨_, low, rfl⟩

/-- What stands in the line of a subpacket in front of its text. -/
def Subpacket.lead (hashed : Bool) (p : Subpacket) : String :=
  "\t" ++ (if p.critical then "critical " else "") ++
    (if hashed then "hashed " else "") ++ "subpkt " ++ toString p.kind ++
    " len " ++ toString p.body.length ++ " ("

theorem Subpacket.line_eq (hashed : Bool) (p : Subpacket) :
    p.line hashed = p.lead hashed ++ p.text ++ ")" :=
  rfl

section Contents

variable {cs : List Char} (apart : noDigits cs = true)
include apart

theorem lacks_number (n : Nat) : Lacks cs (toString n) := by
  intro c hc mem
  rw [Nat.toString_eq_ofList_toDigits, String.toList_ofList] at mem
  have digit := Nat.isDigit_of_mem_toDigits (by decide) (by decide) mem
  exact hexValue?_of_isDigit digit (hexValue?_of_noDigits apart hc)

theorem lacks_hex {digit : Nat → Char}
    (hdigit : ∀ n < 16, Text.hexValue? (digit n) = some n) (bytes : Bytes) :
    Lacks cs (String.ofList (bytes.flatMap fun b =>
      [digit (b.toNat / 16), digit (b.toNat % 16)])) := by
  intro c hc mem
  rw [String.toList_ofList] at mem
  obtain ⟨n, hn, rfl⟩ := exists_of_mem_hex mem
  exact nomatch (hdigit n hn).symm.trans (hexValue?_of_noDigits apart hc)

theorem lacks_upperHex (bytes : Bytes) :
    Lacks cs (String.ofList (Text.upperHex bytes)) :=
  lacks_hex apart (fun _ hn => Text.hexValue?_upperDigit hn) bytes

theorem lacks_lowerHex (bytes : Bytes) :
    Lacks cs (String.ofList (Text.lowerHex bytes)) :=
  lacks_hex apart (fun _ hn => Text.hexValue?_lowerDigit hn) bytes

end Contents

theorem marks_no_digit : noDigits marks = true := by
  decide

theorem breaks_no_digit : noDigits breaks = true := by
  decide

theorem lacks_lead (hashed : Bool) (p : Subpacket) :
    Lacks marks (p.lead hashed) := by
  simp only [Subpacket.lead, lacks_append]
  refine ⟨⟨⟨⟨⟨⟨⟨?_, ?_⟩, ?_⟩, ?_⟩, ?_⟩, ?_⟩, ?_⟩, ?_⟩
  · decide
  · cases p.critical <;> decide
  · cases hashed <;> decide
  · decide
  · exact lacks_number marks_no_digit _
  · decide
  · exact lacks_number marks_no_digit _
  · decide

theorem lacks_dataText (p : Subpacket) : Lacks marks p.dataText := by
  unfold Subpacket.dataText
  split
  · decide
  split
  · exact lacks_lowerHex marks_no_digit _
  · simp only [lacks_append]
    exact ⟨⟨by decide, lacks_number marks_no_digit _⟩, by decide⟩

/-- The line of a subpacket other than for a fingerprint of the issuer does not
look like one. -/
theorem lacks_line (hashed : Bool) {p : Subpacket}
    (h : p.kind ≠ issuerFingerprintKind) : Lacks marks (p.line hashed) := by
  simp only [Subpacket.line_eq, lacks_append]
  refine ⟨⟨lacks_lead hashed p, ?_⟩, by decide⟩
  unfold Subpacket.text
  split
  · exact lacks_append.mpr ⟨by decide, lacks_number marks_no_digit _⟩
  split
  · exact lacks_append.mpr ⟨by decide, lacks_upperHex marks_no_digit _⟩
  · exact lacks_append.mpr ⟨by decide, lacks_dataText p⟩

/-- The line of a subpacket for a fingerprint of the issuer. -/
theorem Subpacket.line_issuerFingerprint (hashed : Bool) {p : Subpacket}
    (h : p.kind = issuerFingerprintKind) :
    p.line hashed = p.lead hashed ++ ("issuer fpr v" ++
      toString (fingerprintVersion (p.body.drop 1)) ++ " " ++
      String.ofList (Text.upperHex (p.body.drop 1))) ++ ")" := by
  rw [p.line_eq, Subpacket.text, h]
  rfl

/-- No subpacket breaks its line. -/
theorem lacks_breaks_line (hashed : Bool) (p : Subpacket) :
    Lacks breaks (p.line hashed) := by
  by_cases h : p.kind = issuerFingerprintKind
  · rw [p.line_issuerFingerprint hashed h]
    simp only [lacks_append]
    refine ⟨⟨(lacks_lead hashed p).of_subset (by decide),
      ⟨⟨?_, ?_⟩, ?_⟩, ?_⟩, ?_⟩
    · decide
    · exact lacks_number breaks_no_digit _
    · decide
    · exact lacks_upperHex breaks_no_digit _
    · decide
  · exact (lacks_line hashed h).of_subset (by decide)

/-- The first line for a signature. -/
def Signature.keyLine (s : Signature) : String :=
  ":signature packet: algo " ++ toString s.keyAlgorithm ++ ", keyid " ++
    String.ofList (Text.upperHex s.keyId)

/-- The second line for a signature. -/
def Signature.timeLine (s : Signature) : String :=
  "\tversion " ++ toString s.version ++ ", created " ++ toString s.created ++
    ", md5len " ++ toString s.hashedSize ++ ", sigclass 0x" ++
    String.ofList (Text.lowerHex [s.sort])

/-- The third line for a signature. -/
def Signature.digestLine (s : Signature) : String :=
  "\tdigest algo " ++ toString s.hashAlgorithm ++ ", begin of digest " ++
    String.ofList (Text.lowerHex [s.digest.1]) ++ " " ++
    String.ofList (Text.lowerHex [s.digest.2])

/-- A signature has three lines of its own and one for each subpacket. -/
theorem Signature.lines_eq (s : Signature) :
    s.lines = [s.keyLine, s.timeLine, s.digestLine] ++
      s.hashed.map (Subpacket.line true) ++
      s.unhashed.map (Subpacket.line false) :=
  rfl

theorem lacks_keyLine (s : Signature) : Lacks marks s.keyLine := by
  unfold Signature.keyLine
  simp only [lacks_append]
  refine ⟨⟨⟨?_, ?_⟩, ?_⟩, ?_⟩
  · decide
  · exact lacks_number marks_no_digit _
  · decide
  · exact lacks_upperHex marks_no_digit _

/-- The line with the version of a signature has a `v`, but no `u`. -/
theorem lacks_timeLine (s : Signature) :
    Lacks ['\n', '\r', 'u'] s.timeLine := by
  have apart : noDigits ['\n', '\r', 'u'] = true := by decide
  unfold Signature.timeLine
  simp only [lacks_append]
  refine ⟨⟨⟨⟨⟨⟨⟨?_, ?_⟩, ?_⟩, ?_⟩, ?_⟩, ?_⟩, ?_⟩, ?_⟩
  · decide
  · exact lacks_number apart _
  · decide
  · exact lacks_number apart _
  · decide
  · exact lacks_number apart _
  · decide
  · exact lacks_lowerHex apart _

theorem lacks_digestLine (s : Signature) : Lacks marks s.digestLine := by
  unfold Signature.digestLine
  simp only [lacks_append]
  refine ⟨⟨⟨⟨⟨?_, ?_⟩, ?_⟩, ?_⟩, ?_⟩, ?_⟩
  · decide
  · exact lacks_number marks_no_digit _
  · decide
  · exact lacks_lowerHex marks_no_digit _
  · decide
  · exact lacks_lowerHex marks_no_digit _

/-- The line for a packet other than a signature. -/
theorem lacks_otherLine (tag : Tag) :
    Lacks marks (":" ++ tag.label ++ " packet:") := by
  simp only [lacks_append]
  refine ⟨⟨?_, ?_⟩, ?_⟩
  · decide
  · unfold Tag.label
    split <;> decide
  · decide

/-- No packet breaks a line. -/
theorem lacks_breaks_lines (p : Packet) :
    ∀ line ∈ p.lines, Lacks breaks line := by
  cases p with
  | other tag =>
      intro line mem
      obtain rfl := List.mem_singleton.mp mem
      exact (lacks_otherLine tag).of_subset (by decide)
  | signature s =>
      intro line mem
      change line ∈ s.lines at mem
      rw [s.lines_eq, List.mem_append, List.mem_append] at mem
      rcases mem with (mem | mem) | mem
      · simp only [List.mem_cons, List.not_mem_nil, or_false] at mem
        rcases mem with rfl | rfl | rfl
        · exact (lacks_keyLine s).of_subset (by decide)
        · exact (lacks_timeLine s).of_subset (by decide)
        · exact (lacks_digestLine s).of_subset (by decide)
      · obtain ⟨p, -, rfl⟩ := List.mem_map.mp mem
        exact lacks_breaks_line true p
      · obtain ⟨p, -, rfl⟩ := List.mem_map.mp mem
        exact lacks_breaks_line false p

/-- The lines of a listing are those of the packets, in their order. -/
theorem lines_listing (packets : List Packet) :
    Text.lines (listing packets).toList =
      (packets.flatMap Packet.lines).map String.toList := by
  have text : (listing packets).toList =
      ((packets.flatMap Packet.lines).map String.toList).flatMap
        (· ++ ['\n']) := by
    simp [listing, List.flatMap_map]
  rw [text]
  apply Text.lines_flatMap_newline
  intro line mem
  obtain ⟨shown, hshown, rfl⟩ := List.mem_map.mp mem
  obtain ⟨p, -, hline⟩ := List.mem_flatMap.mp hshown
  have whole := lacks_breaks_lines p shown hline
  exact ⟨whole '\n' (by decide), whole '\r' (by decide)⟩

end IssuerAudit.OpenPgp
