import IssuerAudit.Proofs.OpenPgp.FirstSubpackets
import IssuerAudit.Proofs.OpenPgp.Lines
/-!
Rows of a listing.  From the line for a subpacket its flags, its kind, its size and its
words are read back, `rowOf?_line`, and from no other line under a heading is anything.
So key ID and time of a signature can be looked up in the rows: `keyIn_rows` and
`timeIn_rows`.
-/

namespace IssuerAudit.OpenPgp

theorem blank_no_digit : noDigits [' '] = true := by
  decide

theorem blank_not_mem_number (n : Nat) : ' ' ∉ (toString n).toList :=
  lacks_number blank_no_digit n ' ' (by decide)

theorem blank_not_mem_upperHex (bytes : Bytes) :
    ' ' ∉ (String.ofList (Text.upperHex bytes)).toList :=
  lacks_upperHex blank_no_digit bytes ' ' (by decide)

/-- A word with a blank behind it, or nothing. -/
def flagWord (there : Bool) (word : String) : List Char :=
  if there then word.toList ++ [' '] else []

theorem pieces_flagWord {word : String} (whole : ' ' ∉ word.toList) (there : Bool)
    (rest : List Char) :
    Text.pieces ' ' (flagWord there word ++ rest) =
      (if there then [word.toList] else []) ++ Text.pieces ' ' rest := by
  cases there with
  | true =>
      have front : flagWord true word ++ rest = word.toList ++ ' ' :: rest := by
        simp [flagWord]
      rw [front, Text.pieces_append_sep whole]
      rfl
  | false => rfl

/-- A word that may stand in front of words is taken off if it does. -/
theorem takeWord_flagWord {word : String} (there : Bool) {words : List (List Char)}
    (other : words.head? ≠ some word.toList) :
    takeWord word ((if there then [word.toList] else []) ++ words) =
      (there, words) := by
  cases there with
  | true => exact if_pos rfl
  | false =>
      cases words with
      | nil => rfl
      | cons first rest =>
          rw [List.head?_cons, ne_eq, Option.some.injEq] at other
          exact if_neg other

/-- What stands in the line for a subpacket behind the words for its flags. -/
def Subpacket.behindFlags (p : Subpacket) : String :=
  "subpkt " ++ toString p.kind ++ " len " ++ toString p.body.length ++ " (" ++
    p.text ++ ")"

theorem toList_line (hashed : Bool) (p : Subpacket) :
    (p.line hashed).toList = '\t' :: (flagWord p.critical "critical" ++
      (flagWord hashed "hashed" ++ p.behindFlags.toList)) := by
  have tab : "\t".toList = ['\t'] := by decide
  have critical : (if p.critical = true then "critical " else "").toList =
      flagWord p.critical "critical" := by
    cases p.critical <;> decide
  have area : (if hashed = true then "hashed " else "").toList =
      flagWord hashed "hashed" := by
    cases hashed <;> decide
  simp only [p.line_eq, Subpacket.lead, Subpacket.behindFlags, String.toList_append,
    tab, critical, area, List.append_assoc, List.cons_append, List.nil_append]

theorem pieces_behindFlags (p : Subpacket) :
    Text.pieces ' ' p.behindFlags.toList =
      "subpkt".toList :: (toString p.kind).toList :: "len".toList ::
        (toString p.body.length).toList ::
        Text.pieces ' ' ('(' :: (p.text.toList ++ [')'])) := by
  have mark : "subpkt ".toList = "subpkt".toList ++ [' '] := by decide
  have size : " len ".toList = ' ' :: ("len".toList ++ [' ']) := by decide
  have opening : " (".toList = [' ', '('] := by decide
  have closing : ")".toList = [')'] := by decide
  simp only [Subpacket.behindFlags, String.toList_append, mark, size, opening, closing,
    List.append_assoc, List.cons_append, List.nil_append]
  rw [Text.pieces_append_sep (by decide),
    Text.pieces_append_sep (blank_not_mem_number _),
    Text.pieces_append_sep (by decide),
    Text.pieces_append_sep (blank_not_mem_number _)]

theorem numberOf_toString (n : Nat) : numberOf (toString n).toList = n := by
  rw [Nat.toString_eq_ofList_toDigits, String.toList_ofList, numberOf,
    Nat.ofDigitChars_toDigits (by decide) (by decide)]

/-- The line for a subpacket is read back. -/
theorem rowOf?_line (hashed : Bool) (p : Subpacket) :
    rowOf? (p.line hashed).toList = some (p.row hashed) := by
  have words := pieces_behindFlags p
  -- the word behind the place of a flag is never the one for this flag
  have noHashed : (Text.pieces ' ' p.behindFlags.toList).head? ≠
      some "hashed".toList := by
    rw [words, List.head?_cons]
    decide
  have noCritical : ((if hashed then ["hashed".toList] else []) ++
      Text.pieces ' ' p.behindFlags.toList).head? ≠ some "critical".toList := by
    rw [words]
    cases hashed <;> exact fun same => absurd (Option.some.inj same) (by decide)
  have said : ((Text.joinPieces ' '
      (Text.pieces ' ' ('(' :: (p.text.toList ++ [')'])))).drop 1).dropLast =
        p.text.toList := by
    rw [Text.joinPieces_pieces, List.drop_one, List.tail_cons, List.dropLast_concat]
  rw [toList_line, rowOf?, pieces_flagWord (by decide), pieces_flagWord (by decide),
    readRow?, takeWord_flagWord p.critical noCritical,
    takeWord_flagWord hashed noHashed, words]
  refine (if_pos ⟨rfl, rfl⟩).trans ?_
  rw [said, numberOf_toString, numberOf_toString, Subpacket.row]

/-- A line with another word behind the tab is for no subpacket. -/
theorem rowOf?_of_other (word : String) (whole : ' ' ∉ word.toList)
    (other : word ∉ ["critical", "hashed", "subpkt"]) (rest : List Char) :
    rowOf? ('\t' :: (word.toList ++ ' ' :: rest)) = none := by
  have apart : ∀ mark ∈ ["critical", "hashed", "subpkt"],
      word.toList ≠ mark.toList := by
    intro mark mem same
    rw [String.toList_inj] at same
    exact other (same ▸ mem)
  have critical := apart "critical" (by simp)
  have hashed := apart "hashed" (by simp)
  have mark := apart "subpkt" (by simp)
  rw [rowOf?, Text.pieces_append_sep whole]
  simp only [readRow?, takeWord, if_neg critical, if_neg hashed]
  split
  · next h =>
    obtain ⟨rfl, -⟩ := List.cons.inj h
    exact if_neg fun both => mark both.1
  · rfl

theorem rowOf?_timeLine (s : Signature) : rowOf? s.timeLine.toList = none := by
  have words : "\tversion ".toList = '\t' :: ("version".toList ++ [' ']) := by decide
  unfold Signature.timeLine
  simp only [String.toList_append, words, List.cons_append, List.append_assoc,
    List.nil_append]
  exact rowOf?_of_other "version" (by decide) (by decide) _

theorem rowOf?_digestLine (s : Signature) : rowOf? s.digestLine.toList = none := by
  have words : "\tdigest algo ".toList =
      '\t' :: ("digest".toList ++ ' ' :: "algo ".toList) := by decide
  unfold Signature.digestLine
  simp only [String.toList_append, words, List.cons_append, List.append_assoc]
  exact rowOf?_of_other "digest" (by decide) (by decide) _

/-- The rows for a signature tell of the first subpacket of a kind. -/
theorem saidOf?_rows (kind : Nat) (s : Signature) :
    saidOf? kind (Packet.signature s).rows =
      (s.first? kind).map fun p => lastWord p.text.toList := by
  have area : ∀ hashed (ps : List Subpacket),
      (ps.map (Subpacket.row hashed)).find? (·.kind = kind) =
        (ps.find? (·.kind = kind)).map (Subpacket.row hashed) :=
    fun hashed ps => List.find?_map
  -- rows stand in the order of the subpackets, the hashed ones first
  rw [saidOf?, Packet.rows, Signature.first?, Signature.subpackets, List.find?_append,
    List.find?_append, area, area]
  cases s.hashed.find? (·.kind = kind) with
  | some p => rfl
  | none => cases s.unhashed.find? (·.kind = kind) <;> rfl

theorem getLast?_append {b : String} {c : Char} (h : b.toList.getLast? = some c)
    (a : String) : (a ++ b).toList.getLast? = some c := by
  rw [String.toList_append, List.getLast?_append, h, Option.some_or]

/-- The last word of a text stands behind its last blank. -/
theorem lastWord_append {front word : String} (ended : front.toList.getLast? = some ' ')
    (whole : ' ' ∉ word.toList) : lastWord (front ++ word).toList = word.toList := by
  obtain ⟨more, hmore⟩ := List.getLast?_eq_some_iff.mp ended
  rw [lastWord, String.toList_append, hmore, List.append_assoc, List.singleton_append,
    Text.pieces_append, Text.pieces_of_whole whole, List.getLastD_concat]

theorem lastWord_hex {front : String} (ended : front.toList.getLast? = some ' ')
    (bytes : Bytes) :
    lastWord (front ++ String.ofList (Text.upperHex bytes)).toList =
      Text.upperHex bytes :=
  (lastWord_append ended (blank_not_mem_upperHex bytes)).trans String.toList_ofList

theorem lastWord_created {p : Subpacket} (h : p.kind = createdKind) :
    lastWord p.text.toList = (toString (natOfBytes p.body)).toList := by
  rw [Subpacket.text, if_pos h]
  exact lastWord_append (by decide) (blank_not_mem_number _)

theorem lastWord_issuer {p : Subpacket} (h : p.kind = issuerKind) :
    lastWord p.text.toList = Text.upperHex p.body := by
  have other : p.kind ≠ createdKind := by
    rw [h]
    decide
  rw [Subpacket.text, if_neg other, if_pos h]
  exact lastWord_hex (by decide) p.body

theorem lastWord_issuerFingerprint {p : Subpacket} (h : p.kind = issuerFingerprintKind) :
    lastWord p.text.toList = Text.upperHex (p.body.drop 1) := by
  have text : p.text = "issuer fpr v" ++
      toString (fingerprintVersion (p.body.drop 1)) ++ " " ++
      String.ofList (Text.upperHex (p.body.drop 1)) := by
    rw [Subpacket.text, h]
    rfl
  rw [text]
  exact lastWord_hex (getLast?_append (by decide) _) _

theorem keyIn_rows (s : Signature) :
    keyIn (Packet.signature s).rows = Text.upperHex s.keyId := by
  rw [keyIn, saidOf?_rows, saidOf?_rows, s.upperHex_keyId]
  cases issuer : s.first? issuerKind with
  | some p => exact lastWord_issuer (Signature.kind_of_first? issuer)
  | none =>
      cases fingerprint : s.first? issuerFingerprintKind with
      | some p =>
          exact congrArg keyDigits
            (lastWord_issuerFingerprint (Signature.kind_of_first? fingerprint))
      | none => rfl

theorem timeIn_rows (s : Signature) :
    timeIn (Packet.signature s).rows = (toString s.created).toList := by
  rw [timeIn, saidOf?_rows, s.created_eq]
  cases created : s.first? createdKind with
  | some p => exact lastWord_created (Signature.kind_of_first? created)
  | none => decide

theorem lastWord_keyLine (s : Signature) :
    lastWord s.keyLine.toList = Text.upperHex s.keyId := by
  unfold Signature.keyLine
  exact lastWord_hex (getLast?_append (by decide) _) _

theorem timeWord_timeLine (s : Signature) :
    timeWord s.timeLine.toList = (toString s.created).toList := by
  have apart : noDigits [','] = true := by decide
  -- the line is cut at its first two commas, and none stands in the parts before
  have version : Lacks [','] ("\tversion " ++ toString s.version) :=
    lacks_append.mpr ⟨by decide, lacks_number apart _⟩
  have created : Lacks [','] (" created " ++ toString s.created) :=
    lacks_append.mpr ⟨by decide, lacks_number apart _⟩
  have line : ∃ rest, s.timeLine.toList =
      ("\tversion " ++ toString s.version).toList ++ ',' ::
        ((" created " ++ toString s.created).toList ++ ',' :: rest) := by
    have first : ", created ".toList = ',' :: " created ".toList := by decide
    have second : ", md5len ".toList = ',' :: " md5len ".toList := by decide
    unfold Signature.timeLine
    simp only [String.toList_append, first, second, List.append_assoc,
      List.cons_append]
    exact ⟨_, rfl⟩
  obtain ⟨rest, line⟩ := line
  rw [line, timeWord, Text.pieces_append_sep (version ',' (by decide)),
    Text.pieces_append_sep (created ',' (by decide))]
  exact lastWord_append (by decide) (blank_not_mem_number _)

end IssuerAudit.OpenPgp
