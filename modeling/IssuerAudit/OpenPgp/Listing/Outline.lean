import IssuerAudit.OpenPgp.Listing
import IssuerAudit.Text.Pieces
/-!
The outline of a listing.  An entry holds the lines for one packet; what lines a packet
asks for is said by `EntryOf`.  Entries can also be cut from the text of a listing, and
what the first lines of a signature tell of its issuer and its time can be looked up in
the rows that are read from the others.
-/

namespace IssuerAudit.OpenPgp

structure Entry where
  /-- The line that opens the entry. -/
  heading : List Char
  under : List (List Char)
  deriving DecidableEq, Repr

def Entry.lines (e : Entry) : List (List Char) :=
  e.heading :: e.under

/-- Holds of a subpacket that is the first one of a kind, where the hashed ones come
before the others. -/
def Signature.First (s : Signature) (kind : Nat) (p : Subpacket) : Prop :=
  p.kind = kind ∧ ∃ before after, s.hashed ++ s.unhashed = before ++ p :: after ∧
    ∀ q ∈ before, q.kind ≠ kind

def Signature.Without (s : Signature) (kind : Nat) : Prop :=
  ∀ p ∈ s.hashed ++ s.unhashed, p.kind ≠ kind

/-- The digits of the key ID that a fingerprint implies: its last sixteen if it has
forty, and else all of them. -/
def keyDigits (fingerprint : List Char) : List Char :=
  if fingerprint.length = 40 then fingerprint.drop (40 - 16) else fingerprint

/-- Holds of a signature and the digits of the key ID that its subpackets tell. -/
inductive Signature.NamesKey (s : Signature) : List Char → Prop
  | keyId {p : Subpacket} (first : s.First issuerKind p) :
      s.NamesKey (Text.upperHex p.body)
  | fingerprint {p : Subpacket} (noKeyId : s.Without issuerKind)
      (first : s.First issuerFingerprintKind p) :
      s.NamesKey (keyDigits (Text.upperHex (p.body.drop 1)))
  | nothing (noKeyId : s.Without issuerKind)
      (noFingerprint : s.Without issuerFingerprintKind) :
      s.NamesKey (List.replicate 16 '0')

/-- Holds of a signature and the time of its making that its subpackets tell. -/
inductive Signature.TellsTime (s : Signature) : Nat → Prop
  | created {p : Subpacket} (first : s.First createdKind p) :
      s.TellsTime (natOfBytes p.body)
  | nothing (noTime : s.Without createdKind) : s.TellsTime 0

/-- Holds of a packet and its entry: one line for a packet that is no signature, and for
a signature three lines of its own, then one line for each hashed subpacket and one for
each other. -/
inductive EntryOf : Packet → Entry → Prop
  | other (tag : Tag) : EntryOf (.other tag) ⟨(":" ++ tag.label ++ " packet:").toList, []⟩
  | signature {s : Signature} {key : List Char} {time : Nat} (named : s.NamesKey key)
      (told : s.TellsTime time) :
      EntryOf (.signature s)
        ⟨(":signature packet: algo " ++ toString s.keyAlgorithm ++ ", keyid " ++
            String.ofList key).toList,
          [("\tversion " ++ toString s.version ++ ", created " ++ toString time ++
              ", md5len " ++ toString s.hashedSize ++ ", sigclass 0x" ++
              String.ofList (Text.lowerHex [s.sort])).toList,
            ("\tdigest algo " ++ toString s.hashAlgorithm ++ ", begin of digest " ++
              String.ofList (Text.lowerHex [s.digest.1]) ++ " " ++
              String.ofList (Text.lowerHex [s.digest.2])).toList] ++
            (s.hashed.map fun p => (p.line true).toList) ++
            (s.unhashed.map fun p => (p.line false).toList)⟩

/-- Cuts lines into entries, which are opened by a colon; the lines in front of the
first one come before them. -/
def cutEntries : List (List Char) → List (List Char) × List Entry
  | [] => ([], [])
  | line :: rest =>
      let cut := cutEntries rest
      if line.head? = some ':' then ([], ⟨line, cut.1⟩ :: cut.2)
      else (line :: cut.1, cut.2)

theorem cutEntries_opening {line : List Char} (h : line.head? = some ':')
    (rest : List (List Char)) :
    cutEntries (line :: rest) =
      ([], ⟨line, (cutEntries rest).1⟩ :: (cutEntries rest).2) :=
  if_pos h

theorem cutEntries_inside {line : List Char} (h : line.head? ≠ some ':')
    (rest : List (List Char)) :
    cutEntries (line :: rest) = (line :: (cutEntries rest).1, (cutEntries rest).2) :=
  if_neg h

/-- The entries of a text whose lines all end in a line feed. -/
def entriesOf (text : String) : List Entry :=
  (cutEntries (Text.pieces '\n' text.toList).dropLast).2

def lastWord (cs : List Char) : List Char :=
  (Text.pieces ' ' cs).getLastD []

/-- What the line for a subpacket tells. -/
structure Row where
  critical : Bool
  hashed : Bool
  kind : Nat
  size : Nat
  /-- What stands in the brackets. -/
  said : List Char
  deriving DecidableEq, Repr

/-- Takes a word off the front of words if it stands there. -/
def takeWord (word : String) : List (List Char) → Bool × List (List Char)
  | [] => (false, [])
  | first :: rest => if first = word.toList then (true, rest) else (false, first :: rest)

def numberOf (digits : List Char) : Nat :=
  Nat.ofDigitChars 10 digits 0

def readRow? (words : List (List Char)) : Option Row :=
  let critical := takeWord "critical" words
  let hashed := takeWord "hashed" critical.2
  match hashed.2 with
  | mark :: kind :: len :: size :: said =>
      if mark = "subpkt".toList ∧ len = "len".toList then
        some ⟨critical.1, hashed.1, numberOf kind, numberOf size,
          ((Text.joinPieces ' ' said).drop 1).dropLast⟩
      else none
  | _ => none

def rowOf? : List Char → Option Row
  | '\t' :: rest => readRow? (Text.pieces ' ' rest)
  | _ => none

def Subpacket.row (hashed : Bool) (p : Subpacket) : Row :=
  ⟨p.critical, hashed, p.kind, p.body.length, p.text.toList⟩

def Packet.rows : Packet → List Row
  | .signature s =>
      s.hashed.map (Subpacket.row true) ++ s.unhashed.map (Subpacket.row false)
  | .other _ => []

def Entry.rows (e : Entry) : List Row :=
  e.under.filterMap rowOf?

/-- The last word of the first row of a kind. -/
def saidOf? (kind : Nat) (rows : List Row) : Option (List Char) :=
  (rows.find? (·.kind = kind)).map (lastWord ·.said)

def keyIn (rows : List Row) : List Char :=
  match saidOf? issuerKind rows, saidOf? issuerFingerprintKind rows with
  | some id, _ => id
  | none, some fingerprint => keyDigits fingerprint
  | none, none => List.replicate 16 '0'

def timeIn (rows : List Row) : List Char :=
  (saidOf? createdKind rows).getD ['0']

/-- The time, in digits, in the second line for a signature: the last word before the
second comma. -/
def timeWord (line : List Char) : List Char :=
  lastWord ((Text.pieces ',' line).getD 1 [])

/-- Holds of an entry whose first lines tell the key ID and the time that its rows tell.
-/
structure Entry.Agrees (e : Entry) : Prop where
  key : lastWord e.heading = keyIn e.rows
  time : timeWord (e.under.headD []) = timeIn e.rows

end IssuerAudit.OpenPgp
