import IssuerAudit.OpenPgp.Bytes
import IssuerAudit.Text.Base64
import IssuerAudit.Text.Blank
import IssuerAudit.Text.Utf8
/-!
ASCII armor: bytes as text that survives mail.  A line announces the block, header lines
may follow up to a blank one, then comes the data in base 64, perhaps a checksum, and a
closing line with the words of the first.  The whole block may be quoted, with the same
characters in front of every line.
-/

namespace IssuerAudit.OpenPgp.Armor

/-- What a block is announced to hold. -/
inductive Content where
  | message
  | publicKey
  | privateKey
  | signature
  | file
  deriving DecidableEq, Repr

/-- The kinds of content, in the order in which they are looked for. -/
def Content.all : List Content :=
  [.message, .publicKey, .privateKey, .signature, .file]

def Content.words : Content → String
  | .message => "MESSAGE"
  | .publicKey => "PUBLIC KEY BLOCK"
  | .privateKey => "PRIVATE KEY BLOCK"
  | .signature => "SIGNATURE"
  | .file => "ARMORED FILE"

/-- The bytes with which something has to start are taken off. -/
def dropText? (text : String) (bytes : Bytes) : Option Bytes :=
  let front := Text.Utf8.bytesOf text
  if front.isPrefixOf bytes then some (bytes.drop front.length) else none

/-- The characters of the Unicode category of dashes. -/
def dashes : List Char :=
  ['-', '\u058A', '\u05BE', '\u1400', '\u1806', '\u2010', '\u2011', '\u2012', '\u2013',
    '\u2014', '\u2015', '\u2E17', '\u2E1A', '\u2E3A', '\u2E3B', '\u2E40', '\u2E5D',
    '\u301C', '\u3030', '\u30A0', '\uFE31', '\uFE32', '\uFE58', '\uFE63', '\uFF0D',
    Char.ofNat 0x10EAD]

def dropDash? (bytes : Bytes) : Option Bytes :=
  dashes.findSome? fun c => dropText? (String.singleton c) bytes

/-- Takes off all dashes, of which there are at most `fuel`. -/
def dropDashes : Nat → Bytes → Bytes
  | 0, bytes => bytes
  | fuel + 1, bytes =>
      match dropDash? bytes with
      | none => bytes
      | some rest => dropDashes fuel rest

/-- The size of the part of a line in which a boundary has to end. -/
def boundarySize : Nat := 128

/-- Reads a boundary: dashes, `lead`, the words for a content, and dashes. -/
def readBoundary (lead : String) : Reader Content := fun bytes =>
  let window := bytes.take boundarySize
  match dropText? lead (dropDashes window.length window) with
  | none => none
  | some inner =>
      Content.all.findSome? fun content =>
        (dropText? content.words inner).map fun rest =>
          let left := dropDashes rest.length rest
          (content, bytes.drop (window.length - left.length))

def isSpace (b : UInt8) : Bool :=
  b == 0x20 || b == 0x09 || b == 0x0A || b == 0x0C || b == 0x0D

/-- Holds of the bytes that may stand in front of a block on its lines: blanks and signs
of quoting. -/
def isQuote (b : UInt8) : Bool :=
  b == 0x20 || b == 0x09 || b == 0x0D || b == 0x3E || b == 0x7C || b == 0x5D || b == 0x7D

def splitLine : Bytes → Bytes × Bytes
  | [] => ([], [])
  | b :: rest =>
      if b = 0x0A then ([b], rest)
      else
        let (line, after) := splitLine rest
        (b :: line, after)

structure Start where
  content : Content
  /-- What stands in front of the block on its first line. -/
  quote : Bytes
  rest : Bytes
  deriving DecidableEq, Repr

/-- Looks through at most `fuel` lines for the start of a block. -/
def findStart : Nat → Bytes → Option Start
  | 0, _ => none
  | _ + 1, [] => none
  | fuel + 1, b :: bytes =>
      let quote := (b :: bytes).takeWhile isQuote
      match readBoundary "BEGIN PGP " ((b :: bytes).drop quote.length) with
      | some (content, rest) => some ⟨content, quote, rest⟩
      | none => findStart fuel (splitLine (b :: bytes)).2

/-- Drops white space up to the end of the line. -/
def dropLineEnd : Bytes → Bytes
  | [] => []
  | b :: rest =>
      if b = 0x0A then rest else if isSpace b then dropLineEnd rest else b :: rest

def sharedLength : Bytes → Bytes → Nat
  | a :: as, b :: bs => if a = b then sharedLength as bs + 1 else 0
  | _, _ => 0

/-- Takes the quote off a line, of which blanks at the end may be missing. -/
def dropQuote? (quote bytes : Bytes) : Option Bytes :=
  let shared := sharedLength quote bytes
  if quote.length ≤ bytes.length && (quote.drop shared).all isSpace then
    some (bytes.drop shared)
  else none

/-- The quote that the lines after the first really have.  One that is blank may be
missing there. -/
def settleQuote (quote bytes : Bytes) : Option Bytes :=
  if bytes.length < quote.length then none
  else if quote.isPrefixOf bytes then some quote
  else if quote.all isSpace then some []
  else none

inductive HeaderLine where
  /-- A key and a value, with a colon and a space between them. -/
  | pair
  | blank
  | other
  deriving DecidableEq, Repr

/-- Holds if a colon with a space behind it occurs. -/
def hasColon : List Char → Bool
  | ':' :: ' ' :: _ => true
  | _ :: rest => hasColon rest
  | [] => false

/-- Looks at a line.  Nothing is said of one that is not UTF-8. -/
def headerLine? (line : Bytes) : Option HeaderLine :=
  (Text.Utf8.decode? line).map fun cs =>
    if hasColon cs then .pair
    else if cs.all Text.isBlank then .blank
    else .other

/-- Goes over the header lines, at most `fuel` of them, to the start of the data.  The
bytes given start behind the quote of the first line, which is itself data if it is no
header. -/
def dropHeaders (quote : Bytes) : Nat → Bool → Bytes → Option Bytes
  | 0, _, _ => none
  | fuel + 1, first, bytes =>
      let (line, after) := splitLine bytes
      match headerLine? line with
      | none =>
          if quote.isPrefixOf after then
            dropHeaders quote fuel false (after.drop quote.length)
          else none
      | some .blank => some (after.drop (sharedLength quote after))
      | some kind =>
          if kind = .other ∧ first then some bytes
          else
            match dropQuote? quote after with
            | none => none
            | some after => dropHeaders quote fuel false after

structure Digits where
  /-- The digits and pads, the last one first. -/
  reversed : Bytes
  count : Nat
  pads : Nat

/-- Collects digits, with white space among them, up to the first byte that cannot
belong to them. `skip` bytes at the front belong to the quote of a line, which has
`width` bytes. -/
def collect (width : Nat) : Nat → Digits → Bytes → Digits × Bytes
  | _, d, [] => (d, [])
  | skip + 1, d, _ :: rest => collect width skip d rest
  | 0, d, b :: rest =>
      if b = 0x0A then collect width width d rest
      else if isSpace b then collect width 0 d rest
      else if b = Text.Base64.pad then
        if d.pads = 2 ∨ d.count % 4 = 0 then (d, b :: rest)
        else collect width 0 ⟨b :: d.reversed, d.count + 1, d.pads + 1⟩ rest
      else if d.pads = 0 ∧ Text.Base64.isDigit b then
        collect width 0 ⟨b :: d.reversed, d.count + 1, 0⟩ rest
      else (d, b :: rest)

/-- Takes a checksum off if there is one: an equal sign and four digits.  What it says
is not looked at. -/
def dropChecksum (bytes : Bytes) : Bytes :=
  match bytes with
  | sign :: rest =>
      if sign = Text.Base64.pad ∧ 4 ≤ rest.length ∧
          (rest.take 4).all Text.Base64.isDigit then
        rest.drop 4
      else bytes
  | [] => []

/-- Holds if the closing line for a content follows, perhaps behind a checksum. -/
def isClosed (content : Content) (quote bytes : Bytes) : Bool :=
  let bytes := (dropChecksum (bytes.dropWhile isSpace)).dropWhile isSpace
  let bytes := (bytes.drop (sharedLength quote bytes)).dropWhile isSpace
  (readBoundary "END PGP " bytes).any fun (words, _) => words == content

/-- What a block holds. -/
structure Opened where
  data : Bytes
  closed : Bool
  deriving DecidableEq, Repr

/-- Opens the first block in a text.  Of data that breaks off within four digits the
whole fours count. -/
def open? (bytes : Bytes) : Option Opened := do
  let start ← findStart (bytes.length + 1) bytes
  let lines := dropLineEnd start.rest
  let quote ← settleQuote start.quote lines
  let body ← dropHeaders quote (lines.length + 1) true (lines.drop quote.length)
  let (digits, after) := collect quote.length 0 ⟨[], 0, 0⟩ body
  let whole := digits.count / 4 * 4
  let data ← Text.Base64.decode? (digits.reversed.reverse.take whole)
  some ⟨data, whole == digits.count && isClosed start.content quote after⟩

end IssuerAudit.OpenPgp.Armor
