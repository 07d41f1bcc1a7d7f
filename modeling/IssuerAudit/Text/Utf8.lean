/-!
UTF-8.  One machine reads bytes one at a time and yields, in order, the characters it
recognises and the ill-formed parts it passes over.  The strict reading takes a text
only if nothing in it is ill-formed; the lenient reading puts U+FFFD in the place of
each ill-formed part.

An ill-formed part is as long as possible: it is cut off at the first byte that cannot
go on, and that byte is read again as the start of something new.
-/

namespace IssuerAudit.Text.Utf8

/-- A character of which some bytes are still to come.  The next byte has to lie between
`low` and `high`; these bounds rule out overlong forms, surrogates and values above
U+10FFFF. -/
structure Pending where
  /-- How many bytes are to come after the next one. -/
  after : Nat
  low : Nat
  high : Nat
  bits : Nat
  deriving DecidableEq, Repr

/-- What a byte means where a character may start. -/
inductive Start where
  | whole (c : Char)
  | opens (p : Pending)
  /-- No character starts with this byte. -/
  | stray
  deriving DecidableEq, Repr

def start (b : UInt8) : Start :=
  let n := b.toNat
  if n < 0x80 then .whole (Char.ofNat n)
  else if n < 0xC2 then .stray
  else if n < 0xE0 then .opens ⟨0, 0x80, 0xBF, n - 0xC0⟩
  else if n = 0xE0 then .opens ⟨1, 0xA0, 0xBF, 0⟩
  else if n = 0xED then .opens ⟨1, 0x80, 0x9F, 0xD⟩
  else if n < 0xF0 then .opens ⟨1, 0x80, 0xBF, n - 0xE0⟩
  else if n = 0xF0 then .opens ⟨2, 0x90, 0xBF, 0⟩
  else if n < 0xF4 then .opens ⟨2, 0x80, 0xBF, n - 0xF0⟩
  else if n = 0xF4 then .opens ⟨2, 0x80, 0x8F, 4⟩
  else .stray

/-- Reads the next byte of an open character: nothing if the byte cannot follow, and
else the character, finished or with fewer bytes to come. -/
def Pending.next (p : Pending) (b : UInt8) : Option Start :=
  if p.low ≤ b.toNat ∧ b.toNat ≤ p.high then
    let bits := p.bits * 64 + (b.toNat - 0x80)
    match p.after with
    | 0 => some (.whole (Char.ofNat bits))
    | after + 1 => some (.opens ⟨after, 0x80, 0xBF, bits⟩)
  else
    none

/-- One unit of decoded text: a character, or `none` for an ill-formed part. -/
abbrev Item := Option Char

def ofStart : Start → List Item × Option Pending
  | .whole c => ([some c], none)
  | .opens p => ([], some p)
  | .stray => ([none], none)

/-- One step of the machine: the items that the byte completes, and the character left
open. -/
def step (open? : Option Pending) (b : UInt8) : List Item × Option Pending :=
  match open? with
  | none => ofStart (start b)
  | some p =>
      match p.next b with
      | some s => ofStart s
      | none => let (items, rest) := ofStart (start b); (none :: items, rest)

/-- Runs the machine.  A character left open at the end is ill-formed. -/
def items (open? : Option Pending) : List UInt8 → List Item
  | [] => if open?.isSome then [none] else []
  | b :: rest => (step open? b).1 ++ items (step open? b).2 rest

def replacement : Char := '\uFFFD'

/-- The lenient reading: every ill-formed part becomes one replacement character. -/
def decodeLossy (bytes : List UInt8) : List Char :=
  (items none bytes).map (·.getD replacement)

/-- The strict reading: nothing if any part is ill-formed. -/
def decode? (bytes : List UInt8) : Option (List Char) :=
  (items none bytes).mapM id

def encode (cs : List Char) : List UInt8 :=
  cs.flatMap String.utf8EncodeChar

def byteLength (cs : List Char) : Nat :=
  cs.foldl (fun n c => n + c.utf8Size) 0

def bytesOf (s : String) : List UInt8 :=
  encode s.toList

theorem encode_append (xs ys : List Char) : encode (xs ++ ys) = encode xs ++ encode ys :=
  List.flatMap_append

theorem bytesOf_append (s t : String) : bytesOf (s ++ t) = bytesOf s ++ bytesOf t := by
  simp [bytesOf, encode_append]

/-- The bytes of a string are those that it is kept as. -/
theorem toByteArray_eq (s : String) : s.toByteArray = (bytesOf s).toByteArray := by
  have kept : (String.ofList s.toList).toByteArray = s.toList.utf8Encode :=
    String.toByteArray_ofList
  rw [String.ofList_toList] at kept
  exact kept

theorem bytesOf_inj {s t : String} : bytesOf s = bytesOf t ↔ s = t := by
  refine ⟨fun h => ?_, fun h => h ▸ rfl⟩
  rw [← String.toByteArray_inj, toByteArray_eq, toByteArray_eq, h]

end IssuerAudit.Text.Utf8
