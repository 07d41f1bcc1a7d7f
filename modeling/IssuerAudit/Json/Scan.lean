import IssuerAudit.Json.Fault
import IssuerAudit.Text.Hex
/-!
The words of JSON: blanks, the three literal words, strings and numerals.

Strings are read by a machine that goes through the characters one at a time, in one of
two ways: a string that is kept has to spell Unicode text, while in a string that is
passed over half a surrogate pair does no harm.
-/

namespace IssuerAudit.Json

/-- The four characters that may stand between words. -/
def isSpace (c : Char) : Bool :=
  c == ' ' || c == '\n' || c == '\t' || c == '\r'

def skipSpace (cs : List Char) : List Char :=
  cs.dropWhile isSpace

def readWord : List Char → List Char → Except Fault (List Char)
  | [], rest => .ok rest
  | _ :: _, [] => .error (.here .endInValue [])
  | e :: word, c :: rest =>
      if c = e then readWord word rest else .error (.ahead .brokenWord (c :: rest))

/-- The character that a one-letter escape stands for. -/
def escaped? (c : Char) : Option Char :=
  if c = '"' ∨ c = '\\' ∨ c = '/' then some c
  else if c = 'b' then some '\x08'
  else if c = 'f' then some '\x0c'
  else if c = 'n' then some '\n'
  else if c = 'r' then some '\r'
  else if c = 't' then some '\t'
  else none

/-- Where in a string the machine is. -/
inductive Spot where
  | plain
  | escape
  /-- In a four-digit escape: the first half of a pair if one came before, the digits
  read so far and their value. -/
  | code (first : Option Nat) (count value : Nat)
  /-- Behind the first half of a pair. -/
  | pair (first : Nat)
  /-- Behind the first half of a pair and a backslash. -/
  | pairEscape (first : Nat)
  deriving DecidableEq, Repr

/-- Holds of the code units that open a surrogate pair. -/
def isFirstHalf (n : Nat) : Bool := 0xD800 ≤ n && n ≤ 0xDBFF

def isSecondHalf (n : Nat) : Bool := 0xDC00 ≤ n && n ≤ 0xDFFF

def ofPair (first second : Nat) : Char :=
  Char.ofNat ((first - 0xD800) * 0x400 + (second - 0xDC00) + 0x10000)

/-- What follows from a finished four-digit escape in a string that is kept: a character
or the first half of a pair. -/
def finishCode (first : Option Nat) (n : Nat) : Except Cause (Sum Char Nat) :=
  match first with
  | some first =>
      if isSecondHalf n then .ok (.inl (ofPair first n)) else .error .loneSurrogate
  | none =>
      if isSecondHalf n then .error .loneSurrogate
      else if isFirstHalf n then .ok (.inr n)
      else .ok (.inl (Char.ofNat n))

/-- The fault of a four-digit escape that is broken with `missing` digits still to come:
where the text is too short for them it ends too early, and else the escape is bad as a
whole. -/
def brokenCode (missing : Nat) (rest : List Char) : Fault :=
  let left := Text.Utf8.byteLength rest
  if left < missing then ⟨.endInString, 0⟩ else ⟨.badEscape, left - missing⟩

/-- Reads a string that is kept, from behind its opening quote; `read` holds what was
read of it, last character first. -/
def readString (spot : Spot) (read : List Char) : Reader (List Char)
  | [] =>
      match spot with
      | .code _ count _ => .error (brokenCode (4 - count) [])
      | _ => .error (.here .endInString [])
  | c :: rest =>
      match spot with
      | .plain =>
          if c = '"' then .ok (read.reverse, rest)
          else if c = '\\' then readString .escape read rest
          else if c.toNat < 0x20 then .error (.here .controlCharacter rest)
          else readString .plain (c :: read) rest
      | .escape =>
          if c = 'u' then readString (.code none 0 0) read rest
          else
            match escaped? c with
            | some d => readString .plain (d :: read) rest
            | none => .error (.ahead .badEscape (c :: rest))
      | .code first count value =>
          match Text.hexValue? c with
          | none => .error (brokenCode (4 - count) (c :: rest))
          | some d =>
              let value := value * 16 + d
              if count < 3 then readString (.code first (count + 1) value) read rest
              else
                match finishCode first value with
                | .ok (.inl d) => readString .plain (d :: read) rest
                | .ok (.inr first) => readString (.pair first) read rest
                | .error cause => .error (.here cause rest)
      | .pair first =>
          if c = '\\' then readString (.pairEscape first) read rest
          else .error (.ahead .halfPair (c :: rest))
      | .pairEscape first =>
          if c = 'u' then readString (.code (some first) 0 0) read rest
          else .error (.ahead .halfPair (c :: rest))

/-- Passes over a string, from behind its opening quote. -/
def skipString (spot : Spot) : List Char → Except Fault (List Char)
  | [] =>
      match spot with
      | .code _ count _ => .error (brokenCode (4 - count) [])
      | _ => .error (.here .endInString [])
  | c :: rest =>
      match spot with
      | .escape =>
          if c = 'u' then skipString (.code none 0 0) rest
          else if (escaped? c).isSome then skipString .plain rest
          else .error (.ahead .badEscape (c :: rest))
      | .code first count value =>
          if (Text.hexValue? c).isNone then .error (brokenCode (4 - count) (c :: rest))
          else if count < 3 then skipString (.code first (count + 1) value) rest
          else skipString .plain rest
      | _ =>
          if c = '"' then .ok rest
          else if c = '\\' then skipString .escape rest
          else if c.toNat < 0x20 then .error (.here .controlCharacter (c :: rest))
          else skipString .plain rest

structure Numeral where
  negative : Bool
  whole : List Char
  fraction : Option (List Char)
  /-- Whether the power is negative, and its digits. -/
  power : Option (Bool × List Char)
  deriving DecidableEq, Repr

def isDigit (c : Char) : Bool := '0' ≤ c && c ≤ '9'

/-- Reads the digits at the front; none is a fault. -/
def readDigits (rest : List Char) : Except Fault (List Char × List Char) :=
  match rest.takeWhile isDigit, rest with
  | [], [] => .error (.here .endInValue [])
  | [], _ => .error (.ahead .badNumber rest)
  | digits, _ => .ok (digits, rest.dropWhile isDigit)

def readFraction : Reader (Option (List Char))
  | '.' :: rest => do
    let (digits, rest) ← readDigits rest
    return (some digits, rest)
  | rest => .ok (none, rest)

def readPower : Reader (Option (Bool × List Char))
  | c :: rest =>
      if c = 'e' ∨ c = 'E' then do
        let (negative, rest) := match rest with
          | '+' :: more => (false, more)
          | '-' :: more => (true, more)
          | more => (false, more)
        let (digits, rest) ← readDigits rest
        return (some (negative, digits), rest)
      else .ok (none, c :: rest)
  | [] => .ok (none, [])

/-- Reads a numeral from behind its sign.  A leading zero stands alone. -/
def readNumeral (negative : Bool) (rest : List Char) :
    Except Fault (Numeral × List Char) :=
  match rest with
  | [] => .error (.here .badNumber [])
  | c :: more =>
      if !isDigit c then .error (.ahead .badNumber rest)
      else if c = '0' ∧ (more.head?.any isDigit) then .error (.ahead .badNumber more)
      else do
        let whole := rest.takeWhile isDigit
        let (fraction, rest) ← readFraction (rest.dropWhile isDigit)
        let (power, rest) ← readPower rest
        return (⟨negative, whole, fraction, power⟩, rest)

def natOfDigits (digits : List Char) : Nat :=
  digits.foldl (fun n c => n * 10 + (c.toNat - 0x30)) 0

/-- Collects digits into a significand for as long as it stays below `2 ^ 64`, and gives
it back with the number of digits taken. -/
def collect (significand taken : Nat) : List Char → Nat × Nat
  | [] => (significand, taken)
  | c :: rest =>
      let next := significand * 10 + (c.toNat - 0x30)
      if next < 0x10000000000000000 then collect next (taken + 1) rest
      else (significand, taken)

/-- The value of a numeral, or nothing if it is too great.  Digits beyond the first that
fit into 64 bits only count for the size; a whole number that fits into 64 bits with its
sign stays whole, but for a negative zero. -/
def Numeral.value? (n : Numeral) : Option Value :=
  let (significand, taken) := collect 0 0 n.whole
  let surplus := n.whole.length - taken
  match n.fraction, n.power with
  | none, none =>
      if surplus = 0 ∧ (!n.negative) then some (.whole significand)
      else if surplus = 0 ∧ 0 < significand ∧ significand ≤ 0x8000000000000000 then
        some (.whole (-significand))
      else (Number.Binary64.ofDecimal? significand surplus).map (.float n.negative)
  | fraction, power =>
      let (significand, places) := collect significand 0 (fraction.getD [])
      let shift : Int := surplus - places
      match power with
      | none => (Number.Binary64.ofDecimal? significand shift).map (.float n.negative)
      | some (negative, digits) =>
          let size := natOfDigits digits
          if size < 0x80000000 then
            let shift : Int := if negative then shift - size else shift + size
            (Number.Binary64.ofDecimal? significand shift).map (.float n.negative)
          else if significand = 0 ∨ negative then some (.float n.negative .zero)
          else none

def readNumber (negative : Bool) : Reader Value := fun rest => do
  let (numeral, rest) ← readNumeral negative rest
  match numeral.value? with
  | some v => return (v, rest)
  | none => .error (.here .numberTooGreat rest)

end IssuerAudit.Json
