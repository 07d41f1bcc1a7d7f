import IssuerAudit.Toml.Scan
/-!
Numbers, dates and times of TOML.  Of a whole number the value is read; of the others
only whether they are well-formed, for nothing here asks for their values.
-/

namespace IssuerAudit.Toml

def isDigit (c : Char) : Bool := '0' ≤ c && c ≤ '9'

def isHexDigit (c : Char) : Bool := (Text.hexValue? c).isSome

def isOctalDigit (c : Char) : Bool := '0' ≤ c && c ≤ '7'

def isBinaryDigit (c : Char) : Bool := c == '0' || c == '1'

/-- Takes further digits off, before each of which an underscore may stand. -/
def moreDigits (digit : Char → Bool) : List Char → List Char × List Char
  | [] => ([], [])
  | '_' :: c :: rest =>
      if digit c then
        let (ds, rest) := moreDigits digit rest
        (c :: ds, rest)
      else ([], '_' :: c :: rest)
  | c :: rest =>
      if digit c then
        let (ds, rest) := moreDigits digit rest
        (c :: ds, rest)
      else ([], c :: rest)

def takeDigits (digit : Char → Bool) : Reader (List Char)
  | [] => none
  | c :: rest =>
      if digit c then
        let (ds, rest) := moreDigits digit rest
        some (c :: ds, rest)
      else none

def valueOf (base : Nat) (digits : List Char) : Nat :=
  digits.foldl (fun n c => n * base + (Text.hexValue? c).getD 0) 0

/-- Takes the digits of a whole number off: a zero alone, or digits of which the first
is none. -/
def takeWhole : Reader (List Char)
  | [] => none
  | c :: rest => if c = '0' then some (['0'], rest) else takeDigits isDigit (c :: rest)

/-- Takes a sign off and tells whether it is a minus. -/
def takeSign : List Char → Option Bool × List Char
  | '-' :: rest => (some true, rest)
  | '+' :: rest => (some false, rest)
  | rest => (none, rest)

/-- A number that is not whole, or not written so. -/
structure Fractional where
  digits : Nat
  power : Int
  deriving DecidableEq, Repr

/-- The least number that is too great for the binary64 format: from here on the nearest
power of two is `2 ^ 1024`. -/
def overflowBound : Nat := Nat.pow 2 1024 - Nat.pow 2 970

/-- Holds of a number that is too great for the binary64 format.  The count of the
digits decides where it is far from the bound. -/
def Fractional.overflows (x : Fractional) : Bool :=
  let size : Int := (Nat.toDigits 10 x.digits).length + x.power
  if x.digits = 0 ∨ size ≤ 308 then false
  else if 310 ≤ size then true
  else
    match x.power with
    | .ofNat k => overflowBound ≤ x.digits * Nat.pow 10 k
    | .negSucc k => overflowBound * Nat.pow 10 (k + 1) ≤ x.digits

def readPower : Reader Int
  | [] => none
  | c :: rest =>
      if c = 'e' ∨ c = 'E' then
        let (sign, rest) := takeSign rest
        (takeDigits isDigit rest).map fun (ds, rest) =>
          let n : Int := valueOf 10 ds
          (if sign = some true then -n else n, rest)
      else none

/-- Reads what makes a number fractional: places behind a point, a power, or both. -/
def readFractional (whole : List Char) : Reader Fractional
  | '.' :: rest =>
      match takeDigits isDigit rest with
      | none => none
      | some (places, rest) =>
          let digits := valueOf 10 (whole ++ places)
          match readPower rest with
          | some (power, rest) => some (⟨digits, power - places.length⟩, rest)
          | none => some (⟨digits, -places.length⟩, rest)
  | rest => (readPower rest).map fun (power, rest) => (⟨valueOf 10 whole, power⟩, rest)

/-- Reads the words for infinity and for no number. -/
def readWordNumber : Reader Unit
  | 'i' :: 'n' :: 'f' :: rest => some ((), rest)
  | 'n' :: 'a' :: 'n' :: rest => some ((), rest)
  | _ => none

/-- A number in the range of 64 bits with sign. -/
def inRange (n : Int) : Bool :=
  -0x8000000000000000 ≤ n && n < 0x8000000000000000

inductive Number where
  | whole (n : Int)
  | fractional
  deriving DecidableEq, Repr

/-- Reads a whole number in a base that is told by its first two characters. -/
def readBased : Reader Number
  | '0' :: letter :: rest =>
      let digits : Option (Nat × (Char → Bool)) :=
        if letter = 'x' then some (16, isHexDigit)
        else if letter = 'o' then some (8, isOctalDigit)
        else if letter = 'b' then some (2, isBinaryDigit)
        else none
      match digits with
      | none => none
      | some (base, digit) =>
          match takeDigits digit rest with
          | none => none
          | some (ds, rest) =>
              let n := valueOf base ds
              if inRange n then some (.whole n, rest) else none
  | _ => none

/-- Reads a number that starts with a sign or a digit.  A fractional number that is too
great is not allowed; one below all numbers is. -/
def readNumber : Reader Number := fun cs =>
  match readBased cs with
  | some read => some read
  | none =>
      let (sign, rest) := takeSign cs
      match takeWhole rest with
      | none => (readWordNumber rest).map fun (_, rest) => (.fractional, rest)
      | some (whole, rest) =>
          match readFractional whole rest with
          | some (x, rest) =>
              if sign ≠ some true && x.overflows then none else some (.fractional, rest)
          | none =>
              let n : Int := valueOf 10 whole
              let n := if sign = some true then -n else n
              if inRange n then some (.whole n, rest) else none

def takeFixed (n : Nat) : Reader Nat := fun cs =>
  let ds := cs.take n
  if ds.length = n && ds.all isDigit then some (valueOf 10 ds, cs.drop n) else none

/-- Takes a number of two digits off that lies between two bounds. -/
def takeTwo (low high : Nat) : Reader Nat := fun cs =>
  match takeFixed 2 cs with
  | none => none
  | some (n, rest) => if low ≤ n ∧ n ≤ high then some (n, rest) else none

def takeChar (c : Char) (cs : List Char) : Option (List Char) :=
  match cs with
  | [] => none
  | d :: rest => if d = c then some rest else none

def isLeap (year : Nat) : Bool :=
  year % 4 == 0 && (year % 100 != 0 || year % 400 == 0)

def daysOf (year month : Nat) : Nat :=
  if month = 2 then (if isLeap year then 29 else 28)
  else if month = 4 ∨ month = 6 ∨ month = 9 ∨ month = 11 then 30
  else 31

def takeDate? (cs : List Char) : Option (List Char) := do
  let (year, rest) ← takeFixed 4 cs
  let rest ← takeChar '-' rest
  let (month, rest) ← takeTwo 1 12 rest
  let rest ← takeChar '-' rest
  let (day, rest) ← takeTwo 1 31 rest
  if day ≤ daysOf year month then some rest else none

/-- Takes a time of the day off.  A minute may have a leap second. -/
def takeTime? (cs : List Char) : Option (List Char) := do
  let (_, rest) ← takeTwo 0 23 cs
  let rest ← takeChar ':' rest
  let (_, rest) ← takeTwo 0 59 rest
  let rest ← takeChar ':' rest
  let (_, rest) ← takeTwo 0 60 rest
  match rest with
  | '.' :: d :: more => if isDigit d then some (more.dropWhile isDigit) else some rest
  | rest => some rest

/-- Takes off how far a time is from universal time. -/
def takeOffset? : List Char → Option (List Char)
  | [] => none
  | c :: rest =>
      if c = 'Z' ∨ c = 'z' then some rest
      else if c = '+' ∨ c = '-' then do
        let (_, rest) ← takeTwo 0 23 rest
        let rest ← takeChar ':' rest
        let (_, rest) ← takeTwo 0 59 rest
        some rest
      else none

/-- Takes a date, a time or both off. -/
def takeMoment? (cs : List Char) : Option (List Char) :=
  match takeDate? cs with
  | none => takeTime? cs
  | some rest =>
      match rest with
      | [] => some []
      | c :: more =>
          if c = 'T' ∨ c = 't' ∨ c = ' ' then
            match takeTime? more with
            | none => some rest
            | some after => some ((takeOffset? after).getD after)
          else some rest

end IssuerAudit.Toml
