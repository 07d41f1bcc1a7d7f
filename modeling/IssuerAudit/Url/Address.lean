import IssuerAudit.Text.Hex
import IssuerAudit.Text.Pieces
/-!
Network addresses in numbers: those of version 4, with one to four numbers in decimal,
octal or hexadecimal digits, and those of version 6, with eight groups of which one run
of zeros may be left out.
-/

namespace IssuerAudit.Url

/-- The value of digits in a base of at most sixteen, if all of them are digits of it. -/
def natIn? (base : Nat) (digits : List Char) : Option Nat :=
  digits.foldlM (fun n c =>
    match Text.hexValue? c with
    | some d => if d < base then some (n * base + d) else none
    | none => none) 0

/-- One number of an address of version 4.  `0x` alone stands for zero. -/
def v4Number? (part : List Char) : Option Nat :=
  match part with
  | [] => none
  | '0' :: 'x' :: digits | '0' :: 'X' :: digits => natIn? 16 digits
  | '0' :: d :: digits => natIn? 8 (d :: digits)
  | digits => natIn? 10 digits

/-- The parts of a name between dots, without an empty one at the end. -/
def v4Parts (name : List Char) : List (List Char) :=
  let parts := Text.pieces '.' name
  if parts.getLast? == some [] then parts.dropLast else parts

/-- Holds of names that have to be addresses of version 4 because they end in a number. -/
def endsInNumber (name : List Char) : Bool :=
  match (v4Parts name).getLast? with
  | none => false
  | some last => (!last.isEmpty && last.all Char.isDigit) || (v4Number? last).isSome

/-- The address of version 4 that a name stands for.  The last number fills all places
that are left. -/
def v4? (name : List Char) : Option Nat := do
  let numbers ← (v4Parts name).mapM v4Number?
  let last ← numbers.getLast?
  let front := numbers.dropLast
  if 4 < numbers.length ∨ Nat.pow 256 (4 - front.length) ≤ last ∨ front.any (255 < ·) then
    none
  else
    let high := front.foldl (fun n x => n * 256 + x) 0
    some (high * Nat.pow 256 (4 - front.length) + last)

def v4Text (address : Nat) : String :=
  let place (k : Nat) := toString (address / Nat.pow 256 k % 256)
  place 3 ++ "." ++ place 2 ++ "." ++ place 1 ++ "." ++ place 0

/-- Groups of an address of version 6, and in front of which of them zeros have been
left out. -/
structure V6Groups where
  groups : List Nat
  gap : Option Nat
  deriving DecidableEq, Repr

/-- A group of an address of version 6: up to four digits. -/
def takeGroup (cs : List Char) : Nat × List Char :=
  let digits := (cs.take 4).takeWhile fun c => (Text.hexValue? c).isSome
  (digits.foldl (fun n c => n * 16 + (Text.hexValue? c).getD 0) 0, cs.drop digits.length)

/-- One decimal number without leading zero, at most 255. -/
def v6Tail? (part : List Char) : Option Nat :=
  match part with
  | ['0'] => some 0
  | c :: _ =>
      if c = '0' ∨ 3 < part.length then none
      else
        match natIn? 10 part with
        | some n => if n ≤ 255 then some n else none
        | none => none
  | [] => none

/-- The two groups that an address of version 4 at the end of one of version 6 makes up.
-/
def tailGroups? (cs : List Char) : Option (List Nat) :=
  match (Text.pieces '.' cs).mapM v6Tail? with
  | some [a, b, c, d] => some [a * 256 + b, c * 256 + d]
  | _ => none

/-- Reads groups from where one may start; `read` holds those read so far. -/
def readGroups (fuel : Nat) (read : V6Groups) (cs : List Char) : Option V6Groups :=
  match fuel, cs with
  | _, [] => some read
  | 0, _ :: _ => none
  | fuel + 1, c :: rest =>
      if c = ':' then
        match read.gap with
        | some _ => none
        | none => readGroups fuel { read with gap := some read.groups.length } rest
      else
        let (n, after) := takeGroup (c :: rest)
        let next : V6Groups := { read with groups := read.groups ++ [n] }
        match after with
        | [] => some next
        | '.' :: _ =>
            if after.length = rest.length + 1 then none
            else
              match tailGroups? (c :: rest) with
              | some tail => some { read with groups := read.groups ++ tail }
              | none => none
        | ':' :: more => if more.isEmpty then none else readGroups fuel next more
        | _ => none

/-- The eight groups, with zeros where some were left out; at least one has to be left
out. -/
def V6Groups.fill? (g : V6Groups) : Option (List Nat) :=
  match g.gap with
  | none => if g.groups.length = 8 then some g.groups else none
  | some k =>
      if g.groups.length < 8 then
        some (g.groups.take k ++ List.replicate (8 - g.groups.length) 0 ++
          g.groups.drop k)
      else none

def v6? (cs : List Char) : Option (List Nat) :=
  match cs with
  | ':' :: ':' :: rest => (readGroups rest.length ⟨[], some 0⟩ rest).bind V6Groups.fill?
  | ':' :: _ | [] => none
  | _ => (readGroups cs.length ⟨[], none⟩ cs).bind V6Groups.fill?

def zerosAhead (groups : List Nat) : Nat :=
  (groups.takeWhile (· == 0)).length

/-- The place and the length of the first longest run of zeros, looked for from place
`place` on. -/
def longestZeros (place : Nat) : List Nat → Nat × Nat
  | [] => (place, 0)
  | n :: rest =>
      let here := zerosAhead (n :: rest)
      let (at_, length) := longestZeros (place + 1) rest
      if length ≤ here then (place, here) else (at_, length)

def groupsText (groups : List Nat) : String :=
  String.intercalate ":" (groups.map fun n => String.ofList (Text.hexNat n))

/-- An address of version 6 in its shortest form: the first longest run of at least two
zeros is left out. -/
def v6Text (groups : List Nat) : String :=
  let (place, length) := longestZeros 0 groups
  if length < 2 then groupsText groups
  else groupsText (groups.take place) ++ "::" ++ groupsText (groups.drop (place + length))

end IssuerAudit.Url
