import IssuerAudit.Text.Hex
/-!
The words of TOML: blanks, comments, line ends, strings and keys.

A reader gives what it read and the rest of the text, or nothing; why a text is no TOML
is not told.
-/

namespace IssuerAudit.Toml

abbrev Reader (α : Type) : Type :=
  List Char → Option (α × List Char)

/-- The two characters that may stand between words of a line. -/
def isBlank (c : Char) : Bool :=
  c == ' ' || c == '\t'

def skipBlanks (cs : List Char) : List Char :=
  cs.dropWhile isBlank

/-- Holds of the characters that stand for themselves: no control characters but the
tab. -/
def isPlain (c : Char) : Bool :=
  c == '\t' || (0x20 ≤ c.toNat && c.toNat != 0x7F)

def takeNewline? : List Char → Option (List Char)
  | '\n' :: rest => some rest
  | '\r' :: '\n' :: rest => some rest
  | _ => none

/-- Drops a comment, without the end of its line. -/
def skipComment : List Char → List Char
  | [] => []
  | c :: rest => if c = '#' then rest.dropWhile isPlain else c :: rest

/-- Takes what may stand behind the last word of a line, and the line end. -/
def takeLineEnd? (cs : List Char) : Option (List Char) :=
  match skipComment (skipBlanks cs) with
  | [] => some []
  | rest => takeNewline? rest

/-- Drops blanks, comments and line ends; `comment` tells whether the text starts inside
a comment. -/
def skipGaps (comment : Bool) : List Char → List Char
  | [] => []
  | '\r' :: '\n' :: rest => skipGaps false rest
  | c :: rest =>
      if c = '\n' then skipGaps false rest
      else if comment then
        if isPlain c then skipGaps true rest else c :: rest
      else if isBlank c then skipGaps false rest
      else if c = '#' then skipGaps true rest
      else c :: rest

def skipFeeds : List Char → List Char
  | [] => []
  | '\r' :: '\n' :: rest => skipFeeds rest
  | c :: rest => if c = '\n' ∨ isBlank c then skipFeeds rest else c :: rest

/-- Takes `n` hexadecimal digits off, after some of value `value`. -/
def takeHex (n value : Nat) (cs : List Char) : Option (Nat × List Char) :=
  match n, cs with
  | 0, rest => some (value, rest)
  | _ + 1, [] => none
  | n + 1, c :: rest =>
      match Text.hexValue? c with
      | none => none
      | some d => takeHex n (value * 16 + d) rest

/-- The character with a number, which surrogates have not. -/
def charOf? (n : Nat) : Option Char :=
  if n.isValidChar then some (Char.ofNat n) else none

def readEscape : Reader Char
  | [] => none
  | c :: rest =>
      let code (size : Nat) : Option (Char × List Char) :=
        match takeHex size 0 rest with
        | none => none
        | some (n, rest) => (charOf? n).map fun d => (d, rest)
      if c = 'b' then some ('\x08', rest)
      else if c = 't' then some ('\t', rest)
      else if c = 'n' then some ('\n', rest)
      else if c = 'f' then some ('\x0c', rest)
      else if c = 'r' then some ('\r', rest)
      else if c = '"' ∨ c = '\\' then some (c, rest)
      else if c = 'u' then code 4
      else if c = 'U' then code 8
      else none

/-- Reads a string in double quotes from behind the first; `read` holds what was read of
it, last character first. -/
def readBasic (fuel : Nat) (read : List Char) (cs : List Char) :
    Option (List Char × List Char) :=
  match fuel, cs with
  | 0, _ => none
  | _ + 1, [] => none
  | fuel + 1, c :: rest =>
      if c = '"' then some (read.reverse, rest)
      else if c = '\\' then
        match readEscape rest with
        | none => none
        | some (d, rest) => readBasic fuel (d :: read) rest
      else if isPlain c then readBasic fuel (c :: read) rest
      else none

def readLiteral : Reader (List Char)
  | [] => none
  | c :: rest =>
      if c = '\'' then some ([], rest)
      else if isPlain c then (readLiteral rest).map fun (s, rest) => (c :: s, rest)
      else none

/-- Looks at a run of quotes inside a string that three of them end: how many of them
belong to the string, and whether the string ends with them.  Up to two may stand
anywhere, also before the end. -/
def quotesIn (run : Nat) : Nat × Bool :=
  if run < 3 then (run, false) else (min (run - 3) 2, true)

/-- Reads a string between three quotes a side from behind the first three.  In one with
escapes a backslash at the end of a line drops the line end and all blank space behind
it. -/
def readLong (quote : Char) (escapes : Bool) (fuel : Nat) (read : List Char)
    (cs : List Char) : Option (List Char × List Char) :=
  match fuel, cs with
  | 0, _ => none
  | _ + 1, [] => none
  | fuel + 1, c :: rest =>
      if c = quote then
        let (inside, ends) := quotesIn ((c :: rest).takeWhile (· == quote)).length
        let read := List.replicate inside quote ++ read
        if ends then some (read.reverse, (c :: rest).drop (inside + 3))
        else readLong quote escapes fuel read ((c :: rest).drop inside)
      else if c = '\\' ∧ escapes then
        match takeNewline? (skipBlanks rest) with
        | some rest => readLong quote escapes fuel read (skipFeeds rest)
        | none =>
            match readEscape rest with
            | none => none
            | some (d, rest) => readLong quote escapes fuel (d :: read) rest
      else
        match takeNewline? (c :: rest) with
        | some rest => readLong quote escapes fuel ('\n' :: read) rest
        | none => if isPlain c then readLong quote escapes fuel (c :: read) rest else none

/-- Drops a line end directly behind the opening quotes. -/
def skipFirstNewline (cs : List Char) : List Char :=
  (takeNewline? cs).getD cs

def readString : Reader String := fun cs =>
  let long (quote : Char) (escapes : Bool) (rest : List Char) :=
    readLong quote escapes (rest.length + 1) [] (skipFirstNewline rest)
  let read :=
    match cs with
    | '"' :: '"' :: '"' :: rest => long '"' true rest
    | '"' :: rest => readBasic (rest.length + 1) [] rest
    | '\'' :: '\'' :: '\'' :: rest => long '\'' false rest
    | '\'' :: rest => readLiteral rest
    | _ => none
  read.map fun (s, rest) => (String.ofList s, rest)

/-- Holds of the characters of keys without quotes. -/
def isBare (c : Char) : Bool :=
  c.isAlphanum || c == '_' || c == '-'

def readPart : Reader String
  | [] => none
  | c :: rest =>
      let read :=
        if c = '"' then readBasic (rest.length + 1) [] rest
        else if c = '\'' then readLiteral rest
        else if isBare c then
          some ((c :: rest).takeWhile isBare, (c :: rest).dropWhile isBare)
        else none
      read.map fun (s, rest) => (String.ofList s, rest)

/-- A key: the parts in front of its last dot and the part behind it. -/
structure Key where
  path : List String
  last : String
  deriving DecidableEq, Repr

/-- How many parts a key may not have, and how deep values may not be nested. -/
def depthLimit : Nat := 80

/-- Reads a key, of at most `fuel` parts, and the blanks around it. -/
def readParts (fuel : Nat) (cs : List Char) : Option (Key × List Char) :=
  match fuel with
  | 0 => none
  | fuel + 1 =>
      match readPart (skipBlanks cs) with
      | none => none
      | some (part, rest) =>
          match skipBlanks rest with
          | '.' :: rest =>
              (readParts fuel rest).map fun (key, rest) =>
                (⟨part :: key.path, key.last⟩, rest)
          | rest => some (⟨[], part⟩, rest)

def readKey : Reader Key :=
  readParts (depthLimit - 1)

end IssuerAudit.Toml
