import IssuerAudit.Toml.Scalar
import IssuerAudit.Toml.Table
/-!
Reading TOML: values, lines, and the table that a whole document makes up.
-/

namespace IssuerAudit.Toml

def readBoolean : Reader Value
  | 't' :: 'r' :: 'u' :: 'e' :: rest => some (.boolean true, rest)
  | 'f' :: 'a' :: 'l' :: 's' :: 'e' :: rest => some (.boolean false, rest)
  | _ => none

/-- Reads a value that starts with a sign or a digit. -/
def readNumeric : Reader Value := fun cs =>
  match takeMoment? cs with
  | some rest => some (.moment, rest)
  | none =>
      (readNumber cs).map fun (n, rest) =>
        match n with
        | .whole n => (.whole n, rest)
        | .fractional => (.fractional, rest)

mutual

/-- Reads a value; `room` says how many levels of nesting are left. -/
def readValue (fuel room : Nat) (cs : List Char) : Option (Value × List Char) :=
  match fuel, cs with
  | 0, _ => none
  | _ + 1, [] => none
  | fuel + 1, c :: rest =>
      if c = '"' ∨ c = '\'' then
        (readString (c :: rest)).map fun (s, rest) => (.text s, rest)
      else if c = '[' then
        match room with
        | 0 => none
        | room + 1 =>
            (readItems fuel room rest).map fun (items, rest) => (.array items, rest)
      else if c = '\x7b' then
        match room with
        | 0 => none
        | room + 1 =>
            match readPairs fuel room true rest with
            | none => none
            | some (pairs, rest) =>
                (Fields.defineAll [] pairs).map fun fields => (.inline fields, rest)
      else if c = '+' ∨ c = '-' ∨ isDigit c then readNumeric (c :: rest)
      else if c = 'i' ∨ c = 'n' then
        (readWordNumber (c :: rest)).map fun (_, rest) => (.fractional, rest)
      else readBoolean (c :: rest)

/-- Reads the items of an array up to its end.  A comma may follow the last. -/
def readItems (fuel room : Nat) (cs : List Char) : Option (List Value × List Char) :=
  match fuel with
  | 0 => none
  | fuel + 1 =>
      match skipGaps false cs with
      | ']' :: rest => some ([], rest)
      | rest =>
          match readValue fuel room rest with
          | none => none
          | some (v, rest) =>
              match skipGaps false rest with
              | ',' :: rest =>
                  (readItems fuel room rest).map fun (vs, rest) => (v :: vs, rest)
              | ']' :: rest => some ([v], rest)
              | _ => none

/-- Reads the pairs of a table in braces up to its end.  No comma may follow the last. -/
def readPairs (fuel room : Nat) (first : Bool) (cs : List Char) :
    Option (List Pair × List Char) :=
  match fuel with
  | 0 => none
  | fuel + 1 =>
      match first, skipBlanks cs with
      | true, '\x7d' :: rest => some ([], rest)
      | _, rest =>
          match readKey rest with
          | some (key, '=' :: rest) =>
              match readValue fuel room (skipBlanks rest) with
              | none => none
              | some (v, rest) =>
                  match skipBlanks rest with
                  | ',' :: rest =>
                      (readPairs fuel room false rest).map fun (ps, rest) =>
                        (⟨key, v⟩ :: ps, rest)
                  | '\x7d' :: rest => some ([⟨key, v⟩], rest)
                  | _ => none
          | _ => none

end

/-- How many steps reading a value may take at most: no two steps in a row leave the
text as long as it was. -/
def budget (cs : List Char) : Nat :=
  2 * cs.length + 2

inductive Line where
  | pair (p : Pair)
  | heading (h : Heading)

def readHeading : Reader Heading := fun cs =>
  match cs with
  | '[' :: rest =>
      match readKey rest with
      | some (key, ']' :: ']' :: rest) => some (⟨true, key⟩, rest)
      | _ => none
  | rest =>
      match readKey rest with
      | some (key, ']' :: rest) => some (⟨false, key⟩, rest)
      | _ => none

def readPair : Reader Pair := fun cs =>
  match readKey cs with
  | some (key, '=' :: rest) =>
      (readValue (budget rest) (depthLimit - 1) (skipBlanks rest)).map fun (v, rest) =>
        (⟨key, v⟩, rest)
  | _ => none

/-- Reads all lines, of which there are fewer than `fuel`. -/
def readLines (fuel : Nat) (cs : List Char) : Option (List Line) :=
  match fuel with
  | 0 => none
  | fuel + 1 =>
      let next (line : Line) (rest : List Char) : Option (List Line) :=
        match takeLineEnd? rest with
        | none => none
        | some rest => (readLines fuel rest).map (line :: ·)
      match skipBlanks cs with
      | [] => some []
      | c :: rest =>
          if c = '[' then
            match readHeading rest with
            | none => none
            | some (h, rest) => next (.heading h) rest
          else if c = '#' ∨ c = '\n' ∨ c = '\r' then
            match takeLineEnd? (c :: rest) with
            | none => none
            | some rest => readLines fuel rest
          else
            match readPair (c :: rest) with
            | none => none
            | some (p, rest) => next (.pair p) rest

/-- The pairs in front of the first header, and the sections. -/
def sectionsOf : List Line → List Pair × List Section
  | [] => ([], [])
  | .pair p :: rest =>
      let (pairs, sections) := sectionsOf rest
      (p :: pairs, sections)
  | .heading h :: rest =>
      let (pairs, sections) := sectionsOf rest
      ([], ⟨h, pairs⟩ :: sections)

/-- Drops a mark of the byte order at the front. -/
def skipMark : List Char → List Char
  | [] => []
  | c :: rest => if c = '\uFEFF' then rest else c :: rest

/-- The fields of the table that a document makes up, or nothing if the text is no TOML.
-/
def fieldsOf? (text : String) : Option Fields :=
  let cs := skipMark text.toList
  match readLines (cs.length + 1) cs with
  | none => none
  | some lines =>
      let (pairs, sections) := sectionsOf lines
      match Fields.defineAll [] pairs with
      | none => none
      | some fields => sections.foldlM Fields.addSection fields

end IssuerAudit.Toml
