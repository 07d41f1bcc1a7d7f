import IssuerAudit.Json.Scan
/-!
Reading JSON.  A value is either kept, which limits how deep it may be nested, or passed
over, which does not.

The readers carry a budget of steps.  No two steps in a row leave the text as long as it
was, so `budget` of a text is enough for it.
-/

namespace IssuerAudit.Json

/-- The number of steps that reading a text may take at most. -/
def budget (cs : List Char) : Nat :=
  2 * cs.length + 2

/-- How many lists and objects a kept value may be nested in, itself included. -/
def depthLimit : Nat := 127

mutual

/-- Reads a value that is kept; `room` says how many levels of nesting are left. -/
def readValue (fuel room : Nat) (cs : List Char) : Except Fault (Value × List Char) :=
  match fuel with
  | 0 => .error (.here .nestedTooDeep cs)
  | fuel + 1 =>
      match skipSpace cs with
      | [] => .error (.here .endInValue [])
      | c :: rest =>
          if c = 'n' then (readWord ['u', 'l', 'l'] rest).map fun rest => (.null, rest)
          else if c = 't' then
            (readWord ['r', 'u', 'e'] rest).map fun rest => (.bool true, rest)
          else if c = 'f' then
            (readWord ['a', 'l', 's', 'e'] rest).map fun rest => (.bool false, rest)
          else if c = '-' then readNumber true rest
          else if isDigit c then readNumber false (c :: rest)
          else if c = '"' then
            (readString .plain [] rest).map fun (s, rest) =>
              (.string (String.ofList s), rest)
          else if c = '[' then
            match room with
            | 0 => .error (.ahead .nestedTooDeep (c :: rest))
            | room + 1 => readItems fuel room true [] rest
          else if c = '\x7b' then
            match room with
            | 0 => .error (.ahead .nestedTooDeep (c :: rest))
            | room + 1 =>
                (readFields fuel room true [] rest).map fun (fs, rest) =>
                  (.object fs, rest)
          else .error (.ahead .valueNeeded (c :: rest))

/-- Reads the items of a list up to its end; `read` holds those read so far, last first.
-/
def readItems (fuel room : Nat) (first : Bool) (read : List Value) (cs : List Char) :
    Except Fault (Value × List Char) :=
  match fuel with
  | 0 => .error (.here .nestedTooDeep cs)
  | fuel + 1 =>
      let item (cs : List Char) : Except Fault (Value × List Char) :=
        match readValue fuel room cs with
        | .error f => .error f
        | .ok (v, rest) => readItems fuel room false (v :: read) rest
      match skipSpace cs with
      | [] => .error (.here .endInList [])
      | c :: rest =>
          if c = ']' then .ok (.list read.reverse, rest)
          else if first then item (c :: rest)
          else if c = ',' then
            match skipSpace rest with
            | [] => .error (.here .endInValue [])
            | d :: more =>
                if d = ']' then .error (.ahead .trailingComma (d :: more))
                else item (d :: more)
          else .error (.ahead .commaOrListEndNeeded (c :: rest))

/-- Reads the fields of an object up to its end; `read` holds those read so far. -/
def readFields (fuel room : Nat) (first : Bool) (read : List (String × Value))
    (cs : List Char) : Except Fault (List (String × Value) × List Char) :=
  match fuel with
  | 0 => .error (.here .nestedTooDeep cs)
  | fuel + 1 =>
      let field (rest : List Char) : Except Fault (List (String × Value) × List Char) :=
        match readString .plain [] rest with
        | .error f => .error f
        | .ok (key, rest) =>
            match skipSpace rest with
            | [] => .error (.here .endInObject [])
            | c :: rest =>
                if c = ':' then
                  match readValue fuel room rest with
                  | .error f => .error f
                  | .ok (v, rest) =>
                      readFields fuel room false (putField (String.ofList key) v read)
                        rest
                else .error (.ahead .colonNeeded (c :: rest))
      match skipSpace cs with
      | [] => .error (.here .endInObject [])
      | c :: rest =>
          if c = '\x7d' then .ok (read, rest)
          else if first then
            if c = '"' then field rest else .error (.ahead .keyNotString (c :: rest))
          else if c = ',' then
            match skipSpace rest with
            | [] => .error (.here .endInValue [])
            | d :: more =>
                if d = '"' then field more
                else if d = '\x7d' then .error (.ahead .trailingComma (d :: more))
                else .error (.ahead .keyNotString (d :: more))
          else .error (.ahead .commaOrObjectEndNeeded (c :: rest))

end

inductive Enclosure where
  | list
  | object
  deriving DecidableEq, Repr

mutual

/-- Passes over a value and over the rest of the enclosures in which it stands,
innermost first. -/
def skipValue (fuel : Nat) (around : List Enclosure) (cs : List Char) :
    Except Fault (List Char) :=
  match fuel with
  | 0 => .error (.here .nestedTooDeep cs)
  | fuel + 1 =>
      match skipSpace cs with
      | [] => .error (.here .endInValue [])
      | c :: rest =>
          let next (after : Except Fault (List Char)) : Except Fault (List Char) :=
            match after with
            | .error f => .error f
            | .ok rest => skipRest fuel around rest
          if c = 'n' then next (readWord ['u', 'l', 'l'] rest)
          else if c = 't' then next (readWord ['r', 'u', 'e'] rest)
          else if c = 'f' then next (readWord ['a', 'l', 's', 'e'] rest)
          else if c = '-' then next ((readNumeral true rest).map (·.2))
          else if isDigit c then next ((readNumeral false (c :: rest)).map (·.2))
          else if c = '"' then next (skipString .plain rest)
          else if c = '[' then
            match skipSpace rest with
            | [] => .error (.here .endInList [])
            | d :: more =>
                if d = ']' then skipRest fuel around more
                else skipValue fuel (.list :: around) (d :: more)
          else if c = '\x7b' then
            match skipSpace rest with
            | [] => .error (.here .endInObject [])
            | d :: more =>
                if d = '\x7d' then skipRest fuel around more
                else skipField fuel (.object :: around) (d :: more)
          else .error (.ahead .valueNeeded (c :: rest))

def skipField (fuel : Nat) (around : List Enclosure) (cs : List Char) :
    Except Fault (List Char) :=
  match fuel with
  | 0 => .error (.here .nestedTooDeep cs)
  | fuel + 1 =>
      match skipSpace cs with
      | [] => .error (.here .endInObject [])
      | c :: rest =>
          if c = '"' then
            match skipString .plain rest with
            | .error f => .error f
            | .ok rest =>
                match skipSpace rest with
                | [] => .error (.here .endInObject [])
                | d :: more =>
                    if d = ':' then skipValue fuel around more
                    else .error (.ahead .colonNeeded (d :: more))
          else .error (.ahead .keyNotString (c :: rest))

/-- Passes over the rest of the enclosures, from behind a value. -/
def skipRest (fuel : Nat) (around : List Enclosure) (cs : List Char) :
    Except Fault (List Char) :=
  match fuel, around with
  | _, [] => .ok cs
  | 0, _ :: _ => .error (.here .nestedTooDeep cs)
  | fuel + 1, .list :: outer =>
      match skipSpace cs with
      | [] => .error (.here .endInList [])
      | c :: rest =>
          if c = ',' then skipValue fuel (.list :: outer) rest
          else if c = ']' then skipRest fuel outer rest
          else .error (.ahead .commaOrListEndNeeded (c :: rest))
  | fuel + 1, .object :: outer =>
      match skipSpace cs with
      | [] => .error (.here .endInObject [])
      | c :: rest =>
          if c = ',' then skipField fuel (.object :: outer) rest
          else if c = '\x7d' then skipRest fuel outer rest
          else .error (.ahead .commaOrObjectEndNeeded (c :: rest))

end

def skipOne (cs : List Char) : Except Fault (List Char) :=
  skipValue (budget cs) [] cs

end IssuerAudit.Json
