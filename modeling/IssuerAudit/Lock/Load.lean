import IssuerAudit.Json.Read
import IssuerAudit.Lock.Document
import IssuerAudit.Lock.Error
/-!
Loading a lock document.  Loading goes in two passes: the text is read as JSON, where
only the value of `channels` is kept and its outer shape is checked on the way; then the
channels and components are checked one after another in the order of the text, and the
first that is wrong decides.
-/

namespace IssuerAudit.Lock

open Json (Fault Cause Kind Value skipSpace)

/-- The fault of a value that is not of the kind that is needed.  Of a list or an object
only the opening is looked at; a scalar is read to its end, so one that is broken is
reported as broken. -/
def wrongKind (needed : String) (cs : List Char) : Fault :=
  let after (kind : Kind) (read : Except Fault (List Char)) : Fault :=
    match read with
    | .error f => f
    | .ok rest => .here (.wrongKind kind needed) rest
  match cs with
  | [] => .here .endInValue []
  | c :: rest =>
      if c = 'n' then after .null (Json.readWord ['u', 'l', 'l'] rest)
      else if c = 't' then after (.bool true) (Json.readWord ['r', 'u', 'e'] rest)
      else if c = 'f' then after (.bool false) (Json.readWord ['a', 'l', 's', 'e'] rest)
      else if c = '[' then .here (.wrongKind .list needed) cs
      else if c = '\x7b' then .here (.wrongKind .object needed) cs
      else if c = '"' then
        match Json.readString .plain [] rest with
        | .error f => f
        | .ok (s, rest) => .here (.wrongKind (.string (String.ofList s)) needed) rest
      else if c = '-' ∨ Json.isDigit c then
        match Json.readNumber (c = '-') (if c = '-' then rest else cs) with
        | .error f => f
        | .ok (v, rest) => .here (.wrongKind v.kind needed) rest
      else .ahead .valueNeeded cs

/-- The fields of `channels`, or nothing if it is missing or null. -/
abbrev Entries : Type := Option (List (String × Value))

def channelRoom : Nat := Json.depthLimit - 2

def readEntries (cs : List Char) : Except Fault (Entries × List Char) :=
  match skipSpace cs with
  | [] => .error (.here .endInValue [])
  | c :: rest =>
      if c = 'n' then (Json.readWord ['u', 'l', 'l'] rest).map fun rest => (none, rest)
      else if c = '\x7b' then
        (Json.readFields (Json.budget rest) channelRoom true [] rest).map
          fun (fields, rest) => (some fields, rest)
      else .error (wrongKind "a map" (c :: rest))

def channelsKey : String := "channels"

/-- Reads the fields of the top object up to its end.  `seen` is the value of
`channels`, once it has come by; the other fields are passed over. -/
def readTop (fuel : Nat) (first : Bool) (seen : Option Entries) (cs : List Char) :
    Except Fault (Entries × List Char) :=
  match fuel with
  | 0 => .error (.here .nestedTooDeep cs)
  | fuel + 1 =>
      let field (rest : List Char) : Except Fault (Entries × List Char) :=
        match Json.readString .plain [] rest with
        | .error f => .error f
        | .ok (key, rest) =>
            if String.ofList key = channelsKey ∧ seen.isSome then
              .error (.here (.repeatedField channelsKey) (skipSpace rest))
            else
              match skipSpace rest with
              | [] => .error (.here .endInObject [])
              | c :: rest =>
                  if c ≠ ':' then .error (.ahead .colonNeeded (c :: rest))
                  else if String.ofList key = channelsKey then
                    match readEntries rest with
                    | .error f => .error f
                    | .ok (entries, rest) => readTop fuel false (some entries) rest
                  else
                    match Json.skipOne rest with
                    | .error f => .error f
                    | .ok rest => readTop fuel false seen rest
      match skipSpace cs with
      | [] => .error (.here .endInObject [])
      | c :: rest =>
          if c = '\x7d' then .ok (seen.getD none, rest)
          else if first then
            if c = '"' then field rest else .error (.ahead .keyNotString (c :: rest))
          else if c = ',' then
            match skipSpace rest with
            | [] => .error (.here .endInValue [])
            | d :: more =>
                if d = '"' then field more
                else if d = '\x7d' then .error (.ahead .trailingComma (d :: more))
                else .error (.ahead .keyNotString (d :: more))
          else .error (.ahead .commaOrObjectEndNeeded (c :: rest))

/-- Reads a top list from behind its opening bracket.  Its one item, if it has any,
stands for the value of `channels`. -/
def readTopList (cs : List Char) : Except Fault (Entries × List Char) :=
  match skipSpace cs with
  | [] => .error (.here .endInList [])
  | c :: rest =>
      if c = ']' then .ok (none, rest)
      else
        match readEntries (c :: rest) with
        | .error f => .error f
        | .ok (entries, rest) =>
            match skipSpace rest with
            | [] => .error (.here .endInList [])
            | d :: more =>
                if d = ']' then .ok (entries, more)
                else if d = ',' then
                  match skipSpace more with
                  | ']' :: last => .error (.ahead .trailingComma (']' :: last))
                  | last => .error (.ahead .trailingText last)
                else .error (.ahead .trailingText (d :: more))

def readText (cs : List Char) : Except Fault Entries :=
  let top : Except Fault (Entries × List Char) :=
    match skipSpace cs with
    | [] => .error (.here .endInValue [])
    | c :: rest =>
        if c = '\x7b' then readTop (Json.budget rest) true none rest
        else if c = '[' then readTopList rest
        else .error (wrongKind "struct RawLock" (c :: rest))
  match top with
  | .error f => .error f
  | .ok (entries, rest) =>
      match skipSpace rest with
      | [] => .ok entries
      | rest => .error (.ahead .trailingText rest)

/-- The two strings that a record may declare.  A field that is null counts as missing. -/
structure Declared where
  signatureUrl : Option String
  fingerprint : Option String
  deriving DecidableEq, Repr

def optionalString : Value → Except Kind (Option String)
  | .null => .ok none
  | .string s => .ok (some s)
  | v => .error v.kind

/-- Goes through the fields of a record in order; the first one of a wrong kind decides.
-/
def declaredOf (seen : Declared) : List (String × Value) → Except Kind Declared
  | [] => .ok seen
  | (key, v) :: rest =>
      if key = "signature_url" then
        match optionalString v with
        | .error k => .error k
        | .ok s => declaredOf { seen with signatureUrl := s } rest
      else if key = "public_key_fingerprint" then
        match optionalString v with
        | .error k => .error k
        | .ok s => declaredOf { seen with fingerprint := s } rest
      else declaredOf seen rest

def recordOf (fields : List (String × Value)) : Except Kind Record :=
  (declaredOf ⟨none, none⟩ fields).map fun d =>
    .ofDeclared (d.signatureUrl.getD "") (d.fingerprint.getD "")

/-- The components of a channel, in the order of the text. -/
def componentsOf (channel : String) :
    List (String × Value) → Except LoadError (List (String × Record))
  | [] => .ok []
  | (name, .object fields) :: rest =>
      match recordOf fields with
      | .error found => .error (.wrongField channel name found)
      | .ok record => (componentsOf channel rest).map fun more => (name, record) :: more
  | (name, _) :: _ => .error (.componentNotObject channel name)

def channelsOf : List (String × Value) → Except LoadError (List Channel)
  | [] => .ok []
  | (name, .object fields) :: rest =>
      match componentsOf name fields with
      | .error e => .error e
      | .ok components =>
          let channel : Channel :=
            ⟨name, sortComponents components, sortComponents_ascending components⟩
          (channelsOf rest).map fun more => channel :: more
  | (name, _) :: _ => .error (.channelNotObject name)

def documentOf (entries : Entries) : Except LoadError Document :=
  (channelsOf (entries.getD [])).map .mk

/-- The document that a text describes; `path` is only told in errors. -/
def ofTextAt (path : Option String) (text : String) : Except LoadError Document :=
  match readText text.toList with
  | .error fault => .error (.notJson path text fault)
  | .ok entries => documentOf entries

def ofText (text : String) : Except LoadError Document :=
  ofTextAt none text

def load (files : Files) (path : String) : Except LoadError Document :=
  match (files path).text with
  | .error cause => .error (.unreadable path cause)
  | .ok text => ofTextAt (some path) text

end IssuerAudit.Lock
