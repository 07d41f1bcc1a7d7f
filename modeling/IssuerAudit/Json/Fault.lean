import IssuerAudit.Json.Value
import IssuerAudit.Text.Utf8
/-!
Why a text could not be read as JSON, and where.  A fault is placed by the number of
bytes that are left of the text behind it, so that a reader which only sees the rest of
the text can place it.
-/

namespace IssuerAudit.Json

inductive Cause where
  | endInList
  | endInObject
  | endInString
  /-- The text ends where a value or the rest of one is needed. -/
  | endInValue
  | colonNeeded
  | commaOrListEndNeeded
  | commaOrObjectEndNeeded
  /-- A letter that breaks `null`, `true` or `false`. -/
  | brokenWord
  | valueNeeded
  | badEscape
  | badNumber
  | numberTooGreat
  | controlCharacter
  | keyNotString
  /-- Half of a surrogate pair stands where its other half is needed. -/
  | loneSurrogate
  | halfPair
  | trailingComma
  | trailingText
  | nestedTooDeep
  /-- A value of the wrong kind; `needed` says what was needed. -/
  | wrongKind (found : Kind) (needed : String)
  | repeatedField (key : String)
  deriving DecidableEq, Repr

/-- A cause, and the number of bytes behind the place where it was noticed. -/
structure Fault where
  cause : Cause
  left : Nat
  deriving DecidableEq, Repr

/-- What a fault is about: the text ends too early, is no JSON, or is JSON of the wrong
shape. -/
inductive Category where
  | early
  | form
  | shape
  deriving DecidableEq, Repr

def Cause.category : Cause → Category
  | .endInList | .endInObject | .endInString | .endInValue => .early
  | .wrongKind _ _ | .repeatedField _ => .shape
  | _ => .form

def Cause.text : Cause → String
  | .endInList => "EOF while parsing a list"
  | .endInObject => "EOF while parsing an object"
  | .endInString => "EOF while parsing a string"
  | .endInValue => "EOF while parsing a value"
  | .colonNeeded => "expected `:`"
  | .commaOrListEndNeeded => "expected `,` or `]`"
  | .commaOrObjectEndNeeded => "expected `,` or `\x7d`"
  | .brokenWord => "expected ident"
  | .valueNeeded => "expected value"
  | .badEscape => "invalid escape"
  | .badNumber => "invalid number"
  | .numberTooGreat => "number out of range"
  | .controlCharacter =>
      "control character (\\u0000-\\u001F) found while parsing a string"
  | .keyNotString => "key must be a string"
  | .loneSurrogate => "lone leading surrogate in hex escape"
  | .halfPair => "unexpected end of hex escape"
  | .trailingComma => "trailing comma"
  | .trailingText => "trailing characters"
  | .nestedTooDeep => "recursion limit exceeded"
  | .wrongKind found needed => "invalid type: " ++ found.text ++ ", expected " ++ needed
  | .repeatedField key => "duplicate field `" ++ key ++ "`"

def Fault.before (f : Fault) (text : String) : List UInt8 :=
  let bytes := Text.Utf8.bytesOf text
  bytes.take (bytes.length - f.left)

/-- The line of the place of a fault, counted from one. -/
def Fault.line (f : Fault) (text : String) : Nat :=
  1 + (f.before text).count 0x0A

/-- The column of the place of a fault: the number of bytes since the last line feed. -/
def Fault.column (f : Fault) (text : String) : Nat :=
  ((f.before text).reverse.takeWhile (· != 0x0A)).length

def Fault.message (f : Fault) (text : String) : String :=
  f.cause.text ++ " at line " ++ toString (f.line text) ++
    " column " ++ toString (f.column text)

/-- A fault noticed between two characters, with `rest` still to come. -/
def Fault.here (cause : Cause) (rest : List Char) : Fault :=
  ⟨cause, Text.Utf8.byteLength rest⟩

/-- A fault noticed on the next character: it is placed one byte on, if there is a next
character. -/
def Fault.ahead (cause : Cause) (rest : List Char) : Fault :=
  ⟨cause, Text.Utf8.byteLength rest - 1⟩

/-- A reader takes something off the front of a text and leaves the rest. -/
abbrev Reader (α : Type) : Type :=
  List Char → Except Fault (α × List Char)

end IssuerAudit.Json
