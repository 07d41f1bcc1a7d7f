import IssuerAudit.Settings
/-!
What a settings file tells about each setting on its own.  For every setting the
relation `Tells` looks at the one place where the document may hold it, and it says
nothing of a setting that is not there.
-/

namespace IssuerAudit.Settings

open Toml (Fields Value)

/-- A setting that a file may hold. -/
inductive Known where
  | lockPath
  | inspector
  | gpgProgram
  | timeout
  | connectTimeout
  | maxRedirects
  deriving DecidableEq, Repr

def Known.isNumber : Known → Bool
  | .timeout | .connectTimeout | .maxRedirects => true
  | .lockPath | .inspector | .gpgProgram => false

/-- What a value holds under a key if it is a table, or at a place if it is a list. -/
def part? (key : String) (place : Nat) : Value → Option Value
  | .table _ fields | .inline fields => fields.lookup key
  | .array items => items[place]?
  | _ => none

/-- Holds of the values that may stand for all limits together. -/
def isGroup : Value → Bool
  | .table _ _ | .inline _ | .array _ | .moment => true
  | _ => false

def given? (fields : Fields) : Known → Option Value
  | .lockPath => fields.lookup "lock_path"
  | .inspector => fields.lookup "inspector"
  | .gpgProgram => fields.lookup "gpg_program"
  | .timeout => (fields.lookup "fetch").bind (part? "timeout_secs" 0)
  | .connectTimeout => (fields.lookup "fetch").bind (part? "connect_timeout_secs" 1)
  | .maxRedirects => (fields.lookup "fetch").bind (part? "max_redirects" 2)

def IsText (v : Value) (s : String) : Prop := v = .text s

/-- Holds of a value that is a number from zero to below a bound. -/
def IsBelow (bound : Nat) (v : Value) (n : Nat) : Prop := v = .whole n ∧ n < bound

/-- Holds of a value that is the exact name of a backend, or a table of that one key
with nothing behind it. -/
inductive Names : Value → Backend → Prop
  | text (b : Backend) : Names (.text b.name) b
  | table (b : Backend) (origin : Toml.Origin) {v : Value} (empty : isEmpty v = true) :
      Names (.table origin [(b.name, v)]) b
  | inline (b : Backend) {v : Value} (empty : isEmpty v = true) :
      Names (.inline [(b.name, v)]) b

/-- What is told about each setting, if anything is. -/
structure Told where
  lockPath : Option String
  inspector : Option Backend
  gpgProgram : Option String
  timeout : Option Nat
  connectTimeout : Option Nat
  maxRedirects : Option Nat
  deriving DecidableEq, Repr

/-- What is told, and the standard value of each setting of which nothing is told. -/
def Told.settled (told : Told) : Settings where
  lockPath := told.lockPath.getD standard.lockPath
  backend := told.inspector.getD standard.backend
  gpgProgram := told.gpgProgram.getD standard.gpgProgram
  limits := {
    timeout := told.timeout.getD standard.limits.timeout
    connectTimeout := told.connectTimeout.getD standard.limits.connectTimeout
    maxRedirects := told.maxRedirects.getD standard.limits.maxRedirects }

/-- Holds of what a document tells, if each setting in it is of the right kind. -/
structure Tells (fields : Fields) (told : Told) : Prop where
  lockPath : Option.Rel IsText (given? fields .lockPath) told.lockPath
  inspector : Option.Rel Names (given? fields .inspector) told.inspector
  gpgProgram : Option.Rel IsText (given? fields .gpgProgram) told.gpgProgram
  group : ∀ v, fields.lookup "fetch" = some v → isGroup v = true
  timeout : Option.Rel (IsBelow UInt64.size) (given? fields .timeout) told.timeout
  connectTimeout :
    Option.Rel (IsBelow UInt64.size) (given? fields .connectTimeout) told.connectTimeout
  maxRedirects :
    Option.Rel (IsBelow UInt32.size) (given? fields .maxRedirects) told.maxRedirects

/-- Holds of documents that give a known setting a value out of its range. -/
inductive OutOfRange (fields : Fields) : Prop
  | negative {k : Known} {n : Int} (number : k.isNumber = true)
      (given : given? fields k = some (.whole n)) (below : n < 0)
  | tooMany {n : Int} (given : given? fields .maxRedirects = some (.whole n))
      (above : UInt32.size ≤ n)
  | nameless {name : String} (given : given? fields .inspector = some (.text name))
      (other : name ≠ "gpg" ∧ name ≠ "native")

end IssuerAudit.Settings
