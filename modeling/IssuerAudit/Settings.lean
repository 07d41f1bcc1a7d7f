import IssuerAudit.Download.Transfer
import IssuerAudit.Inspection
import IssuerAudit.Toml.Read
/-!
Settings of a run.  A settings file is TOML in which every setting may be missing and
unknown keys do no harm; a setting that is there has to be of the right kind, and one
that is not makes the whole file unusable.
-/

namespace IssuerAudit

structure Limits where
  /-- Seconds for a whole download. -/
  timeout : Nat
  /-- Seconds until a connection stands. -/
  connectTimeout : Nat
  maxRedirects : Nat
  deriving DecidableEq, Repr

def Limits.standard : Limits := ⟨120, 30, 10⟩

def Limits.options (l : Limits) : Download.Options :=
  ⟨.ofSeconds l.timeout, .ofSeconds l.connectTimeout, l.maxRedirects⟩

structure Settings where
  lockPath : String
  backend : Backend
  /-- The program that the `gpg` backend runs. -/
  gpgProgram : String
  limits : Limits
  deriving DecidableEq, Repr

def Settings.standard : Settings :=
  ⟨"configs/sources/lock.json", .gpg, "gpg", .standard⟩

inductive SettingsError where
  /-- There is no home directory below which the settings file would be. -/
  | homeless
  | unreadable (path : String) (cause : FileError)
  /-- The text is no TOML, or a setting in it is of the wrong kind. -/
  | notSettings (path : String)
  deriving DecidableEq, Repr

/-- An error and what caused it, outermost first.  What is wrong with a text is not
told. -/
def SettingsError.chain : SettingsError → List String
  | .homeless => ["$HOME must be set"]
  | .unreadable path cause => ("read config " ++ path) :: cause.chain
  | .notSettings path => ["parse config " ++ path]

namespace Settings

open Toml (Fields Value)

/-- The setting under a key, or a standard value if the key is not there. -/
def setting {α : Type} (fields : Fields) (key : String) (standard : α)
    (read : Value → Option α) : Option α :=
  match fields.get? key with
  | none => some standard
  | some v => read v

/-- A whole number from zero to below a bound. -/
def natBelow (bound : Nat) : Value → Option Nat
  | .whole (.ofNat n) => if n < bound then some n else none
  | _ => none

def text? : Value → Option String
  | .text s => some s
  | _ => none

/-- Seconds fit into 64 bits. -/
def seconds? : Value → Option Nat := natBelow 0x10000000000000000

/-- Counts of redirects fit into 32 bits. -/
def count? : Value → Option Nat := natBelow 0x100000000

/-- Holds of tables and arrays in which there is nothing. -/
def isEmpty : Value → Bool
  | .table _ [] | .inline [] | .array [] => true
  | _ => false

/-- A backend under its exact name, as a text or as the one key of a table with nothing
behind it. -/
def backend? : Value → Option Backend
  | .text s => Backend.ofName? s
  | .table _ [(key, v)] | .inline [(key, v)] =>
      if isEmpty v then Backend.ofName? key else none
  | _ => none

def limitsOfFields (fields : Fields) : Option Limits := do
  let timeout ← setting fields "timeout_secs" Limits.standard.timeout seconds?
  let connectTimeout ←
    setting fields "connect_timeout_secs" Limits.standard.connectTimeout seconds?
  let maxRedirects ← setting fields "max_redirects" Limits.standard.maxRedirects count?
  some ⟨timeout, connectTimeout, maxRedirects⟩

/-- The limit at a place in a list, or a standard value if the list is too short. -/
def limitAt (items : List Value) (place standard : Nat) (read : Value → Option Nat) :
    Option Nat :=
  match items[place]? with
  | none => some standard
  | some v => read v

def limitsOfItems (items : List Value) : Option Limits := do
  let timeout ← limitAt items 0 Limits.standard.timeout seconds?
  let connectTimeout ← limitAt items 1 Limits.standard.connectTimeout seconds?
  let maxRedirects ← limitAt items 2 Limits.standard.maxRedirects count?
  some ⟨timeout, connectTimeout, maxRedirects⟩

/-- Limits as a table or as a list.  A date counts as a table in which there is nothing
known. -/
def limits? : Value → Option Limits
  | .table _ fields | .inline fields => limitsOfFields fields
  | .array items => limitsOfItems items
  | .moment => some .standard
  | _ => none

def ofFields (fields : Fields) : Option Settings := do
  let lockPath ← setting fields "lock_path" standard.lockPath text?
  let backend ← setting fields "inspector" standard.backend backend?
  let gpgProgram ← setting fields "gpg_program" standard.gpgProgram text?
  let limits ← setting fields "fetch" standard.limits limits?
  some ⟨lockPath, backend, gpgProgram, limits⟩

def ofText? (text : String) : Option Settings := do
  let fields ← Toml.fieldsOf? text
  ofFields fields

/-- Loads the settings from a file that has to be there. -/
def load (files : Files) (path : String) : Except SettingsError Settings :=
  match (files path).text with
  | .error cause => .error (.unreadable path cause)
  | .ok text =>
      match ofText? text with
      | some settings => .ok settings
      | none => .error (.notSettings path)

def loadIfThere (files : Files) (path : String) : Except SettingsError Settings :=
  if (files path).isThere then load files path else .ok standard

end Settings

end IssuerAudit
