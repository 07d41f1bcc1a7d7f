import IssuerAudit.Inspection
import IssuerAudit.Number.Unsigned
/-!
What can be given on the command line: one file to check and four options with a value.
-/

namespace IssuerAudit.Command

/-- A thing that takes a value. -/
inductive Slot where
  /-- The lock file, which is given without a name. -/
  | lock
  | config
  | inspector
  | gpg
  | timeout
  deriving DecidableEq, Repr

def Slot.label : Slot → String
  | .lock => "[LOCK]"
  | .config => "--config <PATH>"
  | .inspector => "--inspector <BACKEND>"
  | .gpg => "--gpg <PROGRAM>"
  | .timeout => "--timeout <SECS>"

/-- The slot behind the name of an option.  Names are not shortened. -/
def Slot.ofName? (name : String) : Option Slot :=
  if name = "config" then some .config
  else if name = "inspector" then some .inspector
  else if name = "gpg" then some .gpg
  else if name = "timeout" then some .timeout
  else none

/-- The options that take no value and end the reading of arguments. -/
inductive Notice where
  | help
  | version
  deriving DecidableEq, Repr

def Notice.label : Notice → String
  | .help => "--help"
  | .version => "--version"

def Notice.ofName? (name : String) : Option Notice :=
  if name = "help" then some .help
  else if name = "version" then some .version
  else none

def Notice.ofLetter? (c : Char) : Option Notice :=
  if c = 'h' then some .help
  else if c = 'V' then some .version
  else none

inductive ArgumentError where
  | unexpected (argument : String)
  | valueMissing (slot : Slot)
  | repeated (slot : Slot)
  | invalid (slot : Slot) (value reason : String)
  /-- A value is given to an option that takes none. -/
  | needless (notice : Notice) (value : String)
  deriving DecidableEq, Repr

def ArgumentError.text : ArgumentError → String
  | .unexpected argument => "unexpected argument '" ++ argument ++ "' found"
  | .valueMissing slot =>
      "a value is required for '" ++ slot.label ++ "' but none was supplied"
  | .repeated slot => "the argument '" ++ slot.label ++ "' cannot be used multiple times"
  | .invalid slot value reason =>
      "invalid value '" ++ value ++ "' for '" ++ slot.label ++ "': " ++ reason
  | .needless notice value =>
      "unexpected value '" ++ value ++ "' for '" ++ notice.label ++
        "' found; no more were expected"

structure Given where
  lock : Option String
  config : Option String
  inspector : Option Backend
  gpg : Option String
  timeout : Option Nat
  deriving DecidableEq, Repr

namespace Given

def nothing : Given := ⟨none, none, none, none, none⟩

def has (g : Given) : Slot → Bool
  | .lock => g.lock.isSome
  | .config => g.config.isSome
  | .inspector => g.inspector.isSome
  | .gpg => g.gpg.isSome
  | .timeout => g.timeout.isSome

/-- A path that is given for a slot, which has to be more than nothing. -/
def readPath (slot : Slot) (value : String) : Except ArgumentError String :=
  if value = "" then .error (.valueMissing slot) else .ok value

def readBackend (value : String) : Except ArgumentError Backend :=
  match Backend.parse? value with
  | some b => .ok b
  | none => .error (.invalid .inspector value (Backend.unknownText value))

/-- Seconds, which fit into 64 bits. -/
def readSeconds (value : String) : Except ArgumentError Nat :=
  (Unsigned.read 0x10000000000000000 value.toList).mapError fun fault =>
    .invalid .timeout value fault.text

/-- Gives a slot its value, which is read as the slot needs it. -/
def put (g : Given) (slot : Slot) (value : String) : Except ArgumentError Given :=
  if g.has slot then .error (.repeated slot)
  else
    match slot with
    | .lock => (readPath .lock value).map fun path => { g with lock := some path }
    | .config => (readPath .config value).map fun path => { g with config := some path }
    | .inspector =>
        (readBackend value).map fun backend => { g with inspector := some backend }
    | .gpg => (readPath .gpg value).map fun path => { g with gpg := some path }
    | .timeout =>
        (readSeconds value).map fun seconds => { g with timeout := some seconds }

end Given

end IssuerAudit.Command
