import IssuerAudit.Command.Option
/-!
Reading arguments, from left to right.  An argument is taken for what its form says; a
value is read only when the next argument has been recognised, so an argument that is
not known is reported in front of a wrong value before it.
-/

namespace IssuerAudit.Command

inductive Request where
  | notice (which : Notice)
  | check (given : Given)
  deriving DecidableEq, Repr

inductive Form where
  /-- Two dashes: what follows is no option. -/
  | divider
  /-- The name of an option, and the value behind an equals sign if there is one. -/
  | long (name : String) (value : Option String)
  /-- A dash and letters, of which the first one counts. -/
  | short (letter : Char)
  | plain
  deriving DecidableEq, Repr

/-- The form of an argument.  A dash alone is a plain one. -/
def formOf (argument : List Char) : Form :=
  match argument with
  | ['-', '-'] => .divider
  | '-' :: '-' :: rest =>
      let name := String.ofList (rest.takeWhile (· != '='))
      match rest.dropWhile (· != '=') with
      | [] => .long name none
      | _ :: value => .long name (some (String.ofList value))
  | '-' :: c :: _ => .short c
  | _ => .plain

/-- What has been recognised and is still to be put into its slot. -/
inductive Pending where
  | nothing
  /-- An option without its value so far. -/
  | option (slot : Slot)
  | value (slot : Slot) (value : String)
  deriving DecidableEq, Repr

structure Reading where
  given : Given
  pending : Pending
  deriving DecidableEq, Repr

namespace Reading

/-- Puts what is pending into its slot. -/
def settle (r : Reading) : Except ArgumentError Given :=
  match r.pending with
  | .nothing => .ok r.given
  | .option slot => .error (.valueMissing slot)
  | .value slot value => r.given.put slot value

def hasLock (r : Reading) : Bool :=
  r.given.has .lock ||
    match r.pending with
    | .value .lock _ => true
    | _ => false

def takeLock (r : Reading) (argument : String) : Except ArgumentError Reading :=
  if r.hasLock then .error (.unexpected argument)
  else r.settle.map fun given => ⟨given, .value .lock argument⟩

/-- Takes an argument without dashes: the value of the option in front of it, or the
lock file. -/
def takePlain (r : Reading) (argument : String) : Except ArgumentError Reading :=
  match r.pending with
  | .option slot => .ok ⟨r.given, .value slot argument⟩
  | _ => r.takeLock argument

/-- Takes an option with its value, if that stands behind an equals sign. -/
def takeOption (r : Reading) (slot : Slot) (value : Option String) :
    Except ArgumentError Reading := do
  let given ← r.settle
  match value with
  | none => .ok ⟨given, .option slot⟩
  | some value => (given.put slot value).map fun given => ⟨given, .nothing⟩

/-- Takes a notice, which ends the reading if nothing in front of it is wrong. -/
def takeNotice (r : Reading) (which : Notice) : Except ArgumentError Request :=
  r.settle.map fun _ => .notice which

end Reading

/-- Reads arguments behind two dashes, which are no options. -/
def readPlain (r : Reading) : List String → Except ArgumentError Request
  | [] => r.settle.map .check
  | argument :: rest =>
      match r.takeLock argument with
      | .error e => .error e
      | .ok r => readPlain r rest

def readFrom (r : Reading) : List String → Except ArgumentError Request
  | [] => r.settle.map .check
  | argument :: rest =>
      match formOf argument.toList with
      | .divider => readPlain r rest
      | .long name value =>
          match Notice.ofName? name, value with
          | some which, none => r.takeNotice which
          | some which, some value => .error (.needless which value)
          | none, _ =>
              match Slot.ofName? name with
              | none => .error (.unexpected ("--" ++ name))
              | some slot =>
                  match r.takeOption slot value with
                  | .error e => .error e
                  | .ok r => readFrom r rest
      | .short letter =>
          match Notice.ofLetter? letter with
          | some which => r.takeNotice which
          | none => .error (.unexpected ("-" ++ letter.toString))
      | .plain =>
          match r.takePlain argument with
          | .error e => .error e
          | .ok r => readFrom r rest

def read (arguments : List String) : Except ArgumentError Request :=
  readFrom ⟨.nothing, .nothing⟩ arguments

end IssuerAudit.Command
