import IssuerAudit.Command.Arguments
import IssuerAudit.Command.Notice
import IssuerAudit.Extraction
import IssuerAudit.Lock.Load
import IssuerAudit.Places
import IssuerAudit.Settings
/-!
The whole program: from arguments to what is printed and the code that it ends with.
The code is zero only if every component got the favourable verdict, and nothing is
asked for before settings and lock file have been read to their ends.
-/

namespace IssuerAudit.Command

/-- What the program finds around it, with states of the outside in `σ`. -/
structure Surroundings (σ : Type) where
  environment : Places.Environment
  files : Files
  client : Client σ
  disk : Disk
  /-- What comes of running a program on a file that holds some bytes. -/
  execute : String → σ → List UInt8 → Except FileError Execution × σ
  /-- What the reader of packets says of data that it cannot read. -/
  words : OpenPgp.Bytes → String
  sink : Sink

structure Conclusion (σ : Type) where
  code : Nat
  output : List UInt8
  complaint : Option String
  /-- The settings in force, if it came to that. -/
  settings : Option Settings
  session : Session σ

def fine : Nat := 0

/-- The code of a run that found something wrong, or that could not be done. -/
def failure : Nat := 1

/-- The code for arguments that are refused. -/
def misuse : Nat := 2

def complaintText (chain : List String) : String :=
  Program.name ++ " error: " ++ chainText chain

def refusalText (e : ArgumentError) : String :=
  "error: " ++ e.text

/-- Settings with what is given on the command line, which comes first. -/
def Given.over (g : Given) (s : Settings) : Settings :=
  { s with
    lockPath := g.lock.getD s.lockPath
    backend := g.inspector.getD s.backend
    gpgProgram := g.gpg.getD s.gpgProgram
    limits := { s.limits with timeout := g.timeout.getD s.limits.timeout } }

variable {σ : Type}

/-- The settings file that is read, or looked for, if it has a place. -/
def Given.settingsFile? (g : Given) (e : Places.Environment) : Option String :=
  g.config.or (Places.settingsFile? e)

/-- The settings in force.  A settings file that is named has to be there. -/
def settingsFor (around : Surroundings σ) (given : Given) :
    Except SettingsError Settings :=
  let loaded :=
    match given.config with
    | some path => Settings.load around.files path
    | none =>
        match Places.settingsFile? around.environment with
        | none => .error .homeless
        | some path => Settings.loadIfThere around.files path
  loaded.map given.over

def inspectorFor (around : Surroundings σ) (s : Settings) : Inspector σ :=
  match s.backend with
  | .gpg => .ofProgram s.gpgProgram (around.execute s.gpgProgram)
  | .native => .native around.words

def sourceFor (around : Surroundings σ) (s : Settings) : Source (Session σ) :=
  Extraction.source around.client around.disk (inspectorFor around s) s.limits.options

def checkDocument (around : Surroundings σ) (session : Session σ) (s : Settings)
    (d : Lock.Document) : Conclusion σ :=
  let (report?, p) := Run.start (sourceFor around s) session around.sink d
  match report? with
  | some report =>
      ⟨if report.isSuccess then fine else failure, p.sink.written, none, some s, p.source⟩
  | none =>
      ⟨failure, p.sink.written, some (complaintText ["write report"]), some s, p.source⟩

def checkUnder (around : Surroundings σ) (session : Session σ) (s : Settings) :
    Conclusion σ :=
  match Lock.load around.files s.lockPath with
  | .error e =>
      let chain := ("load lock file " ++ s.lockPath) :: e.chain
      ⟨failure, [], some (complaintText chain), some s, session⟩
  | .ok d => checkDocument around session s d

def perform (around : Surroundings σ) (session : Session σ) (request : Request) :
    Conclusion σ :=
  match request with
  | .notice which => ⟨fine, Text.Utf8.bytesOf which.text, none, none, session⟩
  | .check given =>
      match settingsFor around given with
      | .error e => ⟨failure, [], some (complaintText e.chain), none, session⟩
      | .ok s => checkUnder around session s

def run (around : Surroundings σ) (outside : σ) (arguments : List String) :
    Conclusion σ :=
  let session := Session.start outside
  match read arguments with
  | .error e => ⟨misuse, [], some (refusalText e), none, session⟩
  | .ok request => perform around session request

end IssuerAudit.Command
