import IssuerAudit.File
import IssuerAudit.OpenPgp.Data
import IssuerAudit.Text.Ascii
import IssuerAudit.Text.Blank
import IssuerAudit.Text.Lines
import IssuerAudit.Text.Quoted
/-!
Inspection of signature files: from a file to the listing of its packets.  There are two
ways to get it, a reader of packets built in here and the program `gpg`, whose output is
taken as it comes.
-/

namespace IssuerAudit

inductive Backend where
  | gpg
  | native
  deriving DecidableEq, Repr

namespace Backend

def name : Backend → String
  | .gpg => "gpg"
  | .native => "native"

def ofName? (s : String) : Option Backend :=
  if s = gpg.name then some .gpg
  else if s = native.name then some .native
  else none

/-- A name as a user writes it, without the blanks around it and in small letters. -/
def clean (s : String) : String :=
  Text.lower (Text.trim s)

def parse? (s : String) : Option Backend :=
  ofName? (clean s)

def unknownText (s : String) : String :=
  "unknown inspector " ++ Text.Quoted.encode (clean s) ++ " (expected gpg or native)"

theorem ofName?_name (b : Backend) : ofName? b.name = some b := by
  cases b <;> rfl

end Backend

inductive Ending where
  /-- By itself, with a code that is zero if all went well. -/
  | exit (code : Nat)
  | signal (number : Nat)
  deriving DecidableEq, Repr

namespace Ending

/-- The names of the signals, from number one on. -/
def signalNames : List String :=
  ["SIGHUP", "SIGINT", "SIGQUIT", "SIGILL", "SIGTRAP", "SIGABRT", "SIGBUS", "SIGFPE",
    "SIGKILL", "SIGUSR1", "SIGSEGV", "SIGUSR2", "SIGPIPE", "SIGALRM", "SIGTERM",
    "SIGSTKFLT", "SIGCHLD", "SIGCONT", "SIGSTOP", "SIGTSTP", "SIGTTIN", "SIGTTOU",
    "SIGURG", "SIGXCPU", "SIGXFSZ", "SIGVTALRM", "SIGPROF", "SIGWINCH", "SIGIO", "SIGPWR",
    "SIGSYS"]

def text : Ending → String
  | .exit code => "exit status: " ++ toString code
  | .signal number =>
      "signal: " ++ toString number ++
        (match number with
          | 0 => ""
          | n + 1 =>
              match signalNames[n]? with
              | some name => " (" ++ name ++ ")"
              | none => "")

end Ending

structure Execution where
  output : List UInt8
  errors : List UInt8
  ending : Ending
  deriving DecidableEq, Repr

/-- All that a program printed as text, its output before its errors.  The two are
decoded apart, so a character that is cut off at the end of the output does not reach
into the errors. -/
def Execution.listing (e : Execution) : String :=
  String.ofList (Text.Utf8.decodeLossy e.output ++ Text.Utf8.decodeLossy e.errors)

inductive InspectionError where
  | unreadable (path : String) (cause : FileError)
  /-- The program could not be started. -/
  | notRun (program : String) (cause : FileError)
  /-- The program did not end well; `listing` is all that it printed. -/
  | failed (program : String) (ending : Ending) (listing : String)
  /-- The data could not be read; `words` are those of the reader of packets. -/
  | malformed (fault : OpenPgp.Fault) (words : String)
  deriving DecidableEq, Repr

namespace InspectionError

/-- The last line of a text that is more than blank, without the blanks around it. -/
def lastLine? (text : String) : Option String :=
  let lines := (Text.lines text.toList).map Text.trimChars
  (lines.filter fun line => !line.isEmpty).getLast?.map String.ofList

/-- What is added to the words for a failed program. -/
def summary (listing : String) : String :=
  match lastLine? listing with
  | some line => " (" ++ line ++ ")"
  | none => ""

def text : InspectionError → String
  | .unreadable path cause => "read " ++ path ++ ": " ++ cause.text
  | .notRun program cause => "failed to run " ++ program ++ ": " ++ cause.text
  | .failed program ending listing =>
      program ++ " exited with " ++ ending.text ++ summary listing
  | .malformed fault words => "malformed OpenPGP data: " ++ fault.text words

def chain (e : InspectionError) : List String :=
  match e with
  | .unreadable _ cause => e.text :: cause.chain
  | .notRun _ cause => e.text :: cause.chain
  | _ => [e.text]

end InspectionError

namespace Inspection

/-- Inspection with the reader built in; `words` tells what it says of data that it cannot
read. -/
def ofBytes (words : OpenPgp.Bytes → String) (data : OpenPgp.Bytes) :
    Except InspectionError String :=
  match OpenPgp.list data with
  | .ok listing => .ok listing
  | .error fault => .error (.malformed fault (words data))

def ofFile (words : OpenPgp.Bytes → String) (path : String) (file : File) :
    Except InspectionError String :=
  match file.bytes with
  | .error cause => .error (.unreadable path cause)
  | .ok data => ofBytes words data

/-- Inspection with a program, of which `run` tells what came of running it. -/
def ofRun (program : String) (run : Except FileError Execution) :
    Except InspectionError String :=
  match run with
  | .error cause => .error (.notRun program cause)
  | .ok execution =>
      if execution.ending = .exit 0 then .ok execution.listing
      else .error (.failed program execution.ending execution.listing)

def arguments (path : String) : List String :=
  ["--batch", "--list-packets", path]

end Inspection

end IssuerAudit
