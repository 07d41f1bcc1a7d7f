import IssuerAudit.Program
/-!
Where files have their place for a user: the settings file and the log, below base
directories that the environment names.
-/

namespace IssuerAudit.Places

structure Environment where
  home : Option String
  /-- The base directory for settings, if one is named. -/
  configHome : Option String
  stateHome : Option String
  deriving DecidableEq, Repr

def isAbsolute (path : String) : Bool :=
  path.toList.head? == some '/'

/-- Puts a path behind another, with one slash between them; an absolute one stands for
itself. -/
def join (base path : String) : String :=
  if isAbsolute path || base.isEmpty then path
  else if base.toList.getLast? == some '/' then base ++ path
  else base ++ "/" ++ path

/-- The base directory that is named, or a standard one below the home directory if none
is named or the one named is not absolute. -/
def baseDirectory (named : Option String) (home standard : String) : String :=
  match named with
  | some path => if isAbsolute path then path else join home standard
  | none => join home standard

/-- The place of a file of the program below a base directory.  The program has a
directory there and in it another one of the same name. -/
def fileBelow (base name : String) : String :=
  join (join (join base Program.name) Program.name) name

/-- The place of the settings file.  Without a home directory there is none, not even
below a base directory that is named. -/
def settingsFile? (e : Environment) : Option String :=
  e.home.map fun home =>
    fileBelow (baseDirectory e.configHome home ".config") "config.toml"

def logFile? (e : Environment) : Option String :=
  e.home.map fun home =>
    fileBelow (baseDirectory e.stateHome home ".local/state") "sigcheck.log"

end IssuerAudit.Places
