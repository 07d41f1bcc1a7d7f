import IssuerAudit.Command.Check
/-!
The program as it runs on a machine: its files are read, its text is printed and its log
is written here, and all that is decided is decided elsewhere.

Connections and programs are not within reach of this layer.  A connection is refused
and a program is not found, so a component with a signature is reported as unreadable,
never as matching.
-/

namespace IssuerAudit.Main

def isFound (path : String) : IO Bool := do
  try
    let _ ← IO.FS.realPath path
    return true
  catch _ => return false

def readPath (path : String) : IO File := do
  try
    let content ← IO.FS.readBinFile path
    return .regular content.toList
  catch e =>
    let found ← isFound path
    match e with
    | .noFileOrDirectory .. => return .absent
    | .permissionDenied .. =>
        return if found then .forbidden else .faulty false .denied
    | .inappropriateType _ code _ =>
        return if code == 21 then .directory else .blocked
    | e => return .faulty found (.other e.toString [])

def readEnvironment : IO Places.Environment := do
  return ⟨← IO.getEnv "HOME", ← IO.getEnv "XDG_CONFIG_HOME", ← IO.getEnv "XDG_STATE_HOME"⟩

/-- Surroundings in which there are just these files. -/
def surroundings (environment : Places.Environment) (files : List (String × File)) :
    Command.Surroundings Unit where
  environment
  files path := (files.lookup path).getD .absent
  client := .unconnected
  disk := .endless
  execute _ _ _ := (.error .notFound, ())
  words _ := "the data cannot be read"
  sink := .endless

/-- Reads the files that arguments lead to: the settings file, and the lock file that is
named by the settings in force. -/
def readFiles (environment : Places.Environment) (arguments : List String) :
    IO (List (String × File)) := do
  match Command.read arguments with
  | .ok (.check given) =>
      let settings ← (given.settingsFile? environment).toList.mapM fun path => do
        return (path, ← readPath path)
      match Command.settingsFor (surroundings environment settings) given with
      | .ok s => return settings ++ [(s.lockPath, ← readPath s.lockPath)]
      | .error _ => return settings
  | _ => return []

/-- Adds a line to the log, if there can be one. -/
def writeLog (environment : Places.Environment) (line : String) : IO Unit := do
  match Places.logFile? environment with
  | none => pure ()
  | some path =>
      try
        let directory := (path.dropEnd "/sigcheck.log".length).toString
        IO.FS.createDirAll directory
        let log ← IO.FS.Handle.mk path .append
        log.putStrLn line
      catch _ => pure ()

end IssuerAudit.Main

def main (arguments : List String) : IO UInt32 := do
  let environment ← IssuerAudit.Main.readEnvironment
  let files ← IssuerAudit.Main.readFiles environment arguments
  let around := IssuerAudit.Main.surroundings environment files
  let conclusion := IssuerAudit.Command.run around () arguments
  IssuerAudit.Main.writeLog environment ("ended with code " ++ toString conclusion.code)
  let output ← IO.getStdout
  output.write (ByteArray.mk conclusion.output.toArray)
  output.flush
  match conclusion.complaint with
  | some text => IO.eprintln text
  | none => pure ()
  return conclusion.code.toUInt32
