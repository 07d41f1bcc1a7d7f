import IssuerAudit.File
import IssuerAudit.Json.Fault
/-!
Why a lock document could not be loaded.  Every cause is fatal for a run.
-/

namespace IssuerAudit.Lock

inductive LoadError where
  | unreadable (path : String) (cause : FileError)
  /-- The text is not the JSON of a lock document; `path` is the file it came from, if
  it came from one. -/
  | notJson (path : Option String) (text : String) (fault : Json.Fault)
  | channelNotObject (channel : String)
  | componentNotObject (channel component : String)
  /-- A field of a record that has to be a string is something else. -/
  | wrongField (channel component : String) (found : Json.Kind)
  deriving DecidableEq, Repr

namespace LoadError

def fieldText (found : Json.Kind) : String :=
  (Json.Cause.wrongKind found "a string").text

/-- What stands in front of the cause when a text is not the JSON of a lock document. -/
def parseHead (path : Option String) : String :=
  match path with
  | none => "parse lock file: "
  | some path => "parse lock file " ++ path ++ ": "

def text : LoadError → String
  | .unreadable path cause => "read lock file " ++ path ++ ": " ++ cause.text
  | .notJson path text fault => parseHead path ++ fault.message text
  | .channelNotObject channel =>
      "channel " ++ Text.Quoted.encode channel ++ " is not an object"
  | .componentNotObject channel component =>
      "component " ++ channel ++ "/" ++ component ++ " is not an object"
  | .wrongField channel component found =>
      "component " ++ channel ++ "/" ++ component ++ ": " ++ fieldText found

def chain (e : LoadError) : List String :=
  match e with
  | .unreadable _ cause => e.text :: cause.chain
  | .notJson _ text fault => [e.text, fault.message text]
  | .wrongField _ _ found => [e.text, fieldText found]
  | _ => [e.text]

end LoadError

end IssuerAudit.Lock
