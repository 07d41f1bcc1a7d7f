/-!
What a run found: an outcome for every component, and the text in which it is told.
-/

namespace IssuerAudit

inductive Outcome where
  /-- The signature was issued by the declared key. -/
  | ok (expected actual : String)
  /-- The signature names another issuer, or none is declared. -/
  | mismatch (expected actual : String)
  /-- The component declares no signature. -/
  | missing
  /-- The issuer could not be found out. -/
  | failed (message : String)
  deriving DecidableEq, Repr

namespace Outcome

/-- Compares the declared fingerprint with the one found.  An empty declaration matches
nothing, not even an empty finding. -/
def compare (expected actual : String) : Outcome :=
  if expected ≠ "" ∧ expected = actual then .ok expected actual
  else .mismatch expected actual

def isOk : Outcome → Bool
  | .ok _ _ => true
  | _ => false

def text : Outcome → String
  | .ok expected actual =>
      "expected=" ++ expected ++ " signature=" ++ actual ++ " status=OK"
  | .mismatch expected actual =>
      "expected=" ++ expected ++ " signature=" ++ actual ++ " status=MISMATCH"
  | .missing => "missing signature_url"
  | .failed message => "error reading signature (" ++ message ++ ")"

end Outcome

structure ComponentReport where
  name : String
  outcome : Outcome
  deriving DecidableEq, Repr

/-- The line that tells of a component, without indentation and line end. -/
def ComponentReport.line (r : ComponentReport) : String :=
  r.name ++ ": " ++ r.outcome.text

structure ChannelReport where
  name : String
  components : List ComponentReport
  deriving DecidableEq, Repr

structure Report where
  channels : List ChannelReport
  deriving DecidableEq, Repr

namespace Report

def components (r : Report) : List ComponentReport :=
  r.channels.flatMap (·.components)

/-- How many components did not get the favourable verdict. -/
def mismatches (r : Report) : Nat :=
  r.components.countP fun c => !c.outcome.isOk

def isSuccess (r : Report) : Bool :=
  r.mismatches == 0

/-- The closing line, from the count of components without the favourable verdict. -/
def summaryLine (mismatches : Nat) : String :=
  if mismatches = 0 then "All runtime signature fingerprints match lock file."
  else "Found " ++ toString mismatches ++ " mismatch(es)."

def summary (r : Report) : String :=
  summaryLine r.mismatches

def headerPiece (channel : String) : String :=
  "[" ++ channel ++ "]\n"

def componentPiece (r : ComponentReport) : String :=
  "  " ++ r.line ++ "\n"

def closingPiece (r : Report) : String :=
  "\n" ++ r.summary ++ "\n"

def channelText (c : ChannelReport) : String :=
  headerPiece c.name ++ String.join (c.components.map componentPiece)

def display (r : Report) : String :=
  String.join (r.channels.map channelText) ++ r.closingPiece

end Report

end IssuerAudit
