import IssuerAudit.Lock.Document
import IssuerAudit.Report
/-!
A run over a lock document: every component is checked in order, and what is found out
is written while the run goes on.

Where fingerprints come from and where the text goes are values of their own, so that a
run is a function: a source answers a request and may remember it, and a sink may take
only so many bytes.
-/

namespace IssuerAudit

/-- A source of fingerprints with states in `σ`.  To a request for the signature at an
address it answers with the fingerprint of the issuer, empty if there is none, or with
the texts of an error and its causes, outermost first. -/
structure Source (σ : Type) where
  ask : σ → String → Except (List String) String × σ

structure Sink where
  /-- How many bytes it still takes; nothing if it takes any number. -/
  room : Option Nat
  written : List UInt8
  deriving DecidableEq, Repr

namespace Sink

def endless : Sink := ⟨none, []⟩

def ofSize (n : Nat) : Sink := ⟨some n, []⟩

/-- Writes a text.  If it does not fit the sink takes the bytes that fit and is broken;
the result says whether all went well. -/
def write (s : Sink) (text : String) : Bool × Sink :=
  let bytes := Text.Utf8.bytesOf text
  match s.room with
  | none => (true, ⟨none, s.written ++ bytes⟩)
  | some n =>
      if bytes.length ≤ n then (true, ⟨some (n - bytes.length), s.written ++ bytes⟩)
      else (false, ⟨some 0, s.written ++ bytes.take n⟩)

end Sink

structure Progress (σ : Type) where
  source : σ
  sink : Sink
  asked : List String

/-- The texts of an error and its causes in one line. -/
def chainText (texts : List String) : String :=
  String.intercalate ": " texts

namespace Run

variable {σ : Type}

/-- The verdict that an answer leads to.  The fingerprint found is compared in capitals.
-/
def outcomeOf (record : Lock.Record) (answer : Except (List String) String) : Outcome :=
  match answer with
  | .ok actual => .compare record.fingerprint (Text.upper actual)
  | .error texts => .failed (chainText texts)

/-- Checks a component.  The source is asked only if an address is declared. -/
def check (source : Source σ) (p : Progress σ) (record : Lock.Record) :
    Outcome × Progress σ :=
  if Text.isBlankText record.signatureUrl then (.missing, p)
  else
    let (answer, s) := source.ask p.source record.signatureUrl
    (outcomeOf record answer,
      { p with source := s, asked := p.asked ++ [record.signatureUrl] })

/-- Writes a piece of text; the result says whether all went well. -/
def put (p : Progress σ) (text : String) : Bool × Progress σ :=
  let (fine, sink) := p.sink.write text
  (fine, { p with sink })

/-- What is written before the components of a channel. -/
def headerText (channel : String) : String :=
  "[" ++ channel ++ "]\n"

def lineText (r : ComponentReport) : String :=
  "  " ++ r.line ++ "\n"

/-- Checks the components of a channel and writes a line for each, up to the first line
that cannot be written. -/
def components (source : Source σ) :
    List (String × Lock.Record) → Progress σ → Option (List ComponentReport) × Progress σ
  | [], p => (some [], p)
  | (name, record) :: rest, p =>
      let (outcome, p) := check source p record
      let report : ComponentReport := ⟨name, outcome⟩
      match put p (lineText report) with
      | (false, p) => (none, p)
      | (true, p) =>
          match components source rest p with
          | (none, p) => (none, p)
          | (some reports, p) => (some (report :: reports), p)

/-- Goes through the channels, up to the first piece of text that cannot be written. -/
def channels (source : Source σ) :
    List Lock.Channel → Progress σ → Option (List ChannelReport) × Progress σ
  | [], p => (some [], p)
  | channel :: rest, p =>
      match put p (headerText channel.name) with
      | (false, p) => (none, p)
      | (true, p) =>
          match components source channel.components p with
          | (none, p) => (none, p)
          | (some reports, p) =>
              match channels source rest p with
              | (none, p) => (none, p)
              | (some more, p) => (some (⟨channel.name, reports⟩ :: more), p)

/-- Goes through a document, and closes with a blank line and one that counts.  There is
a report exactly if all of its text could be written. -/
def document (source : Source σ) (d : Lock.Document) (p : Progress σ) :
    Option Report × Progress σ :=
  match channels source d.channels p with
  | (none, p) => (none, p)
  | (some reports, p) =>
      let report : Report := ⟨reports⟩
      match put p "\n" with
      | (false, p) => (none, p)
      | (true, p) =>
          match put p (Report.summaryLine report.mismatches ++ "\n") with
          | (false, p) => (none, p)
          | (true, p) => (some report, p)

def start (source : Source σ) (state : σ) (sink : Sink) (d : Lock.Document) :
    Option Report × Progress σ :=
  document source d ⟨state, sink, []⟩

end Run

end IssuerAudit
