import IssuerAudit.File
/-!
Temporary files and what else happens outside.  All of it is kept in order as a list of
events, from which the temporary files that exist at any moment can be read off.
-/

namespace IssuerAudit

/-- What happens outside. -/
inductive Event where
  | requested (address : String)
  /-- No temporary file can be created. -/
  | refused
  /-- A temporary file is created, which is empty. -/
  | created
  /-- The latest temporary file takes some bytes. -/
  | filled (bytes : List UInt8)
  /-- The packets of the latest temporary file are listed. -/
  | inspected
  | removed
  deriving DecidableEq, Repr

/-- What has happened outside, and the state in which that left it. -/
structure Session (σ : Type) where
  outside : σ
  events : List Event

namespace Session

variable {σ : Type}

def start (outside : σ) : Session σ := ⟨outside, []⟩

def add (s : Session σ) (e : Event) : Session σ :=
  { s with events := s.events ++ [e] }

end Session

def Event.asked? : Event → Option String
  | .requested address => some address
  | _ => none

def Session.requests {σ : Type} (s : Session σ) : List String :=
  s.events.filterMap Event.asked?

namespace TempFiles

/-- What an event does to the temporary files, of which the latest comes first. -/
def after (files : List (List UInt8)) : Event → List (List UInt8)
  | .created => [] :: files
  | .filled bytes =>
      match files with
      | [] => []
      | latest :: rest => (latest ++ bytes) :: rest
  | .removed => files.tail
  | .requested _ | .refused | .inspected => files

/-- The temporary files that exist after some events, where there were some before. -/
def since (files : List (List UInt8)) (events : List Event) : List (List UInt8) :=
  events.foldl after files

def ofEvents (events : List Event) : List (List UInt8) :=
  since [] events

end TempFiles

/-- Where temporary files are kept.  Each of these may fail, depending on all that has
happened before; to remove a file does not. -/
structure Disk where
  /-- Why no file can be created. -/
  create : List Event → Option FileError
  /-- How many bytes of a piece a file takes before it fails, and why it fails. -/
  write : List Event → List UInt8 → Option (Nat × FileError)
  /-- Why a file cannot be completed. -/
  flush : List Event → Option FileError

/-- Holds of a disk on which nothing ever fails. -/
structure Disk.Writable (disk : Disk) : Prop where
  create : ∀ events, disk.create events = none
  write : ∀ events piece, disk.write events piece = none
  flush : ∀ events, disk.flush events = none

def Disk.endless : Disk :=
  ⟨fun _ => none, fun _ _ => none, fun _ => none⟩

theorem Disk.endless_writable : Disk.endless.Writable :=
  ⟨fun _ => rfl, fun _ _ => rfl, fun _ => rfl⟩

structure Stored where
  content : List UInt8
  /-- How many bytes were counted. -/
  size : Nat
  deriving DecidableEq, Repr

namespace Stored

def empty : Stored := ⟨[], 0⟩

def take (f : Stored) (piece : List UInt8) : Stored :=
  ⟨f.content ++ piece, f.size + piece.length⟩

end Stored

end IssuerAudit
