import IssuerAudit.Text.Utf8
/-!
What a path leads to, and what comes of reading it.
-/

namespace IssuerAudit

inductive FileError where
  | notFound
  | denied
  | notDirectory
  | isDirectory
  /-- The content is not UTF-8, and text was wanted. -/
  | notText
  /-- Anything else, in the words of the system; `causes` are the words of what it has
  for its cause, outermost first. -/
  | other (words : String) (causes : List String)
  deriving DecidableEq, Repr

namespace FileError

def text : FileError → String
  | .notFound => "No such file or directory (os error 2)"
  | .denied => "Permission denied (os error 13)"
  | .notDirectory => "Not a directory (os error 20)"
  | .isDirectory => "Is a directory (os error 21)"
  | .notText => "stream did not contain valid UTF-8"
  | .other words _ => words

/-- An error and what caused it, outermost first. -/
def chain (e : FileError) : List String :=
  match e with
  | .other words causes => words :: causes
  | _ => [e.text]

end FileError

/-- What stands at a path. -/
inductive File where
  | absent
  | directory
  /-- Something on the way to the path is not a directory. -/
  | blocked
  /-- There, but not for us. -/
  | forbidden
  /-- Not to be read for another reason; `found` tells whether it is there at all. -/
  | faulty (found : Bool) (cause : FileError)
  | regular (content : List UInt8)
  deriving DecidableEq, Repr

namespace File

/-- Holds if there is something at the path, readable or not. -/
def isThere : File → Bool
  | .absent | .blocked => false
  | .faulty found _ => found
  | _ => true

def bytes : File → Except FileError (List UInt8)
  | .absent => .error .notFound
  | .directory => .error .isDirectory
  | .blocked => .error .notDirectory
  | .forbidden => .error .denied
  | .faulty _ cause => .error cause
  | .regular content => .ok content

/-- The text of a file, which has to be UTF-8 throughout. -/
def text (f : File) : Except FileError String :=
  match f.bytes with
  | .error e => .error e
  | .ok content =>
      match Text.Utf8.decode? content with
      | some cs => .ok (String.ofList cs)
      | none => .error .notText

theorem isThere_of_text {f : File} {content : String} (h : f.text = .ok content) :
    f.isThere = true := by
  cases f with
  | regular => rfl
  | _ => cases h

end File

abbrev Files : Type := String → File

end IssuerAudit
