import IssuerAudit.Download.Disk
import IssuerAudit.Download.Transfer
import IssuerAudit.Url.Parse
/-!
Downloads.  A file is asked for once, and the pieces that come of it go into a temporary
file.  If anything fails on the way that file is removed, and what is reported is the
first of: a piece that the file did not take, an error of the transfer, the status of
the answer, a file that cannot be completed.
-/

namespace IssuerAudit

inductive DownloadError where
  | address (cause : UrlError)
  /-- The temporary file could not be created, filled or completed. -/
  | tempFile (cause : FileError)
  | transport (cause : TransportError)
  /-- The last answer brings no file; `url` is what was asked for first. -/
  | status (url : Url) (code : Nat)
  deriving DecidableEq, Repr

namespace DownloadError

def text : DownloadError → String
  | .address cause => cause.text
  | .tempFile cause => "write signature temp file: " ++ cause.text
  | .transport cause => cause.text
  | .status url code => "GET " ++ url.text ++ " returned HTTP " ++ toString code

/-- An error and what caused it, outermost first.  A failure of the transport is its own
cause. -/
def chain (e : DownloadError) : List String :=
  match e with
  | .address cause => cause.chain
  | .tempFile cause => e.text :: cause.chain
  | .transport cause => [e.text, cause.text]
  | .status _ _ => [e.text]

end DownloadError

namespace Download

variable {σ : Type}

/-- What comes of a transfer whose pieces go into a file. -/
structure Received (σ : Type) where
  stored : Stored
  /-- Why a piece was not taken. -/
  refusal : Option FileError
  answer : Except TransportError Response
  session : Session σ

/-- Follows a transfer and puts its pieces into the latest temporary file, up to the
first that is not taken. -/
def receive (disk : Disk) (f : Stored) (events : List Event) : Transfer σ → Received σ
  | .ends finish => ⟨f, none, finish.answer, finish.outside, events⟩
  | .asks address rest => receive disk f (events ++ [.requested address]) rest
  | .hands piece refused rest =>
      match disk.write events piece with
      | none => receive disk (f.take piece) (events ++ [.filled piece]) rest
      | some (taken, e) =>
          ⟨f, some e, refused.answer, refused.outside,
            events ++ [.filled (piece.take taken)]⟩

/-- What a transfer comes to, with what is to blame if it brings no file. -/
def Received.result (r : Received σ) (url : Url) : Except DownloadError Stored :=
  match r.refusal with
  | some e => .error (.tempFile e)
  | none =>
      match r.answer with
      | .error e => .error (.transport e)
      | .ok response =>
          if response.isSuccess then .ok r.stored
          else .error (.status url response.status)

/-- Downloads from an address into the latest temporary file. -/
def fill (client : Client σ) (disk : Disk) (options : Options) (s : Session σ)
    (url : Url) : Except DownloadError Stored × Session σ :=
  let transfer := client.perform options s.outside url.text
  let received := receive disk .empty s.events transfer
  (received.result url, received.session)

/-- Downloads from an address into a temporary file of its own, which is left just if
all goes well. -/
def fetchUrl (client : Client σ) (disk : Disk) (options : Options) (s : Session σ)
    (url : Url) : Except DownloadError Stored × Session σ :=
  match disk.create s.events with
  | some e => (.error (.tempFile e), s.add .refused)
  | none =>
      match fill client disk options (s.add .created) url with
      | (.error e, s) => (.error e, s.add .removed)
      | (.ok stored, s) =>
          match disk.flush s.events with
          | some e => (.error (.tempFile e), s.add .removed)
          | none => (.ok stored, s)

/-- Downloads from what is said to be an address.  If it is none nothing happens
outside. -/
def fetch (client : Client σ) (disk : Disk) (options : Options) (s : Session σ)
    (given : String) : Except DownloadError Stored × Session σ :=
  match Url.parse given with
  | .error e => (.error (.address e), s)
  | .ok url => fetchUrl client disk options s url

end Download

end IssuerAudit
