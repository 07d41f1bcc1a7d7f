import IssuerAudit.Download
import IssuerAudit.Fingerprint
import IssuerAudit.Inspection
import IssuerAudit.Run
/-!
The source of fingerprints that a run asks in earnest: the signature is downloaded, its
packets are listed, and the issuer is looked for in the listing.  The temporary file
lives just as long as one request.
-/

namespace IssuerAudit

/-- A way to list the packets of a file, from what the file holds. -/
structure Inspector (σ : Type) where
  backend : Backend
  list : σ → List UInt8 → Except InspectionError String × σ

namespace Inspector

variable {σ : Type}

/-- The reader built in, with what it says of data that it cannot read. -/
def native (words : OpenPgp.Bytes → String) : Inspector σ :=
  ⟨.native, fun s data => (Inspection.ofBytes words data, s)⟩

/-- A program, of which `run` tells what comes of running it on a file. -/
def ofProgram (program : String)
    (run : σ → List UInt8 → Except FileError Execution × σ) : Inspector σ :=
  ⟨.gpg, fun s data =>
    let (result, s) := run s data
    (Inspection.ofRun program result, s)⟩

end Inspector

namespace Extraction

variable {σ : Type}

/-- What stands in front of the words for a failed inspection. -/
def context (backend : Backend) : String :=
  backend.name ++ " --list-packets"

/-- The answer to a request, from what inspection brought.  A listing without a
fingerprint is no error. -/
def answerOf (backend : Backend) (result : Except InspectionError String) :
    Except (List String) String :=
  match result with
  | .ok listing => .ok ((Fingerprint.extract? listing).getD "")
  | .error e => .error (context backend :: e.chain)

/-- Lists the packets of the temporary file that is left from a download, and removes
it. -/
def inspect (inspector : Inspector σ) (s : Session σ) (data : List UInt8) :
    Except InspectionError String × Session σ :=
  let s := s.add .inspected
  let (result, outside) := inspector.list s.outside data
  (result, ({ s with outside }).add .removed)

def fingerprint (client : Client σ) (disk : Disk) (inspector : Inspector σ)
    (options : Download.Options) (s : Session σ) (given : String) :
    Except (List String) String × Session σ :=
  match Download.fetch client disk options s given with
  | (.error e, s) => (.error e.chain, s)
  | (.ok stored, s) =>
      let (result, s) := inspect inspector s stored.content
      (answerOf inspector.backend result, s)

def source (client : Client σ) (disk : Disk) (inspector : Inspector σ)
    (options : Download.Options) : Source (Session σ) :=
  ⟨fingerprint client disk inspector options⟩

end Extraction

end IssuerAudit
