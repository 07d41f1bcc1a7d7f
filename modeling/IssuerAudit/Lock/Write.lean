import IssuerAudit.Json.Write
import IssuerAudit.Lock.Document
/-!
Writing lock documents.  The text is one object with the one field `channels`, in which
channels and components stand in the order of the document, and every component has its
two fields.
-/

namespace IssuerAudit.Lock

def Record.write (r : Record) : List Char :=
  Json.writeObject
    [("signature_url", Json.writeString r.signatureUrl.toList),
      ("public_key_fingerprint", Json.writeString r.fingerprint.toList)]

def Channel.write (c : Channel) : List Char :=
  Json.writeObject (c.components.map fun (name, record) => (name, record.write))

def Document.write (d : Document) : String :=
  String.ofList
    (Json.writeObject
      [("channels", Json.writeObject (d.channels.map fun c => (c.name, c.write)))])

end IssuerAudit.Lock
