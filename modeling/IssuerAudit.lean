import IssuerAudit.Fingerprint
import IssuerAudit.Number.Shortest
import IssuerAudit.Report
import IssuerAudit.Text.Hex
import IssuerAudit.Text.Quoted
import IssuerAudit.Text.Utf8
import IssuerAudit.Json.Value
import IssuerAudit.Json.Fault
import IssuerAudit.Json.Read
import IssuerAudit.File
import IssuerAudit.Lock.Document
import IssuerAudit.Lock.Error
import IssuerAudit.Lock.Load
import IssuerAudit.Run
import IssuerAudit.OpenPgp.Bytes
import IssuerAudit.OpenPgp.Header
import IssuerAudit.OpenPgp.Signature
import IssuerAudit.OpenPgp.Armor
import IssuerAudit.OpenPgp.Listing
import IssuerAudit.OpenPgp.Stream
import IssuerAudit.Inspection
import IssuerAudit.Toml.Read
import IssuerAudit.Places
import IssuerAudit.Settings
import IssuerAudit.Idna.Classes
import IssuerAudit.Idna.Mapping
import IssuerAudit.Idna.Name
import IssuerAudit.Url.Address
import IssuerAudit.Url.Host
import IssuerAudit.Url.Basic
import IssuerAudit.Url.Parse
import IssuerAudit.Download
import IssuerAudit.Extraction
import IssuerAudit.Command.Arguments
import IssuerAudit.Command.Check
import IssuerAudit.FileTree
import IssuerAudit.Main
import IssuerAudit.Download.Disk
import IssuerAudit.Download.Transfer
import IssuerAudit.Download.Server
import IssuerAudit.Fingerprint.Bytes
import IssuerAudit.Json.Grammar
import IssuerAudit.Json.Write
import IssuerAudit.Lock.Grammar
import IssuerAudit.Lock.Canonical
import IssuerAudit.Lock.Write
import IssuerAudit.OpenPgp.Armor.Write
import IssuerAudit.OpenPgp.Framing
import IssuerAudit.OpenPgp.Issuer
import IssuerAudit.OpenPgp.Listing.Outline
import IssuerAudit.OpenPgp.Signature.Write
import IssuerAudit.Report.Outline
import IssuerAudit.Settings.Told
import IssuerAudit.Proofs.Run.Findings
import IssuerAudit.Proofs.Run.Streaming
import IssuerAudit.Proofs.Json.Numerals
import IssuerAudit.Proofs.Json.Strings
import IssuerAudit.Proofs.Json.Reading
import IssuerAudit.Proofs.Json.Distinct
import IssuerAudit.Proofs.Json.Passing
import IssuerAudit.Proofs.Json.Writing
import IssuerAudit.Proofs.Lock.Entries
import IssuerAudit.Proofs.Lock.Reading
import IssuerAudit.Proofs.Lock.Declared
import IssuerAudit.Proofs.Lock.Offences
import IssuerAudit.Proofs.Lock.TopList
import IssuerAudit.Proofs.Text.Normal
import IssuerAudit.Proofs.Lock.Canonical
import IssuerAudit.Proofs.Lock.RoundTrip
import IssuerAudit.Proofs.Run.Coverage
import IssuerAudit.Proofs.Run.Told
import IssuerAudit.Proofs.Extraction.Verdict
import IssuerAudit.Proofs.Fingerprint.Search
import IssuerAudit.Proofs.OpenPgp.Lines
import IssuerAudit.Proofs.OpenPgp.Reported
import IssuerAudit.Proofs.Command.ExitCode
import IssuerAudit.Proofs.Text.Alike
import IssuerAudit.Proofs.Lock.Meaning
import IssuerAudit.Proofs.Text.Decoding
import IssuerAudit.Proofs.OpenPgp.SignatureBody
import IssuerAudit.Proofs.OpenPgp.PacketStream
import IssuerAudit.Proofs.OpenPgp.ArmorBlock
import IssuerAudit.Proofs.OpenPgp.Framings
import IssuerAudit.Proofs.Download.Receiving
import IssuerAudit.Proofs.Download.Following
import IssuerAudit.Proofs.Download.Walking
import IssuerAudit.Proofs.Download.Files
import IssuerAudit.Proofs.Extraction.Housekeeping
import IssuerAudit.Proofs.Download.Redirects
import IssuerAudit.Proofs.Text.Lines
import IssuerAudit.Proofs.Fingerprint.Reporting
import IssuerAudit.Proofs.Text.Lenient
import IssuerAudit.Proofs.Fingerprint.Streams
import IssuerAudit.Proofs.Settings.Reading
import IssuerAudit.Proofs.Command.Layers
import IssuerAudit.Proofs.Report.ReadBack
import IssuerAudit.Proofs.OpenPgp.FirstSubpackets
import IssuerAudit.Proofs.OpenPgp.Rows
import IssuerAudit.Proofs.OpenPgp.ReadBack
