import IssuerAudit.Extraction
import IssuerAudit.Proofs.Download.Files
import IssuerAudit.Proofs.Run.Told
/-!
From a lock text to a verdict.  A component gets the favourable verdict just if
its signature can be downloaded and inspected and names the declared issuer;
everything that can go wrong on the way has a verdict of its own, and none of them
is favourable: `run_settles_declared`.
-/

namespace IssuerAudit

namespace Extraction

variable {σ : Type}

open Download (transferOf isSuccess_iff)

/-- What comes of inspecting the file that an answer brings. -/
def inspected (client : Client σ) (inspector : Inspector σ)
    (options : Download.Options) (s : Session σ) (url : Url) (response : Response) :
    Except InspectionError String :=
  (inspector.list (transferOf client options s url).finish.outside response.body).1

/-- Holds of the listing of the file at an address, if it can be downloaded and
inspected. -/
def Lists (client : Client σ) (inspector : Inspector σ) (options : Download.Options)
    (s : Session σ) (given listing : String) : Prop :=
  ∃ url response, Url.parse given = .ok url ∧
    (transferOf client options s url).finish.answer = .ok response ∧
    200 ≤ response.status ∧ response.status < 300 ∧
    inspected client inspector options s url response = .ok listing

/-- Holds of the texts of the error for which there is no such listing. -/
inductive Fails (client : Client σ) (inspector : Inspector σ)
    (options : Download.Options) (s : Session σ) (given : String) :
    List String → Prop
  | address {e : UrlError} (parsed : Url.parse given = .error e) :
      Fails client inspector options s given e.chain
  | transport {url : Url} {e : TransportError}
      (parsed : Url.parse given = .ok url)
      (failed : (transferOf client options s url).finish.answer = .error e) :
      Fails client inspector options s given
        (DownloadError.transport e).chain
  | status {url : Url} {response : Response}
      (parsed : Url.parse given = .ok url)
      (got : (transferOf client options s url).finish.answer = .ok response)
      (refused : ¬ (200 ≤ response.status ∧ response.status < 300)) :
      Fails client inspector options s given
        (DownloadError.status url response.status).chain
  | inspection {url : Url} {response : Response} {e : InspectionError}
      (parsed : Url.parse given = .ok url)
      (got : (transferOf client options s url).finish.answer = .ok response)
      (brought : 200 ≤ response.status ∧ response.status < 300)
      (failed : inspected client inspector options s url response = .error e) :
      Fails client inspector options s given
        (context inspector.backend :: e.chain)

section Requests

variable {client : Client σ} {disk : Disk} {inspector : Inspector σ}
  {options : Download.Options} {s : Session σ} {given : String}

theorem fingerprint_of_bad_address {e : UrlError}
    (parsed : Url.parse given = .error e) :
    (fingerprint client disk inspector options s given).1 = .error e.chain := by
  simp [fingerprint, Download.fetch, parsed, DownloadError.chain]

/-- On a disk that takes everything the answer to a request for what is an address goes
through three stages. -/
theorem fingerprint_of_address (writable : disk.Writable) {url : Url}
    (parsed : Url.parse given = .ok url) :
    (fingerprint client disk inspector options s given).1 =
      match (transferOf client options s url).finish.answer with
      | .error e => .error (DownloadError.transport e).chain
      | .ok response =>
          if 200 ≤ response.status ∧ response.status < 300 then
            answerOf inspector.backend
              (inspected client inspector options s url response)
          else .error (DownloadError.status url response.status).chain := by
  have fills : Download.Fills client disk options s given url :=
    ⟨parsed, writable.create s.events, Transfer.taken_of_writable writable _ _⟩
  have filled := Download.fill_of_fills fills
  rw [fingerprint, Download.fetch_of_parsed parsed, Download.fetchUrl]
  simp only [writable.create, writable.flush, filled]
  cases got : (transferOf client options s url).finish.answer with
  | error e => rfl
  | ok response =>
      by_cases brought : 200 ≤ response.status ∧ response.status < 300
      · simp only [if_pos brought]
        rfl
      · simp only [if_neg brought]

/-- The answer to a request for a file that can be listed. -/
theorem fingerprint_of_lists (writable : disk.Writable) {listing : String}
    (h : Lists client inspector options s given listing) :
    (fingerprint client disk inspector options s given).1 =
      .ok ((Fingerprint.extract? listing).getD "") := by
  obtain ⟨url, response, parsed, got, low, high, listed⟩ := h
  rw [fingerprint_of_address writable parsed, got]
  simp only [if_pos (And.intro low high), listed]
  rfl

/-- The answer to a request for any other. -/
theorem fingerprint_of_fails (writable : disk.Writable) {texts : List String}
    (h : Fails client inspector options s given texts) :
    (fingerprint client disk inspector options s given).1 = .error texts := by
  cases h with
  | address parsed => exact fingerprint_of_bad_address parsed
  | transport parsed failed => rw [fingerprint_of_address writable parsed, failed]
  | status parsed got refused =>
      rw [fingerprint_of_address writable parsed, got]
      exact if_neg refused
  | inspection parsed got brought failed =>
      rw [fingerprint_of_address writable parsed, got]
      simp only [if_pos brought, failed]
      rfl

/-- A file has one listing. -/
theorem exists_lists_iff {listing : String}
    (h : Lists client inspector options s given listing) {P : String → Prop} :
    (∃ other, Lists client inspector options s given other ∧ P other) ↔
      P listing := by
  constructor
  · rintro ⟨other, hother, hP⟩
    obtain ⟨url, response, parsed, got, -, -, listed⟩ := h
    obtain ⟨url', response', parsed', got', -, -, listed'⟩ := hother
    obtain rfl := Except.ok.inj (parsed.symm.trans parsed')
    obtain rfl := Except.ok.inj (got.symm.trans got')
    obtain rfl := Except.ok.inj (listed.symm.trans listed')
    exact hP
  · intro hP
    exact ⟨listing, h, hP⟩

/-- There is no third way for a request to end. -/
theorem lists_or_fails (client : Client σ) (inspector : Inspector σ)
    (options : Download.Options) (s : Session σ) (given : String) :
    (∃ listing, Lists client inspector options s given listing) ∨
      ∃ texts, Fails client inspector options s given texts := by
  cases parsed : Url.parse given with
  | error e => exact Or.inr ⟨_, .address parsed⟩
  | ok url =>
      cases got : (transferOf client options s url).finish.answer with
      | error e => exact Or.inr ⟨_, .transport parsed got⟩
      | ok response =>
          by_cases brought : 200 ≤ response.status ∧ response.status < 300
          · cases listed : inspected client inspector options s url response with
            | error e => exact Or.inr ⟨_, .inspection parsed got brought listed⟩
            | ok listing =>
                exact Or.inl ⟨listing, url, response, parsed, got, brought.1,
                  brought.2, listed⟩
          · exact Or.inr ⟨_, .status parsed got brought⟩

end Requests

/-- Comparing with what a listing reports.  A listing without a fingerprint
never compares well, not even with an empty declaration. -/
theorem outcomeOf_extract? (record : Lock.Record) (listing : String) :
    Run.outcomeOf record (.ok ((Fingerprint.extract? listing).getD "")) =
      if Fingerprint.extract? listing = some record.fingerprint then
        .ok record.fingerprint record.fingerprint
      else
        .mismatch record.fingerprint
          ((Fingerprint.extract? listing).getD "") := by
  simp only [Run.outcomeOf, Outcome.compare]
  cases hf : Fingerprint.extract? listing with
  | none =>
      have nothing : Text.upper ((none : Option String).getD "") = "" := rfl
      rw [nothing, if_neg (fun both => both.1 both.2), if_neg nofun]
      rfl
  | some f =>
      have long : f ≠ "" := by
        rintro rfl
        exact absurd (Fingerprint.extract?_digits hf).1 (by decide)
      simp only [Option.getD_some, Fingerprint.upper_of_extract? hf,
        Option.some.injEq]
      by_cases same : f = record.fingerprint
      · subst same
        rw [if_pos ⟨long, rfl⟩, if_pos rfl]
      · rw [if_neg fun both => same both.2.symm, if_neg same]

/-- Says of the verdict on a component with a declared address and fingerprint
when it is which.  The component is asked for in the state `s`. -/
structure Settled (client : Client σ) (inspector : Inspector σ)
    (options : Download.Options) (s : Session σ) (url fingerprint : String)
    (outcome : Outcome) : Prop where
  /-- It is favourable just if the file at the address can be listed and its
  listing reports the declared fingerprint. -/
  isOk_iff : outcome.isOk = true ↔
    Text.isBlankText url = false ∧
      ∃ listing, Lists client inspector options s (Text.trim url) listing ∧
        Fingerprint.extract? listing = some (Fingerprint.normalize fingerprint)
  /-- It tells of a missing address just if none is declared. -/
  missing_iff : outcome = .missing ↔ Text.isBlankText url = true
  /-- It tells of an error just if the file cannot be listed. -/
  failed_iff : ∀ message, outcome = .failed message ↔
    Text.isBlankText url = false ∧
      ∃ texts, Fails client inspector options s (Text.trim url) texts ∧
        message = chainText texts
  /-- It tells of a mismatch just if the listing reports another fingerprint or
  none. -/
  mismatch_iff : ∀ expected actual, outcome = .mismatch expected actual ↔
    Text.isBlankText url = false ∧
      expected = Fingerprint.normalize fingerprint ∧
      ∃ listing, Lists client inspector options s (Text.trim url) listing ∧
        Fingerprint.extract? listing ≠ some expected ∧
        actual = (Fingerprint.extract? listing).getD ""
  /-- What is declared of a component with the favourable verdict has forty
  digits. -/
  digits_of_isOk : outcome.isOk = true →
    (Fingerprint.normalize fingerprint).length = Fingerprint.digits ∧
      (Fingerprint.normalize fingerprint).toList.all
        Fingerprint.isCapitalHex = true

section Verdicts

variable {client : Client σ} {disk : Disk} {inspector : Inspector σ}
  {options : Download.Options} {s : Session σ} {url fingerprint : String}

theorem settled_missing (blank : Text.isBlankText url = true) :
    Settled client inspector options s url fingerprint .missing where
  isOk_iff := by simp [Outcome.isOk, blank]
  missing_iff := by simp [blank]
  failed_iff := by simp [blank]
  mismatch_iff := by simp [blank]
  digits_of_isOk := nofun

theorem settled_failed (declared : Text.isBlankText url = false)
    {texts : List String}
    (h : Fails client inspector options s (Text.trim url) texts) :
    Settled client inspector options s url fingerprint
      (.failed (chainText texts)) := by
  have answer := fingerprint_of_fails Disk.endless_writable h
  -- the same request cannot be answered with a listing as well
  have unlisted : ∀ listing,
      ¬ Lists client inspector options s (Text.trim url) listing := by
    intro listing listed
    exact nomatch (fingerprint_of_lists Disk.endless_writable listed).symm.trans answer
  refine ⟨?_, ?_, ?_, ?_, nofun⟩
  · simp [Outcome.isOk, unlisted]
  · simp [declared]
  · intro message
    constructor
    · intro same
      exact ⟨declared, texts, h, (Outcome.failed.inj same).symm⟩
    · rintro ⟨-, others, hothers, rfl⟩
      have same :=
        (fingerprint_of_fails Disk.endless_writable hothers).symm.trans answer
      rw [Except.error.inj same]
  · simp [unlisted]

/-- The file can be listed, and the listing decides. -/
theorem settled_listed (declared : Text.isBlankText url = false)
    {listing : String}
    (h : Lists client inspector options s (Text.trim url) listing) :
    Settled client inspector options s url fingerprint
      (Run.outcomeOf (.ofDeclared url fingerprint)
        (.ok ((Fingerprint.extract? listing).getD ""))) := by
  have fine : ∀ texts,
      ¬ Fails client inspector options s (Text.trim url) texts := by
    intro texts failed
    have answer := fingerprint_of_lists Disk.endless_writable h
    exact nomatch (fingerprint_of_fails Disk.endless_writable failed).symm.trans answer
  have expected : (Lock.Record.ofDeclared url fingerprint).fingerprint =
      Fingerprint.normalize fingerprint := rfl
  rw [outcomeOf_extract?, expected]
  by_cases same : Fingerprint.extract? listing =
      some (Fingerprint.normalize fingerprint)
  · rw [if_pos same]
    refine ⟨?_, ?_, ?_, ?_, fun _ => Fingerprint.extract?_digits same⟩
    · simp [Outcome.isOk, declared, exists_lists_iff h, same]
    · simp [declared]
    · simp [fine]
    · intro other actual
      constructor
      · intro impossible
        cases impossible
      · rintro ⟨-, rfl, hother⟩
        exact absurd same ((exists_lists_iff h).mp hother).1
  · rw [if_neg same]
    refine ⟨?_, ?_, ?_, ?_, nofun⟩
    · simp [Outcome.isOk, exists_lists_iff h, same]
    · simp [declared]
    · simp [fine]
    · intro other actual
      rw [exists_lists_iff h]
      constructor
      · intro equal
        obtain ⟨rfl, rfl⟩ := Outcome.mismatch.inj equal
        exact ⟨declared, rfl, same, rfl⟩
      · rintro ⟨-, rfl, -, rfl⟩
        rfl

/-- Whatever the client and the inspector do, the verdict on a component is settled by
the first thing that goes wrong, or by its listing. -/
theorem settled_verdict (writable : disk.Writable) (client : Client σ)
    (inspector : Inspector σ) (options : Download.Options) (s : Session σ)
    (url fingerprint : String) :
    Settled client inspector options s url fingerprint
      (Run.verdict (source client disk inspector options) s
        (.ofDeclared url fingerprint)) := by
  have trimmed : (Lock.Record.ofDeclared url fingerprint).signatureUrl =
      Text.trim url := rfl
  unfold Run.verdict
  rw [trimmed, Text.isBlankText_trim]
  by_cases blank : Text.isBlankText url = true
  · rw [if_pos blank]
    exact settled_missing blank
  · have declared : Text.isBlankText url = false := by simpa using blank
    rw [if_neg blank]
    change Settled _ _ _ _ _ _ (Run.outcomeOf _
      (Extraction.fingerprint client disk inspector options s (Text.trim url)).1)
    rcases lists_or_fails client inspector options s (Text.trim url) with
      ⟨listing, h⟩ | ⟨texts, h⟩
    · rw [fingerprint_of_lists writable h]
      exact settled_listed declared h
    · rw [fingerprint_of_fails writable h]
      exact settled_failed declared h

end Verdicts

/-- Loading a lock text and running over the document tells of just the
components that the text declares, each with one verdict.  The verdict is
favourable just if the declared address is more than blank, the file there can be
downloaded and inspected, and its listing reports the declared fingerprint in
normal form; every other case has its own verdict.  `s` is the state that the
requests for the components before this one left outside. -/
theorem run_settles_declared (client : Client σ) {disk : Disk}
    (writable : disk.Writable) (inspector : Inspector σ) (options : Download.Options)
    (outside : σ) {text : String} {d : Lock.Document} (h : Lock.ofText text = .ok d) :
    let source := source client disk inspector options
    ∃ report p,
      Run.start source (Session.start outside) Sink.endless d =
        (some report, p) ∧
      (∀ channel component,
        (∃ outcome, report.Tells channel component outcome) ↔
          ∃ fields, Lock.fieldsOf? text channel component = some fields) ∧
      ∀ channel component fields,
        Lock.fieldsOf? text channel component = some fields →
          ∃ outcome,
            (∀ other, report.Tells channel component other ↔
              other = outcome) ∧
            let s := source.after (Session.start outside)
              (Run.addresses (d.before channel component))
            Settled client inspector options s
              (Lock.declaredText "signature_url" fields)
              (Lock.declaredText "public_key_fingerprint" fields)
              outcome := by
  intro source
  have apart := Lock.names_nodup_of_ofText h
  have told : ∀ channel component fields,
      Lock.fieldsOf? text channel component = some fields → ∀ outcome,
        (Run.found source (Session.start outside) d).Tells channel component
          outcome ↔
        outcome = Run.verdict source
          (source.after (Session.start outside)
            (Run.addresses (d.before channel component)))
          (.ofDeclared (Lock.declaredText "signature_url" fields)
            (Lock.declaredText "public_key_fingerprint" fields)) := by
    intro channel component fields hfields
    obtain ⟨c, hc, rfl, mem⟩ :=
      (Lock.mem_channels_iff_fieldsOf? h).mpr ⟨fields, hfields, rfl⟩
    exact Run.tells_iff_verdict source (Session.start outside) apart hc mem
  refine ⟨_, _, Run.document_of_fits source d _ (Sink.fits_endless _), ?_, ?_⟩
  · intro channel component
    constructor
    · rintro ⟨outcome, tells⟩
      obtain ⟨c, hc, same, record, mem⟩ := Run.mem_of_tells source _ tells
      obtain ⟨fields, hfields, -⟩ :=
        (Lock.mem_channels_iff_fieldsOf? h).mp ⟨c, hc, same, mem⟩
      exact ⟨fields, hfields⟩
    · rintro ⟨fields, hfields⟩
      exact ⟨_, (told channel component fields hfields _).mpr rfl⟩
  · intro channel component fields hfields
    exact ⟨_, told channel component fields hfields,
      settled_verdict writable client inspector options _ _ _⟩

/-- A lock text with one component, which declares the issuer in small letters
and with blanks. -/
def sampleText : String :=
  "\x7b\"channels\": \x7b\"stable\": \x7b\"app\": \x7b" ++
    "\"signature_url\": \" https://[::1]/app.sig\\n\", " ++
    "\"public_key_fingerprint\": " ++
      "\"0123 4567 89ab cdef 0123  4567 89ab cdef 0123 4567\"" ++
    "\x7d\x7d\x7d\x7d"

/-- What this text declares, as it is kept. -/
def sampleRecord : Lock.Record :=
  ⟨"https://[::1]/app.sig", "0123456789ABCDEF0123456789ABCDEF01234567"⟩

/-- The document that this text describes. -/
def sampleDocument : Lock.Document :=
  ⟨[⟨"stable", [("app", sampleRecord)], by decide⟩]⟩

/-- A signature of that issuer. -/
def sampleSignature : List UInt8 :=
  [0xC2, 39, 4, 0, 22, 8, 0, 23, 22, 33, 4,
    0x01, 0x23, 0x45, 0x67, 0x89, 0xAB, 0xCD, 0xEF, 0x01, 0x23,
    0x45, 0x67, 0x89, 0xAB, 0xCD, 0xEF, 0x01, 0x23, 0x45, 0x67,
    0, 0, 0xAB, 0xCD, 0, 1, 1, 0, 1, 1]

/-- The listing of its packets. -/
def sampleListing : String :=
  ":signature packet: algo 22, keyid 89ABCDEF01234567\n" ++
    "\tversion 4, created 0, md5len 0, sigclass 0x00\n" ++
    "\tdigest algo 8, begin of digest ab cd\n" ++
    "\thashed subpkt 33 len 21 " ++
      "(issuer fpr v4 0123456789ABCDEF0123456789ABCDEF01234567)\n"

/-- How a client ends a transfer of which a piece is refused. -/
def sampleAbort : Finish Unit :=
  ⟨.error ⟨23, "Failed writing received data to disk/application"⟩, ()⟩

/-- A client that gets this signature from every address, in two pieces. -/
def sampleClient : Client Unit where
  perform _ _ address :=
    .asks address (.hands (sampleSignature.take 20) sampleAbort
      (.hands (sampleSignature.drop 20) sampleAbort
        (.ends ⟨.ok ⟨200, none, sampleSignature⟩, ()⟩)))
  complete := by
    rintro options s address response same
    cases same
    have whole : [sampleSignature.take 20, sampleSignature.drop 20].flatten =
        sampleSignature := by decide
    exact whole

/-- What may be taken for a download of the sample. -/
def sampleOptions : Download.Options :=
  ⟨.ofSeconds 120, .ofSeconds 30, 5⟩

/-- The reader of packets says nothing of the sample. -/
def sampleInspector : Inspector Unit :=
  .native fun _ => ""

theorem lists_sample (s : Session Unit) :
    Lists sampleClient sampleInspector sampleOptions s sampleRecord.signatureUrl
      sampleListing := by
  have parsed : Url.parse sampleRecord.signatureUrl =
      .ok ⟨.https, "", "[::1]", none, ["app.sig"], none, none⟩ := by
    decide +kernel
  have listed : Inspection.ofBytes (fun _ => "") sampleSignature =
      .ok sampleListing := by
    decide +kernel
  exact ⟨_, ⟨200, none, sampleSignature⟩, parsed, rfl, by decide, by decide,
    listed⟩

/-- The component of the sample is checked and found as declared. -/
theorem run_settles_sample :
    Disk.endless.Writable ∧ Lock.ofText sampleText = .ok sampleDocument ∧
      ∃ report p outcome,
        Run.start (source sampleClient .endless sampleInspector sampleOptions)
          (Session.start ()) Sink.endless sampleDocument = (some report, p) ∧
        report.Tells "stable" "app" outcome ∧ outcome.isOk = true := by
  have loads : Lock.ofText sampleText = .ok sampleDocument := by
    decide +kernel
  obtain ⟨report, p, hrun, -, each⟩ :=
    run_settles_declared sampleClient Disk.endless_writable sampleInspector
      sampleOptions () loads
  obtain ⟨fields, hfields, same⟩ :=
    (Lock.mem_channels_iff_fieldsOf? loads).mp
      ⟨_, List.mem_singleton_self _, rfl, List.mem_singleton_self _⟩
  obtain ⟨outcome, tells, settled⟩ := each "stable" "app" fields hfields
  have url : Text.trim (Lock.declaredText "signature_url" fields) =
      sampleRecord.signatureUrl :=
    (congrArg Lock.Record.signatureUrl same).symm
  have fingerprint : Fingerprint.normalize
      (Lock.declaredText "public_key_fingerprint" fields) =
        sampleRecord.fingerprint :=
    (congrArg Lock.Record.fingerprint same).symm
  refine ⟨Disk.endless_writable, loads, report, p, outcome, hrun,
    (tells outcome).mpr rfl, ?_⟩
  refine settled.isOk_iff.mpr ⟨?_, sampleListing, ?_, ?_⟩
  · rw [← Text.isBlankText_trim, url]
    decide
  · rw [url]
    exact lists_sample _
  · rw [fingerprint]
    decide +kernel

end Extraction

end IssuerAudit
