import IssuerAudit.Proofs.Run.Streaming
/-!
What a run covers.  `run_covers_document` says that a run whose sink takes all of
its text reports on every component of the document once and in place, asks once
for every address that is declared, and judges each component by the answer to
its own request.
-/

namespace IssuerAudit

variable {σ : Type}

namespace Source

theorem getElem?_answers (source : Source σ) (s : σ) {urls : List String}
    {i : Nat} {url : String} (h : urls[i]? = some url) :
    (source.answers s urls)[i]? =
      some (source.ask (source.after s (urls.take i)) url).1 := by
  induction urls generalizing s i with
  | nil => simp at h
  | cons first rest ih =>
      cases i with
      | zero =>
          obtain rfl : first = url := by simpa using h
          rfl
      | succ i =>
          rw [List.getElem?_cons_succ] at h
          rw [answers, List.getElem?_cons_succ, ih _ h]
          rfl

end Source

namespace Run

theorem getElem?_findings (source : Source σ) (s : σ)
    {cs : List (String × Lock.Record)} {k : Nat} {c : String × Lock.Record}
    (h : cs[k]? = some c) :
    (findings source s cs)[k]? =
      some ⟨c.1, verdict source (source.after s (addresses (cs.take k))) c.2⟩ := by
  induction cs generalizing s k with
  | nil => simp at h
  | cons first rest ih =>
      cases k with
      | zero =>
          obtain rfl : first = c := by simpa using h
          rfl
      | succ k =>
          rw [List.getElem?_cons_succ] at h
          rw [findings, List.getElem?_cons_succ, ih _ h, List.take_succ_cons,
            addresses_cons, Source.after_append]

/-- The number of components before the `k`-th that are asked for. -/
def callsBefore (cs : List (String × Lock.Record)) (k : Nat) : Nat :=
  (cs.take k).countP fun c => !Text.isBlankText c.2.signatureUrl

theorem length_addresses (cs : List (String × Lock.Record)) :
    (addresses cs).length =
      cs.countP fun c => !Text.isBlankText c.2.signatureUrl := by
  rw [addresses_eq_filter, ← List.countP_eq_length_filter, List.countP_map]
  rfl

/-- A component is asked for behind all components before it. -/
theorem addresses_split {cs : List (String × Lock.Record)} {k : Nat}
    {c : String × Lock.Record} (h : cs[k]? = some c) :
    addresses cs = addresses (cs.take k) ++
      (requests c.2 ++ addresses (cs.drop (k + 1))) := by
  obtain ⟨hk, rfl⟩ := List.getElem?_eq_some_iff.mp h
  rw [← addresses_cons, ← addresses_append, ← List.drop_eq_getElem_cons hk,
    List.take_append_drop]

theorem getElem?_addresses {cs : List (String × Lock.Record)} {k : Nat}
    {c : String × Lock.Record} (h : cs[k]? = some c)
    (declared : Text.isBlankText c.2.signatureUrl = false) :
    (addresses cs)[callsBefore cs k]? = some c.2.signatureUrl ∧
      (addresses cs).take (callsBefore cs k) = addresses (cs.take k) := by
  have here : callsBefore cs k = (addresses (cs.take k)).length :=
    (length_addresses _).symm
  have own : requests c.2 = [c.2.signatureUrl] := by
    simp [requests, declared]
  rw [addresses_split h, own, here]
  constructor
  · simp
  · exact List.take_left

/-- The verdict that a record and the answer to its request call for. -/
def due (record : Lock.Record) :
    Except (List String) String → Outcome
  | .error texts => .failed (String.intercalate ": " texts)
  | .ok actual =>
      if record.fingerprint ≠ "" ∧ record.fingerprint = Text.upper actual then
        .ok record.fingerprint (Text.upper actual)
      else .mismatch record.fingerprint (Text.upper actual)

theorem outcomeOf_eq_due (record : Lock.Record)
    (answer : Except (List String) String) :
    outcomeOf record answer = due record answer := by
  cases answer <;> rfl

/-- Holds of the verdict on a record whose request is number `i`: it follows
from the answer to that request, or there is no address to ask for. -/
def Judged (record : Lock.Record) (calls : List String)
    (answers : List (Except (List String) String)) (i : Nat)
    (outcome : Outcome) : Prop :=
  if Text.isBlankText record.signatureUrl then outcome = .missing
  else calls[i]? = some record.signatureUrl ∧
    ∃ answer, answers[i]? = some answer ∧ outcome = due record answer

theorem judged_verdict (source : Source σ) (s : σ)
    {cs : List (String × Lock.Record)} {k : Nat} {c : String × Lock.Record}
    (h : cs[k]? = some c) :
    Judged c.2 (addresses cs) (source.answers s (addresses cs))
      (callsBefore cs k)
      (verdict source (source.after s (addresses (cs.take k))) c.2) := by
  unfold Judged verdict
  split
  · rfl
  · next declared =>
    have blank : Text.isBlankText c.2.signatureUrl = false := by
      simpa using declared
    obtain ⟨own, earlier⟩ := getElem?_addresses h blank
    refine ⟨own, _, source.getElem?_answers s own, ?_⟩
    rw [earlier]
    exact outcomeOf_eq_due _ _

/-- Holds if the verdicts on a channel are on its components, each once and in
the order of the names. -/
def Covers (c : Lock.Channel) (r : ChannelReport) : Prop :=
  r.name = c.name ∧
    r.components.map (·.name) = c.components.map Prod.fst ∧
    (r.components.map (·.name)).Pairwise
      fun a b => Lock.nameBefore a b = true

theorem covers_findings (source : Source σ) (s : σ) (c : Lock.Channel) :
    Covers c ⟨c.name, findings source s c.components⟩ := by
  refine ⟨rfl, names_findings source s c.components, ?_⟩
  rw [names_findings]
  exact List.pairwise_map.mpr c.ascending

theorem forall_covers (source : Source σ) (s : σ)
    (channels : List Lock.Channel) :
    List.Forall₂ Covers channels (channelFindings source s channels) := by
  induction channels generalizing s with
  | nil => exact List.Forall₂.nil
  | cons c rest ih =>
      exact List.Forall₂.cons (covers_findings source s c) (ih _)

/-- Either a sink takes the whole text, or it breaks and there is no report. -/
theorem start_eq (source : Source σ) (s : σ) (sink : Sink)
    (d : Lock.Document) {report : Report} {p : Progress σ}
    (h : start source s sink d = (some report, p)) :
    report = found source s d ∧ p.asked = addresses d.components := by
  by_cases hfits : sink.Fits (Text.Utf8.bytesOf (found source s d).display)
  · rw [start, document_of_fits source d ⟨s, sink, []⟩ hfits] at h
    obtain ⟨hreport, rfl⟩ := Prod.mk.inj h
    exact ⟨(Option.some.inj hreport).symm, List.nil_append _⟩
  · obtain ⟨n, hroom, hn⟩ := Sink.not_fits_iff.mp hfits
    rw [start, document_of_short source d ⟨s, sink, []⟩ hroom hn] at h
    cases (Prod.mk.inj h).1

theorem mismatches_add_fine (r : Report) :
    r.mismatches + r.components.countP (·.outcome.isOk) =
      r.components.length := by
  have both := List.length_eq_countP_add_countP (·.outcome.isOk)
    (l := r.components)
  rw [Report.mismatches]
  simp only [Bool.not_eq_true, Bool.decide_eq_false] at both
  omega

theorem isSuccess_iff (r : Report) :
    r.isSuccess = true ↔ ∀ c ∈ r.components, c.outcome.isOk = true := by
  simp [Report.isSuccess, Report.mismatches, List.countP_eq_zero]

/-- Whatever the sink, a run that ends with a report ends with the same one and
has made the same requests, and on a sink that takes everything it does end with
it.  The channels are those of the document in order, with one verdict for every
component in the order of the names.  The requests are for the declared
addresses, once each and in that order.  Each verdict is the one that its record
and the answer to its own request call for, and the favourable ones and the
others make up the whole document. -/
theorem run_covers_document (source : Source σ) (s : σ) (d : Lock.Document) :
    ∃ (report : Report) (calls : List String),
      (∀ sink : Sink, sink.room = none →
        ∃ p, start source s sink d = (some report, p)) ∧
      (∀ (sink : Sink) (other : Report) (p : Progress σ),
        start source s sink d = (some other, p) →
          other = report ∧ p.asked = calls) ∧
      List.Forall₂ Covers d.channels report.channels ∧
      calls = (d.components.map (·.2.signatureUrl)).filter
        (fun url => !Text.isBlankText url) ∧
      (∀ (k : Nat) (name : String) (record : Lock.Record),
        d.components[k]? = some (name, record) →
          ∃ outcome, report.components[k]? = some ⟨name, outcome⟩ ∧
            Judged record calls (source.answers s calls)
              (callsBefore d.components k) outcome) ∧
      report.components.length = d.componentCount ∧
      report.mismatches + report.components.countP (·.outcome.isOk) =
        d.componentCount ∧
      (report.isSuccess = true ↔
        ∀ c ∈ report.components, c.outcome.isOk = true) := by
  have count : (found source s d).components.length = d.componentCount := by
    rw [components_found, length_findings, Lock.Document.componentCount]
  refine ⟨found source s d, addresses d.components, ?_,
    fun sink other p => start_eq source s sink d, forall_covers source s _,
    addresses_eq_filter _, ?_, count, ?_, isSuccess_iff _⟩
  · intro sink hroom
    have fits : sink.Fits (Text.Utf8.bytesOf (found source s d).display) := by
      simp [Sink.Fits, hroom]
    exact ⟨_, document_of_fits source d ⟨s, sink, []⟩ fits⟩
  · intro k name record h
    refine ⟨_, ?_, judged_verdict source s h⟩
    rw [components_found]
    exact getElem?_findings source s h
  · rw [mismatches_add_fine, count]

/-- A document with one component. -/
def softDocument : Lock.Document :=
  ⟨[⟨"stable", [("app", ⟨"https://[::1]/app.sig",
    "0123456789ABCDEF0123456789ABCDEF01234567"⟩)], by decide⟩]⟩

/-- A source that answers in small letters. -/
def softSource : Source Unit :=
  ⟨fun s _ => (.ok "0123456789abcdef0123456789abcdef01234567", s)⟩

/-- A fingerprint that is found in small letters is compared in capitals. -/
theorem run_covers_soft :
    ∃ report p, start softSource () Sink.endless softDocument = (some report, p) ∧
      report.components[0]? = some ⟨"app", .ok
        "0123456789ABCDEF0123456789ABCDEF01234567"
        "0123456789ABCDEF0123456789ABCDEF01234567"⟩ := by
  obtain ⟨report, calls, ends, -, -, asked, each, -⟩ :=
    run_covers_document softSource () softDocument
  obtain ⟨p, hrun⟩ := ends Sink.endless rfl
  obtain ⟨outcome, tells, judged⟩ := each 0 "app" _ rfl
  have calls_eq : calls = ["https://[::1]/app.sig"] := by
    rw [asked]
    decide
  have first : callsBefore softDocument.components 0 = 0 := rfl
  rw [calls_eq, first] at judged
  obtain ⟨-, answer, answered, outcome_eq⟩ := judged
  cases answered
  refine ⟨report, p, hrun, ?_⟩
  rw [tells, outcome_eq]
  decide

end Run

end IssuerAudit
