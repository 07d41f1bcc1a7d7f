import IssuerAudit.Proofs.Download.Receiving
/-!
How a download ends and what it leaves.  `Fetched` has a case for each of its ends, and
`fetched_fetch` finds every download among them.  One file is there from its creation
on, and it is the only one that a download touches; at the end it is left with the body
of the answer (`Fetched.files_of_ok`), or removed (`Fetched.files_of_error`).
-/

namespace IssuerAudit

namespace Download

variable {σ : Type}

/-- The transfer of a download. -/
def transferOf (client : Client σ) (options : Options) (s : Session σ) (url : Url) :
    Transfer σ :=
  client.perform options s.outside url.text

/-- The events of a file that is there for a while and then removed. -/
def episode (made : List Event) : List Event :=
  .created :: made ++ [.removed]

/-- Holds of a download that has created its file and of which the disk has taken all
pieces. -/
structure Fills (client : Client σ) (disk : Disk) (options : Options) (s : Session σ)
    (given : String) (url : Url) : Prop where
  parsed : Url.parse given = .ok url
  created : disk.create s.events = none
  taken : (transferOf client options s url).Taken disk (s.events ++ [.created])

/-- Says of a download how it ends and what happens outside on the way. -/
inductive Fetched (client : Client σ) (disk : Disk) (options : Options) (s : Session σ)
    (given : String) : Except DownloadError Stored × Session σ → Prop
  | address {e : UrlError} (parsed : Url.parse given = .error e) :
      Fetched client disk options s given (.error (.address e), s)
  | uncreated {url : Url} {e : FileError} (parsed : Url.parse given = .ok url)
      (refused : disk.create s.events = some e) :
      Fetched client disk options s given
        (.error (.tempFile e), ⟨s.outside, s.events ++ [.refused]⟩)
  | unfilled {url : Url} {e : FileError} {made : List Event} {outside : σ}
      (parsed : Url.parse given = .ok url) (created : disk.create s.events = none)
      (refused : (transferOf client options s url).Refused disk e
        (s.events ++ [.created]))
      (stays : ∀ e ∈ made, e.Stays) (uninspected : Event.inspected ∉ made)
      (asked : made.filterMap Event.asked? <+:
        (transferOf client options s url).requests) :
      Fetched client disk options s given
        (.error (.tempFile e), ⟨outside, s.events ++ episode made⟩)
  | transport {url : Url} {e : TransportError}
      (fills : Fills client disk options s given url)
      (failed : (transferOf client options s url).finish.answer = .error e) :
      Fetched client disk options s given (.error (.transport e),
        ⟨(transferOf client options s url).finish.outside,
          s.events ++ episode (transferOf client options s url).events⟩)
  | status {url : Url} {response : Response}
      (fills : Fills client disk options s given url)
      (got : (transferOf client options s url).finish.answer = .ok response)
      (refused : ¬ (200 ≤ response.status ∧ response.status < 300)) :
      Fetched client disk options s given (.error (.status url response.status),
        ⟨(transferOf client options s url).finish.outside,
          s.events ++ episode (transferOf client options s url).events⟩)
  | uncompleted {url : Url} {response : Response} {e : FileError}
      (fills : Fills client disk options s given url)
      (got : (transferOf client options s url).finish.answer = .ok response)
      (brought : 200 ≤ response.status ∧ response.status < 300)
      (refused : disk.flush
        (s.events ++ .created :: (transferOf client options s url).events) = some e) :
      Fetched client disk options s given (.error (.tempFile e),
        ⟨(transferOf client options s url).finish.outside,
          s.events ++ episode (transferOf client options s url).events⟩)
  | ok {url : Url} {response : Response}
      (fills : Fills client disk options s given url)
      (got : (transferOf client options s url).finish.answer = .ok response)
      (brought : 200 ≤ response.status ∧ response.status < 300)
      (completed : disk.flush
        (s.events ++ .created :: (transferOf client options s url).events) = none) :
      Fetched client disk options s given (.ok ⟨response.body, response.body.length⟩,
        ⟨(transferOf client options s url).finish.outside,
          s.events ++ .created :: (transferOf client options s url).events⟩)

section Ends

variable {client : Client σ} {disk : Disk} {options : Options} {s : Session σ}
  {given : String} {url : Url}

theorem isSuccess_iff (r : Response) :
    r.isSuccess = true ↔ 200 ≤ r.status ∧ r.status < 300 := by
  simp [Response.isSuccess]

theorem fill_created (client : Client σ) (disk : Disk) (options : Options)
    (s : Session σ) (url : Url) :
    fill client disk options (s.add .created) url =
      ((receive disk .empty (s.events ++ [.created])
          (transferOf client options s url)).result url,
        (receive disk .empty (s.events ++ [.created])
          (transferOf client options s url)).session) :=
  rfl

/-- What a file that takes all pieces comes to. -/
theorem fill_of_fills (fills : Fills client disk options s given url) :
    fill client disk options (s.add .created) url =
      (match (transferOf client options s url).finish.answer with
        | .error e => .error (.transport e)
        | .ok response =>
            if 200 ≤ response.status ∧ response.status < 300 then
              .ok ⟨response.body, response.body.length⟩
            else .error (.status url response.status),
        ⟨(transferOf client options s url).finish.outside,
          s.events ++ .created :: (transferOf client options s url).events⟩) := by
  rw [fill_created, receive_of_taken fills.taken, ← List.append_cons]
  cases got : (transferOf client options s url).finish.answer with
  | error e => rfl
  | ok response =>
      have whole : (transferOf client options s url).pieces.flatten = response.body :=
        client.complete options s.outside url.text response got
      by_cases brought : 200 ≤ response.status ∧ response.status < 300
      · have success := (isSuccess_iff response).mpr brought
        simp only [Received.result, success, if_true, if_pos brought, Stored.empty,
          List.nil_append, Nat.zero_add, whole]
      · have refused := mt (isSuccess_iff response).mp brought
        simp only [Received.result, if_neg refused, if_neg brought]

/-- What a file comes to that does not take a piece. -/
theorem fill_of_refused {e : FileError}
    (refused : (transferOf client options s url).Refused disk e
      (s.events ++ [.created])) :
    ∃ made outside, fill client disk options (s.add .created) url =
        (.error (.tempFile e), ⟨outside, s.events ++ .created :: made⟩) ∧
      (∀ e ∈ made, e.Stays) ∧
      made.filterMap Event.asked? <+: (transferOf client options s url).requests ∧
      Event.inspected ∉ made := by
  obtain ⟨made, refusal, added, rest⟩ := receive_of_refused refused .empty
  refine ⟨made, (receive disk .empty (s.events ++ [.created])
    (transferOf client options s url)).session.outside, ?_, rest⟩
  rw [← List.append_cons] at added
  rw [fill_created, Received.result, refusal, ← added]

theorem fetch_of_parsed (parsed : Url.parse given = .ok url) :
    fetch client disk options s given = fetchUrl client disk options s url := by
  simp [fetch, parsed]

/-- A download whose file has taken all pieces ends in one of these ways. -/
theorem fetched_of_fills (fills : Fills client disk options s given url) :
    Fetched client disk options s given (fetch client disk options s given) := by
  have filled := fill_of_fills fills
  rw [fetch_of_parsed fills.parsed, fetchUrl, fills.created]
  simp only [filled]
  cases got : (transferOf client options s url).finish.answer with
  | error e =>
      have ended : Fetched client disk options s given _ := .transport fills got
      simpa [Session.add, episode] using ended
  | ok response =>
      by_cases brought : 200 ≤ response.status ∧ response.status < 300
      · simp only [if_pos brought]
        cases flush : disk.flush
            (s.events ++ .created :: (transferOf client options s url).events) with
        | some e =>
            have ended : Fetched client disk options s given _ :=
              .uncompleted fills got brought flush
            simpa [Session.add, episode] using ended
        | none => exact .ok fills got brought flush
      · have ended : Fetched client disk options s given _ :=
          .status fills got brought
        simpa [if_neg brought, Session.add, episode] using ended

/-- Every download ends in one of these ways. -/
theorem fetched_fetch (client : Client σ) (disk : Disk) (options : Options)
    (s : Session σ) (given : String) :
    Fetched client disk options s given (fetch client disk options s given) := by
  cases parsed : Url.parse given with
  | error e =>
      rw [fetch, parsed]
      exact .address parsed
  | ok url =>
      cases created : disk.create s.events with
      | some e =>
          rw [fetch_of_parsed parsed, fetchUrl, created]
          exact .uncreated parsed created
      | none =>
          obtain taken | ⟨e, refused⟩ := Transfer.taken_or_refused disk
            (transferOf client options s url) (s.events ++ [.created])
          · exact fetched_of_fills ⟨parsed, created, taken⟩
          · obtain ⟨made, outside, filled, stays, asked, uninspected⟩ :=
              fill_of_refused refused
            have ended : Fetched client disk options s given
                (.error (.tempFile e), ⟨outside, s.events ++ episode made⟩) :=
              .unfilled parsed created refused stays uninspected asked
            rw [fetch_of_parsed parsed, fetchUrl, created]
            simp only [filled]
            simpa [Session.add, episode] using ended

end Ends

/-- Events that leave files where they are may at most fill the latest. -/
theorem since_staying {made : List Event} (h : ∀ e ∈ made, e.Stays)
    (content : List UInt8) (files : List (List UInt8)) :
    ∃ now, TempFiles.since (content :: files) made = now :: files := by
  induction made generalizing content with
  | nil => exact ⟨content, rfl⟩
  | cons e rest ih =>
      obtain ⟨he, hrest⟩ := List.forall_mem_cons.mp h
      cases e with
      | requested address => exact ih hrest content
      | refused => exact ih hrest content
      | filled bytes => exact ih hrest (content ++ bytes)
      | inspected => exact ih hrest content
      | created => exact he.elim
      | removed => exact he.elim

/-- A file that is removed in the end leaves no trace. -/
theorem since_episode {made : List Event} (h : ∀ e ∈ made, e.Stays)
    (files : List (List UInt8)) : TempFiles.since files (episode made) = files := by
  obtain ⟨now, hnow⟩ := since_staying h [] files
  rw [episode, TempFiles.since_append, TempFiles.since_cons]
  exact congrArg List.tail hnow

namespace Fetched

variable {client : Client σ} {disk : Disk} {options : Options} {s : Session σ}
  {given : String} {made : Except DownloadError Stored × Session σ}

/-- A file that was brought is there at the end, as the latest. -/
theorem files_of_ok (h : Fetched client disk options s given made) {stored : Stored}
    (brought : made.1 = .ok stored) (files : List (List UInt8)) :
    TempFiles.since files made.2.events =
      stored.content :: TempFiles.since files s.events := by
  cases h with
  | @ok url response fills got success completed =>
      cases brought
      have whole := client.complete options s.outside url.text response got
      rw [TempFiles.since_append, TempFiles.since_cons]
      change TempFiles.since ([] :: _) _ = _
      rw [Transfer.since_events, transferOf, whole, List.nil_append]
  | _ => cases brought

/-- A download that fails leaves the files as they were. -/
theorem files_of_error (h : Fetched client disk options s given made)
    {e : DownloadError} (failed : made.1 = .error e)
    (files : List (List UInt8)) :
    TempFiles.since files made.2.events = TempFiles.since files s.events := by
  cases h with
  | address => rfl
  | uncreated => rw [TempFiles.since_append]; rfl
  | unfilled parsed created refused stays =>
      rw [TempFiles.since_append, since_episode stays]
  | transport => rw [TempFiles.since_append, since_episode (Transfer.events_stay _)]
  | status => rw [TempFiles.since_append, since_episode (Transfer.events_stay _)]
  | uncompleted => rw [TempFiles.since_append, since_episode (Transfer.events_stay _)]
  | ok => cases failed

end Fetched

end Download

end IssuerAudit
