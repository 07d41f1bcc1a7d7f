import IssuerAudit.Extraction
import IssuerAudit.Proofs.Download.Files
import IssuerAudit.Proofs.Run.Streaming
/-!
Temporary files over a run.  A request opens a file at most once and closes what it
opened, however it ends, so over any row of requests there is never more than one;
and that one holds the body of the last answer while it is inspected:
`run_keeps_house`.
-/

namespace IssuerAudit

namespace TempFiles

/-- Says of events that there is at most one file more on the way, and none at the
end. -/
structure Tidy (events : List Event) : Prop where
  /-- At any moment there is at most one file besides those from before. -/
  passing : ∀ files moment, moment <+: events →
    since files moment = files ∨ ∃ content, since files moment = content :: files
  /-- At the end there are just those from before. -/
  settled : ∀ files, since files events = files

theorem tidy_nil : Tidy [] where
  passing := by
    rintro files moment h
    rw [List.prefix_nil.mp h]
    exact .inl rfl
  settled := since_nil

theorem Tidy.append {first second : List Event} (h : Tidy first)
    (hsecond : Tidy second) : Tidy (first ++ second) where
  passing := by
    rintro files moment ⟨behind, same⟩
    rcases List.append_eq_append_iff.mp same with
      ⟨rest, hfirst, -⟩ | ⟨begun, rfl, hbegun⟩
    · exact h.passing files moment ⟨rest, hfirst.symm⟩
    · rw [since_append, h.settled]
      exact hsecond.passing files begun ⟨behind, hbegun.symm⟩
  settled := by
    intro files
    rw [since_append, h.settled, hsecond.settled]

/-- To create a file, leave it where it is and remove it is tidy. -/
theorem tidy_episode {made : List Event} (h : ∀ e ∈ made, e.Stays) :
    Tidy (Download.episode made) where
  passing := by
    intro files moment hmoment
    rcases List.prefix_concat_iff.mp hmoment with rfl | hmoment
    · exact .inl (Download.since_episode h files)
    rcases List.prefix_cons_iff.mp hmoment with rfl | ⟨begun, rfl, hbegun⟩
    · exact .inl rfl
    · exact .inr
        (Download.since_staying (fun e he => h e (hbegun.subset he)) [] files)
  settled := Download.since_episode h

/-- A file that cannot be created is nothing to tidy. -/
theorem tidy_refused : Tidy [.refused] where
  passing := by
    intro files moment hmoment
    rcases List.prefix_cons_iff.mp hmoment with rfl | ⟨begun, rfl, hbegun⟩
    · exact .inl rfl
    · rw [List.prefix_nil.mp hbegun]
      exact .inl rfl
  settled := fun _ => rfl

end TempFiles

namespace Extraction

open Download (Fetched episode transferOf)

variable {σ : Type} {client : Client σ} {disk : Disk} {inspector : Inspector σ}
  {options : Download.Options}

/-- Holds of the events that a request adds. -/
inductive Handled (client : Client σ) (options : Download.Options) (s : Session σ)
    (given : String) : List Event → Prop
  | refused {e : UrlError} (parsed : Url.parse given = .error e) :
      Handled client options s given []
  | uncreated {url : Url} (parsed : Url.parse given = .ok url) :
      Handled client options s given [.refused]
  | failed {url : Url} {made : List Event} (parsed : Url.parse given = .ok url)
      (stays : ∀ e ∈ made, e.Stays) (uninspected : Event.inspected ∉ made) :
      Handled client options s given (episode made)
  | inspected {url : Url} {response : Response} (parsed : Url.parse given = .ok url)
      (got : (transferOf client options s url).finish.answer = .ok response) :
      Handled client options s given
        (episode ((transferOf client options s url).events ++ [.inspected]))

/-- Every request is handled in one of these ways. -/
theorem exists_handled (client : Client σ) (disk : Disk) (inspector : Inspector σ)
    (options : Download.Options) (s : Session σ) (given : String) :
    ∃ events, Handled client options s given events ∧
      (fingerprint client disk inspector options s given).2.events =
        s.events ++ events := by
  have fetched := Download.fetched_fetch client disk options s given
  unfold fingerprint
  generalize Download.fetch client disk options s given = made at fetched
  cases fetched with
  | address parsed => exact ⟨_, .refused parsed, (List.append_nil s.events).symm⟩
  | uncreated parsed refused => exact ⟨_, .uncreated parsed, rfl⟩
  | unfilled parsed created refused stays uninspected asked =>
      exact ⟨_, .failed parsed stays uninspected, rfl⟩
  | @transport url e fills failed =>
      exact ⟨_, .failed fills.parsed (Transfer.events_stay _)
        (Transfer.inspected_not_mem_events _), rfl⟩
  | @status url response fills got refused =>
      exact ⟨_, .failed fills.parsed (Transfer.events_stay _)
        (Transfer.inspected_not_mem_events _), rfl⟩
  | @uncompleted url response e fills got brought refused =>
      exact ⟨_, .failed fills.parsed (Transfer.events_stay _)
        (Transfer.inspected_not_mem_events _), rfl⟩
  | @ok url response fills got brought completed =>
      refine ⟨_, .inspected fills.parsed got, ?_⟩
      simp [inspect, Session.add, episode]

/-- However a request is handled, that is tidy. -/
theorem Handled.tidy {s : Session σ} {given : String} {events : List Event}
    (h : Handled client options s given events) : TempFiles.Tidy events := by
  cases h with
  | refused => exact TempFiles.tidy_nil
  | uncreated => exact TempFiles.tidy_refused
  | failed parsed stays => exact TempFiles.tidy_episode stays
  | inspected parsed got =>
      exact TempFiles.tidy_episode (List.forall_mem_append.mpr
        ⟨Transfer.events_stay _, List.forall_mem_singleton.mpr trivial⟩)

/-- Says of the moment at which a file is inspected what is there: it holds the body
of the last answer to the request. -/
def Inspects (client : Client σ) (options : Download.Options) (s : Session σ)
    (given : String) (moment : List Event) : Prop :=
  ∃ url response, Url.parse given = .ok url ∧
    (client.perform options s.outside url.text).finish.answer = .ok response ∧
    ∀ files, TempFiles.since files moment = response.body :: files

/-- Where a request has something inspected, it is the body of its last answer. -/
theorem Handled.inspects {s : Session σ} {given : String} {events moment : List Event}
    (h : Handled client options s given events)
    (hmoment : moment ++ [.inspected] <+: events) :
    Inspects client options s given moment := by
  obtain ⟨behind, same⟩ := hmoment
  cases h with
  | refused => simp at same
  | uncreated =>
      have present : Event.inspected ∈ [Event.refused] := by simp [← same]
      simp at present
  | @failed url made parsed stays absent =>
      have present : Event.inspected ∈ episode made := by simp [← same]
      simp [episode, absent] at present
  | @inspected url response parsed got =>
      have absent : Event.inspected ∉
          Event.created :: (transferOf client options s url).events := by
        simp [Transfer.inspected_not_mem_events]
      have split : moment ++ Event.inspected :: behind =
          (.created :: (transferOf client options s url).events) ++
            .inspected :: [.removed] := by simpa [episode] using same
      obtain ⟨rfl, -⟩ := (List.append_cons_inj_of_notMem absent
        (by simp)).mp split.symm
      refine ⟨url, response, parsed, got, fun files => ?_⟩
      have whole : (transferOf client options s url).pieces.flatten = response.body :=
        client.complete options s.outside url.text response got
      rw [TempFiles.since_cons]
      change TempFiles.since ([] :: files) _ = _
      rw [Transfer.since_events, whole, List.nil_append]

section Requests

variable {source : Source (Session σ)}
  (handles : ∀ s given, ∃ events, Handled client options s given events ∧
    (source.ask s given).2.events = s.events ++ events)

include handles

/-- Requests only add events. -/
theorem events_prefix_after (s : Session σ) (urls : List String) :
    s.events <+: (source.after s urls).events := by
  induction urls generalizing s with
  | nil => exact List.prefix_rfl
  | cons given rest ih =>
      obtain ⟨events, -, added⟩ := handles s given
      have first : s.events <+: (source.ask s given).2.events :=
        ⟨events, added.symm⟩
      exact first.trans (ih _)

/-- Whatever is asked for, the events are tidy. -/
theorem tidy_after {s : Session σ} (tidy : TempFiles.Tidy s.events)
    (urls : List String) : TempFiles.Tidy (source.after s urls).events := by
  induction urls generalizing s with
  | nil => exact tidy
  | cons given rest ih =>
      obtain ⟨events, handled, added⟩ := handles s given
      exact ih (added ▸ tidy.append handled.tidy)

/-- Whatever is inspected on the way is the body of the answer to the request that
is under way. -/
theorem inspects_after {s : Session σ}
    (tidy : TempFiles.Tidy s.events) (urls : List String) {moment : List Event}
    (later : s.events <+: moment)
    (hmoment : moment ++ [.inspected] <+: (source.after s urls).events) :
    ∃ earlier given, earlier ++ [given] <+: urls ∧
      (source.after s earlier).events <+: moment ∧
      moment ++ [.inspected] <+: (source.after s (earlier ++ [given])).events ∧
      Inspects client options (source.after s earlier) given moment := by
  induction urls generalizing s with
  | nil =>
      have few := (hmoment.trans later).length_le
      simp only [List.length_append, List.length_singleton] at few
      omega
  | cons given rest ih =>
      obtain ⟨events, handled, added⟩ := handles s given
      obtain ⟨begun, rfl⟩ := later
      have tidyNext : TempFiles.Tidy (source.ask s given).2.events :=
        added ▸ tidy.append handled.tidy
      by_cases within : s.events ++ begun ++ [.inspected] <+:
          (source.ask s given).2.events
      · have here : begun ++ [.inspected] <+: events := by
          rw [added, List.append_assoc] at within
          exact (List.prefix_append_right_inj _).mp within
        obtain ⟨url, response, parsed, got, holds⟩ :=
          handled.inspects here
        refine ⟨[], given, List.prefix_append _ _, List.prefix_append _ _,
          within, url, response, parsed, got, fun files => ?_⟩
        rw [TempFiles.since_append, tidy.settled, holds]
      · -- the first request has returned before that moment
        have returned : (source.ask s given).2.events <+: s.events ++ begun := by
          have behind := (List.prefix_or_prefix_of_prefix hmoment
            (events_prefix_after handles _ rest)).resolve_left within
          exact (List.prefix_concat_iff.mp behind).resolve_left
            fun same => within (same ▸ List.prefix_rfl)
        obtain ⟨earlier, asked, among, since, before, inspects⟩ :=
          ih tidyNext returned hmoment
        exact ⟨given :: earlier, asked,
          (List.prefix_cons_inj given).mpr among, since, before, inspects⟩

end Requests

/-- The files are looked after by a run: says of the progress of a run what its
requests did to the temporary files. -/
structure HouseKept (source : Source (Session σ)) (client : Client σ)
    (options : Download.Options) (start : Session σ) (d : Lock.Document)
    (p : Progress (Session σ)) : Prop where
  /-- Addresses are asked for from the first on, and none that is blank. -/
  asked : p.asked <+: Run.addresses d.components
  declared : ∀ given ∈ p.asked, Text.isBlankText given = false
  /-- What happens outside are these requests. -/
  requested : p.source = source.after start p.asked
  /-- At any moment there is at most one file besides those from before. -/
  passing : ∀ files moment, moment <+: p.source.events →
    TempFiles.since files moment = files ∨
      ∃ content, TempFiles.since files moment = content :: files
  /-- Whenever a request has returned there are just those from before. -/
  returned : ∀ earlier, earlier <+: p.asked →
    (source.after start earlier).events <+: p.source.events ∧
      ∀ files, TempFiles.since files (source.after start earlier).events = files
  /-- So it is when the run returns. -/
  left : ∀ files, TempFiles.since files p.source.events = files
  /-- An address that is none makes nothing happen. -/
  refused : ∀ earlier given e, earlier ++ [given] <+: p.asked →
    Url.parse given = .error e →
    source.after start (earlier ++ [given]) = source.after start earlier
  /-- While a file is inspected it is there, and holds the body of the last answer to
  the request that is under way. -/
  inspected : ∀ moment, moment ++ [.inspected] <+: p.source.events →
    ∃ earlier given, earlier ++ [given] <+: p.asked ∧
      (source.after start earlier).events <+: moment ∧
      moment ++ [.inspected] <+:
        (source.after start (earlier ++ [given])).events ∧
      Inspects client options (source.after start earlier) given moment

/-- What is no address makes nothing happen. -/
theorem fingerprint_of_refused {s : Session σ} {given : String} {e : UrlError}
    (refused : Url.parse given = .error e) :
    (fingerprint client disk inspector options s given).2 = s := by
  simp [fingerprint, Download.fetch, refused]

/-- Over any document, client, disk, inspector and sink a run looks after its files. -/
theorem run_keeps_house (client : Client σ) (disk : Disk) (inspector : Inspector σ)
    (options : Download.Options) (outside : σ) (sink : Sink) (d : Lock.Document) :
    HouseKept (source client disk inspector options) client options
      (Session.start outside) d
      (Run.start (source client disk inspector options) (Session.start outside)
        sink d).2 := by
  have handles := exists_handled client disk inspector options
  have tidy : ∀ urls, TempFiles.Tidy
      ((source client disk inspector options).after
        (Session.start outside) urls).events :=
    tidy_after handles TempFiles.tidy_nil
  obtain ⟨asked, requested⟩ := Run.start_requests
    (source client disk inspector options) (Session.start outside) sink d
  exact {
    asked
    declared := fun given hgiven => by
      have among := asked.subset hgiven
      rw [Run.addresses_eq_filter] at among
      simpa using (List.mem_filter.mp among).2
    requested
    passing := by
      rw [requested]
      exact (tidy _).passing
    returned := by
      rintro earlier ⟨later, same⟩
      refine ⟨?_, (tidy earlier).settled⟩
      rw [requested, ← same, Source.after_append]
      exact events_prefix_after handles _ later
    left := by
      rw [requested]
      exact (tidy _).settled
    refused := fun earlier given e _ hgiven => by
      rw [Source.after_append]
      exact fingerprint_of_refused hgiven
    inspected := fun moment hmoment => by
      rw [requested] at hmoment
      exact inspects_after handles TempFiles.tidy_nil _ List.nil_prefix hmoment }

/-- Three components, of which the second has no address that can be asked. -/
def looseDocument : Lock.Document :=
  ⟨[⟨"stable", [("app", ⟨"https://[::1]/app.sig", ""⟩), ("cli", ⟨"nowhere", ""⟩),
    ("lib", ⟨"https://[::1]/lib.sig", ""⟩)], by decide⟩]⟩

/-- A client that brings three bytes from every address, in two pieces. -/
def looseClient : Client Unit where
  perform _ _ address :=
    .asks address (.hands [80, 71] ⟨.error ⟨23, "not taken"⟩, ()⟩
      (.hands [80] ⟨.error ⟨23, "not taken"⟩, ()⟩
        (.ends ⟨.ok ⟨200, none, [80, 71, 80]⟩, ()⟩)))
  complete _ _ _ _ found := by
    cases found
    rfl

/-- A disk that takes one file and then no other. -/
def looseDisk : Disk :=
  { Disk.endless with
    create := fun events => if .removed ∈ events then some .denied else none }

/-- An inspector that finds nothing. -/
def looseInspector : Inspector Unit :=
  ⟨.gpg, fun outside _ => (.ok "", outside)⟩

/-- What may be taken for a download of these. -/
def looseOptions : Download.Options :=
  ⟨.ofSeconds 120, .ofSeconds 30, 5⟩

/-- A run whose sink breaks in the line of the third component. -/
def looseRun : Progress (Session Unit) :=
  (Run.start (source looseClient looseDisk looseInspector looseOptions)
    (Session.start ()) (Sink.ofSize 200) looseDocument).2

/-- The first component gets its file, and the others none. -/
theorem run_keeps_house_loose :
    HouseKept (source looseClient looseDisk looseInspector looseOptions) looseClient
        looseOptions (Session.start ()) looseDocument looseRun ∧
      looseRun.asked =
        ["https://[::1]/app.sig", "nowhere", "https://[::1]/lib.sig"] ∧
      looseRun.source.events =
        [.created, .requested "https://[::1]/app.sig", .filled [80, 71], .filled [80],
          .inspected, .removed, .refused] := by
  refine ⟨?_, by decide +kernel⟩
  exact run_keeps_house looseClient looseDisk looseInspector looseOptions ()
    (Sink.ofSize 200) looseDocument

end Extraction

end IssuerAudit
