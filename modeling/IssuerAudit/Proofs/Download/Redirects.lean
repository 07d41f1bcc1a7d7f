import IssuerAudit.Proofs.Download.Files
import IssuerAudit.Proofs.Download.Following
import IssuerAudit.Proofs.Download.Walking
/-!
Downloads from a server over any graph of redirects, by a client that follows them.  A
download brings a file just if redirects lead within the limit to an answer with one,
and each of the other ways to end has its own error; whatever the graph, the requests
are bounded by the limit.  Before all of these comes a disk that does not take the
file: `fetch_over_redirects`.
-/

namespace IssuerAudit

namespace Download

variable {σ : Type}

/-- Holds of the error for which a disk does not take the file of a transfer that begins
after some events: the file cannot be created, or a piece is refused, or the file has
all of the body of a successful answer and cannot be completed. -/
inductive Spoils (disk : Disk) (events : List Event) (t : Transfer σ)
    (e : FileError) : Prop
  | creation (refused : disk.create events = some e)
  | piece (created : disk.create events = none)
      (refused : t.Refused disk e (events ++ [.created]))
  | completion {response : Response} (created : disk.create events = none)
      (taken : t.Taken disk (events ++ [.created]))
      (got : t.finish.answer = .ok response)
      (brought : 200 ≤ response.status ∧ response.status < 300)
      (refused : disk.flush (events ++ .created :: t.events) = some e)

/-- Says of what comes of a download, within a limit of redirects, when it is which. -/
structure Decided (server : Server) (resolve : Resolution) (limit : Nat)
    (given : String) (result : Except DownloadError Stored) : Prop where
  /-- There is a file just if redirects lead to an answer with one, and it holds the body
  of that answer. -/
  ok_iff : ∀ stored, result = .ok stored ↔
    ∃ url last, Url.parse given = .ok url ∧
      server.Leads resolve limit url.text last ∧
      200 ≤ last.status ∧ last.status ≤ 299 ∧
      stored = ⟨last.body, last.body.length⟩
  /-- The status of the answer that redirects lead to is to blame just if it is none of
  success; what is named is the address that was asked first. -/
  status_iff : ∀ url code, result = .error (.status url code) ↔
    Url.parse given = .ok url ∧
      ∃ last, server.Leads resolve limit url.text last ∧
        ¬ (200 ≤ last.status ∧ last.status ≤ 299) ∧ code = last.status
  /-- The transport is to blame just if there are too many redirects, or if they run into
  an error, which is then the one that is reported. -/
  transport_iff : (∃ e, result = .error (.transport e)) ↔
    ∃ url, Url.parse given = .ok url ∧ (server.Exceeds resolve limit url.text ∨
      ∃ e, server.Fails resolve limit url.text e)
  failure : ∀ url e, Url.parse given = .ok url →
    server.Fails resolve limit url.text e → result = .error (.transport e)
  exceeds : ∀ url, Url.parse given = .ok url →
    server.Exceeds resolve limit url.text → ∃ e, result = .error (.transport e)

/-- Says of a download, in which a client follows redirects and a disk may fail, when it
ends how and what it leaves. -/
structure Settled (server : Server) (resolve : Resolution) (client : Client σ)
    (disk : Disk) (options : Options) (s : Session σ) (given : String)
    (result : Except DownloadError Stored) (after : Session σ) : Prop where
  /-- There is at most one request more than the redirects that are allowed. -/
  requests_le : after.requests.length ≤
    s.requests.length + options.maxRedirects + 1
  /-- What was given is to blame just if it is no address. -/
  address_iff : ∀ e, result = .error (.address e) ↔ Url.parse given = .error e
  /-- Then nothing happens outside. -/
  untouched : ∀ e, Url.parse given = .error e → after = s
  /-- The file is to blame just if the disk does not take it, whatever comes of the
  transfer. -/
  tempFile_iff : ∀ e, result = .error (.tempFile e) ↔
    ∃ url, Url.parse given = .ok url ∧
      Spoils disk s.events (transferOf client options s url) e
  /-- If it is not, redirects decide. -/
  decided : (∀ e, result ≠ .error (.tempFile e)) →
    Decided server resolve options.maxRedirects given result
  /-- What is said to be a file is a temporary file with that content. -/
  left_of_ok : ∀ stored, result = .ok stored →
    TempFiles.ofEvents after.events = stored.content :: TempFiles.ofEvents s.events
  /-- Without a file nothing is left. -/
  left_of_error : ∀ e, result = .error e →
    TempFiles.ofEvents after.events = TempFiles.ofEvents s.events

namespace Fetched

variable {client : Client σ} {disk : Disk} {options : Options} {s : Session σ}
  {given : String} {made : Except DownloadError Stored × Session σ}

/-- To create a file and to remove it asks for nothing. -/
theorem filterMap_episode (made : List Event) :
    (episode made).filterMap Event.asked? = made.filterMap Event.asked? := by
  have end_asks_nothing : [Event.removed].filterMap Event.asked? = [] := rfl
  rw [episode, List.filterMap_append, end_asks_nothing, List.append_nil]
  rfl

/-- What is asked for in a download is asked for by its transfer. -/
theorem requests_eq (h : Fetched client disk options s given made) :
    ∃ asked, made.2.requests = s.requests ++ asked ∧
      (asked = [] ∨ ∃ url, asked <+: (transferOf client options s url).requests) := by
  have added : ∀ {outside : σ} {more : List Event},
      Session.requests ⟨outside, s.events ++ more⟩ =
        s.requests ++ more.filterMap Event.asked? := by
    intro outside more
    exact List.filterMap_append
  have whole : ∀ t : Transfer σ,
      (episode t.events).filterMap Event.asked? <+: t.requests := by
    intro t
    have same := (filterMap_episode t.events).trans t.filterMap_events
    exact same ▸ List.prefix_rfl
  cases h with
  | address => exact ⟨[], (List.append_nil _).symm, .inl rfl⟩
  | uncreated => exact ⟨_, added, .inl rfl⟩
  | @unfilled url e more outside parsed created refused stays uninspected asked =>
      exact ⟨_, added, .inr ⟨url, (filterMap_episode more).symm ▸ asked⟩⟩
  | transport => exact ⟨_, added, .inr ⟨_, whole _⟩⟩
  | status => exact ⟨_, added, .inr ⟨_, whole _⟩⟩
  | uncompleted => exact ⟨_, added, .inr ⟨_, whole _⟩⟩
  | @ok url =>
      have same := (transferOf client options s url).filterMap_events
      exact ⟨_, added, .inr ⟨url, same ▸ List.prefix_rfl⟩⟩

end Fetched

section Ends

variable {client : Client σ} {disk : Disk} {options : Options} {s : Session σ}
  {given : String}

theorem fetch_of_no_address {e : UrlError} (refused : Url.parse given = .error e) :
    fetch client disk options s given = (.error (.address e), s) := by
  simp [fetch, refused]

/-- What was given is to blame just if it is no address. -/
theorem fetch_eq_address_iff {e : UrlError} :
    (fetch client disk options s given).1 = .error (.address e) ↔
      Url.parse given = .error e := by
  constructor
  · intro result
    have fetched := fetched_fetch client disk options s given
    generalize fetch client disk options s given = made at fetched result
    cases fetched with
    | address parsed =>
        cases result
        exact parsed
    | _ => cases result
  · intro refused
    rw [fetch_of_no_address refused]

/-- A disk that does not take the file is to blame, whatever comes of the transfer. -/
theorem fetch_of_spoils {url : Url} {e : FileError} (parsed : Url.parse given = .ok url)
    (h : Spoils disk s.events (transferOf client options s url) e) :
    (fetch client disk options s given).1 = .error (.tempFile e) := by
  rw [fetch_of_parsed parsed, fetchUrl]
  cases h with
  | creation refused => rw [refused]
  | piece created refused =>
      obtain ⟨made, outside, filled, -⟩ := fill_of_refused refused
      simp only [created, filled]
  | completion created taken got brought refused =>
      simp only [created, fill_of_fills ⟨parsed, created, taken⟩, got, if_pos brought,
        refused]

/-- The file is to blame just if the disk does not take it. -/
theorem fetch_eq_tempFile_iff {e : FileError} :
    (fetch client disk options s given).1 = .error (.tempFile e) ↔
      ∃ url, Url.parse given = .ok url ∧
        Spoils disk s.events (transferOf client options s url) e := by
  constructor
  · intro result
    have fetched := fetched_fetch client disk options s given
    generalize fetch client disk options s given = made at fetched result
    cases fetched with
    | uncreated parsed refused =>
        cases result
        exact ⟨_, parsed, .creation refused⟩
    | unfilled parsed created refused stays =>
        cases result
        exact ⟨_, parsed, .piece created refused⟩
    | uncompleted fills got brought refused =>
        cases result
        exact ⟨_, fills.parsed,
          .completion fills.created fills.taken got brought refused⟩
    | _ => cases result
  · rintro ⟨url, parsed, spoils⟩
    exact fetch_of_spoils parsed spoils

theorem not_spoils_of_writable (writable : disk.Writable) (events : List Event)
    (t : Transfer σ) (e : FileError) : ¬ Spoils disk events t e := by
  rintro (refused | ⟨-, refused⟩ | ⟨-, -, -, -, refused⟩)
  · cases (writable.create _).symm.trans refused
  · exact refused.not_of_writable writable
  · cases (writable.flush _).symm.trans refused

/-- A transfer that ends with an error decides a download. -/
theorem decided_of_error {server : Server} {resolve : Resolution} {url : Url}
    (follows : client.Follows options server resolve) (parsed : Url.parse given = .ok url)
    {e : TransportError}
    (failed : (transferOf client options s url).finish.answer = .error e) :
    Decided server resolve options.maxRedirects given (.error (.transport e)) := by
  have walk := follows s.outside url.text
  have broken := walk.exists_answer_eq_error_iff.mp ⟨e, failed⟩
  have nowhere : ∀ last,
      ¬ server.Leads resolve options.maxRedirects url.text last := by
    intro last leads
    cases failed.symm.trans (walk.answer_eq_ok_iff.mpr leads)
  refine ⟨?_, ?_, iff_of_true ⟨e, rfl⟩ ⟨url, parsed, broken⟩, ?_, ?_⟩
  · simp [parsed, nowhere]
  · intro other code
    simp only [parsed, Except.ok.injEq, Except.error.injEq, reduceCtorEq, false_iff]
    rintro ⟨rfl, last, leads, -⟩
    exact nowhere last leads
  · intro other e' again fails
    cases parsed.symm.trans again
    cases failed.symm.trans (walk.answer_of_fails fails)
    rfl
  · intro other again many
    exact ⟨e, rfl⟩

/-- So does one that ends with an answer. -/
theorem decided_of_answer {server : Server} {resolve : Resolution} {url : Url}
    (follows : client.Follows options server resolve) (parsed : Url.parse given = .ok url)
    {response : Response}
    (got : (transferOf client options s url).finish.answer = .ok response) :
    Decided server resolve options.maxRedirects given
      (if 200 ≤ response.status ∧ response.status < 300 then
        .ok ⟨response.body, response.body.length⟩
      else .error (.status url response.status)) := by
  have walk := follows s.outside url.text
  have leads := walk.answer_eq_ok_iff.mp got
  have only : ∀ last,
      server.Leads resolve options.maxRedirects url.text last ↔ last = response := by
    intro last
    rw [← walk.answer_eq_ok_iff]
    change (transferOf client options s url).finish.answer = _ ↔ _
    rw [got, Except.ok.injEq, eq_comm]
  have unbroken : ¬ (server.Exceeds resolve options.maxRedirects url.text ∨
      ∃ e, server.Fails resolve options.maxRedirects url.text e) := by
    intro broken
    obtain ⟨e, failed⟩ := walk.exists_answer_eq_error_iff.mpr broken
    cases got.symm.trans failed
  obtain ⟨few, fine⟩ := not_or.mp unbroken
  have unfailed : ∀ e, ¬ server.Fails resolve options.maxRedirects url.text e :=
    not_exists.mp fine
  split
  · next brought =>
    refine ⟨?_, ?_, ?_, ?_, ?_⟩
    · intro stored
      simp [parsed, only, eq_comm, brought.1, Nat.lt_succ_iff.mp brought.2]
    · intro other code
      simp only [reduceCtorEq, false_iff, parsed, Except.ok.injEq]
      rintro ⟨rfl, last, found, bad, -⟩
      obtain rfl := (only last).mp found
      exact bad ⟨brought.1, Nat.lt_succ_iff.mp brought.2⟩
    · simp [parsed, few, unfailed]
    · intro other e again fails
      obtain rfl := Except.ok.inj (parsed.symm.trans again)
      exact absurd fails (unfailed e)
    · simp [parsed, few]
  · next refused =>
    have bad : ¬ (200 ≤ response.status ∧ response.status ≤ 299) := by
      intro fine
      exact refused ⟨fine.1, Nat.lt_succ_iff.mpr fine.2⟩
    refine ⟨?_, ?_, ?_, ?_, ?_⟩
    · intro stored
      simp only [reduceCtorEq, false_iff]
      rintro ⟨other, last, again, found, low, high, -⟩
      cases parsed.symm.trans again
      obtain rfl := (only last).mp found
      exact bad ⟨low, high⟩
    · intro other code
      simp only [Except.error.injEq, DownloadError.status.injEq, parsed, Except.ok.injEq]
      constructor
      · rintro ⟨rfl, rfl⟩
        exact ⟨rfl, response, leads, bad, rfl⟩
      · rintro ⟨rfl, last, found, -, rfl⟩
        exact ⟨rfl, by rw [(only last).mp found]⟩
    · simp [parsed, few, unfailed]
    · intro other e again fails
      obtain rfl := Except.ok.inj (parsed.symm.trans again)
      exact absurd fails (unfailed e)
    · simp [parsed, few]

/-- Unless the file is to blame, redirects decide. -/
theorem decided_fetch {server : Server} {resolve : Resolution}
    (follows : client.Follows options server resolve)
    (fine : ∀ e, (fetch client disk options s given).1 ≠ .error (.tempFile e)) :
    Decided server resolve options.maxRedirects given
      (fetch client disk options s given).1 := by
  have fetched := fetched_fetch client disk options s given
  generalize fetch client disk options s given = made at fetched fine
  cases fetched with
  | address parsed => exact ⟨by simp [parsed], by simp [parsed], by simp [parsed],
      by simp [parsed], by simp [parsed]⟩
  | uncreated parsed refused => exact absurd rfl (fine _)
  | unfilled parsed created refused stays => exact absurd rfl (fine _)
  | transport fills failed => exact decided_of_error follows fills.parsed failed
  | status fills got refused =>
      simpa only [if_neg refused] using decided_of_answer follows fills.parsed got
  | uncompleted fills got brought refused => exact absurd rfl (fine _)
  | ok fills got brought completed =>
      simpa only [if_pos brought] using decided_of_answer follows fills.parsed got

end Ends

/-- A download by a client that follows redirects from a server is settled by what these
lead to, on whatever disk; and on one that takes everything they alone decide. -/
theorem fetch_over_redirects {client : Client σ} {server : Server}
    {resolve : Resolution} {options : Options}
    (follows : client.Follows options server resolve) (disk : Disk) (s : Session σ)
    (given : String) :
    Settled server resolve client disk options s given
        (fetch client disk options s given).1
        (fetch client disk options s given).2 ∧
      (disk.Writable → Decided server resolve options.maxRedirects given
        (fetch client disk options s given).1) := by
  have fetched := fetched_fetch client disk options s given
  have settled : Settled server resolve client disk options s given
      (fetch client disk options s given).1
      (fetch client disk options s given).2 := {
    requests_le := by
      obtain ⟨asked, requests, of_transfer⟩ := fetched.requests_eq
      have few : asked.length ≤ options.maxRedirects + 1 := by
        obtain rfl | ⟨url, among⟩ := of_transfer
        · exact Nat.zero_le _
        · exact Nat.le_trans among.length_le
            (follows s.outside url.text).length_requests_le
      rw [requests, List.length_append]
      omega
    address_iff := fun e => fetch_eq_address_iff
    untouched := fun e refused => by rw [fetch_of_no_address refused]
    tempFile_iff := fun e => fetch_eq_tempFile_iff
    decided := decided_fetch follows
    left_of_ok := fun _ brought => fetched.files_of_ok brought []
    left_of_error := fun _ failed => fetched.files_of_error failed [] }
  refine ⟨settled, fun writable => settled.decided fun e spoilt => ?_⟩
  obtain ⟨url, -, spoils⟩ := (settled.tempFile_iff e).mp spoilt
  exact not_spoils_of_writable writable _ _ e spoils

/-- A server with a file, a redirect to it, and else only redirects in a loop. -/
def sampleServer : Server := fun address =>
  if address = "http://[::1]/app.sig" then .ok ⟨200, none, [80, 71, 80]⟩
  else if address = "http://[::1]/latest" then .ok ⟨302, some "/app.sig", [46]⟩
  else .ok ⟨301, some "/loop", []⟩

def sampleResolve : Resolution := fun _ location => .ok ("http://[::1]" ++ location)

/-- What may be taken for a download of the sample, with some redirects. -/
def allowing (limit : Nat) : Options :=
  ⟨.ofSeconds 120, .ofSeconds 30, limit⟩

/-- A disk on which there is room for one byte. -/
def narrowDisk : Disk :=
  { Disk.endless with
    write := fun events _ =>
      if .filled [80] ∈ events then
        some (0, .other "No space left on device (os error 28)" [])
      else none }

theorem exceeds_sample_loop (limit : Nat) :
    sampleServer.Exceeds sampleResolve limit "http://[::1]/loop" := by
  have answer : sampleServer "http://[::1]/loop" = .ok ⟨301, some "/loop", []⟩ := by
    decide
  have redirect : Response.redirect? ⟨301, some "/loop", []⟩ = some "/loop" := rfl
  induction limit with
  | zero => exact .here answer redirect
  | succ limit ih => exact .step answer redirect rfl ih

/-- One redirect leads to the file, which none may; on a narrow disk there is no file
nevertheless; and round the loop no limit is enough. -/
theorem fetch_over_sample :
    (fetch (.walking sampleServer sampleResolve) .endless (allowing 1)
        (Session.start ()) "http://[::1]/latest").1 = .ok ⟨[80, 71, 80], 3⟩ ∧
      (∃ e, (fetch (.walking sampleServer sampleResolve) .endless (allowing 0)
        (Session.start ()) "http://[::1]/latest").1 = .error (.transport e)) ∧
      (fetch (.walking sampleServer sampleResolve) narrowDisk (allowing 1)
        (Session.start ()) "http://[::1]/latest").1 =
          .error (.tempFile (.other "No space left on device (os error 28)" [])) ∧
      ∀ limit, ∃ e, (fetch (.walking sampleServer sampleResolve) .endless
        (allowing limit) (Session.start ()) "http://[::1]/loop").1 =
          .error (.transport e) := by
  have settled := fun disk limit given =>
    fetch_over_redirects
      (Client.walking_follows sampleServer sampleResolve (allowing limit)) disk
      (Session.start ()) given
  have decided := fun limit given =>
    (settled .endless limit given).2 Disk.endless_writable
  have latest : Url.parse "http://[::1]/latest" =
      .ok ⟨.http, "", "[::1]", none, ["latest"], none, none⟩ := by decide +kernel
  have loop : Url.parse "http://[::1]/loop" =
      .ok ⟨.http, "", "[::1]", none, ["loop"], none, none⟩ := by decide +kernel
  have redirecting : sampleServer "http://[::1]/latest" =
      .ok ⟨302, some "/app.sig", [46]⟩ := by decide
  have found : sampleServer "http://[::1]/app.sig" =
      .ok ⟨200, none, [80, 71, 80]⟩ := by decide
  refine ⟨?_, ?_, ?_, fun limit => ?_⟩
  · exact ((decided 1 _).ok_iff _).mpr ⟨_, ⟨200, none, [80, 71, 80]⟩, latest,
      .step redirecting rfl rfl (.here found rfl), by decide, by decide, rfl⟩
  · exact (decided 0 _).exceeds _ latest (.here redirecting rfl)
  · have second : Transfer.Refused narrowDisk
        (.other "No space left on device (os error 28)" []) [.created]
        (transferOf (.walking sampleServer sampleResolve) (allowing 1)
          (Session.start ()) ⟨.http, "", "[::1]", none, ["latest"], none, none⟩) :=
      .asks (.asks (.hands rfl (.here rfl)))
    exact ((settled narrowDisk 1 _).1.tempFile_iff _).mpr ⟨_, latest, .piece rfl second⟩
  · exact (decided limit _).exceeds _ loop (exceeds_sample_loop limit)

end Download

end IssuerAudit
