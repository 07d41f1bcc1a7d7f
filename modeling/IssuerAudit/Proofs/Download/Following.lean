import IssuerAudit.Download.Server
/-!
What a client finds that follows redirects.  The rules that it keeps speak of one
request at a time; from them it follows by induction that a transfer ends with the
answer that redirects lead to, or else with an error (`Follows.answer_eq_ok_iff`), and
that it is over after one request more than the redirects that are allowed.
-/

namespace IssuerAudit

namespace Server

/-- From an address redirects lead to an answer, or there are too many of them, or they
run into an error. -/
theorem leads_or_exceeds_or_fails (server : Server) (resolve : Resolution)
    (limit : Nat) (address : String) :
    (∃ last, server.Leads resolve limit address last) ∨
      server.Exceeds resolve limit address ∨
        ∃ e, server.Fails resolve limit address e := by
  induction limit generalizing address with
  | zero =>
      cases answer : server address with
      | error e => exact .inr (.inr ⟨e, .here answer⟩)
      | ok response =>
          cases redirect : response.redirect? with
          | none => exact .inl ⟨response, .here answer redirect⟩
          | some location => exact .inr (.inl (.here answer redirect))
  | succ limit ih =>
      cases answer : server address with
      | error e => exact .inr (.inr ⟨e, .here answer⟩)
      | ok response =>
          cases redirect : response.redirect? with
          | none => exact .inl ⟨response, .here answer redirect⟩
          | some location =>
              cases target : resolve address location with
              | error e => exact .inr (.inr ⟨e, .astray answer redirect target⟩)
              | ok next =>
                  obtain ⟨last, leads⟩ | many | ⟨e, fails⟩ := ih next
                  · exact .inl ⟨last, .step answer redirect target leads⟩
                  · exact .inr (.inl (.step answer redirect target many))
                  · exact .inr (.inr ⟨e, .step answer redirect target fails⟩)

end Server

namespace Transfer.Follows

variable {σ : Type} {server : Server} {resolve : Resolution} {limit : Nat}
  {address : String} {t : Transfer σ}

section Walks

variable {left i : Nat} {a : String}

/-- With `left` redirects to go a transfer ends with the answer they lead to. -/
theorem answer_of_leads_at (h : t.Follows server resolve limit address)
    {last : Response} (leads : server.Leads resolve left a last)
    (gone : i + left = limit) (here : t.requests[i]? = some a) :
    t.finish.answer = .ok last := by
  induction leads generalizing i with
  | here answer last => exact (h.last i _ _ here answer last).answer
  | step answer redirect target rest ih =>
      have next := h.redirect i _ _ _ _ here answer redirect (by omega) target
      exact ih (by omega) next

theorem answer_of_exceeds_at (h : t.Follows server resolve limit address)
    (many : server.Exceeds resolve left a) (gone : i + left = limit)
    (here : t.requests[i]? = some a) : ∃ e, t.finish.answer = .error e := by
  induction many generalizing i with
  | here answer redirect =>
      obtain rfl : i = limit := gone
      obtain ⟨e, ended⟩ := h.beyond _ _ _ here answer redirect
      exact ⟨e, ended.answer⟩
  | step answer redirect target rest ih =>
      have next := h.redirect i _ _ _ _ here answer redirect (by omega) target
      exact ih (by omega) next

theorem answer_of_fails_at (h : t.Follows server resolve limit address)
    {e : TransportError} (fails : server.Fails resolve left a e)
    (gone : i + left = limit) (here : t.requests[i]? = some a) :
    t.finish.answer = .error e := by
  induction fails generalizing i with
  | here answer => exact (h.failure i _ _ here answer).answer
  | astray answer redirect target =>
      exact (h.astray i _ _ _ _ here answer redirect (by omega) target).answer
  | step answer redirect target rest ih =>
      have next := h.redirect i _ _ _ _ here answer redirect (by omega) target
      exact ih (by omega) next

end Walks

/-- A transfer ends with an answer just if redirects lead to it. -/
theorem answer_eq_ok_iff (h : t.Follows server resolve limit address)
    {last : Response} :
    t.finish.answer = .ok last ↔ server.Leads resolve limit address last := by
  constructor
  · intro found
    obtain ⟨other, leads⟩ | many | ⟨e, fails⟩ :=
      server.leads_or_exceeds_or_fails resolve limit address
    · have got := h.answer_of_leads_at leads (Nat.zero_add _) h.first
      cases found.symm.trans got
      exact leads
    · obtain ⟨e, failed⟩ := h.answer_of_exceeds_at many (Nat.zero_add _) h.first
      cases found.symm.trans failed
    · have failed := h.answer_of_fails_at fails (Nat.zero_add _) h.first
      cases found.symm.trans failed
  · intro leads
    exact h.answer_of_leads_at leads (Nat.zero_add _) h.first

theorem answer_of_fails (h : t.Follows server resolve limit address)
    {e : TransportError} (fails : server.Fails resolve limit address e) :
    t.finish.answer = .error e :=
  h.answer_of_fails_at fails (Nat.zero_add _) h.first

/-- A transfer ends with an error just if there are too many redirects, or if they run
into an error. -/
theorem exists_answer_eq_error_iff (h : t.Follows server resolve limit address) :
    (∃ e, t.finish.answer = .error e) ↔ server.Exceeds resolve limit address ∨
      ∃ e, server.Fails resolve limit address e := by
  constructor
  · rintro ⟨e, failed⟩
    obtain ⟨last, leads⟩ | broken :=
      server.leads_or_exceeds_or_fails resolve limit address
    · cases failed.symm.trans (h.answer_eq_ok_iff.mpr leads)
    · exact broken
  · rintro (many | ⟨e, fails⟩)
    · exact h.answer_of_exceeds_at many (Nat.zero_add _) h.first
    · exact ⟨e, h.answer_of_fails fails⟩

/-- Behind the last redirect that is allowed there is one request, and whatever comes of
it the transfer is over. -/
theorem length_requests_le (h : t.Follows server resolve limit address) :
    t.requests.length ≤ limit + 1 := by
  apply Nat.le_of_not_lt
  intro many
  have within : limit < t.requests.length := Nat.lt_of_succ_lt many
  obtain ⟨a, here⟩ : ∃ a, t.requests[limit]? = some a :=
    ⟨_, List.getElem?_eq_getElem within⟩
  have exists_end : ∃ answer, t.EndsAt limit answer := by
    cases answer : server a with
    | error e => exact ⟨_, h.failure limit a e here answer⟩
    | ok response =>
        cases redirect : response.redirect? with
        | none => exact ⟨_, h.last limit a response here answer redirect⟩
        | some location =>
            obtain ⟨e, ended⟩ := h.beyond a response location here answer redirect
            exact ⟨_, ended⟩
  obtain ⟨answer, ended⟩ := exists_end
  have length := ended.requests
  omega

end Transfer.Follows

end IssuerAudit
