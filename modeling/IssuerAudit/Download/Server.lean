import IssuerAudit.Download.Transfer
/-!
Servers that answer the same request always in the same way, where their redirects lead,
and what it is to follow these.
-/

namespace IssuerAudit

/-- Where the file is said to be instead.  A location in an answer that is no redirect
says nothing, and no more does an empty one. -/
def Response.redirect? (r : Response) : Option String :=
  if 300 ≤ r.status ∧ r.status < 400 then r.location.filter (· ≠ "") else none

/-- What comes of one request for an address: its last answer, as a client understands
it, or an error. -/
abbrev Server : Type := String → Except TransportError Response

/-- The address that a location stands for in an answer from some address, or why there
is none that can be asked. -/
abbrev Resolution : Type := String → String → Except TransportError String

namespace Server

variable (server : Server) (resolve : Resolution)

/-- Holds if at most `limit` redirects lead from an address to an answer that is no
redirect. -/
inductive Leads : Nat → String → Response → Prop
  | here {limit : Nat} {address : String} {response : Response}
      (answer : server address = .ok response) (last : response.redirect? = none) :
      Leads limit address response
  | step {limit : Nat} {address next location : String} {response last : Response}
      (answer : server address = .ok response)
      (redirect : response.redirect? = some location)
      (target : resolve address location = .ok next) (rest : Leads limit next last) :
      Leads (limit + 1) address last

/-- Holds if more than `limit` redirects follow one another from an address. -/
inductive Exceeds : Nat → String → Prop
  | here {address location : String} {response : Response}
      (answer : server address = .ok response)
      (redirect : response.redirect? = some location) : Exceeds 0 address
  | step {limit : Nat} {address next location : String} {response : Response}
      (answer : server address = .ok response)
      (redirect : response.redirect? = some location)
      (target : resolve address location = .ok next) (rest : Exceeds limit next) :
      Exceeds (limit + 1) address

/-- Holds of the error that at most `limit` redirects from an address run into: a server
that gives no answer, or a redirect to what cannot be asked. -/
inductive Fails : Nat → String → TransportError → Prop
  | here {limit : Nat} {address : String} {e : TransportError}
      (answer : server address = .error e) : Fails limit address e
  | astray {limit : Nat} {address location : String} {response : Response}
      {e : TransportError} (answer : server address = .ok response)
      (redirect : response.redirect? = some location)
      (target : resolve address location = .error e) : Fails (limit + 1) address e
  | step {limit : Nat} {address next location : String} {response : Response}
      {e : TransportError} (answer : server address = .ok response)
      (redirect : response.redirect? = some location)
      (target : resolve address location = .ok next) (rest : Fails limit next e) :
      Fails (limit + 1) address e

end Server

namespace Transfer

variable {σ : Type}

/-- Holds if a transfer makes no request behind number `i` and ends with an answer. -/
structure EndsAt (t : Transfer σ) (i : Nat) (answer : Except TransportError Response) :
    Prop where
  requests : t.requests.length = i + 1
  answer : t.finish.answer = answer

/-- Says what a transfer makes of each of its requests, number `i` of them for the
address `a`, if it follows redirects from an address up to a limit.  Number `i` is made
after `i` redirects. -/
structure Follows (server : Server) (resolve : Resolution) (limit : Nat)
    (address : String) (t : Transfer σ) : Prop where
  first : t.requests[0]? = some address
  /-- An error ends the transfer. -/
  failure : ∀ i a e, t.requests[i]? = some a → server a = .error e →
    t.EndsAt i (.error e)
  /-- So does an answer that is no redirect. -/
  last : ∀ i a r, t.requests[i]? = some a → server a = .ok r → r.redirect? = none →
    t.EndsAt i (.ok r)
  /-- Where a redirect leads is asked for next, as long as the limit is not reached. -/
  redirect : ∀ i a r location next, t.requests[i]? = some a → server a = .ok r →
    r.redirect? = some location → i < limit → resolve a location = .ok next →
      t.requests[i + 1]? = some next
  /-- A redirect to what cannot be asked ends the transfer. -/
  astray : ∀ i a r location e, t.requests[i]? = some a → server a = .ok r →
    r.redirect? = some location → i < limit → resolve a location = .error e →
      t.EndsAt i (.error e)
  /-- At the limit every redirect ends it with an error. -/
  beyond : ∀ a r location, t.requests[limit]? = some a → server a = .ok r →
    r.redirect? = some location → ∃ e, t.EndsAt limit (.error e)

end Transfer

/-- Holds of a client that follows redirects under some options, whatever it is asked for
and in whatever state of the outside. -/
def Client.Follows {σ : Type} (client : Client σ) (options : Download.Options)
    (server : Server) (resolve : Resolution) : Prop :=
  ∀ outside address, (client.perform options outside address).Follows server resolve
    options.maxRedirects address

end IssuerAudit
