import IssuerAudit.Download.Server
/-!
A client for every server that follows its redirects, one after the other, and hands over
the last body byte by byte.  That it keeps the rules of a client that follows redirects
is shown by induction on the limit: `Client.walking_follows`.
-/

namespace IssuerAudit

namespace Transfer

variable {σ : Type}

/-- The error of a transfer of which a piece is not taken. -/
def notTaken : TransportError :=
  ⟨23, "Failed writing received data to disk/application"⟩

/-- The error of a transfer that runs into a redirect more than is allowed. -/
def tooMany : TransportError :=
  ⟨47, "Number of redirects hit maximum amount"⟩

/-- A transfer that hands over a body byte by byte. -/
def handing (refused finish : Finish σ) : List UInt8 → Transfer σ
  | [] => .ends finish
  | byte :: rest => .hands [byte] refused (handing refused finish rest)

section Handing

variable (refused finish : Finish σ) (body : List UInt8)

theorem finish_handing : (handing refused finish body).finish = finish := by
  induction body with
  | nil => rfl
  | cons byte rest ih => exact ih

theorem requests_handing : (handing refused finish body).requests = [] := by
  induction body with
  | nil => rfl
  | cons byte rest ih => exact ih

theorem flatten_pieces_handing : (handing refused finish body).pieces.flatten = body := by
  induction body with
  | nil => rfl
  | cons byte rest ih => exact congrArg (byte :: ·) ih

end Handing

section Along

variable (server : Server) (resolve : Resolution) (outside : σ)

/-- Where the answer from an address leads. -/
def next? (address : String) : Option String :=
  match server address with
  | .error _ => none
  | .ok response =>
      response.redirect?.bind fun location => (resolve address location).toOption

/-- What comes behind the last request of a transfer. -/
def closing (limit : Nat) (address : String) : Transfer σ :=
  match server address with
  | .error e => .ends ⟨.error e, outside⟩
  | .ok response =>
      match response.redirect? with
      | none =>
          handing ⟨.error notTaken, outside⟩ ⟨.ok response, outside⟩ response.body
      | some location =>
          match limit, resolve address location with
          | _ + 1, .error e => .ends ⟨.error e, outside⟩
          | _, _ => .ends ⟨.error tooMany, outside⟩

/-- The transfer that walks from an address along redirects. -/
def along : Nat → String → Transfer σ
  | 0, address => .asks address (closing server resolve outside 0 address)
  | limit + 1, address =>
      .asks address <|
        match next? server resolve address with
        | some next => along limit next
        | none => closing server resolve outside (limit + 1) address

theorem requests_closing (limit : Nat) (address : String) :
    (closing server resolve outside limit address).requests = [] := by
  unfold closing
  split
  · rfl
  · split
    · exact requests_handing _ _ _
    · split <;> rfl

variable {server resolve} {limit : Nat} {address : String}

/-- A transfer keeps the rules that makes one request only and ends with what that
request and the limit demand. -/
theorem follows_of_requests_eq {t : Transfer σ} (asked : t.requests = [address])
    (failure : ∀ e, server address = .error e → t.finish.answer = .error e)
    (last : ∀ r, server address = .ok r → r.redirect? = none →
      t.finish.answer = .ok r)
    (astray : ∀ r location, server address = .ok r → r.redirect? = some location →
      0 < limit →
      ∃ e, resolve address location = .error e ∧ t.finish.answer = .error e)
    (beyond : ∀ r location, server address = .ok r → r.redirect? = some location →
      limit = 0 → ∃ e, t.finish.answer = .error e) :
    t.Follows server resolve limit address := by
  have only : ∀ {i a}, t.requests[i]? = some a → i = 0 ∧ a = address := by
    intro i a here
    rw [asked] at here
    cases i with
    | zero => exact ⟨rfl, (Option.some.inj here).symm⟩
    | succ i => cases here
  have one : t.requests.length = 0 + 1 := congrArg List.length asked
  refine ⟨by rw [asked]; rfl, ?_, ?_, ?_, ?_, ?_⟩
  · intro i a e here answer
    obtain ⟨rfl, rfl⟩ := only here
    exact ⟨one, failure e answer⟩
  · intro i a r here answer isLast
    obtain ⟨rfl, rfl⟩ := only here
    exact ⟨one, last r answer isLast⟩
  · intro i a r location next here answer redirect more target
    obtain ⟨rfl, rfl⟩ := only here
    obtain ⟨e, failed, -⟩ := astray r location answer redirect more
    cases failed.symm.trans target
  · intro i a r location e here answer redirect more target
    obtain ⟨rfl, rfl⟩ := only here
    obtain ⟨e', failed, ended⟩ := astray r location answer redirect more
    cases failed.symm.trans target
    exact ⟨one, ended⟩
  · intro a r location here answer redirect
    obtain ⟨none_left, rfl⟩ := only here
    obtain ⟨e, ended⟩ := beyond r location answer redirect none_left
    exact ⟨e, none_left.symm ▸ ⟨one, ended⟩⟩

theorem EndsAt.asks {t : Transfer σ} {i : Nat}
    {answer : Except TransportError Response} (h : t.EndsAt i answer) :
    (Transfer.asks address t).EndsAt (i + 1) answer :=
  ⟨congrArg (· + 1) h.requests, h.answer⟩

/-- With one redirect more in front a transfer keeps the rules up to a limit that is
greater by one. -/
theorem Follows.asks {t : Transfer σ} {next location : String} {response : Response}
    (h : t.Follows server resolve limit next) (answer : server address = .ok response)
    (redirect : response.redirect? = some location)
    (target : resolve address location = .ok next) :
    (Transfer.asks address t).Follows server resolve (limit + 1) address where
  first := rfl
  failure i a e here failed := by
    cases i with
    | zero =>
        cases here
        cases answer.symm.trans failed
    | succ i => exact (h.failure i a e here failed).asks
  last i a r here found isLast := by
    cases i with
    | zero =>
        cases here
        cases answer.symm.trans found
        cases redirect.symm.trans isLast
    | succ i => exact (h.last i a r here found isLast).asks
  redirect i a r place other here found again more leads := by
    cases i with
    | zero =>
        cases here
        cases answer.symm.trans found
        cases redirect.symm.trans again
        cases target.symm.trans leads
        exact h.first
    | succ i => exact h.redirect i a r place other here found again (by omega) leads
  astray i a r place e here found again more lost := by
    cases i with
    | zero =>
        cases here
        cases answer.symm.trans found
        cases redirect.symm.trans again
        cases target.symm.trans lost
    | succ i => exact (h.astray i a r place e here found again (by omega) lost).asks
  beyond a r place here found again := by
    obtain ⟨e, ended⟩ := h.beyond a r place here found again
    exact ⟨e, ended.asks⟩

theorem next?_eq_some_iff {next : String} :
    next? server resolve address = some next ↔ ∃ response location,
      server address = .ok response ∧ response.redirect? = some location ∧
        resolve address location = .ok next := by
  unfold next?
  cases answer : server address with
  | error e => simp
  | ok response =>
      cases redirect : response.redirect? with
      | none => simp [redirect]
      | some location =>
          cases target : resolve address location <;>
            simp [redirect, target, Except.toOption]

/-- A transfer that need not go on keeps the rules if it closes. -/
theorem closing_follows
    (stays : limit = 0 ∨ next? server resolve address = none) :
    (asks address (closing server resolve outside limit address)).Follows server
      resolve limit address := by
  have asked : (asks address (closing server resolve outside limit address)).requests =
      [address] := congrArg (address :: ·) (requests_closing _ _ _ _ _)
  apply follows_of_requests_eq asked
  · intro e answer
    simp [finish, closing, answer]
  · intro r answer isLast
    simp [finish, closing, answer, isLast, finish_handing]
  · intro r location answer redirect more
    cases target : resolve address location with
    | error e =>
        obtain ⟨left, rfl⟩ := Nat.exists_eq_succ_of_ne_zero (Nat.ne_of_gt more)
        exact ⟨e, rfl, by simp [finish, closing, answer, redirect, target]⟩
    | ok next =>
        have leads := next?_eq_some_iff.mpr ⟨r, location, answer, redirect, target⟩
        obtain rfl | ended := stays
        · cases more
        · cases ended.symm.trans leads
  · rintro r location answer redirect rfl
    exact ⟨tooMany, by simp [finish, closing, answer, redirect]⟩

theorem along_follows (limit : Nat) (address : String) :
    (along server resolve outside limit address).Follows server resolve limit
      address := by
  induction limit generalizing address with
  | zero => exact closing_follows outside (.inl rfl)
  | succ limit ih =>
      rw [along]
      cases leads : next? server resolve address with
      | none => exact closing_follows outside (.inr leads)
      | some next =>
          obtain ⟨response, location, answer, redirect, target⟩ :=
            next?_eq_some_iff.mp leads
          exact (ih next).asks answer redirect target

theorem flatten_pieces_closing {last : Response}
    (h : (closing server resolve outside limit address).finish.answer = .ok last) :
    (closing server resolve outside limit address).pieces.flatten = last.body := by
  unfold closing at h ⊢
  split at h
  · cases h
  · split at h
    · rw [finish_handing] at h
      cases h
      exact flatten_pieces_handing _ _ _
    · split at h <;> cases h

/-- The body that is handed over is the one of the answer. -/
theorem flatten_pieces_along (limit : Nat) (address : String) {last : Response}
    (h : (along server resolve outside limit address).finish.answer = .ok last) :
    (along server resolve outside limit address).pieces.flatten = last.body := by
  induction limit generalizing address with
  | zero => exact flatten_pieces_closing outside h
  | succ limit ih =>
      rw [along] at h ⊢
      cases leads : next? server resolve address with
      | none =>
          rw [leads] at h
          exact flatten_pieces_closing outside h
      | some next =>
          rw [leads] at h
          exact ih next h

end Along

end Transfer

/-- A client that walks along the redirects of a server. -/
def Client.walking (server : Server) (resolve : Resolution) : Client Unit where
  perform options outside address :=
    .along server resolve outside options.maxRedirects address
  complete options outside address _ found :=
    Transfer.flatten_pieces_along outside options.maxRedirects address found

/-- Whatever the server, there is a client that follows its redirects. -/
theorem Client.walking_follows (server : Server) (resolve : Resolution)
    (options : Download.Options) :
    (Client.walking server resolve).Follows options server resolve :=
  fun outside address => Transfer.along_follows outside options.maxRedirects address

end IssuerAudit
