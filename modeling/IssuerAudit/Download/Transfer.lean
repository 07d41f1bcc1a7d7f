/-!
Transfers over the web.  They are performed by a client, which is asked for one address
and does the rest by itself: it may ask other addresses on the way, hands over the body
of the last answer in pieces, and ends with that answer or with an error.
-/

namespace IssuerAudit

structure Span where
  seconds : Nat
  /-- What there is beyond whole seconds. -/
  nanoseconds : Nat
  deriving DecidableEq, Repr

def Span.ofSeconds (n : Nat) : Span := ⟨n, 0⟩

structure Download.Options where
  /-- Until all is there. -/
  timeout : Span
  /-- Until a connection stands. -/
  connectTimeout : Span
  maxRedirects : Nat
  deriving DecidableEq, Repr

/-- What a client takes for the answer to a request. -/
structure Response where
  status : Nat
  /-- Where the file is to be found instead, if the answer says so. -/
  location : Option String
  body : List UInt8
  deriving DecidableEq, Repr

/-- Holds of the answers that bring a file. -/
def Response.isSuccess (r : Response) : Bool :=
  200 ≤ r.status && r.status < 300

/-- Why a client has no answer, in its own words. -/
structure TransportError where
  code : Nat
  words : String
  deriving DecidableEq, Repr

def TransportError.text (e : TransportError) : String :=
  "[" ++ toString e.code ++ "] " ++ e.words

/-- How a transfer is over, with the state in which that leaves the outside. -/
structure Finish (σ : Type) where
  answer : Except TransportError Response
  outside : σ

/-- A transfer, step by step. -/
inductive Transfer (σ : Type) where
  | ends (finish : Finish σ)
  | asks (address : String) (rest : Transfer σ)
  /-- A piece of a body is handed over; if it is not taken the transfer is over. -/
  | hands (piece : List UInt8) (refused : Finish σ) (rest : Transfer σ)

namespace Transfer

variable {σ : Type}

/-- How a transfer is over if all of its pieces are taken. -/
def finish : Transfer σ → Finish σ
  | .ends finish => finish
  | .asks _ rest => rest.finish
  | .hands _ _ rest => rest.finish

def requests : Transfer σ → List String
  | .ends _ => []
  | .asks address rest => address :: rest.requests
  | .hands _ _ rest => rest.requests

def pieces : Transfer σ → List (List UInt8)
  | .ends _ => []
  | .asks _ rest => rest.pieces
  | .hands piece _ rest => piece :: rest.pieces

end Transfer

/-- A client, with states of the outside in `σ`. -/
structure Client (σ : Type) where
  perform : Download.Options → σ → String → Transfer σ
  /-- The pieces make up the body of the answer, in whatever way it is cut. -/
  complete : ∀ options s address response,
    (perform options s address).finish.answer = .ok response →
      (perform options s address).pieces.flatten = response.body

def Client.unconnected : Client Unit where
  perform _ _ address :=
    .asks address (.ends ⟨.error ⟨7, "Could not connect to server"⟩, ()⟩)
  complete := nofun

end IssuerAudit
