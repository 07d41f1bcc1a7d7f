import IssuerAudit.Text.Quoted
import IssuerAudit.Url.Host
/-!
Addresses of files on the web.  An address is read into its parts, each in its normal
form, so two spellings of one address are one value; only the schemes `http` and `https`
are supported.
-/

namespace IssuerAudit

inductive Scheme where
  | http
  | https
  deriving DecidableEq, Repr

def Scheme.name : Scheme → String
  | .http => "http"
  | .https => "https"

/-- The port that is meant where none is named. -/
def Scheme.port : Scheme → Nat
  | .http => 80
  | .https => 443

/-- An address.  All texts are in their encoded form. -/
structure Url where
  scheme : Scheme
  /-- Name and password of a user, with the sign that ends them, or nothing. -/
  user : String
  host : String
  /-- The port, unless it is the one of the scheme. -/
  port : Option Nat
  /-- The segments of the path; there is a slash in front of each. -/
  path : List String
  query : Option String
  fragment : Option String
  deriving DecidableEq, Repr

inductive UrlError where
  | invalid (given : String) (reason : Url.Reason)
  | unsupported (scheme : String)
  deriving DecidableEq, Repr

def UrlError.text : UrlError → String
  | .invalid given reason =>
      "invalid URL " ++ Text.Quoted.encode given ++ ": " ++ reason.text
  | .unsupported scheme =>
      "unsupported URL scheme " ++ Text.Quoted.encode scheme ++
        " (expected http or https)"

def UrlError.chain (e : UrlError) : List String :=
  match e with
  | .invalid _ reason => [e.text, reason.text]
  | .unsupported _ => [e.text]

namespace Url

def portText : Option Nat → String
  | none => ""
  | some n => ":" ++ toString n

def pathText (segments : List String) : String :=
  String.join (segments.map ("/" ++ ·))

/-- What a server is asked for: the path with the query, without the fragment. -/
def target (u : Url) : String :=
  pathText u.path ++
    (match u.query with
      | none => ""
      | some q => "?" ++ q)

/-- The part of an address in front of the path. -/
def origin (u : Url) : String :=
  u.scheme.name ++ "://" ++ u.user ++ u.host ++ portText u.port

def text (u : Url) : String :=
  u.origin ++ u.target ++
    (match u.fragment with
      | none => ""
      | some f => "#" ++ f)

end Url

end IssuerAudit
