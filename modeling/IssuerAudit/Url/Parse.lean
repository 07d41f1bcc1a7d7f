import IssuerAudit.Text.Ascii
import IssuerAudit.Url.Basic
/-!
Reading addresses.  Blank space around an address and line breaks inside it are dropped
first.  What follows the scheme is then cut into authority, path, query and fragment,
and each is read by itself; of an address with a scheme that is not supported the
authority is still read, so an address that is no address at all is reported as such.
-/

namespace IssuerAudit.Url

/-- Holds of the characters that do not count at the ends of an address. -/
def isMargin (c : Char) : Bool :=
  c.toNat ≤ 0x20

/-- Holds of the characters that do not count anywhere in an address. -/
def isBreak (c : Char) : Bool :=
  c == '\t' || c == '\n' || c == '\r'

def clean (cs : List Char) : List Char :=
  let front := cs.dropWhile isMargin
  (front.reverse.dropWhile isMargin).reverse.filter (!isBreak ·)

/-- Holds of the characters of schemes behind the first, which is a letter. -/
def isSchemeChar (c : Char) : Bool :=
  c.isAlphanum || c == '+' || c == '-' || c == '.'

/-- Takes a scheme off, in small letters, with the colon behind it. -/
def takeScheme? (cs : List Char) : Option (String × List Char) :=
  match cs.takeWhile isSchemeChar, cs.dropWhile isSchemeChar with
  | c :: name, ':' :: rest =>
      if c.isAlpha then some (Text.lower (String.ofList (c :: name)), rest) else none
  | _, _ => none

/-- How the rest of an address is read, which depends on the scheme. -/
inductive Manner where
  /-- Slashes and backslashes mean the same, and there is a host. -/
  | web
  /-- As before, but the host may be missing. -/
  | local
  /-- There is an authority only behind two slashes. -/
  | other
  deriving DecidableEq, Repr

def manner (scheme : String) : Manner :=
  if ["http", "https", "ws", "wss", "ftp"].contains scheme then .web
  else if scheme = "file" then .local
  else .other

/-- Holds of slashes, and of backslashes where they mean the same. -/
def isSlash (backslash : Bool) (c : Char) : Bool :=
  c == '/' || (backslash && c == '\\')

def endsAuthority (backslash : Bool) (c : Char) : Bool :=
  isSlash backslash c || c == '?' || c == '#'

/-- Splits at the last sign that ends the name of a user, which belongs to neither part.
-/
def splitUser (cs : List Char) : Option (List Char) × List Char :=
  let host := (cs.reverse.takeWhile (· != '@')).reverse
  if host.length = cs.length then (none, cs)
  else (some (cs.take (cs.length - host.length - 1)), host)

/-- Name and password of a user with the sign that ends them, or nothing if both are
empty. -/
def userText (cs : List Char) : String :=
  let name := cs.takeWhile (· != ':')
  let password := (cs.dropWhile (· != ':')).drop 1
  let encoded := Percent.encode Percent.inUserInfo
  if name.isEmpty && password.isEmpty then ""
  else
    String.ofList
      (encoded name ++ (if password.isEmpty then [] else ':' :: encoded password) ++
        ['@'])

/-- Splits in front of the colon of a port; colons between brackets belong to the host. -/
def splitPort (inside : Bool) : List Char → List Char × List Char
  | [] => ([], [])
  | c :: rest =>
      if c = ':' ∧ !inside then ([], c :: rest)
      else
        let inside := if c = '[' then true else if c = ']' then false else inside
        let (host, port) := splitPort inside rest
        (c :: host, port)

def greatestPort : Nat := 65535

/-- Reads what follows a host: nothing, or a colon and perhaps a port.  A backslash ends
it. -/
def readPort (cs : List Char) : Except Reason (Option Nat) :=
  match cs with
  | [] => .ok none
  | _ :: rest =>
      let digits := rest.takeWhile (· != '\\')
      match natIn? 10 digits with
      | none => .error .badPort
      | some n =>
          if greatestPort < n then .error .badPort
          else if digits.isEmpty then .ok none
          else .ok (some n)

structure Authority where
  user : String
  host : String
  port : Option Nat
  deriving DecidableEq, Repr

/-- Reads an authority of a scheme that needs a host. -/
def readAuthority (cs : List Char) : Except Reason Authority := do
  let (user?, rest) := splitUser cs
  let (host, port) := splitPort false rest
  if host.isEmpty then .error .emptyHost
  else
    let host ← readHost host
    let port ← readPort port
    return ⟨userText (user?.getD []), host, port⟩

/-- Checks an authority of a scheme that is not known, in which all parts may be
missing, but not the host alone; `more` says whether anything follows. -/
def checkAuthority (cs : List Char) (more : Bool) : Except Reason Unit := do
  let (user?, rest) := splitUser cs
  let (host, port) := splitPort false rest
  if user? = some [] ∧ rest.isEmpty ∧ more then .error .emptyHost
  else
    let host ← readOpaqueHost host
    if host = "" ∧ (!port.isEmpty ∨ userText (user?.getD []) ≠ "") then .error .emptyHost
    else
      let _ ← readPort port
      return ()

/-- Holds of the two characters of a drive letter. -/
def isDrive : List Char → Bool
  | [c, d] => c.isAlpha && (d == ':' || d == '|')
  | _ => false

/-- Checks an address of a local file: only a host, if there is one, can be wrong. -/
def checkLocal (rest : List Char) : Except Reason Unit :=
  match rest with
  | a :: b :: rest =>
      if isSlash true a && isSlash true b then
        let host := rest.takeWhile (!endsAuthority true ·)
        if host.isEmpty || isDrive host then .ok ()
        else (readHost host).map fun _ => ()
      else .ok ()
  | _ => .ok ()

def checkUnsupported (scheme : String) (rest : List Char) : Except Reason Unit :=
  match manner scheme with
  | .web =>
      let rest := rest.dropWhile (isSlash true)
      (readAuthority (rest.takeWhile (!endsAuthority true ·))).map fun _ => ()
  | .local => checkLocal rest
  | .other =>
      match rest with
      | '/' :: '/' :: rest =>
          let authority := rest.takeWhile (!endsAuthority false ·)
          checkAuthority authority (authority.length < rest.length)
      | _ => .ok ()

inductive Step where
  | stay
  | back
  | into
  deriving DecidableEq, Repr

/-- What a segment means.  A dot may be encoded. -/
def stepOf (segment : List Char) : Step :=
  let small := segment.map Char.toLower
  if small = ['.'] ∨ small = "%2e".toList then .stay
  else if small = ['.', '.'] ∨ small = ".%2e".toList ∨ small = "%2e.".toList ∨
      small = "%2e%2e".toList then .back
  else .into

/-- Goes back one segment; `done` holds the segments gone into, last first.  There is no
way back from the root or from a drive letter. -/
def goBack (done : List (List Char)) : List (List Char) :=
  match done with
  | [] => []
  | segment :: before => if isDrive segment then segment :: before else before

/-- Walks along segments.  A way that ends in a dot segment ends in a directory. -/
def walk (done : List (List Char)) : List (List Char) → List (List Char)
  | [] => done.reverse
  | segment :: rest =>
      let ending := if rest.isEmpty then [[]] else []
      match stepOf segment with
      | .stay => walk (ending ++ done) rest
      | .back => walk (ending ++ goBack done) rest
      | .into => walk (Percent.encode Percent.inPath segment :: done) rest

def splitPath (cs : List Char) : List (List Char) :=
  Text.pieces '/' (cs.map fun c => if c = '\\' then '/' else c)

/-- Reads a path.  One slash at its front may be missing. -/
def readPath (cs : List Char) : List String :=
  let body := match cs with
    | '/' :: rest | '\\' :: rest => rest
    | _ => cs
  (walk [] (splitPath body)).map String.ofList

def readRest (scheme : Scheme) (rest : List Char) : Except Reason Url := do
  let rest := rest.dropWhile (isSlash true)
  let authority ← readAuthority (rest.takeWhile (!endsAuthority true ·))
  let rest := rest.dropWhile (!endsAuthority true ·)
  let path := rest.takeWhile fun c => c != '?' && c != '#'
  let query := (rest.drop path.length).takeWhile (· != '#')
  let fragment := rest.dropWhile (· != '#')
  let part (encoded : Char → Bool) : List Char → Option String
    | [] => none
    | _ :: cs => some (String.ofList (Percent.encode encoded cs))
  return {
    scheme
    user := authority.user
    host := authority.host
    port := if authority.port = some scheme.port then none else authority.port
    path := readPath path
    query := part Percent.inQuery query
    fragment := part Percent.inFragment fragment }

def supported? (name : String) : Option Scheme :=
  if name = "http" then some .http
  else if name = "https" then some .https
  else none

def parse (given : String) : Except UrlError Url :=
  match takeScheme? (clean given.toList) with
  | none => .error (.invalid given .noScheme)
  | some (scheme, rest) =>
      match supported? scheme with
      | some known => (readRest known rest).mapError (.invalid given)
      | none =>
          match checkUnsupported scheme rest with
          | .error reason => .error (.invalid given reason)
          | .ok () => .error (.unsupported scheme)

end IssuerAudit.Url
