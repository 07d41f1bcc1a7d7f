import IssuerAudit.Idna.Name
import IssuerAudit.Url.Address
import IssuerAudit.Url.Percent
/-!
Hosts of addresses: domain names and network addresses.
-/

namespace IssuerAudit.Url

inductive Reason where
  /-- It does not say by which scheme it is meant. -/
  | noScheme
  | emptyHost
  | badPort
  | badV4
  | badV6
  /-- A character may not stand in a host of an unknown scheme. -/
  | badCharacter
  | badName
  deriving DecidableEq, Repr

def Reason.text : Reason → String
  | .noScheme => "relative URL without a base"
  | .emptyHost => "empty host"
  | .badPort => "invalid port number"
  | .badV4 => "invalid IPv4 address"
  | .badV6 => "invalid IPv6 address"
  | .badCharacter => "invalid domain character"
  | .badName => "invalid international domain name"

/-- The text of the address of version 6 in a host that starts with a bracket. -/
def bracketed? (cs : List Char) : Option (List Char) :=
  match cs.getLast? with
  | some ']' => some cs.dropLast
  | _ => none

/-- Reads an address of version 6 from behind its bracket. -/
def readBracketed (cs : List Char) : Except Reason String :=
  match (bracketed? cs).bind v6? with
  | some groups => .ok ("[" ++ v6Text groups ++ "]")
  | none => .error .badV6

/-- Reads a host of one of the schemes that are known: the normal form of its text. -/
def readHost (cs : List Char) : Except Reason String :=
  match cs with
  | '[' :: rest => readBracketed rest
  | _ =>
      match Text.Utf8.decode? (Percent.decode (Text.Utf8.encode cs)) with
      | none => .error .badName
      | some name =>
          match Idna.toAscii? (name.map Char.toNat) with
          | none => .error .badName
          | some ascii =>
              let host := ascii.map Char.ofNat
              if host.isEmpty then .error .emptyHost
              else if endsInNumber host then
                match v4? host with
                | some address => .ok (v4Text address)
                | none => .error .badV4
              else .ok (String.ofList host)

/-- Holds of the characters that may not stand in a host of any scheme. -/
def isHostBreaker (c : Char) : Bool :=
  c == '\x00' || c == '\t' || c == '\n' || c == '\r' ||
    [' ', '#', '/', ':', '<', '>', '?', '@', '[', '\\', ']', '^', '|'].contains c

/-- Reads a host of a scheme that is not known, of which only the form is looked at. -/
def readOpaqueHost (cs : List Char) : Except Reason String :=
  match cs with
  | '[' :: rest => readBracketed rest
  | _ =>
      if cs.any isHostBreaker then .error .badCharacter
      else .ok (String.ofList (Percent.encode Percent.isControl cs))

end IssuerAudit.Url
