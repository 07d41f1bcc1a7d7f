import IssuerAudit.Idna.Classes
import IssuerAudit.Idna.Mapping
import IssuerAudit.Idna.Punycode
/-!
Internationalized domain names in ASCII.  A name is mapped and brought into its normal
form, checked label by label, and the labels that go beyond ASCII are written in
Punycode behind `xn--`.
-/

namespace IssuerAudit.Idna

/-- The codes of the characters of a text. -/
def codes (s : String) : List Nat :=
  s.toList.map Char.toNat

/-- What a label in Punycode starts with. -/
def acePrefix : List Nat := codes "xn--"

def splitOn (sep : Nat) : List Nat → List (List Nat)
  | [] => [[]]
  | n :: rest =>
      if n = sep then [] :: splitOn sep rest
      else
        match splitOn sep rest with
        | [] => [[n]]
        | first :: more => (n :: first) :: more

def joinWith (sep : Nat) : List (List Nat) → List Nat
  | [] => []
  | [x] => x
  | x :: rest => x ++ sep :: joinWith sep rest

/-- Holds of the characters that no domain name may have, in any writing. -/
def isForbidden (n : Nat) : Bool :=
  n ≤ 0x20 || n == 0x7F || (codes "%#/:<>?@[\\]^|").contains n

/-- Holds of texts that mapping leaves as they are and that are in their normal form. -/
def isStable (label : List Nat) : Bool :=
  label.all (fun n => fate n == .kept) && normalForm label == label

/-- The joiner that keeps letters apart. -/
def nonJoiner : Nat := 0x200C

/-- The joiner that draws letters together. -/
def joiner : Nat := 0x200D

/-- Holds if each joiner stands where it makes a difference: behind a sign that takes
the vowel off, or, for the one that keeps letters apart, between letters that would
join.  `before` holds what stands before, last first. -/
def joinersFit (before : List Nat) : List Nat → Bool
  | [] => true
  | n :: rest =>
      let behindVirama := before.head?.any isVirama
      let betweenLetters :=
        (before.find? (!isTransparent ·)).any joinsOnward &&
          (rest.find? (!isTransparent ·)).any joinsBackward
      let fits :=
        if n = joiner then behindVirama
        else if n = nonJoiner then behindVirama || betweenLetters
        else true
      fits && joinersFit (n :: before) rest

/-- Holds if the directions in a label go together, which matters in names with a label
from right to left. -/
def directionsFit (label : List Nat) : Bool :=
  let ds := label.map direction
  let last? := (ds.reverse.dropWhile (· == .mark)).head?
  match ds with
  | [] => true
  | .right :: _ =>
      ds.all (fun d => d != .left && d != .separator) &&
        (last? == some .right || last? == some .digit || last? == some .arabicDigit) &&
        !(ds.contains .digit && ds.contains .arabicDigit)
  | .left :: _ =>
      ds.all (fun d => d == .left || d == .digit || d == .neutral || d == .mark) &&
        (last? == some .left || last? == some .digit)
  | _ => false

/-- Holds of labels that need a name to be looked at for its directions. -/
def runsRight (label : List Nat) : Bool :=
  label.any fun n => direction n == .right || direction n == .arabicDigit

/-- A label as it reads, and as it is written in ASCII. -/
structure Label where
  reads : List Nat
  written : List Nat
  deriving DecidableEq, Repr

def isAscii (label : List Nat) : Bool :=
  label.all Punycode.isBasic

/-- Holds of labels beyond ASCII whose characters stand where they may. -/
def placesFit (label : List Nat) : Bool :=
  !(label.head?.any isMark) && joinersFit [] label

/-- Takes a mapped label apart.  One that comes in Punycode has to be just what would be
written for what it reads. -/
def Label.of? (label : List Nat) : Option Label :=
  if acePrefix.isPrefixOf label then
    if !isAscii label then none
    else
      match Punycode.decode? (label.drop acePrefix.length) with
      | none => none
      | some reads =>
          if !isAscii reads && isStable reads && placesFit reads then some ⟨reads, label⟩
          else none
  else if isAscii label then some ⟨label, label⟩
  else if placesFit label then some ⟨label, acePrefix ++ Punycode.encode label⟩
  else none

/-- A domain name in ASCII, or nothing if the name is not allowed. -/
def toAscii? (name : List Nat) : Option (List Nat) :=
  match mapAll name with
  | none => none
  | some mapped =>
      match (splitOn 0x2E (normalForm mapped)).mapM Label.of? with
      | none => none
      | some labels =>
          let written := joinWith 0x2E (labels.map (·.written))
          let reads := labels.map (·.reads)
          if written.any isForbidden then none
          else if reads.any (fun l => l.any isForbidden) then none
          else if reads.any runsRight && !reads.all directionsFit then none
          else some written

end IssuerAudit.Idna
