/-!
Whole numbers of a limited size in decimal digits.  Reading goes from left to right and
stops at the first thing that is wrong, so a text may be refused for its size before a
wrong character in it is seen.
-/

namespace IssuerAudit.Unsigned

/-- Why a text is no number of the size wanted. -/
inductive Fault where
  | empty
  | badDigit
  | tooLarge
  deriving DecidableEq, Repr

def Fault.text : Fault → String
  | .empty => "cannot parse integer from empty string"
  | .badDigit => "invalid digit found in string"
  | .tooLarge => "number too large to fit in target type"

/-- Reads digits of a number below `bound`, of which the part in front has the value
`n`. -/
def readDigits (bound n : Nat) : List Char → Except Fault Nat
  | [] => .ok n
  | c :: rest =>
      if c.isDigit then
        let next := n * 10 + (c.toNat - '0'.toNat)
        if next < bound then readDigits bound next rest else .error .tooLarge
      else .error .badDigit

/-- Reads a number below `bound`.  A plus sign may stand in front, but not alone. -/
def read (bound : Nat) (cs : List Char) : Except Fault Nat :=
  match cs with
  | [] => .error .empty
  | ['+'] => .error .badDigit
  | '+' :: digits => readDigits bound 0 digits
  | digits => readDigits bound 0 digits

end IssuerAudit.Unsigned
