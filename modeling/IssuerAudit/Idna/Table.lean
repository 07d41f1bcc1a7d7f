import IssuerAudit.Text.Hex
/-!
Tables of characters, written as rows of numbers in base sixteen with blanks between them.
-/

namespace IssuerAudit.Idna

/-- Reads numbers; `open?` is the value of the digits since the last blank, if there are
any. -/
def readNumbers (open? : Option Nat) : List Char → List Nat
  | [] => open?.toList
  | c :: rest =>
      match Text.hexValue? c with
      | some d => readNumbers (some (open?.getD 0 * 16 + d)) rest
      | none =>
          match open? with
          | some n => n :: readNumbers none rest
          | none => readNumbers none rest

def numbers (row : String) : List Nat :=
  readNumbers none row.toList

def pairsOf : List Nat → List (Nat × Nat)
  | a :: b :: rest => (a, b) :: pairsOf rest
  | _ => []

def triplesOf : List Nat → List (Nat × Nat × Nat)
  | a :: b :: c :: rest => (a, b, c) :: triplesOf rest
  | _ => []

/-- Takes numbers off that belong to `code`, of which `left` are to come. -/
def takeExpansions (code left : Nat) (taken : List Nat) : List Nat → List (Nat × List Nat)
  | [] => if left = 0 then [(code, taken.reverse)] else []
  | n :: rest =>
      match left with
      | 0 =>
          match rest with
          | [] => [(code, taken.reverse)]
          | count :: rest => (code, taken.reverse) :: takeExpansions n count [] rest
      | left + 1 => takeExpansions code left (n :: taken) rest

/-- Takes numbers as a code, a count, and as many numbers as the count says. -/
def expansionsOf : List Nat → List (Nat × List Nat)
  | code :: count :: rest => takeExpansions code count [] rest
  | _ => []

/-- Holds of a number that lies in one of the ranges, ends included. -/
def inRanges (ranges : List (Nat × Nat)) (n : Nat) : Bool :=
  ranges.any fun (first, last) => first ≤ n && n ≤ last

end IssuerAudit.Idna
