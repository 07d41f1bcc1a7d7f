/-!
Punycode: text beyond ASCII written in letters, digits and hyphens.  The ASCII
characters come first, then, behind a hyphen, where the others are to be inserted, each
as the distance from the one before it in a number system whose digits adapt to the
distances seen so far.
-/

namespace IssuerAudit.Idna.Punycode

def digit (n : Nat) : Nat :=
  if n < 26 then n + 0x61 else n - 26 + 0x30

/-- The value of a digit; capitals count as small letters. -/
def value? (c : Nat) : Option Nat :=
  if 0x61 ≤ c ∧ c ≤ 0x7A then some (c - 0x61)
  else if 0x41 ≤ c ∧ c ≤ 0x5A then some (c - 0x41)
  else if 0x30 ≤ c ∧ c ≤ 0x39 then some (c - 0x30 + 26)
  else none

/-- The least value that ends a number at the place `k`, which counts up in steps of
thirty-six. -/
def threshold (k bias : Nat) : Nat :=
  if k ≤ bias then 1 else if bias + 26 ≤ k then 26 else k - bias

/-- Divides by thirty-five until at most 455 is left, and counts thirty-six for each
division. -/
def settle (delta k : Nat) : Nat × Nat :=
  if 455 < delta then settle (delta / 35) (k + 36) else (delta, k)
termination_by delta
decreasing_by exact Nat.div_lt_self (by omega) (by omega)

/-- The bias after a distance, with `count` characters in the text. -/
def adapt (delta count : Nat) (first : Bool) : Nat :=
  let delta := if first then delta / 700 else delta / 2
  let (delta, k) := settle (delta + delta / count) 0
  k + 36 * delta / (delta + 38)

theorem threshold_pos (k bias : Nat) : 1 ≤ threshold k bias := by
  unfold threshold
  split
  · omega
  · split <;> omega

theorem threshold_le (k bias : Nat) : threshold k bias ≤ 26 := by
  unfold threshold
  split
  · omega
  · split <;> omega

def writeNumber (bias k n : Nat) : List Nat :=
  let t := threshold k bias
  if n < t then [digit n]
  else digit (t + (n - t) % (36 - t)) :: writeNumber bias (k + 36) ((n - t) / (36 - t))
termination_by n
decreasing_by
  have low := threshold_pos k bias
  have high := threshold_le k bias
  have less := Nat.div_le_self (n - threshold k bias) (36 - threshold k bias)
  omega

/-- How far writing has come. -/
structure Writing where
  written : List Nat
  /-- The distance since the last character that was inserted. -/
  delta : Nat
  bias : Nat
  done : Nat

/-- Goes past one character of the text while the characters of code `code` are
inserted; `basic` is the number of ASCII characters. -/
def passBy (basic code : Nat) (w : Writing) (c : Nat) : Writing :=
  if c < code then { w with delta := w.delta + 1 }
  else if c = code then
    ⟨w.written ++ writeNumber w.bias 36 w.delta, 0,
      adapt w.delta (w.done + 1) (w.done == basic), w.done + 1⟩
  else w

/-- Inserts the characters of the given codes, which ascend from `lowest` on. -/
def insertCodes (text : List Nat) (basic : Nat) : List Nat → Nat → Writing → Writing
  | [], _, w => w
  | code :: rest, lowest, w =>
      let w := { w with delta := w.delta + (code - lowest) * (w.done + 1) }
      let w := text.foldl (passBy basic code) w
      insertCodes text basic rest (code + 1) { w with delta := w.delta + 1 }

/-- Puts a code into ascending codes, unless it is there. -/
def insertCode (n : Nat) : List Nat → List Nat
  | [] => [n]
  | m :: rest =>
      if n < m then n :: m :: rest
      else if n = m then m :: rest else m :: insertCode n rest

def isBasic (n : Nat) : Bool := n < 0x80

def encode (text : List Nat) : List Nat :=
  let basic := text.filter isBasic
  let codes := (text.filter (!isBasic ·)).foldr insertCode []
  let front := if basic.isEmpty then [] else basic ++ [0x2D]
  front ++ (insertCodes text basic.length codes 0x80 ⟨[], 0, 72, basic.length⟩).written

/-- Reads a distance: adds it to `i` and gives the sum and the rest.  `weight` is the
value of the next digit, `k` its place. -/
def readNumber (bias : Nat) (k weight i : Nat) : List Nat → Option (Nat × List Nat)
  | [] => none
  | c :: rest =>
      match value? c with
      | none => none
      | some d =>
          let i := i + d * weight
          let t := threshold k bias
          if d < t then some (i, rest)
          else readNumber bias (k + 36) (weight * (36 - t)) i rest

/-- Distances beyond this cannot belong to any text. -/
def greatestDistance : Nat := 0x100000000

/-- Inserts the characters that the digits tell of into a text; `fuel` bounds how many
there are. -/
def readCodes (fuel code bias i : Nat) (text : List Nat) (first : Bool)
    (digits : List Nat) : Option (List Nat) :=
  match fuel, digits with
  | _, [] => some text
  | 0, _ :: _ => none
  | fuel + 1, c :: rest =>
      match readNumber bias 36 1 i (c :: rest) with
      | none => none
      | some (j, rest) =>
          let count := text.length + 1
          let code := code + j / count
          let place := j % count
          if greatestDistance ≤ j ∨ !code.isValidChar then none
          else
            let text := text.take place ++ code :: text.drop place
            readCodes fuel code (adapt (j - i) count first) (place + 1) text false rest

/-- Splits at the last hyphen, which belongs to neither part. -/
def splitAtHyphen (cs : List Nat) : List Nat × List Nat :=
  let tail := (cs.reverse.takeWhile (· != 0x2D)).reverse
  if tail.length = cs.length then ([], cs)
  else (cs.take (cs.length - tail.length - 1), tail)

def decode? (cs : List Nat) : Option (List Nat) :=
  let (basic, digits) := splitAtHyphen cs
  if basic.all isBasic then readCodes digits.length 0x80 72 0 basic true digits else none

end IssuerAudit.Idna.Punycode
