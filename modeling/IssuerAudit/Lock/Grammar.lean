import IssuerAudit.Json.Grammar
import IssuerAudit.Lock.Load
/-!
The texts with a top object, as a relation between a text and what it has under
`channels`.  Of such a text only the first value under `channels` is kept, and of
that only an object or a scalar; everything else just has to be well formed.
-/

namespace IssuerAudit.Lock

open Json (Passes Spells SpellsKey Value depthLimit skipSpace)

/-- What a top object has under `channels`. -/
inductive Held where
  | missing
  | null
  /-- One object.  The fields are those with each key once. -/
  | object (fields : List (String × Value))
  /-- One value that is neither null nor an object. -/
  | other
  | several

/-- Holds of a value that stands under `channels`, as the first one there. -/
inductive SpellsHeld : List Char → Held → List Char → Prop
  | null {cs rest : List Char} (value : Spells 0 (.value .null) cs rest) :
      SpellsHeld cs .null rest
  | object {cs rest : List Char} {fields : List (String × Value)}
      (value : Spells (depthLimit - 1) (.value (.object fields)) cs rest) :
      SpellsHeld cs (.object fields) rest
  | scalar {cs rest : List Char} {v : Value}
      (value : Spells 0 (.value v) cs rest) (kept : v ≠ .null) :
      SpellsHeld cs .other rest
  | list {cs a rest : List Char} (bracket : skipSpace cs = '[' :: a)
      (value : Passes .value cs rest) : SpellsHeld cs .other rest

/-- Holds of the fields of the top object up to its end, so many of which are
`channels`, when none of them is kept. -/
inductive PassesTop : Bool → List Char → Nat → List Char → Prop
  | close {first : Bool} {cs rest : List Char}
      (brace : skipSpace cs = '\x7d' :: rest) : PassesTop first cs 0 rest
  | channels {first : Bool} {cs a b rest : List Char} {n : Nat}
      (name : SpellsKey first cs channelsKey a) (value : Passes .value a b)
      (more : PassesTop false b n rest) : PassesTop first cs (n + 1) rest
  | other {first : Bool} {cs a b rest : List Char} {key : String} {n : Nat}
      (name : SpellsKey first cs key a) (different : key ≠ channelsKey)
      (value : Passes .value a b) (more : PassesTop false b n rest) :
      PassesTop first cs n rest

/-- Holds of the fields of the top object up to its end, and of what it has under
`channels`. -/
inductive SpellsTop : Bool → List Char → Held → List Char → Prop
  | close {first : Bool} {cs rest : List Char}
      (brace : skipSpace cs = '\x7d' :: rest) : SpellsTop first cs .missing rest
  | once {first : Bool} {cs a b rest : List Char} {held : Held}
      (name : SpellsKey first cs channelsKey a) (value : SpellsHeld a held b)
      (more : PassesTop false b 0 rest) : SpellsTop first cs held rest
  | again {first : Bool} {cs a b rest : List Char} {held : Held} {n : Nat}
      (name : SpellsKey first cs channelsKey a) (value : SpellsHeld a held b)
      (more : PassesTop false b (n + 1) rest) : SpellsTop first cs .several rest
  | other {first : Bool} {cs a b rest : List Char} {key : String} {held : Held}
      (name : SpellsKey first cs key a) (different : key ≠ channelsKey)
      (value : Passes .value a b) (more : SpellsTop false b held rest) :
      SpellsTop first cs held rest

/-- Holds of a text that is a top object, and of what it has under `channels`. -/
def Spelled (text : String) (held : Held) : Prop :=
  ∃ a rest, skipSpace text.toList = '\x7b' :: a ∧ SpellsTop true a held rest ∧
    skipSpace rest = []

end IssuerAudit.Lock
