import IssuerAudit.Json.Read
/-!
The grammar of JSON, as relations between a text, what its front spells, and the
rest of the text behind that.  Blanks may stand in front of every word.

A value that is kept is spelled within so many levels of nesting, in Unicode, and
with numbers that are not too great.  A value that is passed over only has to be
well formed.
-/

namespace IssuerAudit.Json

/-- Holds of a row of digits, which goes on as long as there are any. -/
structure SpellsDigits (cs row rest : List Char) : Prop where
  text : cs = row ++ rest
  some : row ≠ []
  digits : ∀ c ∈ row, isDigit c = true
  ends : ∀ c ∈ rest.head?, isDigit c = false

/-- Holds of the fraction of a numeral, which may be missing. -/
inductive SpellsFraction : List Char → Option (List Char) → List Char → Prop
  | missing {rest : List Char} (h : rest.head? ≠ some '.') :
      SpellsFraction rest none rest
  | digits {cs row rest : List Char} (digits : SpellsDigits cs row rest) :
      SpellsFraction ('.' :: cs) (some row) rest

/-- Holds of the power of a numeral, which may be missing: whether it is
negative, and its digits. -/
inductive SpellsPower :
    List Char → Option (Bool × List Char) → List Char → Prop
  | missing {rest : List Char} (small : rest.head? ≠ some 'e')
      (capital : rest.head? ≠ some 'E') : SpellsPower rest none rest
  | plain {e : Char} {cs row rest : List Char} (letter : e = 'e' ∨ e = 'E')
      (digits : SpellsDigits cs row rest) :
      SpellsPower (e :: cs) (some (false, row)) rest
  | plus {e : Char} {cs row rest : List Char} (letter : e = 'e' ∨ e = 'E')
      (digits : SpellsDigits cs row rest) :
      SpellsPower (e :: '+' :: cs) (some (false, row)) rest
  | minus {e : Char} {cs row rest : List Char} (letter : e = 'e' ∨ e = 'E')
      (digits : SpellsDigits cs row rest) :
      SpellsPower (e :: '-' :: cs) (some (true, row)) rest

/-- Holds of a numeral behind its sign.  A leading zero stands alone. -/
inductive SpellsNumeral (negative : Bool) :
    List Char → Numeral → List Char → Prop
  | mk {cs whole a b rest : List Char} {fraction : Option (List Char)}
      {power : Option (Bool × List Char)} (digits : SpellsDigits cs whole a)
      (zero : whole.head? = some '0' → whole = ['0'])
      (places : SpellsFraction a fraction b)
      (exponent : SpellsPower b power rest) :
      SpellsNumeral negative cs ⟨negative, whole, fraction, power⟩ rest

/-- Holds of four hexadecimal digits and the code unit that they are. -/
inductive SpellsUnit : List Char → Nat → List Char → Prop
  | mk {a b c d : Char} {w x y z : Nat} {rest : List Char}
      (first : Text.hexValue? a = some w) (second : Text.hexValue? b = some x)
      (third : Text.hexValue? c = some y) (fourth : Text.hexValue? d = some z) :
      SpellsUnit (a :: b :: c :: d :: rest)
        (((w * 16 + x) * 16 + y) * 16 + z) rest

/-- Holds of a string from behind its opening quote, which has to spell Unicode
text: a code unit that is half of a pair stands with its other half. -/
inductive SpellsString : List Char → List Char → List Char → Prop
  | close {rest : List Char} : SpellsString ('"' :: rest) [] rest
  | plain {c : Char} {cs s rest : List Char} (quote : c ≠ '"')
      (slash : c ≠ '\\') (visible : 0x20 ≤ c.toNat)
      (more : SpellsString cs s rest) : SpellsString (c :: cs) (c :: s) rest
  | escape {e c : Char} {cs s rest : List Char} (letter : escaped? e = some c)
      (more : SpellsString cs s rest) :
      SpellsString ('\\' :: e :: cs) (c :: s) rest
  | unit {n : Nat} {cs a s rest : List Char} (digits : SpellsUnit cs n a)
      (first : isFirstHalf n = false) (second : isSecondHalf n = false)
      (more : SpellsString a s rest) :
      SpellsString ('\\' :: 'u' :: cs) (Char.ofNat n :: s) rest
  | pair {m n : Nat} {cs a b s rest : List Char}
      (front : SpellsUnit cs m ('\\' :: 'u' :: a))
      (first : isFirstHalf m = true) (back : SpellsUnit a n b)
      (second : isSecondHalf n = true) (more : SpellsString b s rest) :
      SpellsString ('\\' :: 'u' :: cs) (ofPair m n :: s) rest

/-- Holds of all that stands in front of the value of a field: a comma if it is
not the first field, the key and a colon. -/
inductive SpellsKey : Bool → List Char → String → List Char → Prop
  | first {cs a b key rest : List Char} (quote : skipSpace cs = '"' :: a)
      (name : SpellsString a key b) (colon : skipSpace b = ':' :: rest) :
      SpellsKey true cs (String.ofList key) rest
  | next {cs a rest : List Char} {key : String}
      (comma : skipSpace cs = ',' :: a) (field : SpellsKey true a key rest) :
      SpellsKey false cs key rest

def putFields {α : Type} (read fields : List (String × α)) :
    List (String × α) :=
  fields.foldl (fun merged f => putField f.1 f.2 merged) read

/-- Fields with each key once, in its first place and with its last value. -/
def mergeFields {α : Type} (fields : List (String × α)) : List (String × α) :=
  putFields [] fields

/-- What a text may have at its front. -/
inductive Part where
  | value (v : Value)
  /-- The items of a list up to its end.  The first one has no comma in front. -/
  | items (first : Bool) (items : List Value)
  /-- The fields of an object up to its end, as they stand there. -/
  | fields (first : Bool) (fields : List (String × Value))

/-- Holds of a part that is kept, with so many levels of nesting left. -/
inductive Spells : Nat → Part → List Char → List Char → Prop
  | null {room : Nat} {cs rest : List Char}
      (h : skipSpace cs = 'n' :: 'u' :: 'l' :: 'l' :: rest) :
      Spells room (.value .null) cs rest
  | true {room : Nat} {cs rest : List Char}
      (h : skipSpace cs = 't' :: 'r' :: 'u' :: 'e' :: rest) :
      Spells room (.value (.bool true)) cs rest
  | false {room : Nat} {cs rest : List Char}
      (h : skipSpace cs = 'f' :: 'a' :: 'l' :: 's' :: 'e' :: rest) :
      Spells room (.value (.bool false)) cs rest
  | negative {room : Nat} {cs a rest : List Char} {n : Numeral} {v : Value}
      (sign : skipSpace cs = '-' :: a) (numeral : SpellsNumeral true a n rest)
      (fits : n.value? = some v) : Spells room (.value v) cs rest
  | number {room : Nat} {cs rest : List Char} {n : Numeral} {v : Value}
      (numeral : SpellsNumeral false (skipSpace cs) n rest)
      (fits : n.value? = some v) : Spells room (.value v) cs rest
  | string {room : Nat} {cs a s rest : List Char}
      (quote : skipSpace cs = '"' :: a) (string : SpellsString a s rest) :
      Spells room (.value (.string (String.ofList s))) cs rest
  | list {room : Nat} {cs a rest : List Char} {items : List Value}
      (bracket : skipSpace cs = '[' :: a)
      (inside : Spells room (.items true items) a rest) :
      Spells (room + 1) (.value (.list items)) cs rest
  | object {room : Nat} {cs a rest : List Char}
      {fields : List (String × Value)} (brace : skipSpace cs = '\x7b' :: a)
      (inside : Spells room (.fields true fields) a rest) :
      Spells (room + 1) (.value (.object (mergeFields fields))) cs rest
  | noItems {room : Nat} {first : Bool} {cs rest : List Char}
      (bracket : skipSpace cs = ']' :: rest) :
      Spells room (.items first []) cs rest
  | firstItem {room : Nat} {cs a rest : List Char} {v : Value}
      {items : List Value} (value : Spells room (.value v) cs a)
      (more : Spells room (.items false items) a rest) :
      Spells room (.items true (v :: items)) cs rest
  | nextItem {room : Nat} {cs a b rest : List Char} {v : Value}
      {items : List Value} (comma : skipSpace cs = ',' :: a)
      (value : Spells room (.value v) a b)
      (more : Spells room (.items false items) b rest) :
      Spells room (.items false (v :: items)) cs rest
  | noFields {room : Nat} {first : Bool} {cs rest : List Char}
      (brace : skipSpace cs = '\x7d' :: rest) :
      Spells room (.fields first []) cs rest
  | field {room : Nat} {first : Bool} {cs a b rest : List Char} {key : String}
      {v : Value} {fields : List (String × Value)}
      (name : SpellsKey first cs key a) (value : Spells room (.value v) a b)
      (more : Spells room (.fields false fields) b rest) :
      Spells room (.fields first ((key, v) :: fields)) cs rest

def SpellsText (cs : List Char) (v : Value) : Prop :=
  ∃ rest, Spells depthLimit (.value v) cs rest ∧ skipSpace rest = []

/-- Holds of a string that is passed over, in which any code units may stand. -/
inductive PassesString : List Char → List Char → Prop
  | close {rest : List Char} : PassesString ('"' :: rest) rest
  | plain {c : Char} {cs rest : List Char} (quote : c ≠ '"') (slash : c ≠ '\\')
      (visible : 0x20 ≤ c.toNat) (more : PassesString cs rest) :
      PassesString (c :: cs) rest
  | escape {e : Char} {cs rest : List Char}
      (letter : (escaped? e).isSome = true) (more : PassesString cs rest) :
      PassesString ('\\' :: e :: cs) rest
  | unit {n : Nat} {cs a rest : List Char} (digits : SpellsUnit cs n a)
      (more : PassesString a rest) : PassesString ('\\' :: 'u' :: cs) rest

/-- What a text that is passed over may have at its front. -/
inductive Stretch where
  | value
  | field
  | listRest
  | objectRest

inductive Passes : Stretch → List Char → List Char → Prop
  | null {cs rest : List Char}
      (h : skipSpace cs = 'n' :: 'u' :: 'l' :: 'l' :: rest) :
      Passes .value cs rest
  | true {cs rest : List Char}
      (h : skipSpace cs = 't' :: 'r' :: 'u' :: 'e' :: rest) :
      Passes .value cs rest
  | false {cs rest : List Char}
      (h : skipSpace cs = 'f' :: 'a' :: 'l' :: 's' :: 'e' :: rest) :
      Passes .value cs rest
  | negative {cs a rest : List Char} {n : Numeral}
      (sign : skipSpace cs = '-' :: a) (numeral : SpellsNumeral true a n rest) :
      Passes .value cs rest
  | number {cs rest : List Char} {n : Numeral}
      (numeral : SpellsNumeral false (skipSpace cs) n rest) :
      Passes .value cs rest
  | string {cs a rest : List Char} (quote : skipSpace cs = '"' :: a)
      (string : PassesString a rest) : Passes .value cs rest
  | emptyList {cs a rest : List Char} (bracket : skipSpace cs = '[' :: a)
      (close : skipSpace a = ']' :: rest) : Passes .value cs rest
  | list {cs a b rest : List Char} (bracket : skipSpace cs = '[' :: a)
      (item : Passes .value a b) (more : Passes .listRest b rest) :
      Passes .value cs rest
  | emptyObject {cs a rest : List Char} (brace : skipSpace cs = '\x7b' :: a)
      (close : skipSpace a = '\x7d' :: rest) : Passes .value cs rest
  | object {cs a b rest : List Char} (brace : skipSpace cs = '\x7b' :: a)
      (field : Passes .field a b) (more : Passes .objectRest b rest) :
      Passes .value cs rest
  | field {cs a b c rest : List Char} (quote : skipSpace cs = '"' :: a)
      (key : PassesString a b) (colon : skipSpace b = ':' :: c)
      (value : Passes .value c rest) : Passes .field cs rest
  | listEnd {cs rest : List Char} (bracket : skipSpace cs = ']' :: rest) :
      Passes .listRest cs rest
  | nextItem {cs a b rest : List Char} (comma : skipSpace cs = ',' :: a)
      (item : Passes .value a b) (more : Passes .listRest b rest) :
      Passes .listRest cs rest
  | objectEnd {cs rest : List Char} (brace : skipSpace cs = '\x7d' :: rest) :
      Passes .objectRest cs rest
  | nextField {cs a b rest : List Char} (comma : skipSpace cs = ',' :: a)
      (field : Passes .field a b) (more : Passes .objectRest b rest) :
      Passes .objectRest cs rest

end IssuerAudit.Json
