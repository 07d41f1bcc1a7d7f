import IssuerAudit.Json.Scan
/-!
Writing JSON: strings and objects.  A character that may not stand for itself in a
string is escaped, and reading a written string gives it back
(`readString_writeString`).
-/

namespace IssuerAudit.Json

/-- A character as it is written in a string.  Only quotes, backslashes and control
characters are escaped. -/
def writeChar (c : Char) : List Char :=
  if c = '"' then ['\\', '"']
  else if c = '\\' then ['\\', '\\']
  else if c.toNat < 0x20 then
    ['\\', 'u', '0', '0', Text.lowerDigit (c.toNat / 16), Text.lowerDigit (c.toNat % 16)]
  else [c]

def writeString (s : List Char) : List Char :=
  '"' :: s.flatMap writeChar ++ ['"']

def writeField (field : String × List Char) : List Char :=
  writeString field.1.toList ++ ':' :: field.2

def writeFields : List (String × List Char) → List Char
  | [] => []
  | [field] => writeField field
  | field :: rest => writeField field ++ ',' :: writeFields rest

def writeObject (fields : List (String × List Char)) : List Char :=
  '\x7b' :: writeFields fields ++ ['\x7d']

theorem hexValue?_zero : Text.hexValue? '0' = some 0 := by decide

theorem readString_control {c : Char} (h : c.toNat < 0x20) (read rest : List Char) :
    readString .plain read ('\\' :: 'u' :: '0' :: '0' :: Text.lowerDigit (c.toNat / 16) ::
      Text.lowerDigit (c.toNat % 16) :: rest) = readString .plain (c :: read) rest := by
  have high : Text.hexValue? (Text.lowerDigit (c.toNat / 16)) = some (c.toNat / 16) :=
    Text.hexValue?_lowerDigit (by omega)
  have low : Text.hexValue? (Text.lowerDigit (c.toNat % 16)) = some (c.toNat % 16) :=
    Text.hexValue?_lowerDigit (by omega)
  have value : c.toNat / 16 * 16 + c.toNat % 16 = c.toNat := by omega
  have single : finishCode none c.toNat = .ok (.inl c) := by
    have second : isSecondHalf c.toNat = false := by
      simp only [isSecondHalf, Bool.and_eq_false_iff, decide_eq_false_iff_not]
      left
      omega
    have first : isFirstHalf c.toNat = false := by
      simp only [isFirstHalf, Bool.and_eq_false_iff, decide_eq_false_iff_not]
      left
      omega
    simp [finishCode, second, first, Char.ofNat_toNat]
  simp [readString, hexValue?_zero, high, low, value, single]

theorem readString_writeChar (c : Char) (read rest : List Char) :
    readString .plain read (writeChar c ++ rest) =
      readString .plain (c :: read) rest := by
  unfold writeChar
  by_cases quote : c = '"'
  · subst quote
    simp [readString, escaped?]
  · by_cases slash : c = '\\'
    · subst slash
      simp [readString, escaped?]
    · by_cases control : c.toNat < 0x20
      · simp only [quote, slash, control, if_true, if_false]
        exact readString_control control read rest
      · simp [readString, quote, slash, control]

theorem readString_flatMap_writeChar (s read rest : List Char) :
    readString .plain read (s.flatMap writeChar ++ '"' :: rest) =
      .ok (read.reverse ++ s, rest) := by
  induction s generalizing read with
  | nil => simp [readString]
  | cons c s ih =>
      rw [List.flatMap_cons, List.append_assoc, readString_writeChar, ih]
      simp

/-- Reading a written string from behind its opening quote gives the string and what
follows it. -/
theorem readString_writeString (s rest : List Char) :
    readString .plain [] ((writeString s).tail ++ rest) = .ok (s, rest) := by
  have step := readString_flatMap_writeChar s [] rest
  simpa [writeString] using step

end IssuerAudit.Json
