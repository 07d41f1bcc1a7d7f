import IssuerAudit.Text.Ascii
import IssuerAudit.Text.Blank
import IssuerAudit.Text.Lines
/-!
Issuer fingerprints: the normal form in which declared ones are kept, and the search for
the one that a packet listing reports.
-/

namespace IssuerAudit.Fingerprint

/-- The words that announce an issuer fingerprint in a listing.  Their case matters. -/
def marker : List Char :=
  "issuer fpr v4".toList

def digits : Nat := 40

/-- Holds of the digits `0` to `9` and `A` to `F`. -/
def isCapitalHex (c : Char) : Bool :=
  ('0' ≤ c && c ≤ '9') || ('A' ≤ c && c ≤ 'F')

/-- Holds if `part` occurs in a text as a block. -/
def occursIn (part : List Char) : List Char → Bool
  | [] => part.isEmpty
  | c :: rest => part.isPrefixOf (c :: rest) || occursIn part rest

/-- The leftmost block of `n` capital hexadecimal digits; of a longer run, its first
`n`. -/
def firstRun? (n : Nat) : List Char → Option (List Char)
  | [] => if n = 0 then some [] else none
  | c :: rest =>
      let window := (c :: rest).take n
      if window.length = n && window.all isCapitalHex then some window
      else firstRun? n rest

/-- The fingerprint that one line of a listing reports: the line has to hold the marker
and, once in capitals, a run of digits anywhere, before the marker or after it. -/
def ofLine? (line : List Char) : Option (List Char) :=
  if occursIn marker line then firstRun? digits (Text.upperChars line) else none

def ofListing? (listing : List Char) : Option (List Char) :=
  (Text.lines listing).findSome? ofLine?

def extract? (listing : String) : Option String :=
  (ofListing? listing.toList).map String.ofList

/-- The normal form of a declared fingerprint: no blank characters and no small letters.
-/
def normalize (text : String) : String :=
  Text.upper (Text.squeeze text)

theorem firstRun?_length {n : Nat} {cs run : List Char} (h : firstRun? n cs = some run) :
    run.length = n := by
  induction cs with
  | nil =>
      unfold firstRun? at h
      split at h
      · next hn => cases h; simp [hn]
      · cases h
  | cons c rest ih =>
      unfold firstRun? at h
      simp only [Bool.and_eq_true, decide_eq_true_eq] at h
      split at h
      · next hw => cases h; exact hw.1
      · exact ih h

theorem firstRun?_all {n : Nat} {cs run : List Char} (h : firstRun? n cs = some run) :
    run.all isCapitalHex = true := by
  induction cs with
  | nil =>
      unfold firstRun? at h
      split at h
      · cases h; rfl
      · cases h
  | cons c rest ih =>
      unfold firstRun? at h
      simp only [Bool.and_eq_true, decide_eq_true_eq] at h
      split at h
      · next hw => cases h; exact hw.2
      · exact ih h

theorem ofLine?_digits {line run : List Char} (h : ofLine? line = some run) :
    run.length = digits ∧ run.all isCapitalHex = true := by
  unfold ofLine? at h
  split at h
  · exact ⟨firstRun?_length h, firstRun?_all h⟩
  · cases h

/-- Every fingerprint that is found in a listing has forty capital digits. -/
theorem extract?_digits {listing f : String} (h : extract? listing = some f) :
    f.length = digits ∧ f.toList.all isCapitalHex = true := by
  obtain ⟨run, hrun, rfl⟩ := Option.map_eq_some_iff.1 h
  obtain ⟨line, -, hline⟩ := List.exists_of_findSome?_eq_some hrun
  rw [String.length_ofList, String.toList_ofList]
  exact ofLine?_digits hline

theorem toUpper_of_isCapitalHex {c : Char} (h : isCapitalHex c = true) :
    c.toUpper = c := by
  apply Text.toUpper_of_not_small
  simp only [isCapitalHex, Char.le_def, UInt32.le_iff_toNat_le, Bool.or_eq_true,
    Bool.and_eq_true, decide_eq_true_eq] at h ⊢
  have letter : 'F'.val.toNat < 'a'.val.toNat ∧ '9'.val.toNat < 'a'.val.toNat := by decide
  omega

theorem upperChars_of_isCapitalHex {cs : List Char} (h : cs.all isCapitalHex = true) :
    Text.upperChars cs = cs := by
  have each : ∀ c ∈ cs, c.toUpper = id c :=
    fun c hc => toUpper_of_isCapitalHex (List.all_eq_true.1 h c hc)
  exact (List.map_congr_left each).trans (List.map_id cs)

theorem upper_of_extract? {listing f : String} (h : extract? listing = some f) :
    Text.upper f = f := by
  rw [Text.upper, upperChars_of_isCapitalHex (extract?_digits h).2, String.ofList_toList]

end IssuerAudit.Fingerprint
