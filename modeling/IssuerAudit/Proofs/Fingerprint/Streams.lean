import IssuerAudit.Extraction
import IssuerAudit.Fingerprint.Bytes
import IssuerAudit.Proofs.Fingerprint.Reporting
import IssuerAudit.Proofs.Text.Lenient
/-!
The fingerprint in what a program printed.  A text that shows bytes reports just
what the bytes report, line by line, so nothing that is no UTF-8 can hide a
fingerprint or make one up: `extract?_of_streams`.
-/

namespace IssuerAudit.Fingerprint

open Text.Utf8 (SameAscii Shows asciiChar decodeLossy shows_decodeLossy
  toNat_asciiChar)

theorem byteLines_of_whole {line : List UInt8} (whole : 0x0A ∉ line) :
    byteLines line = [line] := by
  induction line with
  | nil => rfl
  | cons b rest ih =>
      rw [List.mem_cons, not_or] at whole
      rw [byteLines, if_neg (Ne.symm whole.1), ih whole.2]

theorem byteLines_append {line : List UInt8} (whole : 0x0A ∉ line)
    (rest : List UInt8) :
    byteLines (line ++ 0x0A :: rest) = line :: byteLines rest := by
  induction line with
  | nil => rfl
  | cons b line ih =>
      rw [List.mem_cons, not_or] at whole
      rw [List.cons_append, byteLines, if_neg (Ne.symm whole.1), ih whole.2]

/-- A block that reaches a last character which is no digit is no run. -/
theorem runAt_concat {n i : Nat} {cs : List Char} {c : Char} (some : 0 < n)
    (other : c ∉ capitalDigits) : RunAt n (cs ++ [c]) i ↔ RunAt n cs i := by
  have inside : i + n ≤ cs.length →
      ((cs ++ [c]).drop i).take n = (cs.drop i).take n := by
    intro fits
    rw [List.drop_append_of_le_length (by omega),
      List.take_append_of_le_length (by rw [List.length_drop]; omega)]
  constructor
  · rintro ⟨fits, capital⟩
    rw [List.length_append, List.length_singleton] at fits
    have short : i + n ≤ cs.length := by
      by_contra reaches
      have last : c ∈ ((cs ++ [c]).drop i).take n := by
        rw [List.take_of_length_le (by simp; omega),
          List.drop_append_of_le_length (by omega)]
        exact List.mem_append_right _ List.mem_cons_self
      exact other (capital c last)
    exact ⟨short, inside short ▸ capital⟩
  · rintro ⟨fits, capital⟩
    refine ⟨?_, (inside fits).symm ▸ capital⟩
    rw [List.length_append]
    omega

theorem firstRun?_concat {n : Nat} {cs : List Char} {c : Char} (some : 0 < n)
    (other : c ∉ capitalDigits) : firstRun? n (cs ++ [c]) = firstRun? n cs := by
  have nothing : ¬ RunAt n [] 0 := by
    rintro ⟨fits, -⟩
    rw [List.length_nil] at fits
    omega
  have same : ∀ front : List Char, RunAt n (front ++ [c]) 0 ↔ RunAt n front 0 :=
    fun _ => runAt_concat some other
  induction cs with
  | nil => exact firstRun?_of_not_run (mt (same []).mp nothing)
  | cons d rest ih =>
      by_cases here : RunAt n (d :: rest) 0
      · have fits := here.fits
        rw [firstRun?_of_run here, firstRun?_of_run ((same _).mpr here),
          List.take_append_of_le_length (by omega)]
      · have later : ¬ RunAt n (d :: (rest ++ [c])) 0 :=
          mt (same (d :: rest)).mp here
        rw [firstRun?_of_not_run here, List.cons_append,
          firstRun?_of_not_run later, ih]

/-- The carriage return at the end of a line has no part in what the line
reports. -/
theorem ofLine?_withoutReturn (line : List Char) :
    ofLine? (Text.withoutReturn line) = ofLine? line := by
  by_cases last : line.getLast? = some '\r'
  · obtain ⟨front, rfl⟩ := List.getLast?_eq_some_iff.mp last
    have marked : occursIn marker (front ++ ['\r']) = occursIn marker front := by
      rw [Bool.eq_iff_iff, occursIn_iff, occursIn_iff, List.infix_concat_iff]
      apply or_iff_right
      intro ending
      rcases List.suffix_concat_iff.mp ending with empty | ⟨words, whole, -⟩
      · exact absurd empty (by decide)
      · have inside : '\r' ∈ marker := by simp [whole]
        exact absurd inside (by decide)
    have upper : Text.upperChars (front ++ ['\r']) =
        Text.upperChars front ++ ['\r'] := by
      rw [Text.upperChars_append]
      rfl
    rw [Text.withoutReturn_append_return, ofLine?, ofLine?, marked, upper,
      firstRun?_concat (by decide) (by decide)]
  · rw [Text.withoutReturn, if_neg last]

theorem isHexByte_of_ascii {b : UInt8} (plain : b.toNat < 0x80) :
    isHexByte b = isCapitalHex (asciiChar b).toUpper := by
  rw [isHexByte, decide_eq_true plain, Bool.true_and]
  rfl

theorem isHexByte_of_other {b : UInt8} (byte : 0x80 ≤ b.toNat) :
    isHexByte b = false := by
  rw [isHexByte, decide_eq_false (Nat.not_lt.mpr byte), Bool.false_and]

/-- A character outside of ASCII is no digit, and in capitals it is none either. -/
theorem isCapitalHex_toUpper_of_other {c : Char} (char : 0x80 ≤ c.toNat) :
    isCapitalHex c.toUpper = false := by
  have large : ¬ ('a' ≤ c ∧ c ≤ 'z') := by
    intro small
    have high : c.toNat ≤ 'z'.toNat := small.2
    have last : 'z'.toNat < 0x80 := by decide
    omega
  rw [Text.toUpper_of_not_small large, Bool.eq_false_iff]
  intro digit
  have := toNat_lt_of_isCapitalHex digit
  omega

/-- Bytes that start outside of ASCII do not start with bytes of ASCII. -/
theorem isPrefixOf_of_other {part : List UInt8}
    (plain : ∀ b ∈ part, b.toNat < 0x80) (some : part ≠ []) {b : UInt8}
    (byte : 0x80 ≤ b.toNat) (bytes : List UInt8) :
    part.isPrefixOf (b :: bytes) = false := by
  obtain ⟨a, part, rfl⟩ := List.exists_cons_of_ne_nil some
  have apart : a ≠ b := by
    rintro rfl
    have first := plain a List.mem_cons_self
    omega
  rw [List.isPrefixOf_cons_cons, beq_false_of_ne apart, Bool.false_and]

theorem opens_zero {α : Type} {test : α → Bool} (xs : List α) :
    Opens test 0 xs :=
  ⟨Nat.zero_le _, by simp⟩

theorem not_opens_nil {α : Type} {test : α → Bool} {n : Nat} :
    ¬ Opens test (n + 1) [] :=
  fun h => absurd h.fits (Nat.not_succ_le_zero n)

theorem opens_succ {α : Type} {test : α → Bool} {n : Nat} {x : α} {xs : List α} :
    Opens test (n + 1) (x :: xs) ↔ test x = true ∧ Opens test n xs := by
  constructor
  · rintro ⟨fits, pass⟩
    rw [List.take_succ_cons, List.forall_mem_cons] at pass
    exact ⟨pass.1, Nat.le_of_succ_le_succ fits, pass.2⟩
  · rintro ⟨first, fits, pass⟩
    refine ⟨Nat.succ_le_succ fits, ?_⟩
    rw [List.take_succ_cons, List.forall_mem_cons]
    exact ⟨first, pass⟩

theorem firstByteRun?_of_opens {n : Nat} {b : UInt8} {bytes : List UInt8}
    (here : Opens isHexByte n (b :: bytes)) :
    firstByteRun? n (b :: bytes) = some (((b :: bytes).take n).map upperByte) := by
  rw [firstByteRun?, if_pos (opens_iff_window.mp here)]

theorem firstByteRun?_of_not_opens {n : Nat} {b : UInt8} {bytes : List UInt8}
    (none : ¬ Opens isHexByte n (b :: bytes)) :
    firstByteRun? n (b :: bytes) = firstByteRun? n bytes := by
  rw [firstByteRun?, if_neg (mt opens_iff_window.mpr none)]

section Shown

variable {bytes : List UInt8} {cs : List Char} (shows : Shows bytes cs)
include shows

/-- Bytes of ASCII stand at the front of bytes just if their characters stand at
the front of the text. -/
theorem isPrefixOf_of_shows {part : List UInt8}
    (plain : ∀ b ∈ part, b.toNat < 0x80) :
    (part.map asciiChar).isPrefixOf cs = part.isPrefixOf bytes := by
  induction part generalizing bytes cs with
  | nil => rfl
  | cons a part ih =>
      have others : ∀ b ∈ part, b.toNat < 0x80 :=
        fun b hb => plain b (List.mem_cons_of_mem a hb)
      have number := toNat_asciiChar (plain a List.mem_cons_self)
      rcases shows.front with ⟨rfl, rfl⟩ |
        ⟨b, bytes, cs, ascii, rfl, rfl, more⟩ |
        ⟨b, bytes, c, cs, byte, char, rfl, rfl⟩
      · rfl
      · have same : (asciiChar a == asciiChar b) = (a == b) := by
          rw [Bool.eq_iff_iff, beq_iff_eq, beq_iff_eq, ← Char.toNat_inj, number,
            toNat_asciiChar ascii, UInt8.toNat_inj]
        rw [List.map_cons, List.isPrefixOf_cons_cons, List.isPrefixOf_cons_cons,
          ih more others, same]
      · have apart : asciiChar a ≠ c := by
          rintro rfl
          have first := plain a List.mem_cons_self
          omega
        rw [isPrefixOf_of_other plain (List.cons_ne_nil a part) byte,
          List.map_cons, List.isPrefixOf_cons_cons, beq_false_of_ne apart,
          Bool.false_and]

/-- Bytes of ASCII stand in bytes just if their characters stand in the text. -/
theorem occursIn_of_shows {part : List UInt8}
    (plain : ∀ b ∈ part, b.toNat < 0x80) (some : part ≠ []) :
    occursIn (part.map asciiChar) cs = occursInBytes part bytes := by
  induction shows with
  | nothing => cases part <;> rfl
  | ascii ascii more ih =>
      rw [occursIn, occursInBytes, ih,
        isPrefixOf_of_shows (.ascii ascii more) plain]
  | other byte char more ih =>
      rw [occursIn, occursInBytes, ih,
        isPrefixOf_of_shows (.other byte char more) plain]
  | moreBytes byte same more ih =>
      rw [occursInBytes, isPrefixOf_of_other plain some byte, Bool.false_or, ih]

/-- Digits open a text just if they open its bytes, and they are the same ones. -/
theorem opens_of_shows (n : Nat) :
    (Opens isCapitalHex n (Text.upperChars cs) ↔ Opens isHexByte n bytes) ∧
      (Opens isHexByte n bytes →
        (Text.upperChars cs).take n = (bytes.take n).map upperByte) := by
  induction n generalizing bytes cs with
  | zero => exact ⟨iff_of_true (opens_zero _) (opens_zero _), fun _ => rfl⟩
  | succ n ih =>
      rcases shows.front with ⟨rfl, rfl⟩ |
        ⟨b, bytes, cs, ascii, rfl, rfl, more⟩ |
        ⟨b, bytes, c, cs, byte, char, rfl, rfl⟩
      · exact ⟨iff_of_false not_opens_nil not_opens_nil,
          fun h => absurd h not_opens_nil⟩
      · obtain ⟨same, taken⟩ := ih more
        have upper : Text.upperChars (asciiChar b :: cs) =
            upperByte b :: Text.upperChars cs := rfl
        have digit : isHexByte b = isCapitalHex (upperByte b) :=
          isHexByte_of_ascii ascii
        rw [upper, opens_succ, opens_succ, same, digit]
        refine ⟨Iff.rfl, ?_⟩
        rintro ⟨-, later⟩
        rw [List.take_succ_cons, List.take_succ_cons, List.map_cons, taken later]
      · have upper : Text.upperChars (c :: cs) =
            c.toUpper :: Text.upperChars cs := rfl
        rw [upper, opens_succ, opens_succ, isCapitalHex_toUpper_of_other char,
          isHexByte_of_other byte]
        exact ⟨by simp, fun h => absurd h.1 Bool.false_ne_true⟩

/-- The first run of digits in a text is the first one in its bytes. -/
theorem firstRun?_of_shows {n : Nat} (some : 0 < n) :
    firstRun? n (Text.upperChars cs) = firstByteRun? n bytes := by
  obtain ⟨n, rfl⟩ := Nat.exists_eq_succ_of_ne_zero (Nat.ne_of_gt some)
  have step : ∀ {b : UInt8} {c : Char} {bytes : List UInt8} {cs : List Char},
      Shows (b :: bytes) (c :: cs) →
        firstRun? (n + 1) (Text.upperChars cs) = firstByteRun? (n + 1) bytes →
        firstRun? (n + 1) (Text.upperChars (c :: cs)) =
          firstByteRun? (n + 1) (b :: bytes) := by
    intro b c bytes cs shows ih
    obtain ⟨same, taken⟩ := opens_of_shows shows (n + 1)
    by_cases here : Opens isHexByte (n + 1) (b :: bytes)
    · rw [firstByteRun?_of_opens here, ← taken here]
      exact firstRun?_of_run (runAt_iff_opens.mpr (same.mpr here))
    · rw [firstByteRun?_of_not_opens here, ← ih]
      apply firstRun?_of_not_run
      rw [runAt_iff_opens]
      exact mt same.mp here
  induction shows with
  | nothing => rfl
  | ascii plain more ih => exact step (.ascii plain more) ih
  | other byte char more ih => exact step (.other byte char more) ih
  | @moreBytes b next bytes cs byte same more ih =>
      have closed : ¬ Opens isHexByte (n + 1) (b :: next :: bytes) := by
        rw [opens_succ, isHexByte_of_other byte]
        exact fun h => absurd h.1 Bool.false_ne_true
      rw [ih, firstByteRun?_of_not_opens closed]

/-- A line reports what its bytes report. -/
theorem ofLine?_of_shows : ofLine? cs = ofByteLine? bytes := by
  have words : markerBytes.map asciiChar = marker := by decide
  have plain : ∀ b ∈ markerBytes, b.toNat < 0x80 := by decide +kernel
  have marked := occursIn_of_shows shows plain (by decide)
  rw [words] at marked
  rw [ofLine?, ofByteLine?, marked, firstRun?_of_shows shows (by decide)]

/-- A text reports what its bytes report. -/
theorem ofListing?_of_shows : ofListing? cs = ofBytes? bytes := by
  have feed : asciiChar 0x0A = '\n' := by decide
  rw [ofListing?, ofBytes?]
  induction bytes using Text.feedInduction (0x0A : UInt8) generalizing cs with
  | whole line whole =>
      have unbroken := shows.not_mem (by decide) whole
      rw [feed] at unbroken
      rw [byteLines_of_whole whole, List.findSome?_singleton,
        ← ofLine?_of_shows shows]
      by_cases empty : cs = []
      · rw [empty]
        decide
      · rw [Text.lines_of_whole empty unbroken, List.findSome?_singleton]
  | ended line rest whole ih =>
      obtain ⟨front, back, rfl, before, behind⟩ := shows.cut (by decide)
      have unbroken := before.not_mem (by decide) whole
      rw [feed] at unbroken ⊢
      rw [Text.lines_append_newline unbroken, byteLines_append whole,
        List.findSome?_cons, List.findSome?_cons, ofLine?_withoutReturn,
        ofLine?_of_shows before, ih behind]

end Shown

/-- A text that shows the end of a line ends at one. -/
theorem ended_decodeLossy {bytes : List UInt8}
    (ended : bytes = [] ∨ bytes.getLast? = some 0x0A) :
    decodeLossy bytes = [] ∨ (decodeLossy bytes).getLast? = some '\n' := by
  rcases ended with rfl | last
  · exact Or.inl rfl
  · right
    obtain ⟨front, rfl⟩ := List.getLast?_eq_some_iff.mp last
    obtain ⟨before, behind, shown, -, rest⟩ :=
      (shows_decodeLossy (front ++ [0x0A])).cut (by decide)
    cases rest
    rw [shown, List.getLast?_concat]
    rfl

theorem ended_of_sameAscii {xs ys : List UInt8} (same : SameAscii xs ys)
    (ended : xs = [] ∨ xs.getLast? = some 0x0A) :
    ys = [] ∨ ys.getLast? = some 0x0A := by
  induction same with
  | nil => exact Or.inl rfl
  | @cons x y xs ys first rest ih =>
      right
      rcases ended with empty | last
      · exact nomatch empty
      rcases rest with _ | ⟨next, rest⟩
      · obtain rfl := Option.some.inj last
        rcases first with rfl | ⟨byte, -⟩
        · rfl
        · exact absurd byte (by decide)
      · rw [List.getLast?_cons_cons] at last ⊢
        rcases ih (Or.inr last) with empty | more
        · exact nomatch empty
        · exact more

/-- Bytes outside of ASCII count for nothing but that they stand where they do. -/
theorem ofBytes?_of_sameAscii {xs ys : List UInt8} (same : SameAscii xs ys) :
    ofBytes? ys = ofBytes? xs := by
  have shows := shows_decodeLossy xs
  rw [← ofListing?_of_shows shows,
    ← ofListing?_of_shows (shows.of_sameAscii same)]

/-- All that a program printed reports what its streams report, the output before
the errors. -/
theorem extract?_listing_eq (e : Execution)
    (ended : e.output = [] ∨ e.output.getLast? = some 0x0A) :
    extract? e.listing =
      ((ofBytes? e.output).or (ofBytes? e.errors)).map String.ofList := by
  have listing : e.listing.toList =
      decodeLossy e.output ++ decodeLossy e.errors := String.toList_ofList
  rw [extract?, listing, ofListing?,
    Text.lines_append_of_ended (ended_decodeLossy ended), List.findSome?_append]
  congr 2
  · exact ofListing?_of_shows (shows_decodeLossy e.output)
  · exact ofListing?_of_shows (shows_decodeLossy e.errors)

/-- Of a program that ends well the fingerprint in its listing is the one that the
first reporting line of its output tells, byte by byte, or else the first one of its
errors, and there is none just if no line of either reports.  Bytes outside of
ASCII, well-formed or not, can be exchanged for others without a difference. -/
theorem extract?_of_streams {σ : Type} (program : String)
    (run : σ → List UInt8 → Except FileError Execution × σ) (s : σ)
    (data : List UInt8) (e : Execution) (ran : (run s data).1 = .ok e)
    (fine : e.ending = .exit 0)
    (ended : e.output = [] ∨ e.output.getLast? = some 0x0A) :
    ∃ listing,
      ((Inspector.ofProgram program run).list s data).1 = .ok listing ∧
      extract? listing =
        ((ofBytes? e.output).or (ofBytes? e.errors)).map String.ofList ∧
      (extract? listing = none ↔
        ∀ line ∈ byteLines e.output ++ byteLines e.errors,
          ofByteLine? line = none) ∧
      ∀ output errors, SameAscii e.output output → SameAscii e.errors errors →
        extract? (Execution.listing ⟨output, errors, .exit 0⟩) =
          extract? listing := by
  refine ⟨e.listing, ?_, extract?_listing_eq e ended, ?_, ?_⟩
  · have listed : Inspection.ofRun program (.ok e) = .ok e.listing := if_pos fine
    rw [← listed, ← ran]
    rfl
  · rw [extract?_listing_eq e ended, Option.map_eq_none_iff, ofBytes?, ofBytes?,
      ← List.findSome?_append, List.findSome?_eq_none_iff]
  · intro output errors sameOutput sameErrors
    have others := extract?_listing_eq ⟨output, errors, .exit 0⟩
      (ended_of_sameAscii sameOutput ended)
    rw [others, extract?_listing_eq e ended, ofBytes?_of_sameAscii sameOutput,
      ofBytes?_of_sameAscii sameErrors]

/-- A program whose output breaks a character off directly before the marker, between
two runs of digits and at the end of its line, and whose errors report as well. -/
def sampleExecution : Execution where
  output :=
    Text.Utf8.bytesOf "abcdef0123456789abcdef0123456789abcdef" ++ [0xE2, 0x82] ++
      Text.Utf8.bytesOf "0 " ++ [0xC3] ++ Text.Utf8.bytesOf
        "issuer fpr v4 ab12cd34ef56ab12cd34ef56ab12cd34ef56ab127" ++
      [0xF0, 0x9F, 0x0A]
  errors :=
    [0xFF] ++ Text.Utf8.bytesOf
      "issuer fpr v4 0000000000000000000000000000000000000000\n"
  ending := .exit 0

theorem extract?_of_streams_broken :
    sampleExecution.output.getLast? = some 0x0A ∧
      Text.Utf8.decode? sampleExecution.output = none ∧
      extract? sampleExecution.listing =
        some "AB12CD34EF56AB12CD34EF56AB12CD34EF56AB12" := by
  have last : sampleExecution.output.getLast? = some 0x0A := by decide +kernel
  have found : (ofBytes? sampleExecution.output).or
      (ofBytes? sampleExecution.errors) =
        some "AB12CD34EF56AB12CD34EF56AB12CD34EF56AB12".toList := by
    decide +kernel
  obtain ⟨listing, listed, reported, -⟩ := extract?_of_streams "gpg"
    (fun (s : Unit) _ => (.ok sampleExecution, s)) () [] sampleExecution rfl rfl
    (Or.inr last)
  obtain rfl : sampleExecution.listing = listing := Except.ok.inj listed
  refine ⟨last, by decide +kernel, ?_⟩
  rw [reported, found, Option.map_some, String.ofList_toList]

end IssuerAudit.Fingerprint
